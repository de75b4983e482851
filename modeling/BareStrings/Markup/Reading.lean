import BareStrings.Markup.Reader
import BareStrings.Text.LineTable

namespace BareStrings.Markup

open BareStrings.Text

/-- A reader with the source that it has been given, and where the lines of that begin. -/
structure Reading where
  lines : LineTable
  reader : Reader

namespace Reading

/-- Nothing given yet. -/
def empty : Reading := ⟨.empty, .empty⟩

/-- Reads another chunk. Its lines are entered before it is read. -/
def feed (reading : Reading) (chunk : List Char) : Except MarkupError Reading := do
  let lines := reading.lines.extend chunk
  return ⟨lines, ← reading.reader.feed chunk⟩

/-- The place reached. -/
def position (reading : Reading) : Position := reading.reader.builder.position

/-- The unfinished text, taken from the source between the place where it began and the place reached. -/
def pendingText? (reading : Reading) : Option (List Char) := do
  let (start, _) ← reading.reader.builder.pending
  reading.lines.slice? start reading.position

end Reading

end BareStrings.Markup
