import BareStrings.Text.Position

namespace BareStrings.Text

/-- The offsets right behind the line feeds of a text, which itself begins at an offset. -/
def lineStartsFrom (offset : Nat) : List Char → List Nat
  | [] => []
  | c :: rest =>
    if c = '\n' then (offset + 1) :: lineStartsFrom (offset + 1) rest
    else lineStartsFrom (offset + 1) rest

/-- A source as far as it is known, and the offsets at which its lines begin. -/
structure LineTable where
  source : List Char
  starts : List Nat
deriving DecidableEq

namespace LineTable

/-- A source of which nothing is known has one line. -/
def empty : LineTable := ⟨[], [0]⟩

/-- Takes in more of the source. -/
def extend (table : LineTable) (chunk : List Char) : LineTable :=
  ⟨table.source ++ chunk, table.starts ++ lineStartsFrom table.source.length chunk⟩

/-- The offset of a place, if the source has its line. -/
def offset? (table : LineTable) (position : Position) : Option Nat :=
  table.starts[position.line - 1]?.map (· + position.column)

/-- The source between two places. -/
def slice? (table : LineTable) (first last : Position) : Option (List Char) := do
  return (table.source.take (← table.offset? last)).drop (← table.offset? first)

end LineTable

end BareStrings.Text
