import BareStrings.Markup.Builder

namespace BareStrings.Markup

open BareStrings.Text

/-- A source that has been read in part: the tree so far, what surrounds the next character, and the
text that cannot be told yet. -/
structure Reader where
  builder : Builder
  mode : Mode
  unread : List Char

namespace Reader

/-- Nothing read yet. -/
def empty : Reader := ⟨.empty, .markup, []⟩

/-- Reads lexemes from a text for as long as they can be told. -/
def run (final : Bool) (builder : Builder) (mode : Mode) (text : List Char) :
    Except MarkupError Reader :=
  match text with
  | [] => .ok ⟨builder, mode, []⟩
  | c :: rest =>
    match Lexeme.next? final mode (c :: rest) with
    | .error error => .error error
    | .ok none => .ok ⟨builder, mode, c :: rest⟩
    | .ok (some lexeme) =>
      match builder.step lexeme.token ((c :: rest).take lexeme.size) with
      | .error error => .error error
      | .ok builder => run final builder lexeme.mode ((c :: rest).drop lexeme.size)
termination_by text.length
decreasing_by
  have hpos := lexeme.size_pos
  simp only [List.length_drop, List.length_cons]
  omega

/-- Reads another chunk of the source. -/
def feed (reader : Reader) (chunk : List Char) : Except MarkupError Reader :=
  run false reader.builder reader.mode (reader.unread ++ chunk)

/-- Reads what is left at the end of the source and makes nodes of the last text. -/
def finish (reader : Reader) : Except MarkupError Builder := do
  (← run true reader.builder reader.mode reader.unread).builder.flush

end Reader

/-- Reads markup. -/
def parseTemplate (source : List Char) : Except MarkupError Document := do
  return (← (← Reader.empty.feed source).finish).document

/-- The language that a plain `lang` attribute names. The first such attribute decides, also if it
has no value. -/
def Tag.language? (tag : Tag) : Option (List Char) :=
  tag.attributes.findSome? (fun
    | .plain rawName value _ => if rawName = "lang".toList then some (value.map (·.text)) else none
    | .directive .. => none) |>.join

/-- The first element of a list of nodes whose name is `template`. -/
def firstTemplate? : List Node → Option Element
  | [] => none
  | .element tag children :: rest =>
    if tag.name = "template".toList then some ⟨tag, children⟩ else firstTemplate? rest
  | _ :: rest => firstTemplate? rest

/-- The template block of a component among the nodes of its source. A template in another language
has no markup to look at. -/
def templateBlock? (nodes : List Node) : Option Element :=
  (firstTemplate? nodes).filter fun element =>
    element.tag.language?.all (· == "html".toList)

/-- Reads the template block of a single-file component. -/
def parseComponent (source : List Char) : Except MarkupError (Option Element) := do
  return templateBlock? (← parseTemplate source).children

end BareStrings.Markup
