import BareStrings.Text.Blank

namespace BareStrings.Markup.Lexeme

open BareStrings.Text

/-- A character that a tag's name may hold. Only the blanks of ASCII end a name here. -/
def isTagNameChar (c : Char) : Bool :=
  !(c == '\t' || c == '\n' || c == '\r' || c == '\x0C' || c == ' ' || c == '/' || c == '>' ||
    c == '\x00')

/-- The number of blanks and slashes at the front of a text, up to a slash that a closing bracket
follows. -/
def gapSize : List Char → Nat
  | '/' :: '>' :: _ => 0
  | c :: rest => if c = '/' ∨ isBlank c then gapSize rest + 1 else 0
  | [] => 0

/-- A character that a value without quotes may hold. -/
def isBareChar (c : Char) : Bool := c != '>' && !isBlank c

/-- The value behind an attribute's name, without quotes, and the number of characters up to its
end. A quote that is never closed is no value: blanks before it make an empty one, and with several
equals signs the last of them begins the value. -/
def valueSpan? (text : List Char) : Option (List Char × Nat) :=
  let signs := (text.dropWhile isBlank).takeWhile (· == '=')
  let afterSigns := (text.dropWhile isBlank).dropWhile (· == '=')
  let body := afterSigns.dropWhile isBlank
  let inner := (afterSigns.takeWhile isBlank).length
  let lead := (text.takeWhile isBlank).length + signs.length
  let bare := body.takeWhile isBareChar
  let quotedOr (quote : Char) (rest : List Char) : Option (List Char × Nat) :=
    if rest.contains quote then
      let value := rest.takeWhile (· != quote)
      some (value, lead + inner + value.length + 2)
    else if 0 < inner then some ([], lead + inner)
    else if 2 ≤ signs.length then some ('=' :: bare, lead + bare.length)
    else none
  if signs.isEmpty then none
  else match body with
    | '"' :: rest => quotedOr '"' rest
    | '\'' :: rest => quotedOr '\'' rest
    | _ => some (bare, lead + inner + bare.length)

/-- An attribute as it is passed over, together with the gap behind it. -/
structure AttributeSpan where
  value : List Char
  size : Nat
  size_pos : 0 < size

/-- Whether an attribute may begin behind this character. -/
def precedesAttribute (c : Char) : Bool := c == '\'' || c == '"' || c == '/' || isBlank c

/-- The attribute at the front of a text that stands behind the character `previous`. -/
def attributeSpan? (previous : Char) : List Char → Option AttributeSpan
  | [] => none
  | c :: rest =>
    if !precedesAttribute previous || isBlank c || c == '/' || c == '>' then none
    else
      let inName (d : Char) : Bool := !isBlank d && d != '/' && d != '=' && d != '>'
      let after := rest.dropWhile inName
      let (value, valueSize) := (valueSpan? after).getD ([], 0)
      let gap := gapSize (after.drop valueSize)
      some {
        value
        size := (rest.takeWhile inName).length + valueSize + gap + 1
        size_pos := Nat.succ_pos _ }

/-- The values of the attributes at the front of a text and the number of characters they take. -/
def attributeSpans (previous : Char) (text : List Char) : List (List Char) × Nat :=
  match text with
  | [] => ([], 0)
  | c :: rest =>
    match attributeSpan? previous (c :: rest) with
    | none => ([], 0)
    | some span =>
      let previous := ((c :: rest).take span.size).getLastD previous
      let (values, size) := attributeSpans previous ((c :: rest).drop span.size)
      (span.value :: values, span.size + size)
termination_by text.length
decreasing_by
  have hpos := span.size_pos
  simp only [List.length_drop, List.length_cons]
  omega

/-- How a start tag ends. -/
inductive TagEnd where
  /-- The text ends before the tag does. -/
  | unfinished
  /-- Something that cannot stand in a tag comes first. -/
  | broken
  /-- A closing bracket, with a slash before it or without. -/
  | closed (selfClosing : Bool)
deriving DecidableEq

/-- A start tag as it is passed over: its name, the values of its attributes, and how it ends after
how many characters. -/
structure TagSpan where
  name : List Char
  values : List (List Char)
  ending : TagEnd
  size : Nat

/-- Passes over a start tag whose opening bracket has been read. The bracket is not counted. -/
def tagSpan (text : List Char) : TagSpan :=
  let name := text.takeWhile isTagNameChar
  let gap := gapSize (text.drop name.length)
  let front := name.length + gap
  let previous := (text.take front).getLastD '<'
  let (values, size) := attributeSpans previous (text.drop front)
  let size := front + size
  match text.drop size with
  | '>' :: _ => { name, values, ending := .closed false, size := size + 1 }
  | '/' :: '>' :: _ => { name, values, ending := .closed true, size := size + 2 }
  | [] => { name, values, ending := .unfinished, size }
  | c :: _ =>
    let ending := if c.isAlpha || c == '=' || c == '/' then TagEnd.unfinished else .broken
    { name, values, ending, size }

end BareStrings.Markup.Lexeme
