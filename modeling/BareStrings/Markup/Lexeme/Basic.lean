import BareStrings.Markup.Lexeme.Section
import BareStrings.Markup.Lexeme.StartTag
import BareStrings.Markup.Node

namespace BareStrings.Markup

open BareStrings.Text

/-- What surrounds the next character: ordinary markup, or the body of an element of code. -/
inductive Mode where
  | markup
  | rawText (name : List Char)
deriving DecidableEq

/-- The kinds of lexeme. -/
inductive Token where
  /-- Text. -/
  | data
  /-- A start tag with its name in lower case. -/
  | startTag (name : List Char) (selfClosing : Bool)
  /-- An end tag with its name in lower case. -/
  | endTag (name : List Char)
  /-- A comment, declaration, instruction or marked section. -/
  | aside
  /-- An end tag without a name, which is passed over without a trace. -/
  | skipped
deriving DecidableEq

/-- A lexeme at the front of a text: its kind, its length, and what surrounds the text behind it. -/
structure Lexeme where
  token : Token
  size : Nat
  mode : Mode
  size_pos : 0 < size

namespace Lexeme

/-- The number of characters at the end of a text in which a cut character reference is looked
for. -/
def referenceWindow : Nat := 34

/-- Whether a text may end inside a character reference: an ampersand near its end is followed
neither by a blank nor by a semicolon. -/
def endsInReference (text : List Char) : Bool :=
  let window := text.drop (text.length - referenceWindow)
  let tail := window.reverse.takeWhile (· != '&')
  window.contains '&' && tail.all fun c => !isBlank c && c != ';'

/-- A piece of text: the first character and some more. Its character references must be
readable. -/
def ofText (text : List Char) (more : Nat) : Except MarkupError Lexeme :=
  (decodeText (text.take (more + 1))).map fun _ =>
    { token := .data, size := more + 1, mode := .markup, size_pos := Nat.succ_pos more }

/-- Equality with an ASCII letter without regard to case. A few letters beyond ASCII count too. -/
def sameLetter (letter c : Char) : Bool :=
  let lower := Unicode.lowerCode c.toNat
  lower == letter.toNat || (Unicode.twinsOf letter.toNat).contains lower

/-- Whether a text begins with the end tag of an element of code, in any case. -/
def closesRawText (name : List Char) (text : List Char) : Bool :=
  match text with
  | '<' :: '/' :: rest =>
    let word := rest.dropWhile isBlank
    let letters := word.take name.length
    letters.length == name.length && (name.zip letters).all (fun (a, b) => sameLetter a b) &&
      (bracketAfterBlanks? (word.drop name.length)).isSome
  | _ => false

/-- The number of characters before the end tag of an element of code. -/
def rawTextSize? (name : List Char) : List Char → Option Nat
  | [] => none
  | c :: rest =>
    if closesRawText name (c :: rest) then some 0 else (rawTextSize? name rest).map (· + 1)

/-- A character of a well-formed end tag's name after the first. -/
def isEndNameChar (c : Char) : Bool := c.isAlphanum || c == '-' || c == '.' || c == ':' || c == '_'

/-- The name in lower case and the length of a well-formed end tag, which holds nothing but blanks
beside its name. -/
def endTag? (text : List Char) : Option (List Char × Nat) :=
  match text with
  | '<' :: '/' :: rest =>
    match rest.dropWhile isBlank with
    | [] => none
    | c :: word =>
      if !c.isAlpha then none
      else
        let name := c :: word.takeWhile isEndNameChar
        (bracketAfterBlanks? (word.dropWhile isEndNameChar)).map fun size =>
          (name.map Char.toLower, 2 + (rest.takeWhile isBlank).length + name.length + size)
  | _ => none

/-- A lexeme of a known length, or nothing as long as its end is not known. -/
def ofSize? (token : Token) (mode : Mode) (size : Option Nat) : Option Lexeme :=
  match size with
  | some size =>
    if h : 0 < size then some { token, size, mode, size_pos := h } else none
  | none => none

/-- The lexeme at the front of a text in the body of an element of code: the code, then its end
tag. An end tag that only looks like the right one is code. -/
def inRawText (name : List Char) (text : List Char) : Option Lexeme :=
  match rawTextSize? name text with
  | none => none
  | some 0 =>
    match endTag? text with
    | some (name, size) => ofSize? (.endTag name) .markup (some size)
    | none => ofSize? .data (.rawText name) (endOf? bracket? text)
  | some (size + 1) => some { token := .data, size := size + 1, mode := .rawText name,
                              size_pos := Nat.succ_pos size }

/-- The start tag at the front of a text, if the text holds all of it. Something like a tag that
cannot be one is text. -/
def startTag? (text : List Char) : Except MarkupError (Option Lexeme) :=
  let span := tagSpan (text.drop 1)
  let name := Unicode.toLower span.name
  match span.ending with
  | .unfinished => .ok none
  | .broken => do
    let _ ← span.values.mapM decodeText
    return ofSize? .data .markup (some (span.size + 1))
  | .closed selfClosing => do
    let _ ← span.values.mapM decodeText
    let mode := if !selfClosing && rawTextNames.contains name then Mode.rawText name else .markup
    return ofSize? (.startTag name selfClosing) mode (some (span.size + 1))

/-- The construct that begins with `</` at the front of a text, if the text holds all of it. -/
def closing? (text : List Char) : Option Lexeme :=
  match endTag? text with
  | some (name, size) => ofSize? (.endTag name) .markup (some size)
  | none =>
    match text.drop 2 with
    | [] => none
    | '>' :: _ => ofSize? .skipped .markup (some 3)
    | c :: rest =>
      let size := endOf? bracket? (text.drop 2)
      if !c.isAlpha then ofSize? .aside .markup (size.map (· + 2))
      else
        let name := c :: rest.takeWhile isTagNameChar
        ofSize? (.endTag (Unicode.toLower name)) .markup (size.map (· + 2))

/-- The construct at the front of a text that begins with an opening bracket, if the text holds all
of it. A bracket that opens nothing is text. -/
def construct? (text : List Char) : Except MarkupError (Option Lexeme) :=
  match text.drop 1 with
  | [] => .ok none
  | c :: _ =>
    if c.isAlpha then startTag? text
    else if c = '/' then .ok (closing? text)
    else if c = '!' then do return ofSize? .aside .markup (← declarationEnd? text)
    else if c = '?' then
      .ok (ofSize? .aside .markup ((endOf? bracket? (text.drop 2)).map (· + 2)))
    else .ok (ofSize? .data .markup (some 1))

/-- How much of what follows its bracket becomes text with it, when a construct is unfinished and
nothing more will come: up to the next closing bracket, or else up to the next opening one, or else
nothing. -/
def salvaged (rest : List Char) : Nat :=
  if rest.contains '>' then (rest.takeWhile (· != '>')).length + 1
  else if rest.contains '<' then (rest.takeWhile (· != '<')).length
  else 0

/-- The lexeme at the front of a text in ordinary markup, of which `c` is the first character.
`final` says that nothing follows the text. -/
def inMarkup (final : Bool) (c : Char) (rest : List Char) :
    Except MarkupError (Option Lexeme) := do
  if c = '<' then
    match ← construct? (c :: rest) with
    | some lexeme => return some lexeme
    | none => if final then return some (← ofText (c :: rest) (salvaged rest)) else return none
  else if !rest.contains '<' && endsInReference (c :: rest) && !final then return none
  else return some (← ofText (c :: rest) (rest.takeWhile (· != '<')).length)

/-- The lexeme at the front of a text, or nothing if none can be told yet. As long as more text may follow,
nothing is read that it could still change. -/
def next? (final : Bool) (mode : Mode) (text : List Char) : Except MarkupError (Option Lexeme) :=
  match mode, text with
  | _, [] => .ok none
  | .markup, c :: rest => inMarkup final c rest
  | .rawText name, text => .ok (inRawText name text)

end Lexeme

end BareStrings.Markup
