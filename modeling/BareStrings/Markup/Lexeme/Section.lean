import BareStrings.Markup.Error
import BareStrings.Text.Blank

namespace BareStrings.Markup.Lexeme

open BareStrings.Text

/-- The number of characters up to the end of the first closing in a text. `closing` says how long
the closing at the front of a text is, if there is one. -/
def endOf? (closing : List Char → Option Nat) : List Char → Option Nat
  | [] => none
  | c :: rest =>
    match closing (c :: rest) with
    | some size => some size
    | none => (endOf? closing rest).map (· + 1)

/-- A closing bracket after any blanks. -/
def bracketAfterBlanks? (text : List Char) : Option Nat :=
  match text.dropWhile isBlank with
  | '>' :: _ => some ((text.takeWhile isBlank).length + 1)
  | _ => none

/-- A closing bracket. -/
def bracket? : List Char → Option Nat
  | '>' :: _ => some 1
  | _ => none

/-- Two hyphens and a closing bracket, with blanks before the bracket or without. -/
def commentClosing? : List Char → Option Nat
  | '-' :: '-' :: rest => (bracketAfterBlanks? rest).map (· + 2)
  | _ => none

/-- The end of a conditional section. -/
def conditionClosing? : List Char → Option Nat
  | ']' :: rest => (bracketAfterBlanks? rest).map (· + 1)
  | _ => none

/-- The end of any other section. -/
def sectionClosing? : List Char → Option Nat
  | ']' :: rest =>
    match rest.dropWhile isBlank with
    | ']' :: behind =>
      (bracketAfterBlanks? behind).map (· + ((rest.takeWhile isBlank).length + 2))
    | _ => none
  | _ => none

/-- A character of a section's keyword after the first. -/
def isKeywordChar (c : Char) : Bool := c.isAlphanum || c == '-' || c == '_' || c == '.'

/-- Sections that a double bracket closes. -/
def contentKeywords : List (List Char) :=
  ["temp", "cdata", "ignore", "include", "rcdata"].map String.toList

/-- Sections that a single bracket closes. -/
def conditionKeywords : List (List Char) := ["if", "else", "endif"].map String.toList

/-- The end of a marked section, counted from its `<![`, whose three characters `text` begins with.
Nothing means that the text ends first. -/
def sectionEnd? (text : List Char) : Except MarkupError (Option Nat) :=
  let content := text.drop 3
  match content with
  | [] => .ok none
  | c :: rest =>
    if !c.isAlpha then .error (.sectionNameExpected (text.take 20))
    else
      let word := c :: rest.takeWhile isKeywordChar
      let behind := rest.dropWhile isKeywordChar
      let keyword := word.map Char.toLower
      if (behind.dropWhile isBlank).isEmpty then .ok none
      else if contentKeywords.contains keyword then
        .ok ((endOf? sectionClosing? content).map (· + 3))
      else if conditionKeywords.contains keyword then
        .ok ((endOf? conditionClosing? content).map (· + 3))
      else .error (.unknownSection (word ++ behind.takeWhile isBlank))

/-- Whether a text begins with `<!doctype`, in any case. -/
def isDoctype (text : List Char) : Bool :=
  (text.take 9).map Char.toLower == "<!doctype".toList

/-- The end of a construct that begins with `<!`, which the text still holds: a comment, a marked
section, a document type, or anything else up to the next closing bracket. -/
def declarationEnd? (text : List Char) : Except MarkupError (Option Nat) :=
  if "<!--".toList.isPrefixOf text then .ok ((endOf? commentClosing? (text.drop 4)).map (· + 4))
  else if "<![".toList.isPrefixOf text then sectionEnd? text
  else if isDoctype text then .ok ((endOf? bracket? (text.drop 9)).map (· + 9))
  else .ok ((endOf? bracket? (text.drop 2)).map (· + 2))

end BareStrings.Markup.Lexeme
