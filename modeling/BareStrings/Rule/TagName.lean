import BareStrings.Text.Blank
import BareStrings.Unicode.Case

namespace BareStrings.Rule.TagName

open BareStrings.Text

/-- The punctuation that no spelling of a name has. Hyphen, low line, dollar sign and tilde are not
among it. -/
def symbols : List Char :=
  ['!', '"', '#', '%', '&', '\'', '(', ')', '*', '+', ',', '.', '/', ':', ';', '<', '=', '>', '?',
    '@', '[', '\\', ']', '^', '\x60', '\x7b', '|', '\x7d']

/-- Whether a name holds punctuation. -/
def hasSymbols (name : List Char) : Bool := name.any symbols.contains

/-- Whether two hyphens stand side by side. -/
def hasDoubleHyphen : List Char → Bool
  | '-' :: '-' :: _ => true
  | _ :: rest => hasDoubleHyphen rest
  | [] => false

/-- A name in lower case with single hyphens between its words. One word alone counts. -/
def isKebabCase (name : List Char) : Bool :=
  !(name.any Char.isUpper || hasSymbols name || name.head? == some '-' ||
    name.any (fun c => c == '_' || isBlank c) || hasDoubleHyphen name)

/-- A name without hyphens, low lines and blanks that does not begin with a lower-case letter of
ASCII. -/
def isPascalCase (name : List Char) : Bool :=
  !(hasSymbols name || name.head?.any Char.isLower ||
    name.any fun c => c == '-' || c == '_' || isBlank c)

/-- A name with its first character in upper case. -/
def capitalize : List Char → List Char
  | [] => []
  | c :: rest => Unicode.upperChar c ++ rest

/-- A character of ASCII that words are made of. -/
def isWordChar (c : Char) : Bool := c.isAlphanum || c == '_'

/-- A name whose words are joined: each hyphen or low line before a word character is dropped, and
the character is put into upper case. -/
def joinWords : List Char → List Char
  | c :: d :: rest =>
    if (c == '-' || c == '_') && isWordChar d then d.toUpper :: joinWords rest
    else c :: joinWords (d :: rest)
  | rest => rest

/-- A name in camel case. -/
def camelCase (name : List Char) : List Char :=
  if isPascalCase name then
    match name with
    | [] => []
    | c :: rest => Unicode.toLower [c] ++ rest
  else joinWords name

/-- A name in Pascal case. -/
def pascalCase (name : List Char) : List Char := capitalize (camelCase name)

end BareStrings.Rule.TagName
