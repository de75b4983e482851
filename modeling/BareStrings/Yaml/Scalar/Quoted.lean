import BareStrings.Text.Numeral
import BareStrings.Yaml.Error
import BareStrings.Yaml.Scalar.Gap

namespace BareStrings.Yaml

open BareStrings.Text

/-- What stands at one place between quotes. The numbers count characters behind the first one. -/
inductive QuotedItem where
  | close
  | blank
  | lineEnd
  | joinedLine
  | visible (value : CodePoint) (extra : Nat)

/-- The characters with an escape of one letter. -/
def namedEscape? : Char → Option Char
  | '0' => some '\x00'
  | 'a' => some '\x07'
  | 'b' => some '\x08'
  | 't' | '\t' => some '\t'
  | 'n' => some '\n'
  | 'v' => some '\x0b'
  | 'f' => some '\x0c'
  | 'r' => some '\r'
  | 'e' => some '\x1b'
  | ' ' => some ' '
  | '"' => some '"'
  | '\\' => some '\\'
  | '/' => some '/'
  | 'N' => some '\x85'
  | '_' => some '\xa0'
  | 'L' => some '\u2028'
  | 'P' => some '\u2029'
  | _ => none

/-- The number of hexadecimal digits behind a letter that asks for them. -/
def escapeWidth? : Char → Option Nat
  | 'x' => some 2
  | 'u' => some 4
  | 'U' => some 8
  | _ => none

/-- The code point with a number in hexadecimal digits. It may be a surrogate. -/
def escapedCode (width : Nat) (digits : List Char) : Except LoadError CodePoint :=
  if digits.length = width ∧ digits.all isHexDigit then
    (CodePoint.ofNumber (ofDigits 16 digits)).mapError .codePoint
  else .error .malformed

/-- The escape behind a backslash. -/
def escapeItem : List Char → Except LoadError QuotedItem
  | [] => .error .malformed
  | c :: rest =>
    match namedEscape? c with
    | some value => .ok (.visible (.ofChar value) 1)
    | none =>
      match escapeWidth? c with
      | some width => return .visible (← escapedCode width (rest.take width)) (width + 1)
      | none => if isBreak c then .ok .joinedLine else .error .malformed

/-- What a character and the text behind it are between quotes. -/
def quotedItem (quote c : Char) (rest : List Char) : Except LoadError QuotedItem :=
  if c = ' ' ∨ c = '\t' then .ok .blank
  else if isBreak c then .ok .lineEnd
  else if c = quote then
    if quote = '\'' ∧ rest.head? = some '\'' then .ok (.visible (.ofChar quote) 1)
    else .ok .close
  else if quote = '"' ∧ c = '\\' then escapeItem rest
  else .ok (.visible (.ofChar c) 0)

/-- Reads a quoted scalar behind its opening quote: its text, and what follows the closing quote.
The first `skip` characters have been read already. A mark between documents must not stand at the
start of a line. -/
def quotedFrom (quote : Char) :
    Nat → Gap → List Char → Except LoadError (List CodePoint × List Char)
  | _, _, [] => .error .malformed
  | skip + 1, gap, _ :: rest => quotedFrom quote skip gap rest
  | 0, gap, c :: rest => do
    match ← quotedItem quote c rest with
    | .close => return (codePoints gap.text, rest)
    | .blank => quotedFrom quote 0 (gap.blank c) rest
    | .lineEnd =>
      if atMark rest then throw .malformed else quotedFrom quote 0 (gap.lineEnd c) rest
    | .joinedLine =>
      if atMark rest.tail then throw .malformed
      else
        let (text, after) ← quotedFrom quote 1 (.joined []) rest
        return (codePoints gap.text ++ text, after)
    | .visible value extra =>
      let (text, after) ← quotedFrom quote extra .none rest
      return (codePoints gap.text ++ value :: text, after)

/-- Reads a quoted scalar behind its opening quote. -/
def quotedScalar (quote : Char) (text : List Char) :
    Except LoadError (List CodePoint × List Char) :=
  quotedFrom quote 0 .none text

end BareStrings.Yaml
