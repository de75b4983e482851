import BareStrings.Regex.Letter
import BareStrings.Regex.Source
import BareStrings.Unicode.Name

namespace BareStrings.Regex

open BareStrings.Text BareStrings.Unicode

/-- Options that change what an expression means. -/
structure Flags where
  ignoreCase : Bool := false
  multiline : Bool := false
  dotAll : Bool := false
  verbose : Bool := false
  ascii : Bool := false
  /-- Asks for what is the default. It undoes `ascii` in a group. -/
  unicode : Bool := false
  /-- Forbids repetitions. -/
  unrepeated : Bool := false
deriving DecidableEq

/-- How letters are compared under the options. -/
def Flags.caseRule (flags : Flags) : CaseRule :=
  if !flags.ignoreCase then .exact else if flags.ascii then .ascii else .full

/-- The form for one letter of the source. A character without case is always compared as it is. -/
def Flags.char (flags : Flags) (code : CodePoint) (negated : Bool) : Regex :=
  .char code negated (if flags.caseRule.hasCase code.val then flags.caseRule else .exact)

/-- What has been learnt about groups: the lengths of each one by its number, or nothing while it is
open; their names; and how many groups there were where the outermost look behind began. -/
structure Groups where
  widths : List (Option (Nat × Nat)) := []
  names : List (List Char × Nat) := []
  lookBehindStart : Option Nat := none

/-- The number that the next group will have. -/
def Groups.count (groups : Groups) : Nat := groups.widths.length + 1

/-- Whether a group has been closed. -/
def Groups.isClosed (groups : Groups) (index : Nat) : Bool :=
  match index with
  | 0 => false
  | index + 1 => ((groups.widths[index]?).join).isSome

/-- The lengths of a group. -/
def Groups.width (groups : Groups) (index : Nat) : Nat × Nat :=
  match index with
  | 0 => (0, 0)
  | index + 1 => ((groups.widths[index]?).join).getD (0, 0)

/-- A digit of ASCII. -/
def isAsciiDigit (c : Char) : Bool := '0' ≤ c && c ≤ '9'

/-- An octal digit. -/
def isOctalDigit (c : Char) : Bool := '0' ≤ c && c ≤ '7'

/-- The character with a number, if it is that of a code point. -/
def codePoint? (n : Nat) : Option CodePoint := if h : n < 0x110000 then some ⟨n, h⟩ else none

/-- The named categories and their complements. -/
def category? (flags : Flags) (c : Char) : Option SetItem :=
  if c = 'd' then some (.category .digit flags.ascii false)
  else if c = 'D' then some (.category .digit flags.ascii true)
  else if c = 's' then some (.category .blank flags.ascii false)
  else if c = 'S' then some (.category .blank flags.ascii true)
  else if c = 'w' then some (.category .word flags.ascii false)
  else if c = 'W' then some (.category .word flags.ascii true)
  else none

/-- The conditions on a place that have an escape. -/
def escapedAnchor? (flags : Flags) (c : Char) : Option Anchor :=
  if c = 'A' then some .textStart
  else if c = 'Z' then some .textEnd
  else if c = 'b' then some (.wordBoundary flags.ascii)
  else if c = 'B' then some (.noWordBoundary flags.ascii)
  else none

/-- The controls that have an escape. -/
def control? (c : Char) : Option CodePoint :=
  if c = 'a' then some (CodePoint.ofChar '\x07')
  else if c = 'f' then some (CodePoint.ofChar '\x0c')
  else if c = 'n' then some (CodePoint.ofChar '\n')
  else if c = 'r' then some (CodePoint.ofChar '\r')
  else if c = 't' then some (CodePoint.ofChar '\t')
  else if c = 'v' then some (CodePoint.ofChar '\x0b')
  else none

namespace Scan

/-- Refuses an escape that has been read. -/
def badEscape {α : Type} (escape : List Char) : Scan α := fail (.badEscape escape) escape.length

/-- The character that an escape with exactly `count` hexadecimal digits names. -/
def hexEscape (letter : Char) (count : Nat) : Scan CodePoint := do
  let digits ← run isHexDigit count
  let escape := '\\' :: letter :: digits
  if digits.length ≠ count then fail (.incompleteEscape escape) escape.length
  else match codePoint? (ofDigits 16 digits) with
    | some code => return code
    | none => badEscape escape

/-- The character that an octal escape names. -/
def octalEscape (digits : List Char) : Scan CodePoint := do
  let escape := '\\' :: digits
  let value := ofDigits 8 digits
  if 0o377 < value then fail (.octalTooLarge escape) escape.length
  else match codePoint? value with
    | some code => return code
    | none => badEscape escape

/-- The character that an escape gives by its name. Nothing can be looked up for a surrogate. -/
def nameEscape : Scan CodePoint := do
  match spelledText? (← characterName) with
  | none => badEscape ['\\', 'N']
  | some name =>
    match (characterNamed? name).bind codePoint? with
    | some code => return code
    | none => fail (.undefinedCharacter name) (name.length + 4)

/-- The escapes for a character by its number or its name, which are the same everywhere. -/
def numberEscape? (c : Char) : Option (Scan CodePoint) :=
  if c = 'x' then some (hexEscape c 2)
  else if c = 'u' then some (hexEscape c 4)
  else if c = 'U' then some (hexEscape c 8)
  else if c = 'N' then some nameEscape
  else none

/-- Refuses a reference, from inside a look behind, to a group that is open or belongs to it. -/
def checkLookBehind (groups : Groups) (index : Nat) : Scan Unit := do
  match groups.lookBehindStart with
  | none => return ()
  | some start =>
    if !groups.isClosed index then fail .openGroup 0
    else if start ≤ index then fail .groupInLookBehind 0
    else return ()

/-- A reference to a group by number. -/
def groupEscape (flags : Flags) (groups : Groups) (digits : List Char) : Scan Regex := do
  let index := ofDigits 10 digits
  if groups.count ≤ index then fail (.invalidGroup index) digits.length
  else if !groups.isClosed index then fail .openGroup (digits.length + 1)
  else
    checkLookBehind groups index
    return .backref index flags.caseRule

/-- An escape that begins with a digit other than zero: three octal digits name a character, fewer
digits a group. -/
def digitEscape (flags : Flags) (groups : Groups) (first : Char) : Scan Regex := do
  match ← run isAsciiDigit 1 with
  | [second] =>
    if isOctalDigit first && isOctalDigit second then
      match ← run isOctalDigit 1 with
      | [third] =>
        return flags.char (← octalEscape [first, second, third]) false
      | _ => groupEscape flags groups [first, second]
    else groupEscape flags groups [first, second]
  | _ => groupEscape flags groups [first]

/-- What a backslash and a character mean outside of a set. -/
def escape (flags : Flags) (groups : Groups) (c : Char) : Scan Regex := do
  match category? flags c, escapedAnchor? flags c, control? c, numberEscape? c with
  | some item, _, _, _ => return .set [item] false flags.caseRule
  | _, some condition, _, _ => return .anchor condition
  | _, _, some code, _ => return flags.char code false
  | _, _, _, some number => return flags.char (← number) false
  | none, none, none, none =>
    if c = '0' then
      return flags.char (← octalEscape (c :: (← run isOctalDigit 2))) false
    else if isAsciiDigit c then digitEscape flags groups c
    else if c.isAlpha then badEscape ['\\', c]
    else return flags.char (CodePoint.ofChar c) false

/-- What a backslash and a character mean in a set. -/
def setEscape (flags : Flags) (c : Char) : Scan SetItem := do
  match control? c, category? flags c, numberEscape? c with
  | some code, _, _ => return .one code
  | _, some item, _ => return item
  | _, _, some number => return .one (← number)
  | none, none, none =>
    if c = 'b' then return .one (CodePoint.ofChar '\x08')
    else if isOctalDigit c then return .one (← octalEscape (c :: (← run isOctalDigit 2)))
    else if isAsciiDigit c || c.isAlpha then badEscape ['\\', c]
    else return .one (CodePoint.ofChar c)

/-- What a backslash and a code point mean outside of a set. A surrogate means itself. -/
def escapedCode (flags : Flags) (groups : Groups) (code : CodePoint) : Scan Regex :=
  match code.toChar? with
  | some c => escape flags groups c
  | none => return flags.char code false

/-- What a backslash and a code point mean in a set. A surrogate means itself. -/
def setEscapedCode (flags : Flags) (code : CodePoint) : Scan SetItem :=
  match code.toChar? with
  | some c => setEscape flags c
  | none => return .one code

end Scan

/-- The characters that mean something other than themselves. -/
def specialChars : List Char :=
  ['(', ')', '[', ']', '\x7b', '\x7d', '?', '*', '+', '-', '|', '^', '$', '\\', '.', '&', '~', '#',
    ' ', '\t', '\n', '\r', '\x0B', '\x0C']

/-- A code point that means something other than itself. -/
def isSpecial (code : CodePoint) : Bool := code.toChar?.any specialChars.contains

/-- A code point spelled so that it matches itself. -/
def escapeCode (code : CodePoint) : List CodePoint := if isSpecial code then ['\\', code] else [code]

/-- A text spelled so that it matches itself. -/
def escapeText (text : List CodePoint) : List CodePoint := text.flatMap escapeCode

end BareStrings.Regex
