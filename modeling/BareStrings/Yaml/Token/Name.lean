import BareStrings.Text.Numeral
import BareStrings.Yaml.Character
import BareStrings.Yaml.Token

namespace BareStrings.Yaml

open BareStrings.Number BareStrings.Text

/-- A name and what follows it. -/
def readName (text : List Char) : Except LoadError (List Char × List Char) :=
  let name := text.takeWhile isNameChar
  if name.isEmpty then .error .malformed else .ok (name, text.dropWhile isNameChar)

/-- The name of an anchor or alias behind its sign. -/
def readAnchor (text : List Char) : Except LoadError (List Char × List Char) := do
  let (name, rest) ← readName text
  if endsToken rest.head? || rest.head?.any (fun c => "?:,]\x7d%@\x60".toList.contains c) then
    return (name, rest)
  else throw .malformed

/-- A character of a tag. -/
def isTagChar (c : Char) : Bool := c.isAlphanum || "-;/?:@&=+$,_.!~*'()[]%".toList.contains c

/-- The bytes of a tag, in which two hexadecimal digits behind a percent sign name one. The first
`skip` characters have been read already. -/
def tagBytes? : Nat → List Char → Option (List UInt8)
  | _, [] => some []
  | skip + 1, _ :: rest => tagBytes? skip rest
  | 0, '%' :: rest =>
    let digits := rest.take 2
    if digits.length = 2 ∧ digits.all isHexDigit then
      (tagBytes? 2 rest).map (UInt8.ofNat (ofDigits 16 digits) :: ·)
    else none
  | 0, c :: rest => (tagBytes? 0 rest).map (UInt8.ofNat c.toNat :: ·)

/-- The written characters of a tag, which must not be missing, and what follows them. -/
def readTagText (text : List Char) : Except LoadError (List Char × List Char) := do
  let written := text.takeWhile isTagChar
  if written.isEmpty then throw .malformed
  match (tagBytes? 0 written).bind fun bytes => String.fromUTF8? ⟨bytes.toArray⟩ with
  | some decoded => return (decoded.toList, text.dropWhile isTagChar)
  | none => throw .malformed

/-- A tag handle: one exclamation mark, or a name between two. -/
def readHandle (text : List Char) : Except LoadError (List Char × List Char) :=
  match text with
  | '!' :: rest =>
    if rest.head? = some ' ' then .ok (['!'], rest)
    else
      match rest.dropWhile isNameChar with
      | '!' :: after => .ok ('!' :: rest.takeWhile isNameChar ++ ['!'], after)
      | _ => .error .malformed
  | _ => .error .malformed

/-- Whether the handle of a tag is more than one exclamation mark: another one follows before the
next blank. -/
def hasLongHandle (text : List Char) : Bool :=
  (text.takeWhile fun c => !(c == ' ' || isBreak c)).contains '!'

/-- A tag behind its exclamation mark. -/
def readTag (text : List Char) : Except LoadError (TagName × List Char) := do
  let (tag, rest) ←
    if text.head? = some '<' then do
      let (suffix, rest) ← readTagText text.tail
      if rest.head? ≠ some '>' then throw LoadError.malformed
      pure (TagName.mk none suffix, rest.tail)
    else if endsToken text.head? then pure (TagName.mk none ['!'], text)
    else do
      let (handle, rest) ←
        if hasLongHandle text then readHandle ('!' :: text) else pure (['!'], text)
      let (suffix, rest) ← readTagText rest
      pure (TagName.mk (some handle) suffix, rest)
  if endsLine rest.head? || rest.head? = some ' ' then return (tag, rest) else throw .malformed

/-- The digits of a version number and what follows them. -/
def readVersion (text : List Char) : Except LoadError (Nat × List Char) :=
  let digits := text.takeWhile (isDigitOf 10)
  if digits.isEmpty then .error .malformed
  else if digitLimit < digits.length then .error (.tooManyDigits digits.length)
  else .ok (ofDigits 10 digits, text.dropWhile (isDigitOf 10))

/-- Whether a word of a directive ends here. -/
def endsWord (next : Option Char) : Bool := endsLine next || next == some ' '

/-- A directive behind its percent sign, up to the end of its line. -/
def readDirective (text : List Char) : Except LoadError (Directive × List Char) := do
  let (name, rest) ← readName text
  if !endsWord rest.head? then throw .malformed
  let (directive, rest) ←
    if name = "YAML".toList then do
      let (major, rest) ← readVersion (skipSpaces rest)
      if rest.head? ≠ some '.' then throw LoadError.malformed
      let (_, rest) ← readVersion rest.tail
      if !endsWord rest.head? then throw LoadError.malformed
      pure (Directive.version major, rest)
    else if name = "TAG".toList then do
      let (handle, rest) ← readHandle (skipSpaces rest)
      if rest.head? ≠ some ' ' then throw LoadError.malformed
      let (start, rest) ← readTagText (skipSpaces rest)
      if !endsWord rest.head? then throw LoadError.malformed
      pure (Directive.handle handle start, rest)
    else pure (Directive.unknown, rest.dropWhile fun c => !isBreak c)
  let rest := skipComment (skipSpaces rest)
  if endsLine rest.head? then return (directive, rest) else throw .malformed

end BareStrings.Yaml
