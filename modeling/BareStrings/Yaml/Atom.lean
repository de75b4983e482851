import BareStrings.Number.Arithmetic
import BareStrings.Number.Decimal
import BareStrings.Text.Base64
import BareStrings.Unicode.Case
import BareStrings.Yaml.Tag

namespace BareStrings.Yaml

open BareStrings.Config BareStrings.Number BareStrings.Text

/-- The kinds of data that scalars stand for. -/
inductive AtomKind where
  | null
  | truth
  | integer
  | float
  | bytes
  | time
  | text
deriving DecidableEq

/-- A text in small letters. A surrogate has no case and separates the letters around it. -/
def inSmallLetters (codes : List CodePoint) : List CodePoint :=
  let runs := codes.splitBy fun a b => a.toChar?.isSome == b.toChar?.isSome
  runs.flatMap fun run =>
    match spelledText? run with
    | some text => codePoints (Unicode.toLower text)
    | none => run

/-- The truth value that a word in any case stands for. -/
def truthValue (codes : List CodePoint) : Except LoadError Value :=
  let word := inSmallLetters codes
  match truthWords.find? fun known => codePoints known.1.toList == word with
  | some (_, value) => .ok (.boolean value)
  | none => .error (.notTruth word)

/-- A numeral without the marks that group its digits. -/
def ungrouped (codes : List CodePoint) : List CodePoint := codes.filter (· ≠ .ofChar '_')

/-- Whether a numeral has a minus sign, and the numeral without its sign. -/
def splitSign : List CodePoint → Except LoadError (Bool × List CodePoint)
  | [] => .error .emptyNumeral
  | code :: rest =>
    if code = .ofChar '-' then .ok (true, rest)
    else if code = .ofChar '+' then .ok (false, rest)
    else .ok (false, code :: rest)

/-- The integer that a numeral denotes in a base. -/
def integerOf (base : Nat) (codes : List CodePoint) : Except LoadError Int :=
  match (spelledText? codes).map (Integer.ofText base) with
  | some (.ok value) => .ok value
  | some (.error (.tooLong digits)) => .error (.tooManyDigits digits)
  | some (.error .malformed) | none => .error (.notInteger base codes)

/-- The integer that a numeral without its sign denotes: in base two or sixteen behind the mark of
the base, in base eight behind a zero, in base sixty with colons, and otherwise in base ten. -/
def unsignedInteger (codes : List CodePoint) : Except LoadError Int := do
  if let some body := (codePoints ['0', 'b']).isPrefixOf? codes then integerOf 2 body
  else if let some body := (codePoints ['0', 'x']).isPrefixOf? codes then integerOf 16 body
  else if codes.isEmpty then throw .emptyNumeral
  else if codes.head? = some (.ofChar '0') then integerOf 8 codes
  else
    let parts ← (splitOn (.ofChar ':') codes).mapM (integerOf 10)
    return parts.foldl (fun total part => total * 60 + part) 0

/-- The integer that a numeral denotes. -/
def integerValue (codes : List CodePoint) : Except LoadError Value := do
  let (isNegative, unsigned) ← splitSign (ungrouped codes)
  let value ← unsignedInteger unsigned
  return .integer (if isNegative then -value else value)

/-- The double that a numeral denotes. -/
def floatOf (codes : List CodePoint) : Except LoadError Binary64 :=
  match (spelledText? codes).bind Binary64.ofText? with
  | some value => .ok value
  | none => .error (.notFloat codes)

/-- The sum of parts in base sixty, the last of which counts ones. Each step is rounded, and units
too large for a double are refused. -/
def sexagesimal (parts : List Binary64) : Except LoadError Binary64 := do
  let (total, _) ← parts.reverse.foldlM (fun (total, unit) part => do
    match Binary64.ofNat? unit with
    | some factor => return (total.add (part.mul factor), unit * 60)
    | none => throw .unitTooLarge) (Binary64.zero, 1)
  return total

/-- The label that all scalars spelled as no number share. -/
def sharedNan : Nat := 0

/-- The double that a numeral denotes. The label tells apart what is no number otherwise. -/
def floatValue (label : Nat) (codes : List CodePoint) : Except LoadError Value := do
  let (isNegative, unsigned) ← splitSign (inSmallLetters (ungrouped codes))
  let signed (x : Binary64) : Value := .ofBinary64 label (x.withSign isNegative)
  if unsigned = codePoints ".inf".toList then return signed .infinity
  else if unsigned = codePoints ".nan".toList then return .nan sharedNan
  else if unsigned.contains (.ofChar ':') then
    return signed (← sexagesimal (← (splitOn (.ofChar ':') unsigned).mapM floatOf))
  else return signed (← floatOf unsigned)

/-- The bytes that a text in base 64 stands for. -/
def bytesValue (codes : List CodePoint) : Except LoadError Value :=
  let isAscii := codes.all (·.val < 0x80)
  match (spelledText? codes).bind Base64.decode? with
  | some content => if isAscii then .ok (.bytes content) else .error .malformed
  | none => .error .malformed

/-- The day or moment that a text spells. -/
def timeValue (codes : List CodePoint) : Except LoadError Value :=
  match (spelledText? codes).bind fun text => TimeText.ofText? (withoutFinalBreak text) with
  | some time => time.value.mapError .time
  | none => .error .notTime

/-- What a scalar of some kind stands for. The label tells apart what is no number. -/
def AtomKind.value (label : Nat) (codes : List CodePoint) : AtomKind → Except LoadError Value
  | .null => .ok .null
  | .truth => truthValue codes
  | .integer => integerValue codes
  | .float => floatValue label codes
  | .bytes => bytesValue codes
  | .time => timeValue codes
  | .text => .ok (.text codes)

end BareStrings.Yaml
