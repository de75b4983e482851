import BareStrings.Number.Binary64
import BareStrings.Text.Blank
import BareStrings.Text.Numeral
import BareStrings.Unicode.Digit

namespace BareStrings.Number

open BareStrings.Text BareStrings.Unicode

/-- The parts of a decimal numeral: the digits before and after the point, and the exponent. -/
structure Decimal where
  whole : List Char
  fraction : List Char
  exponent : Int

namespace Decimal

/-- The number that decimal digits of any script denote. -/
def ofDigits (digits : List Char) : Nat :=
  digits.foldl (fun value c => value * 10 + (decimalDigit? c).getD 0) 0

/-- The digits of an exponent with an optional sign, up to the end of the text. -/
def exponent? (text : List Char) : Option Int :=
  let read (digits : List Char) : Option Nat :=
    if digits.isEmpty || !digits.all isDecimalDigit then none else some (ofDigits digits)
  match text with
  | '+' :: digits => (read digits).map Int.ofNat
  | '-' :: digits => (read digits).map fun n => -Int.ofNat n
  | digits => (read digits).map Int.ofNat

/-- The parts of a decimal numeral that takes up the whole text. A digit must stand before or after
the point. -/
def ofText? (text : List Char) : Option Decimal :=
  let whole := text.takeWhile isDecimalDigit
  let afterWhole := text.dropWhile isDecimalDigit
  let (fraction, afterFraction) := match afterWhole with
    | '.' :: rest => (rest.takeWhile isDecimalDigit, rest.dropWhile isDecimalDigit)
    | rest => ([], rest)
  if whole.isEmpty && fraction.isEmpty then none
  else match afterFraction with
    | [] => some ⟨whole, fraction, 0⟩
    | 'e' :: rest | 'E' :: rest => (exponent? rest).map (⟨whole, fraction, ·⟩)
    | _ => none

/-- The double nearest to a numeral, which may be infinite. -/
def value (numeral : Decimal) : Binary64 :=
  .ofDecimal (ofDigits (numeral.whole ++ numeral.fraction))
    (numeral.exponent - numeral.fraction.length)

end Decimal

/-- The double that a text without a sign spells: the words for what is no finite number, in any
case, or a decimal numeral. -/
def Binary64.unsigned? (text : List Char) : Option Binary64 :=
  let word := text.map Char.toLower
  if word = "inf".toList ∨ word = "infinity".toList then some infinity
  else if word = "nan".toList then some nan
  else (Decimal.ofText? text).map Decimal.value

/-- The double that a text spells, with a sign or without one. Blanks may stand around it. -/
def Binary64.ofText? (text : List Char) : Option Binary64 :=
  match trimBy isNumeralBlank text with
  | '-' :: rest => (unsigned? rest).map Binary64.neg
  | '+' :: rest => unsigned? rest
  | rest => unsigned? rest

end BareStrings.Number
