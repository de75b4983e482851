import BareStrings.Number.Decimal

namespace BareStrings.Expression

open BareStrings.Number BareStrings.Text

/-- The spelling of a number: hexadecimal digits, or a decimal numeral. -/
inductive Numeral where
  | hexadecimal (digits : List Char)
  | decimal (numeral : Decimal)

/-- The spelling of a text that is one number literal. -/
def numeral? : List Char → Option Numeral
  | '0' :: 'x' :: digits | '0' :: 'X' :: digits =>
    if digits.isEmpty || !digits.all isHexDigit then none else some (.hexadecimal digits)
  | text => (Decimal.ofText? text).map .decimal

/-- The value of a number literal. A decimal numeral is rounded and may become infinite; a
hexadecimal integer that no double can hold has none. -/
def Numeral.value? : Numeral → Option Binary64
  | .hexadecimal digits => Binary64.ofNat? (ofDigits 16 digits)
  | .decimal numeral => some numeral.value

end BareStrings.Expression
