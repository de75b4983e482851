import BareStrings.Text.Numeral
import BareStrings.Text.Split

namespace BareStrings.Yaml

open BareStrings.Text

/-- A text without the sign at its head. -/
def unsigned : List Char → List Char
  | '-' :: rest | '+' :: rest => rest
  | text => text

/-- A digit of a base, or a mark that groups digits. -/
def isGroupedDigit (base : Nat) (c : Char) : Bool := c == '_' || isDigitOf base c

/-- Digits in groups. The first character is a digit. -/
def isGrouped (text : List Char) : Bool :=
  text.head?.any (isDigitOf 10) && text.all (isGroupedDigit 10)

/-- A numeral below sixty, as it follows a colon in a count of minutes or seconds. -/
def isSixtieth : List Char → Bool
  | [c] => isDigitOf 10 c
  | [c, d] => isDigitOf 6 c && isDigitOf 10 d
  | _ => false

/-- A numeral in base sixty: digits in groups, and at least one part below sixty, with colons
between them. -/
def isSexagesimal (text : List Char) : Bool :=
  match splitOn ':' text with
  | first :: second :: rest => isGrouped first && (second :: rest).all isSixtieth
  | _ => false

/-- Whether a text has the form of a natural number. -/
def isNaturalForm : List Char → Bool
  | '0' :: 'b' :: body => !body.isEmpty && body.all (isGroupedDigit 2)
  | '0' :: 'x' :: body => !body.isEmpty && body.all (isGroupedDigit 16)
  | '0' :: body => body.all (isGroupedDigit 8)
  | text => isGrouped text || isSexagesimal text

/-- Whether a text has the form of an integer. -/
def isIntegerForm (text : List Char) : Bool := isNaturalForm (unsigned text)

/-- An exponent, which needs a sign, or nothing. -/
def isExponent : List Char → Bool
  | [] => true
  | e :: sign :: digits =>
    (e == 'e' || e == 'E') && (sign == '+' || sign == '-') && !digits.isEmpty &&
      digits.all (isDigitOf 10)
  | _ => false

/-- Whether a text has the form of a number with a point. The digits before the point may be missing
only if there is no sign, and in base sixty there is no exponent. -/
def isPointForm (text : List Char) : Bool :=
  match cutAt? ['.'] (unsigned text) with
  | none => false
  | some (whole, rest) =>
    let fraction := rest.takeWhile (isGroupedDigit 10)
    let behind := rest.drop fraction.length
    if isGrouped whole then isExponent behind
    else if whole.isEmpty then
      (unsigned text).length == text.length && isGrouped fraction && isExponent behind
    else isSexagesimal whole && behind.isEmpty

/-- Whether a text has the form of a number with a fraction, an infinity, or what is no number. -/
def isFloatForm (text : List Char) : Bool :=
  [".nan", ".NaN", ".NAN"].any (·.toList == text) ||
    [".inf", ".Inf", ".INF"].any (·.toList == unsigned text) || isPointForm text

end BareStrings.Yaml
