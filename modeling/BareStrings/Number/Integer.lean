import BareStrings.Text.Blank
import BareStrings.Text.Numeral
import BareStrings.Unicode.Digit

namespace BareStrings.Number

open BareStrings.Text BareStrings.Unicode

/-- The greatest number of decimal digits that are read or written at once. -/
def digitLimit : Nat := 4300

/-- Why a text is no integer. -/
inductive IntegerError where
  | malformed
  | tooLong (digits : Nat)
deriving DecidableEq

/-- The wording for a numeral with too many digits. -/
def tooLongText (digits : Nat) : List Char :=
  "Exceeds the limit (4300 digits) for integer string conversion: value has ".toList ++
    decimal digits ++
    " digits; use sys.set_int_max_str_digits() to increase the limit".toList

namespace Integer

/-- The value of a digit in a base: a decimal digit of any script, or a letter of ASCII. -/
def digit? (base : Nat) (c : Char) : Option Nat :=
  ((decimalDigit? c).or (digitValue? c)).filter (· < base)

/-- The digits at the start of a text and what follows them. A low line may stand between two
digits, and only there. -/
def digits? (base : Nat) : List Char → Option (List Nat × List Char)
  | [] => some ([], [])
  | c :: '_' :: rest =>
    match digit? base c, digits? base rest with
    | none, _ => some ([], c :: '_' :: rest)
    | some digit, some (next :: digits, rest) => some (digit :: next :: digits, rest)
    | some _, _ => none
  | c :: rest =>
    match digit? base c with
    | none => some ([], c :: rest)
    | some digit => (digits? base rest).map fun (digits, rest) => (digit :: digits, rest)

/-- A text without the mark of its base and a low line behind that. -/
def afterMark (base : Nat) (text : List Char) : List Char :=
  match text with
  | zero :: mark :: rest =>
    let marks := match base with
      | 2 => ['b', 'B']
      | 8 => ['o', 'O']
      | 16 => ['x', 'X']
      | _ => []
    if digit? 10 zero = some 0 ∧ marks.contains mark then
      match rest with
      | '_' :: digits => digits
      | digits => digits
    else text
  | _ => text

/-- A text without its sign, and whether that is a minus. -/
def signed (text : List Char) : Bool × List Char :=
  match text with
  | '+' :: rest => (false, rest)
  | '-' :: rest => (true, rest)
  | rest => (false, rest)

/-- The integer that a text denotes in a base. A long numeral is refused in base ten, where reading
it takes too long. -/
def ofText (base : Nat) (text : List Char) : Except IntegerError Int :=
  let (negative, unsigned) := signed (text.dropWhile isNumeralBlank)
  match digits? base (afterMark base unsigned) with
  | none => .error .malformed
  | some (digits, rest) =>
    if base = 10 ∧ digitLimit < digits.length then .error (.tooLong digits.length)
    else if digits.isEmpty || !rest.all isNumeralBlank then .error .malformed
    else
      let value := digits.foldl (fun value digit => value * base + digit) 0
      .ok (if negative then -value else value)

end Integer

end BareStrings.Number
