import BareStrings.Expression.NumberLiteral
import BareStrings.Expression.Parentheses
import BareStrings.Expression.StringLiteral

namespace BareStrings

open BareStrings.Number BareStrings.Text BareStrings.Expression

/-- The value of a constant. Escapes can put surrogates into a string, so it is a sequence of code
points. -/
inductive Constant where
  | string (codes : List CodePoint)
  | number (value : Binary64)
  | boolean (value : Bool)
  | null
deriving DecidableEq

/-- An expression in a template: a constant with its source, or the source of something whose value
is known only at run time. -/
inductive Expression where
  | literal (value : Constant) (raw : List Char)
  | dynamic (source : List Char)
deriving DecidableEq

/-- Why an expression cannot be read. -/
inductive ExpressionError where
  | escape (cause : CodePointError)
  | numberTooLarge
deriving DecidableEq

/-- The wording of an expression error. -/
def ExpressionError.message : ExpressionError → String
  | .escape cause => cause.message
  | .numberTooLarge => "int too large to convert to float"

namespace Expression

/-- The constants that are words. -/
def keyword? (text : List Char) : Option Constant :=
  if text = ['t', 'r', 'u', 'e'] then some (.boolean true)
  else if text = ['f', 'a', 'l', 's', 'e'] then some (.boolean false)
  else if text = ['n', 'u', 'l', 'l'] then some .null
  else none

/-- Classifies a text that has no blanks or parentheses around it. An empty one is no expression. -/
def classify (text : List Char) : Except ExpressionError (Option Expression) :=
  if text.isEmpty then .ok none
  else match stringBody? text with
    | some body =>
      match decodeBody body with
      | .ok codes => .ok (some (.literal (.string codes) text))
      | .error cause => .error (.escape cause)
    | none =>
      match numeral? text with
      | some numeral =>
        match numeral.value? with
        | some value => .ok (some (.literal (.number value) text))
        | none => .error .numberTooLarge
      | none =>
        match keyword? text with
        | some value => .ok (some (.literal value text))
        | none => .ok (some (.dynamic text))

/-- Reads a bound expression. Strings in single or double quotes, numbers, `true`, `false` and
`null` are constants; template strings, names, calls and everything else are dynamic. -/
def parse (source : List Char) : Except ExpressionError (Option Expression) :=
  classify (unwrap (trim source))

end Expression

end BareStrings
