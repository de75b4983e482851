import BareStrings.Expression.Basic
import BareStrings.Markup.CharRef
import BareStrings.Text.Quoted

namespace BareStrings.Markup

open BareStrings.Text

/-- Why a markup text is refused. -/
inductive MarkupError where
  | charRef (cause : CharRef.TooManyDigits)
  | expression (cause : ExpressionError)
  | sectionNameExpected (ahead : List Char)
  | unknownSection (keyword : List Char)
deriving DecidableEq

/-- The wording of a markup error. -/
def MarkupError.message : MarkupError → String
  | .charRef cause => cause.message
  | .expression cause => cause.message
  | .sectionNameExpected ahead => "expected name token at " ++ String.ofList (quoted ahead)
  | .unknownSection keyword =>
    "unknown status keyword " ++ String.ofList (quoted keyword) ++ " in marked section"

/-- Character references decoded, in markup text. -/
def decodeText (text : List Char) : Except MarkupError (List Char) :=
  (CharRef.decode text).mapError .charRef

/-- An expression read inside markup. -/
def readExpression (source : List Char) : Except MarkupError (Option Expression) :=
  (Expression.parse source).mapError .expression

end BareStrings.Markup
