import BareStrings.Calendar.Moment
import BareStrings.Number.Integer
import BareStrings.Text.Quoted

namespace BareStrings.Yaml

open BareStrings.Calendar BareStrings.Number BareStrings.Text

/-- Why a YAML text gives no data. Scalars that do not spell what they should are told apart from a
text that is malformed, and so are numbers beyond the limits. -/
inductive LoadError where
  | malformed
  | codePoint (cause : CodePointError)
  | tooManyDigits (count : Nat)
  | notTruth (text : List CodePoint)
  | emptyNumeral
  | notInteger (base : Nat) (text : List CodePoint)
  | notFloat (text : List CodePoint)
  | unitTooLarge
  | notTime
  | timeNotScalar
  | time (cause : TimeError)
deriving DecidableEq

/-- The wording of a load error. The text of an integer is cut short. -/
def LoadError.text : LoadError → List Char
  | .malformed => "malformed text".toList
  | .codePoint cause => cause.message.toList
  | .tooManyDigits count => tooLongText count
  | .notTruth text => quotedCodes text
  | .emptyNumeral => "string index out of range".toList
  | .notInteger base text =>
    "invalid literal for int() with base ".toList ++ decimal base ++ ':' :: ' ' ::
      (quotedCodes text).take 200
  | .notFloat text => "could not convert string to float: ".toList ++ quotedCodes text
  | .unitTooLarge => "int too large to convert to float".toList
  | .notTime => "'NoneType' object has no attribute 'groupdict'".toList
  | .timeNotScalar => "expected string or bytes-like object, got 'list'".toList
  | .time cause => cause.text

/-- The wording of a load error. -/
def LoadError.message (error : LoadError) : String := String.ofList error.text

end BareStrings.Yaml
