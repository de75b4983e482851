import BareStrings.Rule.Selector
import BareStrings.Text.Order

namespace BareStrings.Config

open BareStrings.Rule BareStrings.Text

/-- Why data are no options. What is told of a value is its text in messages. -/
inductive OptionsError where
  | noKeys (kind : List Char)
  | keyNotHashable (kind : List Char)
  | unknownKeys (names : List (List CodePoint))
  | keyNotText (kind : List Char)
  | keysNotOrdered (first second : List Char)
  | daysAndMoments
  | clocksNotComparable
  | keysWithoutValues (kind : List Char)
  | notTextList (label : List Char)
  | entryNotText (label shown : List Char)
  | duplicateEntry (label : List Char) (entry : List CodePoint)
  | attributesNotMapping
  | invalidSelector (shown : List Char)
  | invalidPattern (selector : List CodePoint) (cause : SelectorError)
  | patternTooLarge (cause : Regex.SyntaxError)
  | directiveName (name : List CodePoint)
  | integerTooLong

/-- The wording of an options error. Selectors and unknown keys are told as they are. -/
def OptionsError.text : OptionsError → List CodePoint
  | .unknownKeys names => wording "Unknown option(s): " ++ joinWith (wording ", ") names
  | .invalidPattern selector cause =>
    wording "Invalid tag pattern " ++ selector ++ wording ": " ++ cause.text
  | .patternTooLarge cause => cause.text
  | .noKeys kind => codePoints (quoted kind ++ " object is not iterable".toList)
  | .keyNotHashable kind => codePoints ("unhashable type: ".toList ++ quoted kind)
  | .keyNotText kind =>
    codePoints ("sequence item 0: expected str instance, ".toList ++ kind ++ " found".toList)
  | .keysNotOrdered first second =>
    codePoints ("'<' not supported between instances of ".toList ++ quoted first ++ " and ".toList ++
      quoted second)
  | .daysAndMoments => wording "can't compare datetime.datetime to datetime.date"
  | .clocksNotComparable => wording "can't compare offset-naive and offset-aware datetimes"
  | .keysWithoutValues kind =>
    codePoints (kind ++ " indices must be integers or slices, not str".toList)
  | .notTextList label => codePoints ('\'' :: label ++ "' must be a list of strings".toList)
  | .entryNotText label shown =>
    codePoints ('\'' :: label ++ "' entries must be strings, got ".toList ++ shown)
  | .duplicateEntry label entry =>
    codePoints ('\'' :: label ++ "' contains duplicate entry ".toList ++ quotedCodes entry)
  | .attributesNotMapping =>
    wording "'attributes' must be a mapping of tag selectors to attribute names"
  | .invalidSelector shown =>
    codePoints ("Invalid tag selector in 'attributes': ".toList ++ shown)
  | .directiveName name =>
    codePoints ("Directive ".toList ++ quotedCodes name ++ " must start with 'v-'".toList)
  | .integerTooLong =>
    wording ("Exceeds the limit (4300 digits) for integer string conversion; use " ++
      "sys.set_int_max_str_digits() to increase the limit")

/-- An options error as it is printed. -/
def OptionsError.message (error : OptionsError) : String := printed error.text

/-- Whether an error tells that data break the rules for options. The others come up while an error
is told, while keys are ordered or while a pattern is read. -/
def OptionsError.isRuleBroken : OptionsError → Bool
  | .noKeys _ | .keyNotHashable _ | .keyNotText _ | .keysNotOrdered .. | .daysAndMoments
  | .clocksNotComparable | .keysWithoutValues _ | .patternTooLarge _ | .integerTooLong => false
  | _ => true

end BareStrings.Config
