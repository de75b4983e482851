import BareStrings.Number.Integer
import BareStrings.Regex.Basic
import BareStrings.Text.Quoted

namespace BareStrings.Regex

open BareStrings.Number BareStrings.Text

/-- The causes of a syntax error. -/
inductive Fault where
  | danglingEscape
  | badEscape (source : List Char)
  | incompleteEscape (source : List Char)
  | octalTooLarge (source : List Char)
  | unterminatedSet
  | badRange (first last : List CodePoint)
  | reversedCounts
  | nothingToRepeat
  | multipleRepeat
  | unexpectedEnd
  | unknownExtension (source : List CodePoint)
  | missingGroupName
  | unterminatedName (closing : Char)
  | badGroupName (name : List CodePoint)
  | badGroupNumber
  | unknownGroup (name : List Char)
  | openGroup
  | groupInLookBehind
  | invalidGroup (index : Nat)
  | redefinedGroup (name : List Char) (index earlier : Nat)
  | tooManyBranches
  | unterminatedComment
  | unterminatedGroup
  | unbalancedParenthesis
  | misplacedFlags
  | localeFlag
  | incompatibleFlags
  | unknownFlag
  | flagsNotEnded
  | missingFlag
  | missingColon
  | kindFlagOff
  | wholeFlagOn
  | wholeFlagOff
  | flagOnAndOff
  | missingBrace
  | missingCharacterName
  | undefinedCharacter (name : List Char)
  | variableLookBehind
  | forbiddenRepetition (greed : Greed)
deriving DecidableEq

/-- The words for a repetition where none is allowed. -/
def repetitionWords : Greed → List Char
  | .greedy => "MAX_REPEAT".toList
  | .lazy => "MIN_REPEAT".toList
  | .possessive => "POSSESSIVE_REPEAT".toList

/-- The wording of a fault, without its place. -/
def Fault.text : Fault → List CodePoint
  | .danglingEscape => wording "bad escape (end of pattern)"
  | .badEscape source => wording "bad escape " ++ codePoints source
  | .incompleteEscape source => wording "incomplete escape " ++ codePoints source
  | .octalTooLarge source =>
    wording "octal escape value " ++ codePoints source ++ wording " outside of range 0-0o377"
  | .unterminatedSet => wording "unterminated character set"
  | .badRange first last => wording "bad character range " ++ first ++ wording "-" ++ last
  | .reversedCounts => wording "min repeat greater than max repeat"
  | .nothingToRepeat => wording "nothing to repeat"
  | .multipleRepeat => wording "multiple repeat"
  | .unexpectedEnd => wording "unexpected end of pattern"
  | .unknownExtension source => wording "unknown extension " ++ source
  | .missingGroupName => wording "missing group name"
  | .unterminatedName closing => wording "missing " ++ ↑closing :: wording ", unterminated name"
  | .badGroupName name => wording "bad character in group name " ++ codePoints (quotedCodes name)
  | .badGroupNumber => wording "bad group number"
  | .unknownGroup name => wording "unknown group name " ++ codePoints (quoted name)
  | .openGroup => wording "cannot refer to an open group"
  | .groupInLookBehind =>
    wording "cannot refer to group defined in the same lookbehind subpattern"
  | .invalidGroup index => wording "invalid group reference " ++ codePoints (decimal index)
  | .redefinedGroup name index earlier =>
    codePoints ("redefinition of group name ".toList ++ quoted name ++ " as group ".toList ++ decimal index ++
      "; was group ".toList ++ decimal earlier)
  | .tooManyBranches => wording "conditional backref with more than two branches"
  | .unterminatedComment => wording "missing ), unterminated comment"
  | .unterminatedGroup => wording "missing ), unterminated subpattern"
  | .unbalancedParenthesis => wording "unbalanced parenthesis"
  | .misplacedFlags => wording "global flags not at the start of the expression"
  | .localeFlag => wording "bad inline flags: cannot use 'L' flag with a str pattern"
  | .incompatibleFlags => wording "bad inline flags: flags 'a', 'u' and 'L' are incompatible"
  | .unknownFlag => wording "unknown flag"
  | .flagsNotEnded => wording "missing -, : or )"
  | .missingFlag => wording "missing flag"
  | .missingColon => wording "missing :"
  | .kindFlagOff => wording "bad inline flags: cannot turn off flags 'a', 'u' and 'L'"
  | .wholeFlagOn => wording "bad inline flags: cannot turn on global flag"
  | .wholeFlagOff => wording "bad inline flags: cannot turn off global flag"
  | .missingBrace => wording "missing \x7b"
  | .missingCharacterName => wording "missing character name"
  | .undefinedCharacter name => wording "undefined character name " ++ codePoints (quoted name)
  | .flagOnAndOff => wording "bad inline flags: flag turned on and off"
  | .variableLookBehind => wording "look-behind requires fixed-width pattern"
  | .forbiddenRepetition greed =>
    wording "internal: unsupported template operator " ++ codePoints (repetitionWords greed)

/-- Why the source of an expression is refused. -/
inductive SyntaxError where
  /-- A fault, at a place in the source if it has one. -/
  | fault (fault : Fault) (offset : Option Nat) (source : List CodePoint)
  /-- A repetition count that is too large. -/
  | countTooLarge
  /-- A repetition count with too many digits to be read. -/
  | countTooLong (digits : Nat)
  /-- Options for the whole expression that ask for ASCII and for all of Unicode. -/
  | clashingKinds
  /-- A look behind over too great a length. -/
  | lookBehindTooLong
deriving DecidableEq

/-- The place of a fault. Line and column are told for sources of more than one line. -/
def placeText (offset : Nat) (source : List CodePoint) : List Char :=
  let before := source.take offset
  let lines := before.count (CodePoint.ofChar '\n') + 1
  let column := (before.reverse.takeWhile (· != CodePoint.ofChar '\n')).length + 1
  " at position ".toList ++ decimal offset ++
    if source.contains '\n' then
      " (line ".toList ++ decimal lines ++ ", column ".toList ++ decimal column ++ [')']
    else []

/-- The wording of a syntax error. -/
def SyntaxError.text : SyntaxError → List CodePoint
  | .fault cause none _ => cause.text
  | .fault cause (some offset) source => cause.text ++ codePoints (placeText offset source)
  | .countTooLarge => wording "the repetition number is too large"
  | .countTooLong digits => codePoints (tooLongText digits)
  | .clashingKinds => wording "ASCII and UNICODE flags are incompatible"
  | .lookBehindTooLong => wording "invalid SRE code"

end BareStrings.Regex
