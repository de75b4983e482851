import BareStrings.Regex.Basic
import BareStrings.Text.Blank
import BareStrings.Unicode.Case
import BareStrings.Unicode.Digit
import BareStrings.Unicode.Word

namespace BareStrings.Regex

open BareStrings.Text BareStrings.Unicode

/-- Lower case within ASCII. -/
def asciiLower (code : Nat) : Nat := if 0x41 ≤ code ∧ code ≤ 0x5A then code + 32 else code

/-- A letter of ASCII. -/
def isAsciiLetter (code : Nat) : Bool :=
  0x41 ≤ code && code ≤ 0x5A || 0x61 ≤ code && code ≤ 0x7A

/-- The last code point of the basic plane. -/
def lastBasic : Nat := 0xFFFF

/-- A code point of a category. -/
def Category.holds (kind : Category) (asciiOnly : Bool) (code : Nat) : Bool :=
  (!asciiOnly || code < 0x80 && !(0x1C ≤ code && code ≤ 0x1F)) &&
    match kind with
    | .digit => (decimalValue? code).isSome
    | .blank => isBlankCode code
    | .word => isWord code

namespace CaseRule

/-- The character that stands for a letter in both cases. -/
def fold (rule : CaseRule) (code : Nat) : Nat :=
  match rule with
  | .exact => code
  | .ascii => asciiLower code
  | .full => lowerCode code

/-- The folded characters that a rule takes for the same letter as this one. -/
def twins (rule : CaseRule) (folded : Nat) : List Nat :=
  match rule with
  | .full => twinsOf folded
  | _ => []

/-- Whether a rule regards a character as a letter with case. -/
def hasCase (rule : CaseRule) (code : Nat) : Bool :=
  match rule with
  | .exact => false
  | .ascii => isAsciiLetter code
  | .full => changesCase code

/-- Whether a rule regards some character of a range as a letter with case. -/
def hasCaseWithin (rule : CaseRule) (first last : Nat) : Bool :=
  match rule with
  | .exact => false
  | .ascii => first ≤ 0x5A && 0x41 ≤ last || first ≤ 0x7A && 0x61 ≤ last
  | .full => changesCaseWithin first last

/-- The characters of the basic plane that fold to a given one or to a twin of it. -/
def sources (rule : CaseRule) (folded : Nat) : List Nat :=
  match rule with
  | .exact => [folded]
  | .ascii => if 0x61 ≤ folded ∧ folded ≤ 0x7A then [folded, folded - 32] else [folded]
  | .full => (folded :: twinsOf folded).flatMap lowerSources

/-- Equality of a letter of the expression and a character of the subject. -/
def same (rule : CaseRule) (letter code : CodePoint) : Bool :=
  let folded := rule.fold letter.val
  (folded :: rule.twins folded).contains (rule.fold code.val)

/-- Comparison of a character with one that a group has matched. -/
def sameAgain (rule : CaseRule) (earlier code : CodePoint) : Bool :=
  rule.fold earlier.val == rule.fold code.val

end CaseRule

namespace SetItem

/-- Whether a member has case under a rule. A range that leaves the basic plane counts as if it
had. -/
def hasCase (rule : CaseRule) : SetItem → Bool
  | .one letter => rule.hasCase letter.val
  | .range first last =>
    rule != .exact && lastBasic < last.val || rule.hasCaseWithin first.val last.val
  | .category .. => false

/-- Whether a member asks for the characters to be folded. -/
def asksFolding (rule : CaseRule) : SetItem → Bool
  | .one letter => rule.hasCase letter.val || rule != .exact && lastBasic < letter.val
  | item => item.hasCase rule

/-- Whether a member matches a character as it is. -/
def holds (code : CodePoint) : SetItem → Bool
  | .one letter => letter == code
  | .range first last => first ≤ code && code ≤ last
  | .category kind asciiOnly negated => kind.holds asciiOnly code.val != negated

/-- Whether a member matches a folded character. Beyond the basic plane a letter is not folded
itself, so that a capital is never met there; and a range is asked for the folded character and for
its upper case. -/
def holdsFolded (rule : CaseRule) (folded : Nat) : SetItem → Bool
  | .one letter =>
    if lastBasic < letter.val then folded == letter.val
    else
      let lower := rule.fold letter.val
      (lower :: rule.twins lower).contains folded
  | .range first last =>
    let within (code : Nat) : Bool := first.val ≤ code && code ≤ last.val
    (rule.sources folded).any (fun source => source ≤ lastBasic && within source) ||
      lastBasic < last.val && (within folded || within (upperCode folded))
  | .category kind asciiOnly negated => kind.holds asciiOnly folded != negated

end SetItem

/-- Whether the characters are folded before they are looked up in a set: if one of its members has case. -/
def setFolds (items : List SetItem) (rule : CaseRule) : Bool := items.any (·.asksFolding rule)

/-- Whether a set of characters, or the complement of one, has a character. -/
def setHolds (items : List SetItem) (negated : Bool) (rule : CaseRule) (code : CodePoint) : Bool :=
  (if setFolds items rule then items.any (·.holdsFolded rule (rule.fold code.val))
    else items.any (·.holds code)) != negated

/-- What a form that matches exactly one character asks of it. Some such forms are tried step by
step when they are repeated, and each step leaves its mark on how far the match has come. -/
structure Single where
  holds : CodePoint → Bool
  stepwise : Bool

/-- The condition on its character, if an expression is a form for exactly one. -/
def single? : Regex → Option Single
  | .char letter negated rule =>
    let hasTwins := !(rule.twins (rule.fold letter.val)).isEmpty
    some ⟨fun code => rule.same letter code != negated, hasTwins⟩
  | .any lineFeeds => some ⟨fun code => lineFeeds || code.val != 0x0A, false⟩
  | .set items negated rule => some ⟨setHolds items negated rule, setFolds items rule⟩
  | .group none body => body.single?
  | _ => none

end BareStrings.Regex
