import BareStrings.Regex.Error

namespace BareStrings.Regex

/-- The first thing in an expression that is not allowed: a look behind without a fixed length, or
any repetition where these are forbidden. -/
def defect? (unrepeated : Bool) : Regex → Option Fault
  | .empty | .char .. | .any _ | .set .. | .anchor _ | .backref .. => none
  | .seq first second | .alt first second | .conditional _ first second =>
    (first.defect? unrepeated).or (second.defect? unrepeated)
  | .group _ body | .lookAhead _ body | .atomic body => body.defect? unrepeated
  | .repeated _ _ greed body =>
    if unrepeated then some (.forbiddenRepetition greed) else body.defect? unrepeated
  | .lookBehind _ least most body =>
    if least = most then body.defect? unrepeated else some .variableLookBehind

/-- The greatest length that a look behind may have. -/
def lookBehindLimit : Nat := 2147483647

/-- Whether some look behind is longer than is allowed. -/
def looksTooFarBehind : Regex → Bool
  | .empty | .char .. | .any _ | .set .. | .anchor _ | .backref .. => false
  | .seq first second | .alt first second | .conditional _ first second =>
    first.looksTooFarBehind || second.looksTooFarBehind
  | .group _ body | .repeated _ _ _ body | .lookAhead _ body | .atomic body =>
    body.looksTooFarBehind
  | .lookBehind _ least _ body => lookBehindLimit < least || body.looksTooFarBehind

end BareStrings.Regex
