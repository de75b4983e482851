import BareStrings.Number.Binary64

namespace BareStrings.Number.Binary64

/-- A number with a sign. -/
def withSign (isNegative : Bool) (x : Binary64) : Binary64 := if isNegative then x.neg else x

/-- The magnitude of a finite double as a quotient. -/
def ratio (x : Binary64) : Nat × Nat :=
  let (significand, exponent) := x.decoded
  scaled significand 1 exponent

/-- The sum of two finite doubles. Zero is negative only as the sum of two negative zeros. -/
def addFinite (x y : Binary64) : Binary64 :=
  let (a, b) := x.ratio
  let (c, d) := y.ratio
  let signed (isNegative : Bool) (n : Nat) : Int := if isNegative then -(n : Int) else n
  let total := signed x.isNegative (a * d) + signed y.isNegative (c * b)
  if total = 0 then zero.withSign (x.isNegative && y.isNegative)
  else (ofRatio total.natAbs (b * d)).withSign (decide (total < 0))

/-- The sum of two doubles. -/
def add (x y : Binary64) : Binary64 :=
  if x.isNan || y.isNan then nan
  else if x.isInfinite then if y.isInfinite && x.isNegative != y.isNegative then nan else x
  else if y.isInfinite then y
  else x.addFinite y

/-- The product of two doubles. -/
def mul (x y : Binary64) : Binary64 :=
  let isNegative := x.isNegative != y.isNegative
  if x.isNan || y.isNan then nan
  else if x.isInfinite || y.isInfinite then
    if x.magnitude = 0 ∨ y.magnitude = 0 then nan else infinity.withSign isNegative
  else
    let (a, b) := x.ratio
    let (c, d) := y.ratio
    (ofRatio (a * c) (b * d)).withSign isNegative

end BareStrings.Number.Binary64
