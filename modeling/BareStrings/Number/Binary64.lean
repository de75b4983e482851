namespace BareStrings.Number

/-- A double-precision number, held as its IEEE 754 bit pattern. -/
structure Binary64 where
  bits : UInt64
deriving DecidableEq

namespace Binary64

/-- Positive zero. -/
def zero : Binary64 := ⟨0⟩

/-- Positive infinity. -/
def infinity : Binary64 := ⟨0x7FF0000000000000⟩

/-- The quiet number that is none. -/
def nan : Binary64 := ⟨0x7FF8000000000000⟩

/-- The number with the opposite sign. -/
def neg (x : Binary64) : Binary64 := ⟨x.bits ^^^ 0x8000000000000000⟩

/-- The least significand of a number that is not below the normal ones: 53 bits long. -/
def leastSignificand : Nat := 0x10000000000000

/-- The quotient rounded to the nearest natural number, a tie to the even one. -/
def roundQuotient (num den : Nat) : Nat :=
  let quotient := num / den
  let twice := 2 * (num % den)
  if twice < den then quotient
  else if den < twice then quotient + 1
  else quotient + quotient % 2

/-- `num / den` scaled by a power of two, as numerator and denominator. -/
def scaled (num den : Nat) (exponent : Int) : Nat × Nat :=
  if 0 ≤ exponent then (num * Nat.pow 2 exponent.toNat, den)
  else (num, den * Nat.pow 2 (-exponent).toNat)

/-- The exponent of the unit in the last place of a quotient. It is chosen so that the significand
has 53 bits, but never below the least double. -/
def lastPlace (num den : Nat) : Int :=
  let coarse : Int := num.log2 - den.log2 - 52
  let (n, d) := scaled num den (-coarse)
  max (if n < d * leastSignificand then coarse - 1 else coarse) (-1074)

/-- The double nearest to a quotient of natural numbers. A significand that is rounded up to 54 bits
carries into the exponent. -/
def ofRatio (num den : Nat) : Binary64 :=
  if num = 0 then zero
  else
    let exponent := lastPlace num den
    let units := scaled num den (-exponent)
    let bits := (exponent + 1074).toNat * leastSignificand + roundQuotient units.1 units.2
    if infinity.bits.toNat ≤ bits then infinity else ⟨UInt64.ofNat bits⟩

/-- A natural number that a double can hold after rounding, or nothing if it is too large. -/
def ofNat? (n : Nat) : Option Binary64 :=
  let x := ofRatio n 1
  if x = infinity then none else some x

/-- The double nearest to `coefficient * 10 ^ exponent`. Numbers far outside the range of doubles
are decided by their number of digits. -/
def ofDecimal (coefficient : Nat) (exponent : Int) : Binary64 :=
  if coefficient = 0 then zero
  else
    let magnitude : Int := (Nat.toDigits 10 coefficient).length + exponent
    if 400 < magnitude then infinity
    else if magnitude < -400 then zero
    else if 0 ≤ exponent then ofRatio (coefficient * Nat.pow 10 exponent.toNat) 1
    else ofRatio coefficient (Nat.pow 10 (-exponent).toNat)

/-- The sign bit. -/
def isNegative (x : Binary64) : Bool := 0x8000000000000000 ≤ x.bits

/-- The bits below the sign. -/
def magnitude (x : Binary64) : Nat := x.bits.toNat % 0x8000000000000000

/-- Neither a number nor an infinity. -/
def isNan (x : Binary64) : Bool := infinity.bits.toNat < x.magnitude

/-- One of the two infinities. -/
def isInfinite (x : Binary64) : Bool := x.magnitude == infinity.bits.toNat

/-- Significand `m` and exponent `q` of a finite double's magnitude `m * 2 ^ q`. -/
def decoded (x : Binary64) : Nat × Int :=
  let field : Nat := x.magnitude / leastSignificand
  let fraction : Nat := x.magnitude % leastSignificand
  if field = 0 then (fraction, -1074) else (fraction + leastSignificand, (field : Int) - 1075)

end Binary64

end BareStrings.Number
