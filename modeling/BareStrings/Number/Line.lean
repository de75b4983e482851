import BareStrings.Number.Arithmetic

namespace BareStrings.Number

/-- A point of the number line: a quotient, or one of the ends. -/
inductive Point where
  | least
  | quotient (numerator : Int) (denominator : Nat)
  | greatest

namespace Point

/-- An integer as a point. -/
def ofInt (n : Int) : Point := .quotient n 1

/-- A double as a point, unless it is not a number. -/
def ofBinary64? (x : Binary64) : Option Point :=
  if x.isNan then none
  else if x.isInfinite then some (if x.isNegative then .least else .greatest)
  else
    let (a, b) := x.ratio
    some (.quotient (if x.isNegative then -(a : Int) else a) b)

/-- Whether a point is below another. -/
def isBelow : Point → Point → Bool
  | .least, .least => false
  | .least, _ => true
  | .quotient a b, .quotient c d => a * d < c * b
  | .quotient _ _, .greatest => true
  | _, _ => false

/-- Whether two points are the same. -/
def isSame (p q : Point) : Bool := !p.isBelow q && !q.isBelow p

end Point

end BareStrings.Number
