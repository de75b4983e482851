import BareStrings.Number.Binary64
import BareStrings.Text.Numeral

namespace BareStrings.Number.Binary64

open BareStrings.Text

/-- The coefficient of the decimal `c * 10 ^ exponent` next below or at the value, with the
remainder's numerator and the common denominator. -/
private def floorAt (m : Nat) (q exponent : Int) : Nat × Nat × Nat :=
  let (n, d) := scaled m 1 q
  let (n, d) :=
    if 0 ≤ exponent then (n, d * Nat.pow 10 exponent.toNat)
    else (n * Nat.pow 10 (-exponent).toNat, d)
  (n / d, n % d, d)

/-- The decimal on one grid that is nearest to a positive double and reads back as it, if the grid
has one. Of two equally near the even one is taken. -/
private def onGrid? (x : Binary64) (exponent : Int) : Option Nat :=
  let (m, q) := x.decoded
  let (below, remainder, den) := floorAt m q exponent
  let reads (c : Nat) : Bool := ofDecimal c exponent == ⟨UInt64.ofNat x.magnitude⟩
  let nearer := if 2 * remainder < den || (2 * remainder == den && below % 2 == 0) then below
    else below + 1
  let farther := if nearer = below then below + 1 else below
  if reads nearer then some nearer else if reads farther then some farther else none

/-- Coefficient and exponent of the shortest decimal that reads back as a finite positive double.
The grids are tried from coarse to fine; seventeen digits always suffice. -/
def shortest (x : Binary64) : Nat × Int :=
  let (m, q) := x.decoded
  let (whole, _, _) := floorAt m q (-400)
  let top : Int := (Nat.toDigits 10 whole).length - 400
  let grids := (List.range 18).map fun (digits : Nat) => top - (digits : Int)
  match grids.findSome? fun exponent => (onGrid? x exponent).map (·, exponent) with
  | some found => found
  | none => (m, q)

/-- The numeral of a double in messages: shortest digits, positional from `1e-4` up to below
`1e16`, otherwise with an exponent of at least two digits. -/
def numeral (x : Binary64) : List Char :=
  let sign := if x.isNegative && !x.isNan then ['-'] else []
  if x.isNan then "nan".toList
  else if x.isInfinite then sign ++ "inf".toList
  else if x.magnitude = 0 then sign ++ "0.0".toList
  else
    let (coefficient, exponent) := x.shortest
    let digits := decimal coefficient
    let point : Int := digits.length + exponent
    sign ++
      if -4 < point ∧ point ≤ 16 then
        if point ≤ 0 then '0' :: '.' :: (List.replicate (-point).toNat '0' ++ digits)
        else
          let whole := digits.take point.toNat
          let zeros := List.replicate (point.toNat - whole.length) '0'
          let fraction := digits.drop point.toNat
          whole ++ zeros ++ '.' :: (if fraction.isEmpty then ['0'] else fraction)
      else
        let fraction := digits.drop 1
        let scale := point - 1
        let width := decimal scale.natAbs
        digits.take 1 ++ (if fraction.isEmpty then [] else '.' :: fraction) ++
          'e' :: (if scale < 0 then '-' else '+') ::
          (List.replicate (2 - width.length) '0' ++ width)

end BareStrings.Number.Binary64
