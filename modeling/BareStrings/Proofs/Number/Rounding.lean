import BareStrings.Number.Binary64
import Mathlib.Data.Nat.Log
import Mathlib.Tactic.Ring

namespace BareStrings.Number.Binary64

section Quotient

variable {num den : Nat}

private theorem roundQuotient_bounds (num den : Nat) :
    num / den ≤ roundQuotient num den ∧ roundQuotient num den ≤ num / den + 1 := by
  unfold roundQuotient
  simp only
  split_ifs <;> omega

/-- A quotient is rounded to more than a number if it is beyond the middle between this number and the next
one, or in the middle and the next one is even. -/
theorem lt_roundQuotient_iff (hden : 0 < den) (m : Nat) :
    m < roundQuotient num den ↔
      (2 * m + 1) * den < 2 * num ∨ (2 * m + 1) * den = 2 * num ∧ m % 2 = 1 := by
  have hnum : den * (num / den) + num % den = num := Nat.div_add_mod num den
  have hrest : num % den < den := Nat.mod_lt num hden
  have hmiddle : (2 * m + 1) * den = 2 * (den * m) + den := by ring
  have hbounds := roundQuotient_bounds num den
  rcases Nat.lt_trichotomy m (num / den) with hbelow | hsame | habove
  · have hfits : den * (m + 1) ≤ den * (num / den) := Nat.mul_le_mul_left den hbelow
    rw [Nat.mul_succ] at hfits
    omega
  · rw [hmiddle, hsame]
    unfold roundQuotient
    simp only
    split_ifs <;> omega
  · have hfits : den * (num / den + 1) ≤ den * m := Nat.mul_le_mul_left den habove
    rw [Nat.mul_succ] at hfits
    omega

private theorem le_roundQuotient {m : Nat} (hden : 0 < den) (hle : m * den ≤ num) :
    m ≤ roundQuotient num den :=
  ((Nat.le_div_iff_mul_le hden).2 hle).trans (roundQuotient_bounds num den).1

private theorem roundQuotient_le {m : Nat} (hden : 0 < den) (hle : num ≤ m * den) :
    roundQuotient num den ≤ m := by
  by_contra hmore
  have hmiddle : (2 * m + 1) * den = 2 * (m * den) + den := by ring
  rcases (lt_roundQuotient_iff hden m).1 (Nat.lt_of_not_le hmore) with hbeyond | ⟨htie, _⟩ <;> omega

end Quotient

/-- A natural number in units of the last place that it has as a double. -/
theorem scaled_one (n k : Nat) :
    scaled n 1 (-((k : Int) - 52)) = (n * 2 ^ (52 - k), 2 ^ (k - 52)) := by
  unfold scaled
  split_ifs with hsmall
  · have hexponent : (-((k : Int) - 52)).toNat = 52 - k := by omega
    have hnone : k - 52 = 0 := by omega
    rw [hexponent, hnone]
    rfl
  · have hexponent : (-(-((k : Int) - 52))).toNat = k - 52 := by omega
    have hnone : 52 - k = 0 := by omega
    rw [hexponent, hnone, Nat.one_mul, pow_zero, Nat.mul_one]
    rfl

/-- The significand of a natural number, before it is rounded, has 53 bits. -/
theorem significand_bounds {n : Nat} (hn : n ≠ 0) :
    2 ^ 52 * 2 ^ (n.log2 - 52) ≤ n * 2 ^ (52 - n.log2) ∧
      n * 2 ^ (52 - n.log2) ≤ 2 ^ 53 * 2 ^ (n.log2 - 52) := by
  have hlow : 2 ^ n.log2 ≤ n := Nat.log2_self_le hn
  have hhigh : n < 2 ^ (n.log2 + 1) := Nat.lt_log2_self
  have hexponents : 52 + (n.log2 - 52) = n.log2 + (52 - n.log2) := by omega
  constructor
  · calc 2 ^ 52 * 2 ^ (n.log2 - 52)
      _ = 2 ^ n.log2 * 2 ^ (52 - n.log2) := by rw [← pow_add, ← pow_add, hexponents]
      _ ≤ n * 2 ^ (52 - n.log2) := Nat.mul_le_mul_right _ hlow
  · calc n * 2 ^ (52 - n.log2)
      _ ≤ 2 ^ (n.log2 + 1) * 2 ^ (52 - n.log2) := Nat.mul_le_mul_right _ hhigh.le
      _ = 2 * (2 ^ n.log2 * 2 ^ (52 - n.log2)) := by ring
      _ = 2 * (2 ^ 52 * 2 ^ (n.log2 - 52)) := by rw [← pow_add, ← pow_add, hexponents]
      _ = 2 ^ 53 * 2 ^ (n.log2 - 52) := by ring

/-- The bits of a natural number that a double holds: its exponent, and its significand rounded. -/
def bitsOfNat (n : Nat) : Nat :=
  (n.log2 + 1022) * leastSignificand + roundQuotient (n * 2 ^ (52 - n.log2)) (2 ^ (n.log2 - 52))

private theorem leastSignificand_eq : leastSignificand = 2 ^ 52 := by
  norm_num [leastSignificand]

private theorem lastPlace_one {n : Nat} (hn : n ≠ 0) : lastPlace n 1 = (n.log2 : Int) - 52 := by
  have hcoarse : (n.log2 : Int) - (Nat.log2 1 : Int) - 52 = (n.log2 : Int) - 52 := by
    rw [show Nat.log2 1 = 0 by decide]
    omega
  have hfull : ¬n * 2 ^ (52 - n.log2) < 2 ^ (n.log2 - 52) * leastSignificand := by
    rw [leastSignificand_eq, Nat.mul_comm (2 ^ (n.log2 - 52))]
    exact Nat.not_lt_of_le (significand_bounds hn).1
  unfold lastPlace
  simp only [hcoarse, scaled_one, if_neg hfull]
  omega

private theorem ofRatio_one {n : Nat} (hn : n ≠ 0) :
    ofRatio n 1 = if infinity.bits.toNat ≤ bitsOfNat n then infinity else ⟨UInt64.ofNat (bitsOfNat n)⟩ := by
  have hfield : ((n.log2 : Int) - 52 + 1074).toNat = n.log2 + 1022 := by omega
  unfold ofRatio bitsOfNat
  rw [if_neg hn]
  simp only [lastPlace_one hn, scaled_one, hfield]

/-- A number is beyond the largest finite one exactly if its bits reach those of infinity. -/
private theorem ofNat?_eq_none_iff_bits {n : Nat} (hn : n ≠ 0) :
    ofNat? n = none ↔ infinity.bits.toNat ≤ bitsOfNat n := by
  have hnone : ofNat? n = none ↔ ofRatio n 1 = infinity := by
    unfold ofNat?
    simp
  rw [hnone, ofRatio_one hn]
  split_ifs with hinfinite
  · exact iff_of_true rfl hinfinite
  · refine iff_of_false (fun hsame => ?_) hinfinite
    have hlimit : infinity.bits.toNat < 2 ^ 64 := infinity.bits.toNat_lt
    have hbits := congrArg (fun x : Binary64 => x.bits.toNat) hsame
    simp only [UInt64.toNat_ofNat'] at hbits
    omega

/-- A natural number is too large for a double exactly from the middle between the greatest double and `2 ^ 1024`
on. In the middle the greatest double is the odd neighbour. -/
theorem ofNat?_eq_none_iff (n : Nat) : ofNat? n = none ↔ 2 ^ 1024 - 2 ^ 970 ≤ n := by
  -- half a unit in the last place of the greatest double
  have hhalf : 0 < 2 ^ 970 := pow_pos Nat.two_pos 970
  have htop : 2 ^ 1024 = 2 ^ 54 * 2 ^ 970 := by rw [← pow_add]
  rcases eq_or_ne n 0 with rfl | hn
  · exact iff_of_false (by decide) (by omega)
  have hlow : 2 ^ n.log2 ≤ n := Nat.log2_self_le hn
  have hhigh : n < 2 ^ (n.log2 + 1) := Nat.lt_log2_self
  have hunit : 0 < 2 ^ (n.log2 - 52) := Nat.two_pow_pos _
  have hleast := le_roundQuotient hunit (significand_bounds hn).1
  have hgreatest := roundQuotient_le hunit (significand_bounds hn).2
  have hinfinity : infinity.bits.toNat = 2047 * 2 ^ 52 := by decide
  rw [ofNat?_eq_none_iff_bits hn, hinfinity, bitsOfNat, leastSignificand_eq]
  rcases Nat.lt_trichotomy n.log2 1023 with hsmall | hlast | hlarge
  · have hbelow : 2 ^ (n.log2 + 1) ≤ 2 ^ 1023 := pow_le_pow_right₀ one_le_two hsmall
    have hmost : 2 ^ 1023 = 2 ^ 53 * 2 ^ 970 := by rw [← pow_add]
    exact iff_of_false (by omega) (by omega)
  · -- the exponent is the greatest one: the number is beyond it if its significand is rounded up to 54 bits
    have hcarry := @lt_roundQuotient_iff (n * 2 ^ (52 - n.log2)) _ hunit (2 ^ 53 - 1)
    have hlastUnit : 2 ^ (1023 - 52) = 2 * 2 ^ 970 := by rw [← pow_succ']
    have hwhole : n * 2 ^ (52 - 1023) = n := Nat.mul_one n
    rw [hlast, hwhole, hlastUnit] at hcarry hleast hgreatest
    rw [hlast, hwhole, hlastUnit]
    omega
  · have habove : 2 ^ 1024 ≤ 2 ^ n.log2 := pow_le_pow_right₀ one_le_two hlarge
    exact iff_of_true (by omega) (by omega)

end BareStrings.Number.Binary64
