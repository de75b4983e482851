import BareStrings.Text.Blank

namespace BareStrings.Text

/-- The letters of ASCII by their codes. -/
theorem isAlpha_iff {c : Char} :
    c.isAlpha = true ↔ (0x41 ≤ c.toNat ∧ c.toNat ≤ 0x5A) ∨ (0x61 ≤ c.toNat ∧ c.toNat ≤ 0x7A) := by
  have hcode : c.val.toNat = c.toNat := rfl
  have hcases : c.isAlpha = (decide (c.val ≥ 'A'.val ∧ c.val ≤ 'Z'.val) ||
      (decide (c.val ≥ 'a'.val) && decide (c.val ≤ 'z'.val))) := rfl
  simp [hcases, UInt32.le_iff_toNat_le, hcode]

/-- Capital letters are letters. -/
theorem isAlpha_of_isUpper {c : Char} (hupper : c.isUpper = true) : c.isAlpha = true :=
  (Bool.or_eq_true _ _).mpr (.inl hupper)

/-- Small letters are letters. -/
theorem isAlpha_of_isLower {c : Char} (hlower : c.isLower = true) : c.isAlpha = true :=
  (Bool.or_eq_true _ _).mpr (.inr hlower)

/-- Letters belong to ASCII. -/
theorem toNat_lt_of_isAlpha {c : Char} (hletter : c.isAlpha = true) : c.toNat < 128 := by
  rw [isAlpha_iff] at hletter
  omega

/-- Letters and digits belong to ASCII. -/
theorem toNat_lt_of_isAlphanum {c : Char} (hc : c.isAlphanum = true) : c.toNat < 128 := by
  rw [Char.isAlphanum, Bool.or_eq_true] at hc
  obtain hletter | hdigit := hc
  · exact toNat_lt_of_isAlpha hletter
  · exact Nat.lt_of_le_of_lt (Char.isDigit_iff_toNat.1 hdigit).2 (by decide)

/-- No visible character of ASCII is a blank. -/
theorem isBlankCode_eq_false {code : Nat} (hlow : 0x20 < code) (hhigh : code < 0x7F) :
    isBlankCode code = false := by
  simp only [isBlankCode, Bool.or_eq_false_iff, Bool.and_eq_false_iff, decide_eq_false_iff_not,
    beq_eq_false_iff_ne]
  omega

/-- The characters of ASCII behind the space are no blanks. -/
theorem isBlank_eq_false {c : Char} (hlow : 0x20 < c.toNat) (hhigh : c.toNat < 0x7F) :
    isBlank c = false := isBlankCode_eq_false hlow hhigh

/-- No letter is a blank. -/
theorem isBlank_of_isAlpha {c : Char} (hletter : c.isAlpha = true) : isBlank c = false := by
  rw [isAlpha_iff] at hletter
  exact isBlank_eq_false (by omega) (by omega)

/-- A letter is no character that is none. -/
theorem ne_of_isAlpha {c d : Char} (hletter : c.isAlpha = true) (hother : d.isAlpha = false) :
    c ≠ d := by
  rintro rfl
  rw [hletter] at hother
  cases hother

private theorem toLower_of_not_ascii {c : Char} (hhigh : 128 ≤ c.toNat) : c.toLower = c := by
  have hcode : c.val.toNat = c.toNat := rfl
  have hlast : 'Z'.val.toNat = 90 := rfl
  apply dif_neg
  rintro ⟨_, hle⟩
  rw [UInt32.le_iff_toNat_le, hcode, hlast] at hle
  omega

/-- What a table says of all code points of ASCII holds of its characters. -/
theorem of_ascii {P : Char → Prop} (htable : ∀ code < 128, P (Char.ofNat code)) {c : Char}
    (hascii : c.toNat < 128) : P c := by
  have hc := htable c.toNat hascii
  rwa [Char.ofNat_toNat] at hc

/-- What does not depend on case in ASCII does not depend on it at all. -/
theorem apply_toLower {p : Char → Bool}
    (htable : ∀ code < 128, p (Char.ofNat code).toLower = p (Char.ofNat code)) (c : Char) :
    p c.toLower = p c := by
  by_cases hascii : c.toNat < 128
  · exact of_ascii (P := fun c => p c.toLower = p c) htable hascii
  · rw [toLower_of_not_ascii (by omega)]

/-- What is a letter stays one in lower case, and nothing else becomes one. -/
theorem isAlpha_toLower (c : Char) : c.toLower.isAlpha = c.isAlpha :=
  apply_toLower (by decide) c

end BareStrings.Text
