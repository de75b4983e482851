import Mathlib.Algebra.GroupWithZero.Nat
import BareStrings.Unicode.Case

namespace BareStrings.Unicode

/-- In a table of which only the first run begins in ASCII, only this run maps anything there. -/
theorem applyRuns_ascii {first last : Nat} {shift : Int} {others : List CaseRun}
    (hothers : others.all (fun run => decide (128 ≤ run.first)) = true) {code : Nat} (hascii : code < 128) :
    applyRuns (⟨first, last, 1, shift⟩ :: others) code =
      if first ≤ code ∧ code ≤ last then (code + shift).toNat else code := by
  have hrest : others.find? (·.covers code) = none := by
    rw [List.find?_eq_none]
    intro run hrun
    have hfirst : 128 ≤ run.first := of_decide_eq_true (List.all_eq_true.1 hothers run hrun)
    simp only [CaseRun.covers, Bool.and_eq_true, decide_eq_true_eq, not_and]
    omega
  have hcovers : CaseRun.covers ⟨first, last, 1, shift⟩ code = decide (first ≤ code ∧ code ≤ last) := by
    simp [CaseRun.covers, Nat.mod_one]
  rw [applyRuns, List.find?_cons, hcovers]
  by_cases hinside : first ≤ code ∧ code ≤ last
  · simp only [hinside, and_self, decide_true, if_true]
  · simp only [hinside, decide_false, hrest, if_false]

/-- Below the limit of ASCII, the tables know only the capital letters. -/
theorem lowerCode_ascii {code : Nat} (hascii : code < 128) :
    lowerCode code = if 0x41 ≤ code ∧ code ≤ 0x5A then code + 32 else code := by
  have hsplit : lowerRuns = ⟨0x41, 0x5A, 1, 32⟩ :: lowerRuns.tail := rfl
  have hdotted : code ≠ 0x130 := by omega
  rw [lowerCode, if_neg hdotted, hsplit, applyRuns_ascii (by decide) hascii]
  rfl

/-- In ASCII only the small letters have another capital letter. -/
private theorem upperCodes_ascii {code : Nat} (hascii : code < 128) :
    upperCodes code = [if 0x61 ≤ code ∧ code ≤ 0x7A then code - 32 else code] := by
  have hsplit : upperRuns = ⟨0x61, 0x7A, 1, -32⟩ :: upperRuns.tail := rfl
  have hlate : upperExpansions.all (fun expansion => decide (128 ≤ expansion.1)) = true := by decide
  have hnone : upperExpansions.lookup code = none := by
    rw [List.lookup_eq_none_iff]
    intro expansion hexpansion
    have hfirst : 128 ≤ expansion.1 := of_decide_eq_true (List.all_eq_true.1 hlate expansion hexpansion)
    simp only [bne_iff_ne, ne_eq]
    omega
  rw [upperCodes, hnone]
  simp only
  rw [hsplit, applyRuns_ascii (by decide) hascii]
  by_cases hlower : 0x61 ≤ code ∧ code ≤ 0x7A
  · rw [if_pos hlower, if_pos hlower]
    congr 1
    omega
  · rw [if_neg hlower, if_neg hlower]

/-- In ASCII, the tables agree with the core library on lower case. -/
theorem lowerCode_toNat {c : Char} (hascii : c.toNat < 128) : lowerCode c.toNat = c.toLower.toNat := by
  have htable : ∀ code < 128, (if 0x41 ≤ code ∧ code ≤ 0x5A then code + 32 else code) =
      (Char.ofNat code).toLower.toNat := by
    decide
  rw [lowerCode_ascii hascii, htable c.toNat hascii, Char.ofNat_toNat]

private theorem lowerChar_ascii {c : Char} (hascii : c.toNat < 128) (before after : List Char) :
    lowerChar before c after = [c.toLower] := by
  have hsigma : c ≠ 'Σ' := by
    rintro rfl
    exact absurd hascii (by decide)
  have hdotted : c ≠ 'İ' := by
    rintro rfl
    exact absurd hascii (by decide)
  rw [lowerChar, if_neg hsigma, if_neg hdotted, lowerCode_toNat hascii, Char.ofNat_toNat]

/-- A text of ASCII is put in lower case character by character. -/
theorem toLower_ascii {text : List Char} (hascii : ∀ c ∈ text, c.toNat < 128) :
    toLower text = text.map Char.toLower := by
  have hafter : ∀ before, lowerAfter before text = text.map Char.toLower := by
    induction text with
    | nil => exact fun _ => rfl
    | cons c rest ih =>
      intro before
      rw [lowerAfter, lowerChar_ascii (hascii c List.mem_cons_self),
        ih fun d hd => hascii d (List.mem_cons_of_mem c hd)]
      rfl
  exact hafter []

/-- In ASCII, the upper case of a character is one character, that of the core library. -/
theorem upperChar_ascii {c : Char} (hascii : c.toNat < 128) : upperChar c = [c.toUpper] := by
  have htable : ∀ code < 128, Char.ofNat (if 0x61 ≤ code ∧ code ≤ 0x7A then code - 32 else code) =
      (Char.ofNat code).toUpper := by
    decide
  rw [upperChar, upperCodes_ascii hascii, List.map_singleton, htable c.toNat hascii, Char.ofNat_toNat]

/-- A character that is its own lower case is still there in the lower case of a text. -/
theorem mem_toLower {c : Char} (hsigma : c ≠ 'Σ') (hdotted : c ≠ 'İ')
    (hsame : lowerCode c.toNat = c.toNat) {text : List Char} (hmem : c ∈ text) : c ∈ toLower text := by
  have hchar : ∀ before after, lowerChar before c after = [c] := by
    intro before after
    rw [lowerChar, if_neg hsigma, if_neg hdotted, hsame, Char.ofNat_toNat]
  have hafter : ∀ before, c ∈ lowerAfter before text := by
    induction text with
    | nil => cases hmem
    | cons d rest ih =>
      intro before
      rw [lowerAfter, List.mem_append]
      rcases List.mem_cons.1 hmem with rfl | hrest
      · exact .inl (by simp [hchar])
      · exact .inr (ih hrest _)
  exact hafter []

/-- The number of characters in the lower case of a character, whatever surrounds it. -/
def lowerWidth (c : Char) : Nat := if c = 'İ' then 2 else 1

private theorem length_lowerChar (before : List Char) (c : Char) (after : List Char) :
    (lowerChar before c after).length = lowerWidth c := by
  unfold lowerChar lowerWidth
  by_cases hsigma : c = 'Σ'
  · subst hsigma
    have hother : 'Σ' ≠ 'İ' := by decide
    rw [if_pos rfl, if_neg hother]
    split <;> rfl
  · rw [if_neg hsigma]
    split <;> rfl

private theorem length_lowerAfter (before text : List Char) :
    (lowerAfter before text).length = (text.map lowerWidth).sum := by
  induction text generalizing before with
  | nil => rfl
  | cons c rest ih =>
    rw [lowerAfter, List.length_append, length_lowerChar, ih, List.map_cons, List.sum_cons]

private theorem length_le_sum_lowerWidth (text : List Char) : text.length ≤ (text.map lowerWidth).sum := by
  induction text with
  | nil => exact Nat.le_refl 0
  | cons c rest ih =>
    have hwidth : 1 ≤ lowerWidth c := by
      unfold lowerWidth
      split <;> decide
    rw [List.length_cons, List.map_cons, List.sum_cons]
    omega

/-- A text that goes on has a longer lower case. -/
theorem eq_of_toLower_eq {first second : List Char} (hbegins : first <+: second)
    (hlower : toLower first = toLower second) : first = second := by
  obtain ⟨more, rfl⟩ := hbegins
  have hlength := congrArg List.length hlower
  rw [toLower, toLower, length_lowerAfter, length_lowerAfter, List.map_append,
    List.sum_append] at hlength
  have hmore := length_le_sum_lowerWidth more
  have hnil : more = [] := List.eq_nil_of_length_eq_zero (by omega)
  rw [hnil, List.append_nil]

end BareStrings.Unicode
