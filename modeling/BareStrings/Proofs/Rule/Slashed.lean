import BareStrings.Proofs.Text.Split
import BareStrings.Rule.Selector

namespace BareStrings.Rule

open BareStrings.Text

/-- A pattern with a body and flags. -/
def slashed (body flags : List CodePoint) : List CodePoint :=
  .ofChar '/' :: (body ++ .ofChar '/' :: flags)

namespace Selector

variable {selector body flags : List CodePoint}

/-- A code point other than a slash stands in a pattern only if it stands in its body or its flags. -/
theorem not_mem_slashed {code : CodePoint} (hslash : code ≠ '/') (hbody : code ∉ body)
    (hflags : code ∉ flags) : code ∉ slashed body flags := by
  simp [slashed, hslash, hbody, hflags]

/-- A selector is told apart into body and flags exactly if it is written so on one line. Its last slash is
the one between them. -/
theorem patternParts?_eq_some_iff :
    patternParts? selector = some (body, flags) ↔
      selector = slashed body flags ∧ body ≠ [] ∧ CodePoint.ofChar '/' ∉ flags ∧
        CodePoint.ofChar '\n' ∉ selector := by
  constructor
  · intro hparts
    unfold patternParts? at hparts
    cases selector with
    | nil => cases hparts
    | cons first rest =>
      have hsplit := List.takeWhile_append_dropWhile (p := (· != CodePoint.ofChar '/')) (l := rest.reverse)
      simp only at hparts
      cases hdrop : rest.reverse.dropWhile (· != CodePoint.ofChar '/') with
      | nil =>
        rw [hdrop] at hparts
        cases hparts
      | cons slash before =>
        rw [hdrop] at hparts hsplit
        dsimp only at hparts
        have hslash : slash = CodePoint.ofChar '/' := by
          have hlast := List.head?_dropWhile_not (· != CodePoint.ofChar '/') rest.reverse
          simpa [hdrop] using hlast
        split at hparts
        · cases hparts
        · rename_i hkept
          rw [Bool.or_eq_true, Bool.or_eq_true, not_or, not_or] at hkept
          obtain ⟨⟨hfirst, hempty⟩, hline⟩ := hkept
          obtain rfl : first = CodePoint.ofChar '/' := by simpa using hfirst
          obtain ⟨rfl, rfl⟩ := Prod.mk.inj (Option.some.inj hparts)
          refine ⟨?_, by simpa using hempty, ?_, by simpa using hline⟩
          · simpa [slashed, hslash] using (congrArg List.reverse hsplit).symm
          · intro hmem
            have hother := List.mem_takeWhile_imp (List.mem_reverse.1 hmem)
            exact absurd hother (by decide)
  · rintro ⟨rfl, hbody, hslash, hline⟩
    have hflags : ∀ flag ∈ flags.reverse, (flag != CodePoint.ofChar '/') = true := by
      intro flag hflag
      rw [bne_iff_ne]
      rintro rfl
      exact hslash (List.mem_reverse.1 hflag)
    have hreverse : (body ++ CodePoint.ofChar '/' :: flags).reverse =
        flags.reverse ++ CodePoint.ofChar '/' :: body.reverse := by simp
    obtain ⟨htake, hdrop⟩ := takeWhile_append_of_head hflags (CodePoint.ofChar '/' :: body.reverse) (by simp)
    have hempty : body.reverse.isEmpty = false := by simpa using hbody
    have hplain : (slashed body flags).contains '\n' = false := by simpa using hline
    unfold patternParts?
    rw [slashed] at hplain ⊢
    simp only [hreverse, htake, hdrop, hempty, hplain, bne_self_eq_false, Bool.or_self,
      Bool.false_eq_true, if_false, List.reverse_reverse]

end Selector

end BareStrings.Rule
