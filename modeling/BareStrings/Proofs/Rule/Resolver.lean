import BareStrings.Rule.Targets

namespace BareStrings.Rule

open BareStrings.Regex

namespace Resolver

/-- Everything remembered is what the targets say by themselves. -/
def Faithful (resolver : Resolver) : Prop :=
  ∀ tag names, resolver.known.lookup tag = some names → resolver.targets.ofTag tag = .ok names

/-- A new resolver is faithful. -/
theorem faithful_ofTargets (targets : Targets) : (ofTargets targets).Faithful := by
  intro tag names hknown
  simp [ofTargets] at hknown

variable {resolver : Resolver} {tag : List Char}

/-- An answer does not depend on what has been asked before, and it is remembered. -/
theorem Faithful.resolve_eq_ok (hfaithful : resolver.Faithful) {names : List (List Text.CodePoint)}
    (hnames : resolver.targets.ofTag tag = .ok names) :
    ∃ next, resolver.resolve tag = .ok (names, next) ∧ next.Faithful ∧
      next.targets = resolver.targets := by
  unfold resolve
  split
  · rename_i found hknown
    have hfound := hfaithful tag found hknown
    rw [hnames] at hfound
    cases hfound
    exact ⟨resolver, rfl, hfaithful, rfl⟩
  · refine ⟨{ resolver with known := resolver.known ++ [(tag, names)] }, ?_, ?_, rfl⟩
    · rw [hnames]
      rfl
    · intro asked found hknown
      simp only [List.lookup_append, Option.or_eq_some_iff] at hknown
      rcases hknown with hold | ⟨_, hnew⟩
      · exact hfaithful asked found hold
      · simp only [List.lookup_cons, List.lookup_nil] at hnew
        split at hnew
        · rename_i heq
          cases hnew
          rwa [eq_of_beq heq]
        · cases hnew

/-- What cannot be told is never remembered, so it cannot be told after any questions. -/
theorem Faithful.resolve_eq_error (hfaithful : resolver.Faithful) {cause : MatchError}
    (hcause : resolver.targets.ofTag tag = .error cause) : resolver.resolve tag = .error cause := by
  unfold resolve
  split
  · rename_i found hknown
    rw [hfaithful tag found hknown] at hcause
    cases hcause
  · rw [hcause]
    rfl

/-- Any answer is what the targets say by themselves. -/
theorem Faithful.of_resolve_eq_ok (hfaithful : resolver.Faithful) {names : List (List Text.CodePoint)}
    {next : Resolver} (hresolve : resolver.resolve tag = .ok (names, next)) :
    resolver.targets.ofTag tag = .ok names ∧ next.Faithful ∧ next.targets = resolver.targets := by
  cases hnames : resolver.targets.ofTag tag with
  | error cause =>
    rw [hfaithful.resolve_eq_error hnames] at hresolve
    cases hresolve
  | ok told =>
    obtain ⟨_, hsame, hnext, htargets⟩ := hfaithful.resolve_eq_ok hnames
    rw [hsame] at hresolve
    cases hresolve
    exact ⟨rfl, hnext, htargets⟩

/-- There is no answer exactly if the targets by themselves do not tell. -/
theorem Faithful.resolve_eq_error_iff (hfaithful : resolver.Faithful) {cause : MatchError} :
    resolver.resolve tag = .error cause ↔ resolver.targets.ofTag tag = .error cause := by
  refine ⟨fun hcause => ?_, hfaithful.resolve_eq_error⟩
  cases hnames : resolver.targets.ofTag tag with
  | error why =>
    have hsame := (hfaithful.resolve_eq_error hnames).symm.trans hcause
    exact congrArg Except.error (Except.error.inj hsame)
  | ok names =>
    obtain ⟨_, hsame, _⟩ := hfaithful.resolve_eq_ok hnames
    rw [hsame] at hcause
    cases hcause

end Resolver

end BareStrings.Rule
