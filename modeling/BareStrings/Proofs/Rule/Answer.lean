import Mathlib.Data.Finset.Lattice.Lemmas
import BareStrings.Proofs.Rule.Resolver
import BareStrings.Proofs.Rule.Scan
import BareStrings.Proofs.Rule.TagName
import BareStrings.Proofs.Rule.Targets

namespace BareStrings.Rule

open BareStrings.Markup BareStrings.Regex BareStrings.Text BareStrings.Rule.TagName

variable {attributes : List (List CodePoint × List (List CodePoint))} {targets : Targets} {c : Char}
  {rest : List Char}

namespace Targets

/-- The attributes that a name gets by itself, as a set. -/
def ownSet (targets : Targets) (name : List Char) : Except MatchError (Finset (List CodePoint)) :=
  (targets.ofName name).map List.toFinset

/-- All there is to tell about a name is what the entries give to it. -/
theorem ownSet_perm (hkeys : (attributes.map Prod.fst).Nodup)
    (htargets : ofAttributes attributes = .ok targets) {permuted : List (List CodePoint × List (List CodePoint))}
    (hperm : attributes.Perm permuted) {same : Targets} (hsame : ofAttributes permuted = .ok same)
    (name : List Char) : same.ownSet name = targets.ownSet name := by
  have hpermuted : (permuted.map Prod.fst).Nodup := (hperm.map Prod.fst).nodup hkeys
  have htold : AllTold permuted name ↔ AllTold attributes name := by
    simp only [AllTold, hperm.mem_iff]
  rw [← exists_ofName_iff_allTold hsame, ← exists_ofName_iff_allTold htargets] at htold
  unfold ownSet
  cases hnames : targets.ofName name with
  | error cause =>
    cases hother : same.ofName name with
    | error other =>
      obtain ⟨⟩ := cause
      obtain ⟨⟩ := other
      rfl
    | ok names =>
      obtain ⟨_, hfound⟩ := htold.1 ⟨names, hother⟩
      rw [hnames] at hfound
      cases hfound
  | ok names =>
    obtain ⟨others, hothers⟩ := htold.2 ⟨names, hnames⟩
    rw [hothers]
    refine congrArg Except.ok (Finset.ext fun given => ?_)
    rw [List.mem_toFinset, List.mem_toFinset, mem_ofName_iff_gives hpermuted hsame hothers,
      mem_ofName_iff_gives hkeys htargets hnames]
    simp only [Gives, hperm.mem_iff]

/-- A name's own set holds the attributes that are found for it. -/
theorem ownSet_eq_ok_iff {name : List Char} {own : Finset (List CodePoint)} :
    targets.ownSet name = .ok own ↔ ∃ names, targets.ofName name = .ok names ∧ own = names.toFinset := by
  unfold ownSet
  cases targets.ofName name <;> simp [Except.map, eq_comm]

/-- A tag gets what its name gets, and if that is in kebab case, what its Pascal case gets. There the way
ends, because the Pascal case is not in kebab case again. -/
theorem ofTag_cons (hletter : c.isAlpha = true) (targets : Targets) :
    targets.ofTag (c :: rest) = (do
      let names ← targets.ofName (c :: rest)
      if isKebabCase (c :: rest) then
        return names ++ (← targets.ofTag (pascalCase (c :: rest)))
      else return names) := by
  unfold ofTag
  by_cases hkebab : isKebabCase (c :: rest) = true
  · simp [hkebab, pascalCase_ne hletter hkebab, isKebabCase_pascalCase hletter hkebab]
  · simp [hkebab]

end Targets

namespace Resolver

variable {resolver : Resolver} {tag : List Char}

/-- The answer of a resolver to a question for a tag, as a set. -/
def answer (resolver : Resolver) (tag : List Char) : Except MatchError (Finset (List CodePoint)) :=
  (resolver.resolve tag).map fun found => found.1.toFinset

/-- A resolver behind a question. One that has no answer leaves it as it was. -/
def after (resolver : Resolver) (tag : List Char) : Resolver :=
  match resolver.resolve tag with
  | .ok (_, next) => next
  | .error _ => resolver

/-- A resolver behind questions one after another. -/
def afterAll (resolver : Resolver) (asked : List (List Char)) : Resolver := asked.foldl after resolver

/-- A faithful resolver answers with what its targets give, whatever it has been asked before. -/
theorem Faithful.answer_eq (hfaithful : resolver.Faithful) :
    resolver.answer tag = (resolver.targets.ofTag tag).map List.toFinset := by
  unfold answer
  cases hnames : resolver.targets.ofTag tag with
  | error cause =>
    rw [hfaithful.resolve_eq_error hnames]
    rfl
  | ok names =>
    obtain ⟨next, hresolve, _⟩ := hfaithful.resolve_eq_ok hnames
    rw [hresolve]
    rfl

/-- A faithful resolver stays faithful when it is asked. -/
private theorem Faithful.after (hfaithful : resolver.Faithful) (tag : List Char) :
    (resolver.after tag).Faithful ∧ (resolver.after tag).targets = resolver.targets := by
  unfold Resolver.after
  cases hnames : resolver.targets.ofTag tag with
  | error cause =>
    rw [hfaithful.resolve_eq_error hnames]
    exact ⟨hfaithful, rfl⟩
  | ok names =>
    obtain ⟨next, hresolve, hnext, htargets⟩ := hfaithful.resolve_eq_ok hnames
    rw [hresolve]
    exact ⟨hnext, htargets⟩

/-- A faithful resolver stays faithful, and keeps its targets, however often it is asked. -/
theorem Faithful.afterAll (hfaithful : resolver.Faithful) (asked : List (List Char)) :
    (resolver.afterAll asked).Faithful ∧ (resolver.afterAll asked).targets = resolver.targets := by
  induction asked generalizing resolver with
  | nil => exact ⟨hfaithful, rfl⟩
  | cons tag asked ih =>
    obtain ⟨hnext, htargets⟩ := hfaithful.after tag
    obtain ⟨hlast, hsame⟩ := ih hnext
    exact ⟨hlast, hsame.trans htargets⟩

/-- A new resolver answers with what its targets give. -/
theorem answer_ofTargets (targets : Targets) (tag : List Char) :
    (ofTargets targets).answer tag = (targets.ofTag tag).map List.toFinset :=
  (faithful_ofTargets targets).answer_eq

/-- The answer to a tag by the answer to its Pascal case. -/
theorem answer_cons (hletter : c.isAlpha = true) (targets : Targets) :
    (ofTargets targets).answer (c :: rest) = (do
      let own ← targets.ownSet (c :: rest)
      if isKebabCase (c :: rest) then
        return own ∪ (← (ofTargets targets).answer (pascalCase (c :: rest)))
      else return own) := by
  rw [answer_ofTargets, answer_ofTargets, Targets.ofTag_cons hletter, Targets.ownSet]
  cases targets.ofName (c :: rest) with
  | error cause => rfl
  | ok names =>
    by_cases hkebab : isKebabCase (c :: rest) = true
    · cases hmore : targets.ofTag (pascalCase (c :: rest)) with
      | error cause => simp [hkebab, Except.map, bind, Except.bind]
      | ok more => simp [hkebab, Except.map, bind, Except.bind, pure, Except.pure]
    · simp [hkebab, Except.map, bind, Except.bind, pure, Except.pure]

/-- A tag that is not written in words with hyphens has its own set for an answer. -/
theorem answer_of_not_isKebabCase (targets : Targets) (hkebab : isKebabCase tag = false) :
    (ofTargets targets).answer tag = targets.ownSet tag := by
  simp [answer_ofTargets, Targets.ofTag, Targets.ownSet, hkebab]

/-- The answer does not depend on the order of the table. -/
theorem answer_perm (hletter : c.isAlpha = true) (hkeys : (attributes.map Prod.fst).Nodup)
    (htargets : Targets.ofAttributes attributes = .ok targets)
    {permuted : List (List CodePoint × List (List CodePoint))} (hperm : attributes.Perm permuted) {same : Targets}
    (hsame : Targets.ofAttributes permuted = .ok same) :
    (ofTargets same).answer (c :: rest) = (ofTargets targets).answer (c :: rest) := by
  have hown := Targets.ownSet_perm hkeys htargets hperm hsame
  rw [answer_cons hletter, answer_cons hletter, hown]
  by_cases hkebab : isKebabCase (c :: rest) = true
  · have halias := isKebabCase_pascalCase hletter hkebab
    rw [answer_of_not_isKebabCase same halias, answer_of_not_isKebabCase targets halias, hown]
  · simp [hkebab]

/-- There is an answer exactly if the searches in the name, and in its Pascal case if that counts, have one. -/
theorem exists_answer_iff (hletter : c.isAlpha = true)
    (htargets : Targets.ofAttributes attributes = .ok targets) :
    (∃ found, (ofTargets targets).answer (c :: rest) = .ok found) ↔ AllTold attributes (c :: rest) ∧
      (isKebabCase (c :: rest) = true → AllTold attributes (pascalCase (c :: rest))) := by
  rw [← Targets.exists_ofName_iff_allTold htargets, ← Targets.exists_ofName_iff_allTold htargets,
    answer_cons hletter, Targets.ownSet]
  cases targets.ofName (c :: rest) with
  | error cause => simp [Except.map, bind, Except.bind]
  | ok names =>
    by_cases hkebab : isKebabCase (c :: rest) = true
    · rw [answer_of_not_isKebabCase targets (isKebabCase_pascalCase hletter hkebab), Targets.ownSet]
      cases targets.ofName (pascalCase (c :: rest)) <;>
        simp [hkebab, Except.map, bind, Except.bind, pure, Except.pure]
    · simp [hkebab, Except.map, bind, Except.bind, pure, Except.pure]

/-- Under a table with each selector once whose patterns compile, the answer to a tag that begins with a
letter depends neither on earlier questions nor on the order of the table. It is what the entries give to
the name that apply to it, and if the name is in kebab case, also the answer to its Pascal case. There is no
answer exactly if a search for a pattern in one of the two names has none, which needs a pattern that notes
groups. -/
theorem answer_union_pascalCase (hkeys : (attributes.map Prod.fst).Nodup)
    (htargets : Targets.ofAttributes attributes = .ok targets) (hletter : c.isAlpha = true) :
    (∀ asked, ((ofTargets targets).afterAll asked).answer (c :: rest) =
      (ofTargets targets).answer (c :: rest)) ∧
    (∀ permuted, attributes.Perm permuted → ∃ same, Targets.ofAttributes permuted = .ok same ∧
      (ofTargets same).answer (c :: rest) = (ofTargets targets).answer (c :: rest)) ∧
    ((ofTargets targets).answer (c :: rest) = do
      let own ← targets.ownSet (c :: rest)
      if isKebabCase (c :: rest) then
        return own ∪ (← (ofTargets targets).answer (pascalCase (c :: rest)))
      else return own) ∧
    (∀ name own, targets.ownSet name = .ok own → ∀ given, given ∈ own ↔ Gives attributes name given) ∧
    ((∃ found, (ofTargets targets).answer (c :: rest) = .ok found) ↔ AllTold attributes (c :: rest) ∧
      (isKebabCase (c :: rest) = true → AllTold attributes (pascalCase (c :: rest)))) ∧
    ((∀ entry ∈ targets.patterns, entry.1.regex.captures = false) → ∀ name, AllTold attributes name) := by
  refine ⟨?_, ?_, answer_cons hletter targets, ?_, exists_answer_iff hletter htargets, ?_⟩
  · intro asked
    obtain ⟨hfaithful, hsame⟩ := (faithful_ofTargets targets).afterAll asked
    rw [hfaithful.answer_eq, hsame, answer_ofTargets]
    rfl
  · intro permuted hperm
    have hcompile := Targets.exists_ofAttributes_iff.1 ⟨targets, htargets⟩
    obtain ⟨same, hsame⟩ := Targets.exists_ofAttributes_iff.2 fun row hrow =>
      hcompile row (hperm.mem_iff.2 hrow)
    exact ⟨same, hsame, answer_perm hletter hkeys htargets hperm hsame⟩
  · intro name own hown given
    obtain ⟨names, hnames, rfl⟩ := Targets.ownSet_eq_ok_iff.1 hown
    rw [List.mem_toFinset, Targets.mem_ofName_iff_gives hkeys htargets hnames]
  · intro hfree name
    exact (Targets.exists_ofName_iff_allTold htargets).1 (Targets.exists_ofName hfree name)

/-- An entry for the name, a pattern that only the name begins with and an entry for its Pascal case all give to
`my-box`, whatever has been asked before. -/
theorem answer_union_pascalCase_box :
    let attributes : List (List CodePoint × List (List CodePoint)) :=
      [(wording "MyBox", [wording "label"]), (wording "/^my-/", [wording "hint"]),
        (wording "my-box", [wording "title"])]
    (attributes.map Prod.fst).Nodup ∧ 'm'.isAlpha = true ∧
      ∃ targets, Targets.ofAttributes attributes = .ok targets ∧
        ((ofTargets targets).afterAll ["MyBox".toList, "my-box".toList, "div".toList]).answer
          ('m' :: "y-box".toList) = .ok (["title", "hint", "label"].map wording).toFinset := by
  intro attributes
  have hkeys : (attributes.map Prod.fst).Nodup := by decide
  have hletter : 'm'.isAlpha = true := rfl
  have hnames : ((Targets.ofAttributes attributes).toOption.bind fun targets =>
      (targets.ofTag ('m' :: "y-box".toList)).toOption) =
      some (["title", "hint", "label"].map wording) := by
    decide +kernel
  cases htargets : Targets.ofAttributes attributes with
  | error cause =>
    rw [htargets] at hnames
    cases hnames
  | ok targets =>
    obtain ⟨hasked, _⟩ := @answer_union_pascalCase attributes targets 'm' "y-box".toList hkeys htargets hletter
    refine ⟨hkeys, hletter, targets, rfl, ?_⟩
    rw [hasked, answer_ofTargets]
    simp only [htargets, Except.toOption, Option.bind_some] at hnames
    cases htag : targets.ofTag ('m' :: "y-box".toList) with
    | error cause =>
      rw [htag] at hnames
      cases hnames
    | ok names =>
      rw [htag] at hnames
      rw [Option.some.inj hnames]
      rfl

/-- A table of one pattern, which compiles, and a tag in which the search for it has no answer. -/
theorem answer_without_search_result :
    let attributes : List (List CodePoint × List (List CodePoint)) :=
      [(wording "/((x)|y|z)*+/", [wording "title"])]
    (attributes.map Prod.fst).Nodup ∧ 'x'.isAlpha = true ∧
      ∃ targets, Targets.ofAttributes attributes = .ok targets ∧
        (ofTargets targets).answer ('x' :: "yz".toList) = .error .reversedGroup := by
  intro attributes
  obtain ⟨targets, htargets, hcause⟩ := exists_ofTag_eq_error
  have htag : 'x' :: "yz".toList = "xyz".toList := rfl
  refine ⟨by decide, rfl, targets, htargets, ?_⟩
  rw [answer_ofTargets, htag, hcause]
  rfl

end Resolver

end BareStrings.Rule
