import Mathlib.Data.List.Induction
import BareStrings.Proofs.Markup.Passage
import BareStrings.Rule.Targets

namespace BareStrings.Rule

open BareStrings.Markup BareStrings.Regex BareStrings.Text

namespace Selector

/-- A selector applies to a name: as this very name, or as a pattern that occurs in it. -/
def AppliesTo (selector : List CodePoint) (name : List Char) : Prop :=
  if isPattern selector then
    ∃ pattern, compile selector = .ok pattern ∧ pattern.occursIn (codePoints name) = .ok true
  else selector = codePoints name

/-- The search for a selector in a name has an answer. Only that for a pattern may have none. -/
def IsTold (selector : List CodePoint) (name : List Char) : Prop :=
  ∀ pattern, isPattern selector = true → compile selector = .ok pattern →
    ∃ occurs, pattern.occursIn (codePoints name) = .ok occurs

end Selector

/-- A table gives an attribute to a name: by an entry that applies to the name. -/
def Gives (attributes : List (List CodePoint × List (List CodePoint))) (name : List Char)
    (given : List CodePoint) : Prop :=
  ∃ row ∈ attributes, Selector.AppliesTo row.1 name ∧ given ∈ row.2

/-- It can be told of every entry of a table whether it applies to a name. -/
def AllTold (attributes : List (List CodePoint × List (List CodePoint))) (name : List Char) : Prop :=
  ∀ row ∈ attributes, Selector.IsTold row.1 name

namespace Targets

variable {attributes : List (List CodePoint × List (List CodePoint))} {targets : Targets} {name : List Char}

/-- Targets hold the entries of a table: the names as they are, and the patterns compiled. -/
structure Collects (attributes : List (List CodePoint × List (List CodePoint))) (targets : Targets) : Prop where
  exact : targets.exact = attributes.filter fun row => !Selector.isPattern row.1
  patterns : ∀ entry, entry ∈ targets.patterns ↔
    ∃ row ∈ attributes, Selector.isPattern row.1 = true ∧ Selector.compile row.1 = .ok entry.1 ∧
      row.2 = entry.2

private theorem collects_empty : Collects [] empty := ⟨rfl, fun entry => by simp [empty]⟩

/-- An entry is taken in if it is a name, or a pattern that compiles. -/
theorem exists_add_iff {row : List CodePoint × List (List CodePoint)} :
    (∃ next, targets.add row.1 row.2 = .ok next) ↔
      (Selector.isPattern row.1 = true → ∃ pattern, Selector.compile row.1 = .ok pattern) := by
  unfold Targets.add
  split
  · rename_i hpattern
    simp only [hpattern, forall_const, bind_eq_ok_iff]
    exact ⟨fun ⟨_, pattern, hcompile, _⟩ => ⟨pattern, hcompile⟩,
      fun ⟨pattern, hcompile⟩ => ⟨_, pattern, hcompile, rfl⟩⟩
  · rename_i hexact
    exact ⟨fun _ hpattern => absurd hpattern hexact, fun _ => ⟨_, rfl⟩⟩

/-- Targets that collect the entries of a table collect one row more. -/
private theorem Collects.add (hcollects : Collects attributes targets)
    {row : List CodePoint × List (List CodePoint)}
    {next : Targets} (hadd : targets.add row.1 row.2 = .ok next) : Collects (attributes ++ [row]) next := by
  unfold Targets.add at hadd
  split at hadd
  · rename_i hpattern
    obtain ⟨pattern, hcompile, hadd⟩ := bind_eq_ok_iff.1 hadd
    obtain rfl := Except.ok.inj hadd
    refine ⟨by simp [hcollects.exact, hpattern], fun entry => ?_⟩
    simp only [List.mem_append, List.mem_singleton, hcollects.patterns, or_and_right, exists_or,
      exists_eq_left, hpattern, hcompile, Except.ok.injEq, true_and]
    rw [Prod.ext_iff, eq_comm (a := entry.1), eq_comm (a := entry.2)]
  · rename_i hexact
    obtain rfl := Except.ok.inj hadd
    refine ⟨by simp [hcollects.exact, hexact], fun entry => ?_⟩
    simp [hcollects.patterns, hexact]

private theorem ofAttributes_append (row : List CodePoint × List (List CodePoint)) :
    ofAttributes (attributes ++ [row]) =
      (ofAttributes attributes >>= fun targets => targets.add row.1 row.2) := by
  simp [ofAttributes, List.foldlM_append]

/-- The targets of a table collect the entries of that table. -/
theorem collects_ofAttributes (htargets : ofAttributes attributes = .ok targets) :
    Collects attributes targets := by
  induction attributes using List.reverseRecOn generalizing targets with
  | nil =>
    obtain rfl := Except.ok.inj htargets
    exact collects_empty
  | append_singleton attributes row ih =>
    rw [ofAttributes_append] at htargets
    obtain ⟨earlier, hearlier, hadd⟩ := bind_eq_ok_iff.1 htargets
    exact (ih hearlier).add hadd

/-- A table has targets exactly if all patterns among its selectors compile. -/
theorem exists_ofAttributes_iff :
    (∃ targets, ofAttributes attributes = .ok targets) ↔
      ∀ row ∈ attributes, Selector.isPattern row.1 = true →
        ∃ pattern, Selector.compile row.1 = .ok pattern := by
  induction attributes using List.reverseRecOn with
  | nil => exact ⟨fun _ _ hrow => absurd hrow List.not_mem_nil, fun _ => ⟨empty, rfl⟩⟩
  | append_singleton attributes row ih =>
    rw [List.forall_mem_append, List.forall_mem_singleton, ← ih, ofAttributes_append]
    simp only [bind_eq_ok_iff]
    constructor
    · rintro ⟨next, earlier, hearlier, hadd⟩
      exact ⟨⟨earlier, hearlier⟩, exists_add_iff.1 ⟨next, hadd⟩⟩
    · rintro ⟨⟨earlier, hearlier⟩, hrow⟩
      obtain ⟨next, hadd⟩ := exists_add_iff.2 hrow
      exact ⟨next, earlier, hearlier, hadd⟩

/-- In a table that has each key once, what is looked up is what is entered. -/
theorem lookup_eq_some_iff_mem {table : List (List CodePoint × List (List CodePoint))}
    (hkeys : (table.map Prod.fst).Nodup) {key : List CodePoint} {names : List (List CodePoint)} :
    table.lookup key = some names ↔ (key, names) ∈ table := by
  induction table with
  | nil => simp
  | cons row table ih =>
    obtain ⟨first, value⟩ := row
    obtain ⟨hnot, hrest⟩ := List.nodup_cons.1 hkeys
    rw [List.lookup_cons, List.mem_cons, Prod.mk.injEq]
    by_cases hkey : key = first
    · subst hkey
      have hlater : (key, names) ∉ table := fun hmem =>
        hnot (List.mem_map.2 ⟨_, hmem, rfl⟩)
      simp [hlater, eq_comm]
    · rw [beq_eq_false_iff_ne.2 hkey]
      simp [hkey, ih hrest]

private theorem ofPattern_eq_ok_iff {entry : Pattern × List (List CodePoint)}
    {names : List (List CodePoint)} :
    ofPattern name entry = .ok names ↔ ∃ occurs, entry.1.occursIn (codePoints name) = .ok occurs ∧
      names = if occurs then entry.2 else [] := by
  rw [ofPattern, bind_eq_ok_iff]
  simp only [pure, Except.pure, Except.ok.injEq, eq_comm]

/-- The attributes of a name can be told exactly if the searches for all patterns have an answer. -/
theorem exists_ofName_iff :
    (∃ names, targets.ofName name = .ok names) ↔
      ∀ entry ∈ targets.patterns, ∃ occurs, entry.1.occursIn (codePoints name) = .ok occurs := by
  constructor
  · rintro ⟨names, hnames⟩ entry hentry
    obtain ⟨found, hfound, _⟩ := bind_eq_ok_iff.1 hnames
    obtain ⟨value, _, hvalue⟩ := exists_mem_mapM hfound hentry
    obtain ⟨occurs, hoccurs, _⟩ := ofPattern_eq_ok_iff.1 hvalue
    exact ⟨occurs, hoccurs⟩
  · intro hall
    have hpatterns : ∀ entry ∈ targets.patterns, ∃ names, ofPattern name entry = .ok names := by
      intro entry hentry
      obtain ⟨occurs, hoccurs⟩ := hall entry hentry
      exact ⟨_, ofPattern_eq_ok_iff.2 ⟨occurs, hoccurs, rfl⟩⟩
    obtain ⟨found, hfound⟩ := exists_mapM hpatterns
    exact ⟨_, bind_eq_ok_iff.2 ⟨found, hfound, rfl⟩⟩

/-- An attribute is found for a name by the row of that name, or by a pattern that occurs in it. -/
private theorem mem_ofName_iff {names : List (List CodePoint)} (hnames : targets.ofName name = .ok names)
    {given : List CodePoint} :
    given ∈ names ↔ (∃ exact, targets.exact.lookup (codePoints name) = some exact ∧ given ∈ exact) ∨
      ∃ entry ∈ targets.patterns, entry.1.occursIn (codePoints name) = .ok true ∧ given ∈ entry.2 := by
  obtain ⟨found, hfound, hnames⟩ := bind_eq_ok_iff.1 hnames
  obtain rfl := Except.ok.inj hnames
  rw [List.mem_append, List.mem_flatten]
  refine or_congr ?_ ⟨?_, ?_⟩
  · cases targets.exact.lookup (codePoints name) <;> simp
  · rintro ⟨value, hvalue, hgiven⟩
    obtain ⟨entry, hentry, hpattern⟩ := exists_of_mem_mapM hfound hvalue
    obtain ⟨occurs, hoccurs, rfl⟩ := ofPattern_eq_ok_iff.1 hpattern
    cases occurs with
    | false => cases hgiven
    | true => exact ⟨entry, hentry, hoccurs, hgiven⟩
  · rintro ⟨entry, hentry, hoccurs, hgiven⟩
    obtain ⟨value, hvalue, hpattern⟩ := exists_mem_mapM hfound hentry
    rw [ofPattern_eq_ok_iff.2 ⟨true, hoccurs, rfl⟩] at hpattern
    obtain rfl := Except.ok.inj hpattern
    exact ⟨_, hvalue, hgiven⟩

/-- The same by the entries of the table. -/
theorem exists_ofName_iff_allTold (htargets : ofAttributes attributes = .ok targets) :
    (∃ names, targets.ofName name = .ok names) ↔ AllTold attributes name := by
  have hcollects := collects_ofAttributes htargets
  rw [exists_ofName_iff]
  constructor
  · intro hall row hrow pattern hpattern hcompile
    exact hall (pattern, row.2) ((hcollects.patterns _).2 ⟨row, hrow, hpattern, hcompile, rfl⟩)
  · intro hall entry hentry
    obtain ⟨row, hrow, hpattern, hcompile, _⟩ := (hcollects.patterns entry).1 hentry
    exact hall row hrow entry.1 hpattern hcompile

/-- What a name gets is what the entries give to it that apply to it. -/
theorem mem_ofName_iff_gives (hkeys : (attributes.map Prod.fst).Nodup)
    (htargets : ofAttributes attributes = .ok targets) {names : List (List CodePoint)}
    (hnames : targets.ofName name = .ok names) {given : List CodePoint} :
    given ∈ names ↔ Gives attributes name given := by
  have hcollects := collects_ofAttributes htargets
  have hexact : (targets.exact.map Prod.fst).Nodup := by
    rw [hcollects.exact]
    exact hkeys.sublist (List.filter_sublist.map Prod.fst)
  simp only [mem_ofName_iff hnames, lookup_eq_some_iff_mem hexact, hcollects.patterns]
  rw [hcollects.exact]
  simp only [List.mem_filter]
  constructor
  · rintro (⟨exact, ⟨hrow, hname⟩, hgiven⟩ | ⟨entry, ⟨row, hrow, hpattern, hcompile, hsame⟩, hoccurs, hgiven⟩)
    · have hplain : ¬Selector.isPattern (codePoints name) = true := by simpa using hname
      exact ⟨_, hrow, by rw [Selector.AppliesTo, if_neg hplain], hgiven⟩
    · refine ⟨row, hrow, ?_, hsame ▸ hgiven⟩
      rw [Selector.AppliesTo, if_pos hpattern]
      exact ⟨entry.1, hcompile, hoccurs⟩
  · rintro ⟨row, hrow, happlies, hgiven⟩
    unfold Selector.AppliesTo at happlies
    split at happlies
    · rename_i hpattern
      obtain ⟨pattern, hcompile, hoccurs⟩ := happlies
      exact .inr ⟨(pattern, row.2), ⟨row, hrow, hpattern, hcompile, rfl⟩, hoccurs, hgiven⟩
    · rename_i hname
      exact .inl ⟨row.2, ⟨by rwa [← happlies], by simpa [← happlies] using hname⟩, hgiven⟩

end Targets

end BareStrings.Rule
