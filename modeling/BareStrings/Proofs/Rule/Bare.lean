import BareStrings.Proofs.Rule.Whitelist

namespace BareStrings

open BareStrings.Text

namespace Rule.Whitelist

/-- Every entry is one code point. -/
def AllSingle (entries : List (List CodePoint)) : Prop := ∀ entry ∈ entries, entry.length = 1

/-- Whether a code point is an entry by itself. -/
def isEntry (entries : List (List CodePoint)) (code : CodePoint) : Bool :=
  entries.contains [code]

/-- Whether a code point makes a text bare: it is neither an entry nor a blank of script source. -/
def counts (entries : List (List CodePoint)) (code : CodePoint) : Bool :=
  !isEntry entries code && !isScriptBlank code

variable {entries : List (List CodePoint)}

private theorem isEntry_iff {code : CodePoint} :
    isEntry entries code = true ↔ [code] ∈ entries :=
  List.contains_iff_mem

/-- More entries leave less that counts. -/
theorem counts_of_subset {wider : List (List CodePoint)} (hsubset : entries ⊆ wider) {code : CodePoint}
    (hcounts : counts wider code = true) : counts entries code = true := by
  simp only [counts, Bool.and_eq_true, Bool.not_eq_true', ← Bool.not_eq_true, isEntry_iff] at hcounts ⊢
  exact ⟨fun hmem => hcounts.1 (hsubset hmem), hcounts.2⟩

private theorem counts_perm {permuted : List (List CodePoint)} (hperm : entries.Perm permuted) :
    counts permuted = counts entries := by
  funext code
  rw [Bool.eq_iff_iff]
  exact ⟨counts_of_subset hperm.subset, counts_of_subset hperm.symm.subset⟩

/-- If all entries are single, one leads a text exactly if the first code point is an entry. -/
theorem isSome_leading? (hsingle : AllSingle entries) (code : CodePoint) (rest : List CodePoint) :
    (leading? entries (code :: rest)).isSome = isEntry entries code := by
  rw [Bool.eq_iff_iff, isEntry_iff]
  constructor
  · intro hsome
    obtain ⟨entry, hleading⟩ := Option.isSome_iff_exists.1 hsome
    obtain ⟨hentry, _, hbegins⟩ := leading?_eq_some hleading
    obtain ⟨first, rfl⟩ := List.length_eq_one_iff.1 (hsingle entry hentry)
    obtain ⟨rfl, _⟩ := List.cons_prefix_cons.1 hbegins
    exact hentry
  · intro hentry
    rw [Option.isSome_iff_ne_none]
    exact fun hnone => leading?_eq_none.1 hnone [code] hentry (by simp) (by simp)

/-- Single entries are deleted wherever they stand. -/
theorem deleteEntries_eq_filter (hsingle : AllSingle entries) (text : List CodePoint) :
    deleteEntries entries text = text.filter fun code => !isEntry entries code := by
  fun_induction deleteEntries entries text with
  | case1 => rfl
  | case2 code rest entry hleading ih =>
    have hlength := hsingle entry (leading?_eq_some hleading).1
    have hfirst := isSome_leading? hsingle code rest
    rw [hleading] at hfirst
    rw [ih, hlength, List.drop_succ_cons, List.drop_zero, List.filter_cons, ← hfirst]
    rfl
  | case3 code rest hleading ih =>
    have hfirst := isSome_leading? hsingle code rest
    rw [hleading] at hfirst
    rw [ih, List.filter_cons, ← hfirst]
    rfl

/-- Something is left of a text exactly if one of its code points counts, wherever that stands. -/
theorem stripEntries_eq_nil_iff (hsingle : AllSingle entries) (text : List CodePoint) :
    stripEntries entries text = [] ↔ ∀ code ∈ text, counts entries code = false := by
  rw [stripEntries, deleteEntries_eq_filter hsingle, trimBy_eq_nil_iff]
  simp only [List.mem_filter, and_imp, counts, Bool.and_eq_false_iff, Bool.not_eq_false']
  constructor
  · intro hblank code hcode
    by_cases houter : isScriptBlank code = true
    · exact .inr houter
    · refine .inl (by_contra fun hother => houter ?_)
      exact hblank code ((mem_trimBy_iff (eq_false_of_ne_true houter) text).2 hcode) (by simp [hother])
  · intro hall code hcode hother
    refine (hall code ((trimBy_isInfix _ text).subset hcode)).resolve_left ?_
    simpa using hother

private theorem any_counts_iff {text : List CodePoint} :
    text.any (counts entries) = true ↔
      ∃ code ∈ text, [code] ∉ entries ∧ isScriptBlank code = false := by
  simp [counts, ← isEntry_iff]

/-- A whitelist of single code points judges a text by its code points. -/
theorem exists_isBare_eq_any (hsingle : AllSingle entries) :
    ∃ whitelist, ofEntries entries = .ok whitelist ∧
      ∀ text, whitelist.isBare text = text.any (counts entries) := by
  obtain ⟨whitelist, hwhitelist, hstrip⟩ := exists_ofEntries entries
  refine ⟨whitelist, hwhitelist, fun text => ?_⟩
  rw [Bool.eq_iff_iff, isBare, hstrip, Bool.not_eq_true', ← Bool.not_eq_true, List.isEmpty_iff,
    stripEntries_eq_nil_iff hsingle, List.any_eq_true]
  simp only [← Bool.not_eq_true]
  push Not
  rfl

/-- Under a whitelist of single characters a text is bare if it holds a code point that is neither an entry
nor a blank. So it does not matter in which order the code points or the entries stand; a text in two pieces
is bare if one of the pieces is; and further entries of this kind never make a text bare. -/
theorem isBare_iff_exists_mem (hsingle : AllSingle entries) :
    ∃ whitelist, ofEntries entries = .ok whitelist ∧
      (∀ text, whitelist.isBare text = true ↔
        ∃ code ∈ text, [code] ∉ entries ∧ isScriptBlank code = false) ∧
      (∀ text permuted, text.Perm permuted → whitelist.isBare permuted = whitelist.isBare text) ∧
      (∀ first second,
        whitelist.isBare (first ++ second) = (whitelist.isBare first || whitelist.isBare second)) ∧
      (∀ permuted, entries.Perm permuted →
        ∃ same, ofEntries permuted = .ok same ∧ ∀ text, same.isBare text = whitelist.isBare text) ∧
      ∀ wider, entries ⊆ wider → AllSingle wider →
        ∃ milder, ofEntries wider = .ok milder ∧
          ∀ text, milder.isBare text = true → whitelist.isBare text = true := by
  obtain ⟨whitelist, hwhitelist, hbare⟩ := exists_isBare_eq_any hsingle
  refine ⟨whitelist, hwhitelist, ?_, ?_, ?_, ?_, ?_⟩
  · intro text
    rw [hbare, any_counts_iff]
  · intro text permuted hperm
    rw [hbare, hbare, hperm.any_eq]
  · intro first second
    simp only [hbare, List.any_append]
  · intro permuted hperm
    have hpermuted : AllSingle permuted := fun entry hentry => hsingle entry (hperm.mem_iff.2 hentry)
    obtain ⟨same, hsame, hbareSame⟩ := exists_isBare_eq_any hpermuted
    exact ⟨same, hsame, fun text => by rw [hbareSame, hbare, counts_perm hperm]⟩
  · intro wider hsubset hwider
    obtain ⟨milder, hmilder, hbareMilder⟩ := exists_isBare_eq_any hwider
    refine ⟨milder, hmilder, fun text htext => ?_⟩
    rw [hbareMilder, List.any_eq_true] at htext
    obtain ⟨code, hcode, hcounts⟩ := htext
    rw [hbare, List.any_eq_true]
    exact ⟨code, hcode, counts_of_subset hsubset hcounts⟩

/-- Signs with blanks between them are not bare under the default whitelist; a letter among them is, wherever
it stands. -/
theorem isBare_default_signs :
    AllSingle Options.defaultWhitelist ∧
      ∃ whitelist, ofEntries Options.defaultWhitelist = .ok whitelist ∧
        whitelist.isBare (wording "(- \u00a0.) –") = false ∧
        (∀ text, text.Perm (wording "(- é\u00a0.) –") → whitelist.isBare text = true) ∧
        ∃ milder, ofEntries (wording " " :: wording "é" :: Options.defaultWhitelist) = .ok milder ∧
          milder.isBare (wording "(- \u00a0.) –") = false := by
  have hsingle : AllSingle Options.defaultWhitelist := by
    unfold AllSingle
    decide
  have hwider : AllSingle (wording " " :: wording "é" :: Options.defaultWhitelist) := by
    unfold AllSingle
    decide
  obtain ⟨whitelist, hwhitelist, hbare, hperm, _, _, hwiden⟩ := isBare_iff_exists_mem hsingle
  have hsigns : whitelist.isBare (wording "(- \u00a0.) –") = false := by
    rw [← Bool.not_eq_true, hbare, ← any_counts_iff]
    decide
  have hletter : whitelist.isBare (wording "(- é\u00a0.) –") = true := by
    rw [hbare, ← any_counts_iff]
    decide
  obtain ⟨milder, hmilder, hless⟩ := hwiden _ (by simp) hwider
  refine ⟨hsingle, whitelist, hwhitelist, hsigns, ?_, milder, hmilder, ?_⟩
  · intro text htext
    rw [hperm _ text htext.symm, hletter]
  · refine eq_false_of_ne_true fun hmore => ?_
    rw [hless _ hmore] at hsigns
    cases hsigns

end Rule.Whitelist

end BareStrings
