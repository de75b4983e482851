import BareStrings.Proofs.Regex.Choice
import BareStrings.Proofs.Text.Trim
import BareStrings.Rule.Options
import BareStrings.Rule.Whitelist

namespace BareStrings

open BareStrings.Regex BareStrings.Text

namespace Rule.Whitelist

/-- The first entry that is not empty and that a text begins with. -/
def leading? (entries : List (List CodePoint)) (text : List CodePoint) : Option (List CodePoint) :=
  entries.find? fun entry => !entry.isEmpty && entry.isPrefixOf text

variable {entries : List (List CodePoint)}

/-- The entry that a text begins with is one of the whitelist, and is not empty. -/
theorem leading?_eq_some {text : List CodePoint} {entry : List CodePoint}
    (hleading : leading? entries text = some entry) :
    entry ∈ entries ∧ entry ≠ [] ∧ entry <+: text := by
  have hfits := List.find?_some hleading
  rw [Bool.and_eq_true, Bool.not_eq_true', List.isEmpty_eq_false_iff, List.isPrefixOf_iff_prefix]
    at hfits
  exact ⟨List.mem_of_find?_eq_some hleading, hfits⟩

/-- No entry is found exactly if the text begins with none that is not empty. -/
theorem leading?_eq_none {text : List CodePoint} :
    leading? entries text = none ↔ ∀ entry ∈ entries, entry ≠ [] → ¬entry <+: text := by
  simp [leading?, List.find?_eq_none]

private theorem length_drop_lt {code : CodePoint} {rest : List CodePoint} {entry : List CodePoint}
    (hleading : leading? entries (code :: rest) = some entry) :
    ((code :: rest).drop entry.length).length < (code :: rest).length := by
  have hentry := List.length_pos_iff.2 (leading?_eq_some hleading).2.1
  rw [List.length_drop, List.length_cons]
  omega

/-- A text without the entries in it. From left to right the entry that leads what is left is deleted;
where there is none, a code point is kept. -/
def deleteEntries (entries : List (List CodePoint)) : List CodePoint → List CodePoint
  | [] => []
  | code :: rest =>
    match _hleading : leading? entries (code :: rest) with
    | some entry => deleteEntries entries ((code :: rest).drop entry.length)
    | none => code :: deleteEntries entries rest
termination_by text => text.length
decreasing_by
  · exact length_drop_lt _hleading
  · exact Nat.lt_succ_self rest.length

example : deleteEntries [wording ".*", [], wording "(", wording "ab", wording "abc"]
    (wording "x(.*abc.") = wording "xc." := by decide +kernel

/-- A text without the entries in it, trimmed before and after. -/
def stripEntries (entries : List (List CodePoint)) (text : List CodePoint) : List CodePoint :=
  trimBy isScriptBlank (deleteEntries entries (trimBy isScriptBlank text))

/-- Behind an entry that leads what is left at a place. -/
def behind (place : Place) (entry : List CodePoint) : Place :=
  ⟨entry.reverse ++ place.before, place.after.drop entry.length⟩

/-- Of the entries that come next at a place, the first that leads away from there is the leading one. -/
theorem find?_behindText? (entries : List (List CodePoint)) (place : Place) :
    (entries.filterMap place.behindText?).find? (·.offset != place.offset) =
      (leading? entries place.after).map (behind place) := by
  induction entries with
  | nil => rfl
  | cons entry entries ih =>
    rw [leading?] at ih ⊢
    have hbehind : place.behindText? entry =
        if entry.isPrefixOf place.after then some (behind place entry) else none :=
      place.behindText?_eq entry
    by_cases hfits : entry.isPrefixOf place.after
    · rw [if_pos hfits] at hbehind
      rw [List.filterMap_cons_some hbehind, List.find?_cons, List.find?_cons, hfits]
      cases entry with
      | nil => simpa [behind, Place.offset] using ih
      | cons first entry =>
        have haway : ((behind place (first :: entry)).offset != place.offset) = true := by
          simp only [bne_iff_ne, Place.offset, behind, List.length_append, List.length_reverse,
            List.length_cons]
          omega
        rw [haway]
        rfl
    · rw [if_neg hfits] at hbehind
      rw [List.filterMap_cons_none hbehind, List.find?_cons, eq_false_of_ne_true hfits, Bool.and_false]
      exact ih

/-- Removing the matches of an expression that finds leading entries deletes these entries, wherever the
removal has got to. -/
theorem removeFrom_eq {regex : Regex} {ways : Place → List Place} (hregex : regex.Tries ways)
    (hways : ∀ place, (ways place).find? (·.offset != place.offset) =
      (leading? entries place.after).map (behind place)) (before after : List CodePoint) :
    regex.removeFrom before after = deleteEntries entries after := by
  fun_induction deleteEntries entries after generalizing before with
  | case1 => rw [removeFrom]
  | case2 code rest entry hleading ih =>
    have hshorter := length_drop_lt hleading
    have hroom : (behind ⟨before, code :: rest⟩ entry).after.length ≤ rest.length :=
      Nat.le_of_lt_succ hshorter
    rw [removeFrom]
    simp only [hregex.bind_nonemptyMatchAt?_eq, hways, hleading, Option.map_some, if_pos hroom]
    exact ih _
  | case3 code rest hleading ih =>
    rw [removeFrom]
    simp only [hregex.bind_nonemptyMatchAt?_eq, hways, hleading, Option.map_none, ih]

/-- Removing the matches of an expression that finds any of the entries deletes the entries. -/
theorem removeAll_eq {regex : Regex}
    (hregex : regex = sequence (joinBranches .exact (alternatives entries))) :
    regex.removeAll = deleteEntries entries := by
  funext text
  rw [removeAll, hregex]
  cases entries with
  | nil => exact removeFrom_eq tries_empty (fun place => by simp [leading?]) [] text
  | cons entry entries =>
    exact removeFrom_eq (tries_joinBranches (by simp)) (find?_behindText? _) [] text

/-- Any texts at all can stand in a whitelist, and it strips them as if they were deleted one by one. -/
theorem exists_ofEntries (entries : List (List CodePoint)) :
    ∃ whitelist, ofEntries entries = .ok whitelist ∧ whitelist.strip = stripEntries entries := by
  obtain ⟨pattern, hparse, hregex⟩ := parse_anyOf entries
  refine ⟨⟨pattern.regex⟩, ?_, ?_⟩
  · rw [ofEntries, show source entries = anyOf entries from rfl, hparse]
    rfl
  · funext text
    rw [strip, removeAll_eq hregex, stripEntries]

/-- A whitelist strips a text as its entries say literally: trimmed, then without the entries, and trimmed
once more. -/
theorem strip_eq_deleteEntries (entries : List (List CodePoint)) :
    ∃ whitelist, ofEntries entries = .ok whitelist ∧
      ∀ text, whitelist.strip text =
        trimBy isScriptBlank (deleteEntries entries (trimBy isScriptBlank text)) := by
  obtain ⟨whitelist, hwhitelist, hstrip⟩ := exists_ofEntries entries
  refine ⟨whitelist, hwhitelist, fun text => ?_⟩
  rw [hstrip, stripEntries]

/-- No entry, but for empty ones, occurs in a text. -/
def IsFree (entries : List (List CodePoint)) (text : List CodePoint) : Prop :=
  ∀ entry ∈ entries, entry ≠ [] → ¬entry <:+: text

private theorem isFree_cons {code : CodePoint} {rest : List CodePoint} :
    IsFree entries (code :: rest) ↔ leading? entries (code :: rest) = none ∧ IsFree entries rest := by
  rw [leading?_eq_none]
  simp only [IsFree, List.infix_cons_iff, not_or, imp_and, forall_and]

private theorem deleteEntries_sublist (entries : List (List CodePoint)) (text : List CodePoint) :
    (deleteEntries entries text).Sublist text := by
  fun_induction deleteEntries entries text with
  | case1 => exact .slnil
  | case2 code rest entry _ ih => exact ih.trans (List.drop_sublist _ _)
  | case3 code rest _ ih => exact ih.cons_cons code

/-- Deleting changes a text exactly if there is something in it to delete. -/
theorem deleteEntries_eq_self_iff (text : List CodePoint) :
    deleteEntries entries text = text ↔ IsFree entries text := by
  fun_induction deleteEntries entries text with
  | case1 => simp [IsFree]
  | case2 code rest entry hleading ih =>
    have hshorter := (deleteEntries_sublist entries ((code :: rest).drop entry.length)).length_le
    have hdrop := length_drop_lt hleading
    constructor
    · intro hsame
      rw [hsame] at hshorter
      omega
    · intro hfree
      rw [isFree_cons, hleading] at hfree
      cases hfree.1
  | case3 code rest hleading ih =>
    rw [isFree_cons, ← ih]
    simp [hleading]

/-- What deleting keeps is no entry by itself. -/
theorem not_mem_of_mem_deleteEntries {text : List CodePoint} {kept : CodePoint}
    (hkept : kept ∈ deleteEntries entries text) : [kept] ∉ entries := by
  fun_induction deleteEntries entries text with
  | case1 => cases hkept
  | case2 code rest entry _ ih => exact ih hkept
  | case3 code rest hleading ih =>
    rcases List.mem_cons.1 hkept with rfl | hlater
    · intro hentry
      exact leading?_eq_none.1 hleading [kept] hentry (by simp) (by simp)
    · exact ih hlater

private theorem stripEntries_sublist (entries : List (List CodePoint)) (text : List CodePoint) :
    (stripEntries entries text).Sublist (deleteEntries entries (trimBy isScriptBlank text)) :=
  (trimBy_isInfix _ _).sublist

/-- Stripping once more changes nothing exactly if no entry is left. -/
theorem stripEntries_stripEntries_eq_iff (text : List CodePoint) :
    stripEntries entries (stripEntries entries text) = stripEntries entries text ↔
      IsFree entries (stripEntries entries text) := by
  have htrimmed : trimBy isScriptBlank (stripEntries entries text) = stripEntries entries text :=
    trimBy_trimBy _ _
  rw [← deleteEntries_eq_self_iff]
  constructor
  · intro hsame
    have hshorter := length_trimBy_le isScriptBlank (deleteEntries entries (stripEntries entries text))
    rw [stripEntries, htrimmed] at hsame
    rw [hsame] at hshorter
    exact (deleteEntries_sublist entries _).eq_of_length_le hshorter
  · intro hsame
    rw [stripEntries, htrimmed, hsame, htrimmed]

/-- Entries each of which has a letter that is an entry of its own are all gone once they are stripped. -/
theorem isFree_stripEntries
    (hletters : ∀ entry ∈ entries, entry ≠ [] → ∃ letter ∈ entry, [letter] ∈ entries) (text : List CodePoint) :
    IsFree entries (stripEntries entries text) := by
  intro entry hentry hne hoccurs
  obtain ⟨letter, hletter, hsingle⟩ := hletters entry hentry hne
  have hmem : letter ∈ stripEntries entries text := hoccurs.subset hletter
  exact not_mem_of_mem_deleteEntries ((stripEntries_sublist entries text).subset hmem) hsingle

/-- To strip what has been stripped changes nothing exactly if no entry is left in it. That is so for every
text if each entry has a letter that is an entry of its own, as entries of one letter have. -/
theorem strip_strip_eq_iff (entries : List (List CodePoint)) :
    ∃ whitelist, ofEntries entries = .ok whitelist ∧
      (∀ text, whitelist.strip (whitelist.strip text) = whitelist.strip text ↔
        IsFree entries (whitelist.strip text)) ∧
      ((∀ entry ∈ entries, entry ≠ [] → ∃ letter ∈ entry, [letter] ∈ entries) →
        ∀ text, IsFree entries (whitelist.strip text)) := by
  obtain ⟨whitelist, hwhitelist, hstrip⟩ := exists_ofEntries entries
  refine ⟨whitelist, hwhitelist, ?_⟩
  rw [hstrip]
  exact ⟨stripEntries_stripEntries_eq_iff, isFree_stripEntries⟩

/-- Nothing that needs no translation by default is left in a text, however often it is stripped. -/
theorem strip_strip_default :
    ∃ whitelist, ofEntries Options.defaultWhitelist = .ok whitelist ∧
      ∀ text, whitelist.strip (whitelist.strip text) = whitelist.strip text ∧
        IsFree Options.defaultWhitelist (whitelist.strip text) := by
  obtain ⟨whitelist, hwhitelist, hagain, hfree⟩ := strip_strip_eq_iff Options.defaultWhitelist
  have hsingle : ∀ entry ∈ Options.defaultWhitelist, entry.length = 1 := by
    decide
  have hletters : ∀ entry ∈ Options.defaultWhitelist, entry ≠ [] →
      ∃ letter ∈ entry, [letter] ∈ Options.defaultWhitelist := by
    intro entry hentry _
    obtain ⟨letter, rfl⟩ := List.length_eq_one_iff.1 (hsingle entry hentry)
    exact ⟨letter, List.mem_cons_self, hentry⟩
  have hleft := hfree hletters
  exact ⟨whitelist, hwhitelist, fun text => ⟨(hagain text).2 (hleft text), hleft text⟩⟩

/-- Deleting an entry can put the two halves of another together. -/
theorem strip_joins_halves :
    ∃ whitelist, ofEntries [wording "ab"] = .ok whitelist ∧
      whitelist.strip (wording "aabb") = wording "ab" ∧
      whitelist.strip (whitelist.strip (wording "aabb")) = [] ∧
      ¬IsFree [wording "ab"] (whitelist.strip (wording "aabb")) := by
  obtain ⟨whitelist, hwhitelist, hstrip⟩ := exists_ofEntries [wording "ab"]
  have honce : stripEntries [wording "ab"] (wording "aabb") = wording "ab" := by
    decide +kernel
  have htwice : stripEntries [wording "ab"] (wording "ab") = [] := by
    decide +kernel
  refine ⟨whitelist, hwhitelist, ?_⟩
  rw [hstrip, honce]
  exact ⟨rfl, htwice, fun hfree => hfree _ List.mem_cons_self (by decide) List.infix_rfl⟩

end Rule.Whitelist

end BareStrings
