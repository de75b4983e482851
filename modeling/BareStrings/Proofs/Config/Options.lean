import BareStrings.Config.Options
import BareStrings.Proofs.Except

namespace BareStrings.Config

open BareStrings.Number BareStrings.Rule BareStrings.Text

/-- An error that is not about the options, instead of a result or of what is wrong. -/
def Strays {α : Type} (result : Except OptionsError α) : Prop :=
  ∃ error, result = .error error ∧ error.isRuleBroken = false

section Strays

variable {α β : Type}

@[simp]
theorem not_strays_ok (a : α) : ¬Strays (.ok a) := by simp [Strays]

/-- A result that is given strays nowhere. -/
@[simp]
theorem not_strays_pure (a : α) : ¬Strays (pure a) := not_strays_ok a

@[simp]
theorem strays_error_iff {error : OptionsError} :
    Strays (.error error : Except OptionsError α) ↔ error.isRuleBroken = false := by
  simp [Strays]

/-- Two steps stray exactly if the first one does, or the second one behind it. -/
private theorem strays_bind_iff {result : Except OptionsError α} {next : α → Except OptionsError β} :
    Strays (result >>= next) ↔ Strays result ∨ ∃ a, result = .ok a ∧ Strays (next a) := by
  cases result <;> simp [Strays, bind, Except.bind]

/-- Where nothing goes wrong behind it, a step strays exactly if its beginning does. -/
theorem strays_bind_iff_left {result : Except OptionsError α} {next : α → Except OptionsError β}
    (hnext : ∀ a, ¬Strays (next a)) : Strays (result >>= next) ↔ Strays result := by
  rw [strays_bind_iff]
  exact or_iff_left fun ⟨a, _, hstrays⟩ => hnext a hstrays

/-- The first item that fails decides what comes of a list. -/
theorem strays_mapM_iff {read : α → Except OptionsError β} {items : List α} :
    Strays (items.mapM read) ↔
      ∃ before item after, items = before ++ item :: after ∧
        (∀ earlier ∈ before, ∃ found, read earlier = .ok found) ∧ Strays (read item) := by
  induction items with
  | nil => simp
  | cons first items ih =>
    rw [List.mapM_cons, strays_bind_iff]
    constructor
    · rintro (hfirst | ⟨found, hfound, hlater⟩)
      · exact ⟨[], first, items, rfl, nofun, hfirst⟩
      · rw [strays_bind_iff_left fun _ => not_strays_pure _, ih] at hlater
        obtain ⟨before, item, after, rfl, hbefore, hitem⟩ := hlater
        exact ⟨first :: before, item, after, rfl, List.forall_mem_cons.2 ⟨⟨found, hfound⟩, hbefore⟩, hitem⟩
    · rintro ⟨before, item, after, hsplit, hbefore, hitem⟩
      cases before with
      | nil =>
        cases hsplit
        exact .inl hitem
      | cons earlier before =>
        cases hsplit
        obtain ⟨⟨found, hfound⟩, hbefore⟩ := List.forall_mem_cons.1 hbefore
        refine .inr ⟨found, hfound, ?_⟩
        rw [strays_bind_iff_left fun _ => not_strays_pure _, ih]
        exact ⟨before, item, after, rfl, hbefore, hitem⟩

end Strays

/-- A value that is a text. -/
def Value.IsText (value : Value) : Prop := ∃ codes, value = .text codes

/-- Telling a value goes wrong exactly if the value cannot be shown. -/
theorem isRuleBroken_telling {collections : Array Collection} {value : Value}
    {error : List Char → OptionsError} (herror : ∀ shown, (error shown).isRuleBroken = true) :
    (telling collections value error).isRuleBroken = false ↔ value.shown? collections = none := by
  unfold telling
  split
  · rename_i shown hshown
    simp [herror, hshown]
  · rename_i hnone
    simp [hnone, OptionsError.isRuleBroken]

/-- The values in a collection, among them the keys of a mapping. -/
def Collection.parts : Collection → List Value
  | .list items => items
  | .mapping entries => entries.flatMap fun entry => [entry.1, entry.2]
  | .set members => members
  | .pair first second => [first, second]

/-- An integer with more digits than are written at once, or a collection that holds one, however deep. -/
inductive HoldsLong (collections : Array Collection) : Value → Prop
  | integer {value : Int} (hlong : digitLimit < (decimal value.natAbs).length) :
      HoldsLong collections (.integer value)
  | inside {place : Nat} {found : Collection} {part : Value} (hfound : collections[place]? = some found)
      (hpart : part ∈ found.parts) (hlong : HoldsLong collections part) :
      HoldsLong collections (.collection place)

private theorem HoldsLong.of_part {collections : Array Collection} {value part : Value} {found : Collection}
    (hfound : value.collection? collections = some found) (hpart : part ∈ found.parts)
    (hlong : HoldsLong collections part) : HoldsLong collections value := by
  cases value with
  | collection place => exact .inside hfound hpart hlong
  | _ => cases hfound

/-- If a collection cannot be shown, one of its parts cannot. -/
private theorem exists_of_shownParts?_eq_none {show? : Value → Option (List Char)} {collection : Collection}
    (hnone : collection.shownParts? show? = none) : ∃ part ∈ collection.parts, show? part = none := by
  cases collection with
  | list items => exact mapM_eq_none_iff.1 hnone
  | mapping entries =>
    obtain ⟨entry, hentry, hnone⟩ := mapM_eq_none_iff.1 hnone
    have hboth : show? entry.1 = none ∨ show? entry.2 = none := by
      cases hkey : show? entry.1 with
      | none => exact .inl rfl
      | some key => cases hvalue : show? entry.2 <;> simp_all
    obtain hkey | hvalue := hboth
    · exact ⟨entry.1, List.mem_flatMap.2 ⟨entry, hentry, by simp⟩, hkey⟩
    · exact ⟨entry.2, List.mem_flatMap.2 ⟨entry, hentry, by simp⟩, hvalue⟩
  | set members =>
    obtain ⟨member, hmember, hnone⟩ := mapM_eq_none_iff.1 hnone
    refine ⟨member, ?_, hnone⟩
    unfold Collection.ordered at hmember
    split at hmember
    · exact List.mem_mergeSort.1 hmember
    · exact hmember
  | pair first second => exact mapM_eq_none_iff.1 hnone

private theorem holdsLong_of_shownInteger?_eq_none {collections : Array Collection} {value : Int}
    (hnone : shownInteger? value = none) : HoldsLong collections (.integer value) := by
  unfold shownInteger? at hnone
  simp only at hnone
  split at hnone
  · rename_i hlong
    exact .integer hlong
  · cases hnone

/-- What cannot be shown holds an integer with too many digits. -/
private theorem holdsLong_of_shownWithin?_eq_none {collections : Array Collection} {fuel : Nat}
    {outer : List Nat} {value : Value} (hnone : Value.shownWithin? collections fuel outer value = none) :
    HoldsLong collections value := by
  induction fuel generalizing outer value with
  | zero =>
    cases value with
    | integer value => exact holdsLong_of_shownInteger?_eq_none (by simpa [Value.shownWithin?] using hnone)
    | _ => simp [Value.shownWithin?] at hnone
  | succ fuel ih =>
    cases value with
    | integer value => exact holdsLong_of_shownInteger?_eq_none (by simpa [Value.shownWithin?] using hnone)
    | collection place =>
      rw [Value.shownWithin?] at hnone
      split at hnone
      · cases hnone
      · rename_i found hfound
        split at hnone
        · cases hnone
        · have hparts : found.shownParts? (Value.shownWithin? collections fuel (place :: outer)) = none := by
            cases hshown : found.shownParts? (Value.shownWithin? collections fuel (place :: outer)) with
            | none => rfl
            | some parts => simp [hshown] at hnone
          obtain ⟨part, hpart, hnone⟩ := exists_of_shownParts?_eq_none hparts
          exact .inside hfound hpart (ih hnone)
    | _ => simp [Value.shownWithin?] at hnone

/-- All that keeps a value from being shown is the length of integers. -/
theorem holdsLong_of_shown?_eq_none {collections : Array Collection} {value : Value}
    (hnone : value.shown? collections = none) : HoldsLong collections value :=
  holdsLong_of_shownWithin?_eq_none hnone

/-- A list with an entry that is no text and that cannot be shown, behind different texts. -/
def ListStrays (collections : Array Collection) (value : Value) : Prop :=
  ∃ (texts : List (List CodePoint)) (entry : Value) (after : List Value),
    value.collection? collections = some (.list (texts.map .text ++ entry :: after)) ∧ texts.Nodup ∧
      ¬entry.IsText ∧ entry.shown? collections = none

private theorem ListStrays.holdsLong {collections : Array Collection} {value : Value}
    (hstrays : ListStrays collections value) : HoldsLong collections value := by
  obtain ⟨texts, entry, after, hlist, _, _, hnone⟩ := hstrays
  have hentry : entry ∈ (Collection.list (texts.map .text ++ entry :: after)).parts := by
    simp [Collection.parts]
  exact .of_part hlist hentry (holdsLong_of_shown?_eq_none hnone)

section Lists

variable {collections : Array Collection} {label : List Char}

/-- A list has no text twice and none that was seen before, if its first text is new and the others are so
with the first text among those seen. -/
theorem fresh_cons_iff {seen texts : List (List CodePoint)} {codes : List CodePoint} :
    (codes :: texts).Nodup ∧ (∀ other ∈ codes :: texts, other ∉ seen) ↔
      codes ∉ seen ∧ texts.Nodup ∧ ∀ other ∈ texts, other ∉ codes :: seen := by
  rw [List.nodup_cons, List.forall_mem_cons]
  simp only [List.mem_cons, not_or]
  constructor
  · rintro ⟨⟨hnew, hnodup⟩, hseen, hfresh⟩
    exact ⟨hseen, hnodup, fun other hother => ⟨fun hsame => hnew (hsame ▸ hother), hfresh other hother⟩⟩
  · rintro ⟨hseen, hnodup, hfresh⟩
    exact ⟨⟨fun hmem => (hfresh codes hmem).1 rfl, hnodup⟩, hseen, fun other hother => (hfresh other hother).2⟩

/-- Reading texts strays exactly at an entry that is no text and cannot be shown, behind distinct texts. -/
private theorem strays_distinctTexts_iff {seen : List (List CodePoint)} {items : List Value} :
    Strays (distinctTexts collections label seen items) ↔
      ∃ (texts : List (List CodePoint)) (entry : Value) (after : List Value),
        items = texts.map .text ++ entry :: after ∧ texts.Nodup ∧ (∀ codes ∈ texts, codes ∉ seen) ∧
          ¬entry.IsText ∧ entry.shown? collections = none := by
  fun_induction distinctTexts collections label seen items with
  | case1 => simp
  | case2 seen codes rest hseen =>
    -- A text that occurs again is what is wrong, whatever comes behind it.
    have hagain : ¬Strays (throw (.duplicateEntry label codes) : Except _ (List (List CodePoint))) := by
      simp [throw, throwThe, MonadExceptOf.throw, OptionsError.isRuleBroken]
    refine iff_of_false hagain ?_
    rintro ⟨texts, entry, after, hsplit, _, hfresh, hentry, _⟩
    cases texts with
    | nil =>
      cases hsplit
      exact hentry ⟨codes, rfl⟩
    | cons first texts =>
      cases hsplit
      exact hfresh codes List.mem_cons_self (List.contains_iff_mem.1 hseen)
  | case3 seen codes rest hseen ih =>
    rw [strays_bind_iff_left fun _ => not_strays_pure _, ih]
    constructor
    · rintro ⟨texts, entry, after, rfl, hnodup, hfresh, hentry⟩
      obtain ⟨hnodup, hfresh⟩ :=
        fresh_cons_iff.2 ⟨fun hmem => hseen (List.contains_iff_mem.2 hmem), hnodup, hfresh⟩
      exact ⟨codes :: texts, entry, after, rfl, hnodup, hfresh, hentry⟩
    · rintro ⟨texts, entry, after, hsplit, hnodup, hfresh, hentry⟩
      cases texts with
      | nil =>
        cases hsplit
        exact absurd ⟨codes, rfl⟩ hentry.1
      | cons first texts =>
        cases hsplit
        obtain ⟨_, hnodup, hfresh⟩ := fresh_cons_iff.1 ⟨hnodup, hfresh⟩
        exact ⟨texts, entry, after, rfl, hnodup, hfresh, hentry⟩
  | case4 seen entry rest htext =>
    rw [strays_error_iff, isRuleBroken_telling fun _ => rfl]
    have hentry : ¬entry.IsText := fun ⟨codes, hcodes⟩ => htext codes hcodes
    constructor
    · exact fun hshown => ⟨[], entry, rest, rfl, List.nodup_nil, nofun, hentry, hshown⟩
    · rintro ⟨texts, other, after, hsplit, _, _, _, hshown⟩
      cases texts with
      | nil =>
        cases hsplit
        exact hshown
      | cons first texts =>
        cases hsplit
        exact absurd ⟨first, rfl⟩ hentry

/-- Reading a list of texts strays exactly if the list does. -/
private theorem strays_textList_iff {value : Value} :
    Strays (textList collections label value) ↔ ListStrays collections value := by
  unfold textList ListStrays
  split
  · rename_i items hlist
    rw [strays_distinctTexts_iff]
    simp [hlist]
  · rename_i hother
    refine iff_of_false (by simp [OptionsError.isRuleBroken]) ?_
    rintro ⟨texts, entry, after, hlist, _⟩
    exact hother _ hlist

private theorem strays_whitelist_iff {value : Value} :
    Strays (whitelist collections value) ↔ ListStrays collections value := by
  rw [whitelist, strays_textList_iff]

private theorem strays_directiveList_iff {value : Value} :
    Strays (directiveList collections value) ↔ ListStrays collections value := by
  rw [directiveList, strays_bind_iff_left, strays_textList_iff]
  intro names
  split
  · simp [throw, throwThe, MonadExceptOf.throw, OptionsError.isRuleBroken]
  · exact not_strays_pure _

end Lists

/-- A pattern with a number of repetitions, or a width that it looks back, beyond the limits of
expressions. -/
def IsTooLarge (selector : List CodePoint) : Prop :=
  Selector.isPattern selector = true ∧
    (Selector.compile selector = .error (.pattern .countTooLarge) ∨
      Selector.compile selector = .error (.pattern .lookBehindTooLong))

/-- Checking a selector strays exactly if it repeats too many times. -/
private theorem strays_checkPattern_iff {selector : List CodePoint} :
    Strays (checkPattern selector) ↔ IsTooLarge selector := by
  unfold checkPattern IsTooLarge
  split
  · rename_i hpattern
    split
    · rename_i hcompile
      simp [hcompile]
    · rename_i hcompile
      simp [hpattern, hcompile, OptionsError.isRuleBroken]
    · rename_i hcompile
      simp [hpattern, hcompile, OptionsError.isRuleBroken]
    · rename_i cause hcount hlook hcompile
      refine iff_of_false (by simp [OptionsError.isRuleBroken]) ?_
      rintro ⟨_, hsame | hsame⟩
      · rw [hcompile] at hsame
        exact hcount (Except.error.inj hsame)
      · rw [hcompile] at hsame
        exact hlook (Except.error.inj hsame)
  · rename_i hplain
    simp [hplain]

/-- A selector that is no text and that cannot be shown, or one with a pattern beyond the limits, or one with
a list of names that strays. -/
def EntryStrays (collections : Array Collection) (entry : Value × Value) : Prop :=
  (¬entry.1.IsText ∧ entry.1.shown? collections = none) ∨
    ∃ codes, entry.1 = .text codes ∧ isSelector codes = true ∧
      (IsTooLarge codes ∨
        checkPattern codes = .ok () ∧ ListStrays collections entry.2)

/-- An entry that strays, behind entries that are read. -/
def TableStrays (collections : Array Collection) (value : Value) : Prop :=
  ∃ before entry after, value.collection? collections = some (.mapping (before ++ entry :: after)) ∧
    (∀ earlier ∈ before, ∃ read, attributeEntry collections earlier = .ok read) ∧
    EntryStrays collections entry

/-- A table strays only because of an integer in it or of the pattern of a selector. -/
theorem TableStrays.cases {collections : Array Collection} {value : Value}
    (hstrays : TableStrays collections value) :
    HoldsLong collections value ∨
      ∃ entries entry codes, value.collection? collections = some (.mapping entries) ∧ entry ∈ entries ∧
        entry.1 = .text codes ∧ IsTooLarge codes := by
  obtain ⟨before, entry, after, htable, _, hentry⟩ := hstrays
  have hkey : entry.1 ∈ (Collection.mapping (before ++ entry :: after)).parts := by
    simp [Collection.parts]
  have hnames : entry.2 ∈ (Collection.mapping (before ++ entry :: after)).parts := by
    simp [Collection.parts]
  obtain ⟨_, hnone⟩ | ⟨codes, hcodes, _, hlarge | ⟨_, hlist⟩⟩ := hentry
  · exact .inl (.of_part htable hkey (holdsLong_of_shown?_eq_none hnone))
  · exact .inr ⟨_, entry, codes, htable, by simp, hcodes, hlarge⟩
  · exact .inl (.of_part htable hnames hlist.holdsLong)

section Table

variable {collections : Array Collection}

/-- Reading an entry of the table strays exactly if the entry does. -/
private theorem strays_attributeEntry_iff {entry : Value × Value} :
    Strays (attributeEntry collections entry) ↔ EntryStrays collections entry := by
  obtain ⟨key, names⟩ := entry
  by_cases htext : key.IsText
  · obtain ⟨codes, rfl⟩ := htext
    have hentry : EntryStrays collections (.text codes, names) ↔ isSelector codes = true ∧
        (IsTooLarge codes ∨
          checkPattern codes = .ok () ∧ ListStrays collections names) := by
      simp [EntryStrays, Value.IsText]
    rw [hentry, attributeEntry]
    simp only
    split
    · rename_i hform
      -- A text can always be shown, so one that is no selector is what is wrong.
      have htold : telling collections (.text codes) .invalidSelector =
          .invalidSelector (quotedCodes codes) := rfl
      rw [htold]
      refine iff_of_false (by simp [throw, throwThe, MonadExceptOf.throw, OptionsError.isRuleBroken]) ?_
      rintro ⟨hselector, _⟩
      simp [hselector] at hform
    · rename_i hform
      rw [strays_bind_iff, strays_checkPattern_iff]
      simp only [strays_bind_iff_left fun _ => not_strays_pure _, strays_textList_iff]
      have hselector : isSelector codes = true := by simpa using hform
      have hread : (∃ a, checkPattern codes = .ok a) ↔ checkPattern codes = .ok () :=
        ⟨fun ⟨_, hchecked⟩ => hchecked, fun hchecked => ⟨(), hchecked⟩⟩
      simp [hselector, hread]
  · have hread : attributeEntry collections (key, names) =
        .error (telling collections key .invalidSelector) := by
      unfold attributeEntry
      split
      · rename_i codes hkey
        exact absurd ⟨codes, hkey⟩ htext
      · rfl
    rw [hread, strays_error_iff, isRuleBroken_telling fun _ => rfl]
    constructor
    · exact fun hshown => .inl ⟨htext, hshown⟩
    · rintro (⟨_, hshown⟩ | ⟨codes, hkey, _⟩)
      · exact hshown
      · exact absurd ⟨codes, hkey⟩ htext

/-- Reading the table of attributes strays exactly if the table does. -/
private theorem strays_attributeTable_iff {value : Value} :
    Strays (attributeTable collections value) ↔ TableStrays collections value := by
  unfold attributeTable TableStrays
  split
  · rename_i entries hentries
    rw [strays_mapM_iff]
    simp [hentries, strays_attributeEntry_iff]
  · rename_i hother
    refine iff_of_false (by simp [OptionsError.isRuleBroken]) ?_
    rintro ⟨before, entry, after, hentries, _⟩
    exact hother _ hentries

end Table

/-- A key that options do not have. -/
def IsUnknown (key : Value) : Prop := ∀ name ∈ allowedKeys, key.sameKey (.ofText name) = false

private theorem isRuleBroken_disorder (collections : Array Collection) (keys : List Value) :
    (disorder collections keys).isRuleBroken = false := by
  unfold disorder
  simp only
  repeat' split
  all_goals rfl

private theorem texts?_eq_none_iff {values : List Value} :
    texts? values = none ↔ ∃ value ∈ values, ¬value.IsText := by
  rw [texts?, mapM_eq_none_iff]
  refine exists_congr fun value => and_congr_right fun _ => ?_
  cases value <;> simp [Value.IsText]

private theorem isUnknown_iff {key : Value} :
    IsUnknown key ↔ (!allowedKeys.any fun name => key.sameKey (.ofText name)) = true := by
  simp [IsUnknown]

/-- Unknown keys are refused as such exactly if all of them are texts. -/
theorem strays_checkKeys_iff {collections : Array Collection} {keys : List Value} :
    Strays (checkKeys collections keys) ↔ ∃ key ∈ keys, IsUnknown key ∧ ¬key.IsText := by
  have hunknown : (∃ key ∈ keys, IsUnknown key ∧ ¬key.IsText) ↔
      texts? (keys.filter fun key => !allowedKeys.any fun name => key.sameKey (.ofText name)) = none := by
    rw [texts?_eq_none_iff]
    simp only [List.mem_filter, isUnknown_iff, and_assoc]
  rw [hunknown, checkKeys]
  split
  · rename_i hempty
    simp [List.isEmpty_iff.1 hempty, texts?]
  · split
    · rename_i names hnames
      simp [hnames, OptionsError.isRuleBroken]
    · rename_i hnone
      simp [hnone, isRuleBroken_disorder]

/-- The keys are accepted exactly if none of them is unknown. -/
private theorem checkKeys_eq_ok_iff {collections : Array Collection} {keys : List Value} :
    checkKeys collections keys = .ok () ↔ ∀ key ∈ keys, ¬IsUnknown key := by
  have hknown : (∀ key ∈ keys, ¬IsUnknown key) ↔
      (keys.filter fun key => !allowedKeys.any fun name => key.sameKey (.ofText name)).isEmpty = true := by
    rw [List.isEmpty_iff, List.filter_eq_nil_iff]
    simp only [isUnknown_iff]
  rw [hknown, checkKeys]
  split
  · rename_i hempty
    simp [hempty]
  · rename_i hsome
    split <;> simp [hsome]

/-- The values under the keys of options, as far as they are there, of which the first that is not read
strays. -/
def ValuesStray (collections : Array Collection) (texts table directives : Option Value) : Prop :=
  (∃ value ∈ texts, ListStrays collections value) ∨
    (∀ value ∈ texts, ∃ read, whitelist collections value = .ok read) ∧
      ((∃ value ∈ table, TableStrays collections value) ∨
        (∀ value ∈ table, ∃ read, attributeTable collections value = .ok read) ∧
          ∃ value ∈ directives, ListStrays collections value)

/-- Entries with an unknown key that is no text, or else with known keys only and values that stray. -/
def EntriesStray (collections : Array Collection) (entries : List (Value × Value)) : Prop :=
  (∃ key ∈ entries.map (·.1), IsUnknown key ∧ ¬key.IsText) ∨
    (∀ key ∈ entries.map (·.1), ¬IsUnknown key) ∧
      ValuesStray collections (Value.lookup? "whitelist".toList entries)
        (Value.lookup? "attributes".toList entries) (Value.lookup? "directives".toList entries)

section Entries

variable {α : Type} {entries : List (Value × Value)} {name : List Char} {fallback : α}
  {read : Value → Except OptionsError α}

private theorem strays_entryOr_iff :
    Strays (entryOr entries name fallback read) ↔
      ∃ value, Value.lookup? name entries = some value ∧ Strays (read value) := by
  unfold entryOr
  split
  · rename_i value hvalue
    simp [hvalue]
  · rename_i hnone
    simp [hnone]

private theorem exists_entryOr_iff :
    (∃ found, entryOr entries name fallback read = .ok found) ↔
      ∀ value, Value.lookup? name entries = some value → ∃ found, read value = .ok found := by
  unfold entryOr
  split
  · rename_i value hvalue
    simp [hvalue]
  · rename_i hnone
    simp [hnone]

end Entries

private theorem strays_optionsOfEntries_iff {collections : Array Collection}
    {entries : List (Value × Value)} :
    Strays (optionsOfEntries collections entries) ↔ EntriesStray collections entries := by
  have hkeys : (∃ a, checkKeys collections (entries.map (·.1)) = .ok a) ↔
      ∀ key ∈ entries.map (·.1), ¬IsUnknown key :=
    ⟨fun ⟨_, hchecked⟩ => checkKeys_eq_ok_iff.1 hchecked, fun hknown => ⟨(), checkKeys_eq_ok_iff.2 hknown⟩⟩
  rw [optionsOfEntries, strays_bind_iff, strays_checkKeys_iff]
  simp only [strays_bind_iff, not_strays_pure, and_false, exists_false, or_false, exists_and_right,
    strays_entryOr_iff, exists_entryOr_iff, strays_whitelist_iff, strays_attributeTable_iff,
    strays_directiveList_iff, hkeys]
  rfl

/-- A mapping counts as none exactly if it has no entries. -/
theorem isVoid_mapping {collections : Array Collection} {value : Value} {entries : List (Value × Value)}
    (hmapping : value.collection? collections = some (.mapping entries)) :
    isVoid collections value = entries.isEmpty := by
  unfold isVoid
  rw [hmapping]

/-- Reading a mapping strays exactly if its entries do. -/
private theorem strays_optionsOf_iff {data : Data} {entries : List (Value × Value)}
    (hmapping : data.root.collection? data.collections = some (.mapping entries)) :
    Strays (optionsOf data) ↔ EntriesStray data.collections entries := by
  rw [optionsOf, isVoid_mapping hmapping, hmapping]
  cases entries with
  | nil =>
    refine iff_of_false (not_strays_ok _) ?_
    rintro (⟨key, hkey, _⟩ | ⟨_, ⟨value, hvalue, _⟩ | ⟨_, ⟨value, hvalue, _⟩ | ⟨_, value, hvalue, _⟩⟩⟩)
    · cases hkey
    all_goals cases hvalue
  | cons entry entries =>
    rw [List.isEmpty_cons, if_neg Bool.false_ne_true]
    exact strays_optionsOfEntries_iff

private theorem mem_of_lookup? {name : List Char} {entries : List (Value × Value)} {value : Value}
    (hvalue : Value.lookup? name entries = some value) : ∃ key, (key, value) ∈ entries := by
  obtain ⟨⟨key, found⟩, hfind, rfl⟩ := Option.map_eq_some_iff.1 hvalue
  exact ⟨key, List.mem_of_find?_eq_some hfind⟩

/-- A pattern beyond the limits of expressions, among the selectors of the attributes. -/
def HoldsTooLarge (collections : Array Collection) (entries : List (Value × Value)) : Prop :=
  ∃ table rows row codes, Value.lookup? "attributes".toList entries = some table ∧
    table.collection? collections = some (.mapping rows) ∧ row ∈ rows ∧ row.1 = .text codes ∧
    IsTooLarge codes

/-- Only three things in a mapping keep it from giving options or being refused with what is wrong: a key that
is no text, an integer that is too long to be told, and a pattern beyond the limits of expressions. -/
theorem strays_optionsOf_cases {data : Data} {entries : List (Value × Value)}
    (hmapping : data.root.collection? data.collections = some (.mapping entries))
    (hstrays : Strays (optionsOf data)) :
    (∃ entry ∈ entries, ¬entry.1.IsText) ∨ HoldsLong data.collections data.root ∨
      HoldsTooLarge data.collections entries := by
  have hinside : ∀ {name value}, Value.lookup? name entries = some value →
      HoldsLong data.collections value → HoldsLong data.collections data.root := by
    intro name value hvalue hlong
    obtain ⟨key, hmem⟩ := mem_of_lookup? hvalue
    exact .of_part hmapping (List.mem_flatMap.2 ⟨(key, value), hmem, by simp⟩) hlong
  rw [strays_optionsOf_iff hmapping] at hstrays
  obtain ⟨key, hkey, _, htext⟩ | ⟨_, ⟨value, hvalue, hlist⟩ | ⟨_, ⟨value, hvalue, htable⟩ |
    ⟨_, value, hvalue, hlist⟩⟩⟩ := hstrays
  · obtain ⟨entry, hentry, rfl⟩ := List.mem_map.1 hkey
    exact .inl ⟨entry, hentry, htext⟩
  · exact .inr (.inl (hinside hvalue hlist.holdsLong))
  · obtain hlong | ⟨rows, row, codes, hrows, hrow, hcodes, hlarge⟩ := htable.cases
    · exact .inr (.inl (hinside hvalue hlong))
    · exact .inr (.inr ⟨value, rows, row, codes, hvalue, hrows, hrow, hcodes, hlarge⟩)
  · exact .inr (.inl (hinside hvalue hlist.holdsLong))

end BareStrings.Config
