import BareStrings.Proofs.Config.Accepted
import BareStrings.Proofs.Config.Options
import BareStrings.Proofs.Rule.Slashed
import BareStrings.Proofs.Text.Ascii
import Mathlib.Data.List.Nodup

namespace BareStrings.Config

open BareStrings.Markup BareStrings.Regex BareStrings.Rule BareStrings.Text

/-- A name that is not empty and has no blanks. -/
def IsBlankless (selector : List CodePoint) : Prop :=
  selector ≠ [] ∧ ∀ code ∈ selector, isBlankCode code = false

private theorem isBlankCode_of_isSmallLetter {code : CodePoint} (hsmall : isSmallLetter code = true) :
    isBlankCode code = false := by
  rw [isSmallLetter, Bool.and_eq_true, decide_eq_true_iff, decide_eq_true_iff, Fin.le_def, Fin.le_def] at hsmall
  have hfirst : (CodePoint.ofChar 'a').val = 97 := rfl
  have hlast : (CodePoint.ofChar 'z').val = 122 := rfl
  exact isBlankCode_eq_false (by omega) (by omega)

/-- A text has the form of a selector if it is a name without blanks, or if it is written on one line between
slashes with small letters behind it. -/
theorem isSelectorForm_iff {selector : List CodePoint} :
    isSelectorForm selector = true ↔ IsBlankless selector ∨
      ∃ body letters, selector = slashed body letters ∧ CodePoint.ofChar '\n' ∉ body ∧
        ∀ code ∈ letters, isSmallLetter code = true := by
  simp only [isSelectorForm, Bool.or_eq_true, Bool.and_eq_true, drop_length_takeWhile]
  refine or_congr (by simp [IsBlankless]) ?_
  constructor
  · rintro ⟨⟨⟨hlast, htwo⟩, hfirst⟩, hline⟩
    have hsplit := List.takeWhile_append_dropWhile (p := isSmallLetter) (l := selector.reverse)
    have hletters : ∀ code ∈ selector.reverse.takeWhile isSmallLetter, isSmallLetter code = true :=
      fun code hcode => List.mem_takeWhile_imp hcode
    obtain ⟨others, hinner⟩ := List.head?_eq_some_iff.1 (eq_of_beq hlast)
    rw [hinner] at hsplit htwo
    generalize selector.reverse.takeWhile isSmallLetter = letters at hsplit hletters
    obtain rfl : selector = others.reverse ++ CodePoint.ofChar '/' :: letters.reverse := by
      simpa using (congrArg List.reverse hsplit).symm
    cases hbegin : others.reverse with
    | nil => simp [List.reverse_eq_nil_iff.1 hbegin] at htwo
    | cons first body =>
      rw [hbegin] at hfirst hline
      obtain rfl : first = CodePoint.ofChar '/' := by simpa using hfirst
      refine ⟨body, letters.reverse, rfl, ?_, fun code hcode => hletters code (List.mem_reverse.1 hcode)⟩
      exact fun hmem => by simp [hmem] at hline
  · rintro ⟨body, letters, rfl, hbody, hletters⟩
    have hreverse : (slashed body letters).reverse =
        letters.reverse ++ CodePoint.ofChar '/' :: (body.reverse ++ [CodePoint.ofChar '/']) := by
      simp [slashed]
    have hline : CodePoint.ofChar '\n' ∉ slashed body letters :=
      Selector.not_mem_slashed (by decide) hbody fun hmem => absurd (hletters _ hmem) (by decide)
    have hfront : ∀ code ∈ letters.reverse, isSmallLetter code = true :=
      fun code hcode => hletters code (List.mem_reverse.1 hcode)
    have hslash : isSmallLetter (CodePoint.ofChar '/') = false := by decide
    obtain ⟨-, hdrop⟩ := takeWhile_append_of_head hfront
      (CodePoint.ofChar '/' :: (body.reverse ++ [CodePoint.ofChar '/'])) (by simpa using hslash)
    rw [hreverse, hdrop]
    simpa [slashed] using hline

private theorem line_feed_not_mem {selector : List CodePoint} (hform : isSelectorForm selector = true) :
    CodePoint.ofChar '\n' ∉ selector := by
  obtain ⟨_, hname⟩ | ⟨body, letters, rfl, hbody, hsmall⟩ := isSelectorForm_iff.1 hform
  · exact fun hmem => absurd (hname _ hmem) (by decide)
  · exact Selector.not_mem_slashed (by decide) hbody fun hmem => absurd (hsmall _ hmem) (by decide)

/-- A selector that ends in no line feed, if it may select tags, is a pattern or a name without blanks. -/
theorem isBlankless_or_isPattern {selector : List CodePoint} (hselector : isSelector selector = true)
    (hend : selector.getLast? ≠ some (CodePoint.ofChar '\n')) :
    IsBlankless selector ∨ Selector.isPattern selector = true := by
  have hform : isSelectorForm selector = true := by simpa [isSelector, hend] using hselector
  obtain hname | ⟨body, letters, rfl, _, hsmall⟩ := isSelectorForm_iff.1 hform
  · exact .inl hname
  · by_cases hbody : body = []
    · -- Two slashes with nothing between them are no pattern, but there are no blanks either.
      subst hbody
      refine .inl ⟨List.cons_ne_nil _ _, ?_⟩
      intro code hcode
      simp only [slashed, List.nil_append, List.mem_cons] at hcode
      obtain rfl | rfl | hletter := hcode
      · rfl
      · rfl
      · exact isBlankCode_of_isSmallLetter (hsmall code hletter)
    · have hslash : CodePoint.ofChar '/' ∉ letters := fun hmem => absurd (hsmall _ hmem) (by decide)
      have hparts := Selector.patternParts?_eq_some_iff.2 ⟨rfl, hbody, hslash, line_feed_not_mem hform⟩
      exact .inr (by rw [Selector.isPattern, hparts]; rfl)

/-- A selector that ends in a line feed is neither. -/
theorem not_isPattern_of_line_feed {selector : List CodePoint}
    (hend : selector.getLast? = some (CodePoint.ofChar '\n')) :
    ¬IsBlankless selector ∧ Selector.isPattern selector = false := by
  have hmem : CodePoint.ofChar '\n' ∈ selector := List.mem_of_getLast? hend
  refine ⟨fun hname => absurd (hname.2 _ hmem) (by decide), ?_⟩
  rw [Selector.isPattern, Option.isSome_eq_false_iff, Option.isNone_iff_eq_none]
  cases hparts : Selector.patternParts? selector with
  | none => rfl
  | some parts => exact absurd hmem (Selector.patternParts?_eq_some_iff.1 hparts).2.2.2

/-- A pattern that compiles has flags that patterns may have. -/
theorem slashed_of_compile {selector : List CodePoint} {pattern : Pattern}
    (hpattern : Selector.isPattern selector = true) (hcompile : Selector.compile selector = .ok pattern) :
    ∃ body flags, selector = slashed body flags ∧ body ≠ [] ∧
      ∀ flag ∈ flags, flag ∈ Selector.knownFlags := by
  obtain ⟨⟨body, flags⟩, hparts⟩ := Option.isSome_iff_exists.1 hpattern
  obtain ⟨hselector, hbody, _⟩ := Selector.patternParts?_eq_some_iff.1 hparts
  refine ⟨body, flags, hselector, hbody, fun flag hflag => ?_⟩
  rw [Selector.compile, hparts] at hcompile
  simp only at hcompile
  split at hcompile
  · cases hcompile
  · rename_i hnone
    simpa using List.find?_eq_none.1 hnone flag hflag

section Reading

variable {collections : Array Collection} {label : List Char}

/-- A list of texts is read exactly if it is a list of texts, no two of them alike, and none seen before. -/
private theorem distinctTexts_eq_ok_iff {seen texts : List (List CodePoint)} {items : List Value} :
    distinctTexts collections label seen items = .ok texts ↔
      items = texts.map .text ∧ texts.Nodup ∧ ∀ codes ∈ texts, codes ∉ seen := by
  fun_induction distinctTexts collections label seen items generalizing texts with
  | case1 =>
    constructor
    · intro hread
      obtain rfl := Except.ok.inj hread
      exact ⟨rfl, List.nodup_nil, List.forall_mem_nil _⟩
    · rintro ⟨hitems, _⟩
      obtain rfl := List.map_eq_nil_iff.1 hitems.symm
      rfl
  | case2 seen codes rest hseen =>
    constructor
    · intro hread
      cases hread
    · rintro ⟨hitems, _, hfresh⟩
      obtain ⟨first, later, rfl, hfirst, _⟩ := List.map_eq_cons_iff.1 hitems.symm
      cases hfirst
      exact absurd (List.contains_iff_mem.1 hseen) (hfresh codes List.mem_cons_self)
  | case3 seen codes rest hseen ih =>
    rw [bind_eq_ok_iff]
    constructor
    · rintro ⟨later, hlater, hread⟩
      obtain rfl := Except.ok.inj hread
      obtain ⟨rfl, hfresh⟩ := ih.1 hlater
      exact ⟨rfl, fresh_cons_iff.2 ⟨fun hmem => hseen (List.contains_iff_mem.2 hmem), hfresh⟩⟩
    · rintro ⟨hitems, hfresh⟩
      obtain ⟨first, later, rfl, hfirst, hrest⟩ := List.map_eq_cons_iff.1 hitems.symm
      cases hfirst
      exact ⟨later, ih.2 ⟨hrest.symm, (fresh_cons_iff.1 hfresh).2⟩, rfl⟩
  | case4 seen entry rest htext =>
    constructor
    · intro hread
      cases hread
    · rintro ⟨hitems, _, _⟩
      obtain ⟨first, later, rfl, hfirst, _⟩ := List.map_eq_cons_iff.1 hitems.symm
      exact absurd hfirst.symm (htext first)

/-- A list of texts is held as it is, and no text stands in it twice. -/
def HoldsTexts (collections : Array Collection) (value : Value) (held : List (List CodePoint)) : Prop :=
  value.collection? collections = some (.list (held.map .text)) ∧ held.Nodup

/-- An entry of a table of attributes is held as its selector and the names for it. -/
def HoldsEntry (collections : Array Collection) (entry : Value × Value)
    (row : List CodePoint × List (List CodePoint)) : Prop :=
  entry.1 = .text row.1 ∧ HoldsTexts collections entry.2 row.2

/-- A table of attributes is held entry by entry. -/
def HoldsTable (collections : Array Collection) (value : Value)
    (rows : List (List CodePoint × List (List CodePoint))) : Prop :=
  ∃ entries, value.collection? collections = some (.mapping entries) ∧
    List.Forall₂ (HoldsEntry collections) entries rows

private theorem textList_eq_ok_iff {value : Value} {texts : List (List CodePoint)} :
    textList collections label value = .ok texts ↔ HoldsTexts collections value texts := by
  unfold textList HoldsTexts
  split
  · rename_i items hlist
    simp [distinctTexts_eq_ok_iff, hlist]
  · rename_i hother
    exact iff_of_false nofun fun ⟨hlist, _⟩ => hother _ hlist

/-- The directives that are read are those of the list, and every one of them is written as a directive. -/
private theorem holdsTexts_directiveList {value : Value} {held : List (List CodePoint)}
    (hread : directiveList collections value = .ok held) :
    HoldsTexts collections value held ∧ ∀ directive ∈ held, wording "v-" <+: directive := by
  obtain ⟨texts, htexts, hread⟩ := bind_eq_ok_iff.1 hread
  split at hread
  · cases hread
  · rename_i hnone
    obtain rfl := Except.ok.inj hread
    refine ⟨textList_eq_ok_iff.1 htexts, fun directive hdirective => ?_⟩
    have hstart := List.find?_eq_none.1 hnone directive hdirective
    rwa [Bool.not_eq_true, Bool.not_eq_false', List.isPrefixOf_iff_prefix] at hstart

/-- What is read of an entry is what it holds, and its selector may select tags. -/
theorem holdsEntry_attributeEntry {entry : Value × Value} {row : List CodePoint × List (List CodePoint)}
    (hread : attributeEntry collections entry = .ok row) :
    HoldsEntry collections entry row ∧ isSelector row.1 = true := by
  unfold attributeEntry at hread
  split at hread
  · rename_i selector hkey
    split at hread
    · cases hread
    · rename_i hselector
      obtain ⟨_, _, hread⟩ := bind_eq_ok_iff.1 hread
      obtain ⟨names, hnames, hread⟩ := bind_eq_ok_iff.1 hread
      obtain rfl := Except.ok.inj hread
      exact ⟨⟨hkey, textList_eq_ok_iff.1 hnames⟩, by simpa using hselector⟩
  · cases hread

/-- The rows that are read are those of the table, and every key of them is a selector. -/
private theorem holdsTable_attributeTable {value : Value}
    {rows : List (List CodePoint × List (List CodePoint))}
    (hread : attributeTable collections value = .ok rows) :
    HoldsTable collections value rows ∧ ∀ row ∈ rows, isSelector row.1 = true := by
  unfold attributeTable at hread
  split at hread
  · rename_i entries htable
    refine ⟨⟨entries, htable, ?_⟩, fun row hrow => ?_⟩
    · exact (forall₂_of_mapM hread).imp fun _ _ h => (holdsEntry_attributeEntry h.2).1
    · obtain ⟨_, _, hentry⟩ := exists_of_mem_mapM hread hrow
      exact (holdsEntry_attributeEntry hentry).2
  · cases hread

end Reading

section Entries

variable {α : Type} {entries : List (Value × Value)} {name : List Char} {fallback held : α}
  {Holds : Value → α → Prop}

/-- What is held for a key of some entries: what its value stands for, or the default if the key is missing. -/
def HeldFor (entries : List (Value × Value)) (name : List Char) (fallback : α) (Holds : Value → α → Prop)
    (held : α) : Prop :=
  (∃ value, Value.lookup? name entries = some value ∧ Holds value held) ∨
    Value.lookup? name entries = none ∧ held = fallback

private theorem HeldFor.imp (hheld : HeldFor entries name fallback Holds held) {Other : Value → α → Prop}
    (himp : ∀ value, Holds value held → Other value held) : HeldFor entries name fallback Other held :=
  hheld.imp_left fun ⟨value, hvalue, hholds⟩ => ⟨value, hvalue, himp value hholds⟩

/-- What is true of the default and of what values stand for is true of what is held. -/
theorem HeldFor.elim (hheld : HeldFor entries name fallback Holds held) {P : α → Prop}
    (hfallback : P fallback) (hvalue : ∀ value, Holds value held → P held) : P held := by
  obtain ⟨value, _, hholds⟩ | ⟨_, rfl⟩ := hheld
  · exact hvalue value hholds
  · exact hfallback

private theorem entryOr_eq_ok_iff {read : Value → Except OptionsError α} :
    entryOr entries name fallback read = .ok held ↔
      HeldFor entries name fallback (fun value found => read value = .ok found) held := by
  unfold entryOr HeldFor
  split
  · rename_i value hvalue
    simp [hvalue]
  · rename_i hnone
    simp [hnone, eq_comm]

end Entries

/-- The options of a mapping are read key by key. -/
theorem optionsOf_mapping_eq_ok {data : Data} {entries : List (Value × Value)} {options : Options}
    (hmapping : data.root.collection? data.collections = some (.mapping entries))
    (haccepted : optionsOf data = .ok options) :
    HeldFor entries "whitelist".toList Options.defaultWhitelist
        (fun value held => whitelist data.collections value = .ok held) options.whitelist ∧
      HeldFor entries "attributes".toList Options.defaultAttributes
        (fun value held => attributeTable data.collections value = .ok held) options.attributes ∧
      HeldFor entries "directives".toList Options.defaultDirectives
        (fun value held => directiveList data.collections value = .ok held) options.directives := by
  rw [optionsOf, isVoid_mapping hmapping, hmapping] at haccepted
  cases entries with
  | nil =>
    obtain rfl := Except.ok.inj haccepted
    exact ⟨.inr ⟨rfl, rfl⟩, .inr ⟨rfl, rfl⟩, .inr ⟨rfl, rfl⟩⟩
  | cons entry entries =>
    obtain ⟨_, _, hread⟩ := bind_eq_ok_iff.1 haccepted
    obtain ⟨texts, htexts, hread⟩ := bind_eq_ok_iff.1 hread
    obtain ⟨rows, hrows, hread⟩ := bind_eq_ok_iff.1 hread
    obtain ⟨directives, hdirectives, hread⟩ := bind_eq_ok_iff.1 hread
    obtain rfl := Except.ok.inj hread
    exact ⟨entryOr_eq_ok_iff.1 htexts, entryOr_eq_ok_iff.1 hrows, entryOr_eq_ok_iff.1 hdirectives⟩

private theorem HoldsTable.nodup {collections : Array Collection} {value : Value}
    {rows : List (List CodePoint × List (List CodePoint))} (hholds : HoldsTable collections value rows) :
    ∀ row ∈ rows, row.2.Nodup := by
  obtain ⟨entries, -, hentries⟩ := hholds
  induction hentries with
  | nil => exact nofun
  | cons hentry _ ih => exact List.forall_mem_cons.2 ⟨hentry.2.2, ih⟩

/-- A row stands among targets as a pattern: its selector is a body between slashes and known flags, which
compile, and is not looked up as a name. -/
def HasPattern (targets : Targets) (row : List CodePoint × List (List CodePoint)) : Prop :=
  row ∉ targets.exact ∧ ∃ body flags pattern, row.1 = slashed body flags ∧ body ≠ [] ∧
    (∀ flag ∈ flags, flag ∈ Selector.knownFlags) ∧ Selector.compile row.1 = .ok pattern ∧
    (pattern, row.2) ∈ targets.patterns

section Rows

variable {attributes : List (List CodePoint × List (List CodePoint))} {targets : Targets}
  {row : List CodePoint × List (List CodePoint)}

/-- A row stands among the exact ones exactly if its key is no pattern. -/
private theorem mem_exact_iff (hcollects : Targets.Collects attributes targets) (hrow : row ∈ attributes) :
    row ∈ targets.exact ↔ Selector.isPattern row.1 = false := by
  simp [hcollects.exact, hrow]

private theorem hasPattern_iff (hcollects : Targets.Collects attributes targets)
    (hchecked : AllChecked attributes)
    (hrow : row ∈ attributes) : HasPattern targets row ↔ Selector.isPattern row.1 = true := by
  rw [HasPattern, mem_exact_iff hcollects hrow, Bool.not_eq_false]
  refine ⟨And.left, fun hpattern => ⟨hpattern, ?_⟩⟩
  obtain ⟨pattern, hcompile⟩ := exists_compile (hchecked row hrow) hpattern
  obtain ⟨body, flags, hselector, hbody, hflags⟩ := slashed_of_compile hpattern hcompile
  exact ⟨body, flags, pattern, hselector, hbody, hflags, hcompile,
    (hcollects.patterns _).2 ⟨row, hrow, hpattern, hcompile, rfl⟩⟩

/-- A checked selector is a name without blanks or a pattern exactly if it does not end in a line feed. -/
theorem isBlankless_or_hasPattern_iff (hcollects : Targets.Collects attributes targets)
    (hchecked : AllChecked attributes) (hrow : row ∈ attributes) (hselector : isSelector row.1 = true) :
    IsBlankless row.1 ∧ row ∈ targets.exact ∨ HasPattern targets row ↔
      row.1.getLast? ≠ some (CodePoint.ofChar '\n') := by
  rw [mem_exact_iff hcollects hrow, hasPattern_iff hcollects hchecked hrow]
  constructor
  · intro hkind hend
    obtain ⟨hblank, hplain⟩ := not_isPattern_of_line_feed hend
    obtain ⟨hname, _⟩ | hpattern := hkind
    · exact hblank hname
    · exact Bool.false_ne_true (hplain.symm.trans hpattern)
  · intro hend
    cases hpattern : Selector.isPattern row.1 with
    | true => exact .inr rfl
    | false => exact .inl ⟨(isBlankless_or_isPattern hselector hend).resolve_right (by simp [hpattern]), rfl⟩

/-- A checked selector that ends in a line feed is looked up as a name, whatever stands before the line
feed. -/
theorem mem_exact_of_line_feed (hcollects : Targets.Collects attributes targets) (hrow : row ∈ attributes)
    (hselector : isSelector row.1 = true) (hend : row.1.getLast? = some (CodePoint.ofChar '\n')) :
    row ∈ targets.exact ∧ isSelectorForm row.1.dropLast = true := by
  refine ⟨(mem_exact_iff hcollects hrow).2 (not_isPattern_of_line_feed hend).2, ?_⟩
  rw [isSelector, Bool.or_eq_true, Bool.and_eq_true] at hselector
  obtain hform | ⟨_, hform⟩ := hselector
  · exact absurd (List.mem_of_getLast? hend) (line_feed_not_mem hform)
  · exact hform

end Rows

/-- The options of a mapping that is accepted have targets, in which a selector stands as a name without
blanks or as a pattern exactly if it does not end in a line feed. If it does, it stands as a name, and
without the line feed it has the form of a selector. The options hold the texts of the mapping in their
order, none of which is given twice, or the default for a key that is missing; every directive begins as
directives do. -/
theorem content_of_accepted {data : Data} {entries : List (Value × Value)} {options : Options}
    (hmapping : data.root.collection? data.collections = some (.mapping entries))
    (haccepted : optionsOf data = .ok options) :
    (∃ targets, Targets.ofAttributes options.attributes = .ok targets ∧ ∀ row ∈ options.attributes,
        (IsBlankless row.1 ∧ row ∈ targets.exact ∨ HasPattern targets row ↔
          row.1.getLast? ≠ some (CodePoint.ofChar '\n')) ∧
        (row.1.getLast? = some (CodePoint.ofChar '\n') →
          row ∈ targets.exact ∧ isSelectorForm row.1.dropLast = true)) ∧
      HeldFor entries "whitelist".toList Options.defaultWhitelist (HoldsTexts data.collections)
        options.whitelist ∧
      HeldFor entries "attributes".toList Options.defaultAttributes (HoldsTable data.collections)
        options.attributes ∧
      HeldFor entries "directives".toList Options.defaultDirectives (HoldsTexts data.collections)
        options.directives ∧
      (∀ directive ∈ options.directives, wording "v-" <+: directive) ∧
      options.whitelist.Nodup ∧ (∀ row ∈ options.attributes, row.2.Nodup) ∧ options.directives.Nodup := by
  obtain ⟨hwhitelist, hattributes, hdirectives⟩ := optionsOf_mapping_eq_ok hmapping haccepted
  have hchecked := allChecked_optionsOf haccepted
  obtain ⟨targets, htargets⟩ := exists_ofAttributes hchecked
  have hcollects := Targets.collects_ofAttributes htargets
  have hselectors : ∀ row ∈ options.attributes, isSelector row.1 = true :=
    hattributes.elim (P := fun rows => ∀ row ∈ rows, isSelector row.1 = true) (by decide)
      fun _ hread => (holdsTable_attributeTable hread).2
  have hstarts : ∀ directive ∈ options.directives, wording "v-" <+: directive :=
    hdirectives.elim (P := fun names => ∀ directive ∈ names, wording "v-" <+: directive) (by decide)
      fun _ hread => (holdsTexts_directiveList hread).2
  have hwhitelist := hwhitelist.imp fun _ => textList_eq_ok_iff.1
  have hattributes := hattributes.imp fun _ hread => (holdsTable_attributeTable hread).1
  have hdirectives := hdirectives.imp fun _ hread => (holdsTexts_directiveList hread).1
  refine ⟨⟨targets, htargets, fun row hrow => ⟨?_, ?_⟩⟩, hwhitelist, hattributes, hdirectives, hstarts, ?_, ?_, ?_⟩
  · exact isBlankless_or_hasPattern_iff hcollects hchecked hrow (hselectors row hrow)
  · exact mem_exact_of_line_feed hcollects hrow (hselectors row hrow)
  · exact hwhitelist.elim (by decide) fun _ => And.right
  · exact hattributes.elim (P := fun rows => ∀ row ∈ rows, row.2.Nodup) (by decide) fun _ => HoldsTable.nodup
  · exact hdirectives.elim (by decide) fun _ => And.right

/-- A name, and a pattern with a blank in it. -/
theorem content_of_accepted_pattern :
    let data : Data := ⟨.collection 0,
      #[.mapping [(.ofText "attributes".toList, .collection 1), (.ofText "directives".toList, .collection 3)],
        .mapping [(.ofText "img".toList, .collection 2), (.ofText "/a b/".toList, .collection 2)],
        .list [.ofText "title".toList, .ofText "alt".toList], .list [.ofText "v-html".toList]]⟩
    let names := [wording "title", wording "alt"]
    ∃ options targets, optionsOf data = .ok options ∧ Targets.ofAttributes options.attributes = .ok targets ∧
      (wording "img", names) ∈ targets.exact ∧ HasPattern targets (wording "/a b/", names) ∧
      ∀ directive ∈ options.directives, wording "v-" <+: directive := by
  intro data names
  let options : Options := { Options.default with
    attributes := [(wording "img", names), (wording "/a b/", names)], directives := [wording "v-html"] }
  have haccepted : optionsOf data = .ok options := rfl
  obtain ⟨⟨targets, htargets, hrows⟩, _, _, _, hstarts, _⟩ := content_of_accepted rfl haccepted
  have hcollects := Targets.collects_ofAttributes htargets
  refine ⟨options, targets, haccepted, htargets, ?_, ?_, hstarts⟩
  · exact (mem_exact_iff hcollects (by decide)).2 (by decide)
  · have hblank : ¬IsBlankless (wording "/a b/") := fun hname =>
      absurd (hname.2 (.ofChar ' ') (by decide)) (by decide)
    exact ((hrows _ (by decide)).1.2 (by decide)).resolve_left fun hname => hblank hname.1

/-- A pattern with a line feed behind it is accepted, as the name of tags that no template has. -/
theorem selector_before_line_feed :
    let data : Data := ⟨.collection 0,
      #[.mapping [(.ofText "attributes".toList, .collection 1)],
        .mapping [(.ofText "/a b/\n".toList, .collection 2)], .list [.ofText "title".toList]]⟩
    let row := (wording "/a b/\n", [wording "title"])
    ∃ options targets, optionsOf data = .ok options ∧ Targets.ofAttributes options.attributes = .ok targets ∧
      row ∈ options.attributes ∧ row ∈ targets.exact ∧ ¬(IsBlankless row.1 ∨ HasPattern targets row) := by
  intro data row
  let options : Options := { Options.default with attributes := [row] }
  have haccepted : optionsOf data = .ok options := rfl
  obtain ⟨targets, htargets⟩ := exists_ofAttributes (allChecked_optionsOf haccepted)
  have hcollects := Targets.collects_ofAttributes htargets
  have hrow : row ∈ options.attributes := List.mem_singleton_self row
  have hend : row.1.getLast? = some (CodePoint.ofChar '\n') := rfl
  obtain ⟨hblank, hplain⟩ := not_isPattern_of_line_feed hend
  have hexact := (mem_exact_iff hcollects hrow).2 hplain
  exact ⟨options, targets, haccepted, htargets, hrow, hexact, not_or.2 ⟨hblank, fun hpattern => hpattern.1 hexact⟩⟩

end BareStrings.Config
