import BareStrings.Config.Options
import BareStrings.Proofs.Rule.Scan
import BareStrings.Proofs.Rule.Targets

namespace BareStrings.Config

open BareStrings.Markup BareStrings.Report BareStrings.Rule BareStrings.Text

/-- All selectors of a table have passed the check of their patterns. -/
def AllChecked (attributes : List (List CodePoint × List (List CodePoint))) : Prop :=
  ∀ entry ∈ attributes, checkPattern entry.1 = .ok ()

section Reading

variable {collections : Array Collection}

/-- The selector of an entry that is accepted has passed the check of its pattern. -/
private theorem checkPattern_of_attributeEntry {entry : Value × Value}
    {row : List CodePoint × List (List CodePoint)}
    (hread : attributeEntry collections entry = .ok row) : checkPattern row.1 = .ok () := by
  unfold attributeEntry at hread
  split at hread
  · split at hread
    · cases hread
    · obtain ⟨_, hchecked, hread⟩ := bind_eq_ok_iff.1 hread
      obtain ⟨_, _, hread⟩ := bind_eq_ok_iff.1 hread
      obtain rfl := Except.ok.inj hread
      exact hchecked
  · cases hread

private theorem allChecked_attributeTable {value : Value}
    {attributes : List (List CodePoint × List (List CodePoint))}
    (hread : attributeTable collections value = .ok attributes) : AllChecked attributes := by
  unfold attributeTable at hread
  split at hread
  · intro row hrow
    obtain ⟨_, _, hentry⟩ := exists_of_mem_mapM hread hrow
    exact checkPattern_of_attributeEntry hentry
  · cases hread

/-- The default table would pass the check that it is never put to. -/
theorem allChecked_defaultAttributes : AllChecked Options.defaultAttributes := by
  have hall : Options.defaultAttributes.all (fun entry => (checkPattern entry.1).toOption.isSome) = true := by
    decide
  intro entry hentry
  have hchecked := List.all_eq_true.1 hall entry hentry
  cases hresult : checkPattern entry.1 with
  | ok _ => rfl
  | error error =>
    rw [hresult] at hchecked
    cases hchecked

/-- Every selector of options that are accepted has passed the check of its pattern. -/
private theorem allChecked_optionsOfEntries {entries : List (Value × Value)} {options : Options}
    (hread : optionsOfEntries collections entries = .ok options) : AllChecked options.attributes := by
  obtain ⟨_, _, hread⟩ := bind_eq_ok_iff.1 hread
  obtain ⟨_, _, hread⟩ := bind_eq_ok_iff.1 hread
  obtain ⟨attributes, hattributes, hread⟩ := bind_eq_ok_iff.1 hread
  obtain ⟨_, _, hread⟩ := bind_eq_ok_iff.1 hread
  obtain rfl := Except.ok.inj hread
  unfold entryOr at hattributes
  split at hattributes
  · exact allChecked_attributeTable hattributes
  · obtain rfl := Except.ok.inj hattributes
    exact allChecked_defaultAttributes

end Reading

/-- Whatever data are accepted as options, the selectors in them have been checked. -/
theorem allChecked_optionsOf {data : Data} {options : Options} (haccepted : optionsOf data = .ok options) :
    AllChecked options.attributes := by
  unfold optionsOf at haccepted
  split at haccepted
  · obtain rfl := Except.ok.inj haccepted
    exact allChecked_defaultAttributes
  · split at haccepted
    · exact allChecked_optionsOfEntries haccepted
    · obtain ⟨_, _, haccepted⟩ := bind_eq_ok_iff.1 haccepted
      obtain ⟨_, _, haccepted⟩ := bind_eq_ok_iff.1 haccepted
      cases haccepted

/-- A selector that is a pattern and has passed the check compiles. -/
theorem exists_compile {selector : List CodePoint} (hchecked : checkPattern selector = .ok ())
    (hpattern : Selector.isPattern selector = true) :
    ∃ pattern, Selector.compile selector = .ok pattern := by
  unfold checkPattern at hchecked
  rw [if_pos hpattern] at hchecked
  split at hchecked
  · rename_i pattern hcompile
    exact ⟨pattern, hcompile⟩
  all_goals cases hchecked

/-- A table whose selectors have been checked has targets. -/
theorem exists_ofAttributes {attributes : List (List CodePoint × List (List CodePoint))}
    (hchecked : AllChecked attributes) : ∃ targets, Targets.ofAttributes attributes = .ok targets :=
  Targets.exists_ofAttributes_iff.2 fun row hrow hpattern => exists_compile (hchecked row hrow) hpattern

/-- Options that are accepted make a rule, and all of their selectors have been checked. A scan under them
returns exactly if the searches for their patterns in the names of the elements have an answer, and breaks off
for no other reason; patterns that note no groups always have one. -/
theorem scan_of_accepted {data : Data} {options : Options} (haccepted : optionsOf data = .ok options)
    (severity : Severity) :
    AllChecked options.attributes ∧ ∃ rule targets, Rule.ofOptions options severity = .ok rule ∧
      Targets.ofAttributes options.attributes = .ok targets ∧
      (∀ tree path report, (∃ outcome, rule.scan tree path report = .ok outcome) ↔
        targets.Tell tree.parts) ∧
      (∀ tree path report error, rule.scan tree path report = .error error →
        error = .analysis (.search .reversedGroup)) ∧
      ((∀ entry ∈ targets.patterns, entry.1.regex.captures = false) →
        ∀ tree path report, ∃ outcome, rule.scan tree path report = .ok outcome) := by
  have hchecked := allChecked_optionsOf haccepted
  obtain ⟨targets, htargets⟩ := exists_ofAttributes hchecked
  obtain ⟨rule, hrule, hoptions, _⟩ := Rule.ofOptions_eq_ok options severity
  have htargets : Targets.ofAttributes rule.options.attributes = .ok targets := hoptions ▸ htargets
  refine ⟨hchecked, rule, targets, hrule, hoptions ▸ htargets, ?_, ?_, ?_⟩
  · exact fun _ _ _ => Rule.exists_scan_iff htargets
  · intro tree path report error herror
    obtain ⟨⟨⟩, rfl⟩ := Rule.scan_eq_error htargets herror
    rfl
  · intro hfree tree path report
    exact (Rule.exists_scan_iff htargets).2 fun tag _ => Targets.exists_ofTag hfree tag.rawName

/-- A whitelist of signs that expressions have a use for, and a pattern without groups. -/
theorem scan_of_accepted_signs :
    let data : Data := ⟨.collection 0,
      #[.mapping [(.ofText "whitelist".toList, .collection 1), (.ofText "attributes".toList, .collection 2)],
        .list [.ofText "(?".toList, .ofText "a|\\".toList, .ofText []],
        .mapping [(.ofText "/^s|-box$/i".toList, .collection 3), (.ofText "(*".toList, .collection 3)],
        .list [.ofText "title".toList]]⟩
    ∃ options, optionsOf data = .ok options ∧
      ∃ rule, Rule.ofOptions options .warning = .ok rule ∧
        ∀ tree path report, ∃ outcome, rule.scan tree path report = .ok outcome := by
  intro data
  have hfree : ((optionsOf data).toOption.bind fun options =>
      (Targets.ofAttributes options.attributes).toOption).any (fun targets =>
        targets.patterns.all fun entry => !entry.1.regex.captures) = true := by
    decide +kernel
  cases haccepted : optionsOf data with
  | error error =>
    rw [haccepted] at hfree
    cases hfree
  | ok options =>
    obtain ⟨_, rule, targets, hrule, htargets, _, _, hscans⟩ := scan_of_accepted haccepted .warning
    rw [haccepted] at hfree
    simp only [Except.toOption, Option.bind_some, htargets, Option.any_some, List.all_eq_true,
      Bool.not_eq_true'] at hfree
    exact ⟨options, rfl, rule, hrule, hscans hfree⟩

/-- Accepted options under which a scan breaks off. -/
theorem scan_of_accepted_without_answer :
    let data : Data := ⟨.collection 0,
      #[.mapping [(.ofText "attributes".toList, .collection 1)],
        .mapping [(.ofText "/((x)|y|z)*+/".toList, .collection 2)], .list [.ofText "title".toList]]⟩
    let tree : Tree := .node (.element ⟨"xyz".toList, ⟨1, 0⟩, []⟩ [])
    ∃ options, optionsOf data = .ok options ∧
      ∃ rule, Rule.ofOptions options .error = .ok rule ∧
        ∀ path report, rule.scan tree path report = .error (.analysis (.search .reversedGroup)) := by
  intro data tree
  let options : Options := { Options.default with
    attributes := [(wording "/((x)|y|z)*+/", [wording "title"])] }
  have haccepted : (optionsOf data).toOption = some options := by
    decide +kernel
  obtain ⟨targets, htargets, hcause⟩ := Rule.exists_ofTag_eq_error
  obtain ⟨rule, hrule, hoptions, _⟩ := Rule.ofOptions_eq_ok options .error
  have htargets : Targets.ofAttributes rule.options.attributes = .ok targets := hoptions ▸ htargets
  refine ⟨options, ?_, rule, hrule, Rule.scan_element_eq_error htargets _ _ hcause⟩
  · cases hread : optionsOf data with
    | error error =>
      rw [hread] at haccepted
      cases haccepted
    | ok found =>
      rw [hread] at haccepted
      exact congrArg _ (Option.some.inj haccepted)

end BareStrings.Config
