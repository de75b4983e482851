import BareStrings.Proofs.Markup.Decoded
import BareStrings.Proofs.Rule.Scan

namespace BareStrings

open BareStrings.Markup BareStrings.Report BareStrings.Text

namespace Rule

/-- The name that an attribute is reported under, if it has a value that can be a bare string. -/
def reportedName? : Attribute → Option (List Char)
  | .plain rawName (some _) _ => some rawName
  | .directive key (some value) _ => (stringOf? value).map fun _ => key.directiveName
  | _ => none

/-- The names of the directives whose values have a grammar of their own. -/
def silentNames : List (List Char) := StartTag.ownGrammarNames.map fun name => 'v' :: '-' :: name

/-- Each of these names is read as that of a directive, so no plain attribute bears one. -/
theorem isSome_parse?_of_mem_silentNames {name : List Char} (hname : name ∈ silentNames) :
    (DirectiveKey.parse? name).isSome = true := by
  have hall : ∀ name ∈ silentNames, (DirectiveKey.parse? name).isSome = true := by decide
  exact hall name hname

/-- What a directive with a grammar of its own binds is no string. -/
theorem stringOf?_boundExpression {key : DirectiveKey} (hname : key.directiveName ∈ silentNames)
    {text : List Char} {expression : Option Expression}
    (hbound : StartTag.boundExpression key text = .ok expression) (position : Position) :
    stringOf? ⟨expression, position⟩ = none := by
  have hown : key.name ∈ StartTag.ownGrammarNames := by
    simpa [silentNames, DirectiveKey.directiveName] using hname
  obtain ⟨found, _, hbound⟩ := bind_eq_ok_iff.1 hbound
  cases found with
  | none =>
    obtain rfl := Except.ok.inj hbound
    rfl
  | some found =>
    simp only [List.contains_iff_mem.2 hown, if_true] at hbound
    obtain rfl := Except.ok.inj hbound
    rfl

/-- An attribute that is decoded from source is not reported under such a name. -/
theorem reportedName?_of_isDecoded {written : Attribute} (hdecoded : written.IsDecoded)
    {name : List Char} (hreported : reportedName? written = some name) : name ∉ silentNames := by
  obtain ⟨raw, hdecode⟩ := hdecoded
  intro hname
  obtain ⟨value, hkey, rfl⟩ | ⟨key, _, rfl | ⟨text, expression, place, hbound, rfl⟩⟩ :=
    RawAttribute.decode_cases hdecode
  · cases value with
    | none => cases hreported
    | some value =>
      cases hreported
      have hparsed := isSome_parse?_of_mem_silentNames hname
      rw [hkey] at hparsed
      cases hparsed
  · cases hreported
  · obtain ⟨codes, hcodes, rfl⟩ := Option.map_eq_some_iff.1 hreported
    rw [stringOf?_boundExpression hname hbound place] at hcodes
    cases hcodes

namespace Analyzer

/-- All that a step reports under a name is a value of the attribute that it takes in. -/
theorem owner_step {analyzer next : Analyzer} {event : Event} {found : List BareString}
    (hstep : analyzer.step event = .ok (next, found)) {bare : BareString} (hbare : bare ∈ found)
    {name : List Char} (howner : bare.owner = some name) :
    ∃ written, event = .attr written ∧ reportedName? written = some name := by
  match event with
  | .enter tag =>
    obtain ⟨_, _, hstep⟩ := bind_eq_ok_iff.1 hstep
    cases hstep
    cases hbare
  | .exit tag =>
    simp only [step] at hstep
    split at hstep
    · cases hstep
    · cases hstep
      cases hbare
  | .text value position =>
    cases hstep
    unfold checkText at hbare
    split at hbare
    · rw [List.mem_singleton.1 hbare] at howner
      cases howner
    · cases hbare
  | .interpolation expression position =>
    cases hstep
    cases hbare
  | .attr (.plain rawName none position) =>
    cases hstep
    cases hbare
  | .attr (.directive key none position) =>
    cases hstep
    cases hbare
  | .attr (.plain rawName (some value) position) =>
    obtain ⟨entered, _, hstep⟩ := bind_eq_ok_iff.1 hstep
    cases hstep
    unfold checkPlain at hbare
    split at hbare
    · rw [List.mem_singleton.1 hbare] at howner
      exact ⟨_, rfl, howner⟩
    · cases hbare
  | .attr (.directive key (some value) position) =>
    cases hstep
    unfold checkDirective at hbare
    split at hbare
    · rename_i hchecked
      rw [List.mem_singleton.1 hbare] at howner
      refine ⟨_, rfl, ?_⟩
      rw [Bool.and_eq_true, Option.any_eq_true] at hchecked
      obtain ⟨_, codes, hcodes, _⟩ := hchecked
      rw [reportedName?, hcodes]
      exact howner
    · cases hbare

/-- The same for all that a run reports, also one that breaks off. -/
theorem owner_run {analyzer : Analyzer} {events : List Event} {bare : BareString}
    (hbare : bare ∈ (analyzer.run events).2.1) {name : List Char} (howner : bare.owner = some name) :
    ∃ written, .attr written ∈ events ∧ reportedName? written = some name := by
  induction events generalizing analyzer with
  | nil => cases hbare
  | cons event events ih =>
    unfold run at hbare
    split at hbare
    · cases hbare
    · rename_i next found hstep
      rcases List.mem_append.1 hbare with hnow | hlater
      · obtain ⟨written, rfl, hreported⟩ := owner_step hstep hnow howner
        exact ⟨written, List.mem_cons_self, hreported⟩
      · obtain ⟨written, hwritten, hreported⟩ := ih hlater
        exact ⟨written, List.mem_cons_of_mem _ hwritten, hreported⟩

end Analyzer

/-- The findings that a scan adds to a report come from what its analyzer reports. -/
theorem scan_eq_ok {rule : Rule} {tree : Tree} {path : List Char} {report : Report} {outcome : Outcome}
    (hscan : rule.scan tree path report = .ok outcome) :
    ∃ analyzer, rule.analyzer = .ok analyzer ∧
      outcome.report.findings =
        report.findings ++ (analyzer.run tree.events).2.1.map (rule.finding path) := by
  rw [scan, bind_eq_ok_iff] at hscan
  obtain ⟨analyzer, hanalyzer, hscan⟩ := hscan
  refine ⟨analyzer, hanalyzer, ?_⟩
  cases herror : (analyzer.run tree.events).2.2 with
  | some cause =>
    simp only [herror] at hscan
    cases hscan
  | none =>
    simp only [herror] at hscan
    obtain rfl := Except.ok.inj hscan
    rw [← List.foldl_map]
    exact findings_addAll report _

/-- However a directive whose value has a grammar of its own is written in a source and whatever its value,
nothing is reported under its name: neither by a scan nor by one that breaks off, and under no options. -/
theorem owner_not_mem_silentNames {source : List Char} {document : Document}
    (hparse : parseTemplate source = .ok document) (options : Options) (severity : Severity) :
    ∃ rule : Rule, ofOptions options severity = .ok rule ∧
      (∀ analyzer, rule.analyzer = .ok analyzer →
        ∀ bare ∈ (analyzer.run (Tree.document document).events).2.1,
          ∀ name ∈ ["v-on", "v-slot", "v-for"].map String.toList, bare.owner ≠ some name) ∧
      ∀ path report outcome, rule.scan (.document document) path report = .ok outcome →
        ∃ found, outcome.report.findings = report.findings ++ found ∧
          ∀ finding ∈ found, ∀ name ∈ ["v-on", "v-slot", "v-for"].map String.toList,
            finding.owner ≠ some name := by
  have hsilent : ["v-on", "v-slot", "v-for"].map String.toList = silentNames := rfl
  have howner : ∀ analyzer : Analyzer, ∀ bare ∈ (analyzer.run (Tree.document document).events).2.1,
      ∀ name ∈ silentNames, bare.owner ≠ some name := by
    intro analyzer bare hbare name hname howner
    obtain ⟨written, hwritten, hreported⟩ := Analyzer.owner_run hbare howner
    have hdecoded := isDecoded_of_mem_nodesEvents (allDecoded_parseTemplate hparse) hwritten
    exact reportedName?_of_isDecoded hdecoded hreported hname
  obtain ⟨rule, hrule, _, _⟩ := ofOptions_eq_ok options severity
  rw [hsilent]
  refine ⟨rule, hrule, fun analyzer _ => howner analyzer, ?_⟩
  intro path report outcome hscan
  obtain ⟨analyzer, _, hfindings⟩ := scan_eq_ok hscan
  refine ⟨_, hfindings, ?_⟩
  intro finding hfinding
  obtain ⟨bare, hbare, rfl⟩ := List.mem_map.1 hfinding
  exact howner analyzer bare hbare

/-- The same string constant in all spellings of these directives, which are asked for as directives and as
attributes. It is reported for `v-text` alone. -/
theorem owner_not_mem_silentNames_spellings :
    let source := "<a v-on:x=\"'Hi'\" @x=\"'Hi'\" #x=\"'Hi'\" v-slot=\"'Hi'\" v-for=\"'Hi'\" v-text=\"'Hi'\">"
    let names := ["v-on", "v-slot", "v-for"].map String.toList
    let options : Options := ⟨[], [(wording "a", names.map codePoints)], wording "v-text" :: names.map codePoints⟩
    ∃ document, parseTemplate source.toList = .ok document ∧
      ∃ rule : Rule, ofOptions options .error = .ok rule ∧
        ∃ outcome, rule.scan (.document document) [] .empty = .ok outcome ∧
          outcome.report.findings.map (·.owner) = [some "v-text".toList] ∧
          ∃ found, outcome.report.findings = Report.empty.findings ++ found ∧
            ∀ finding ∈ found, ∀ name ∈ names, finding.owner ≠ some name := by
  intro source names options
  have howners : ((parseTemplate source.toList).toOption.bind fun document =>
      (ofOptions options .error).toOption.bind fun rule =>
        (rule.scan (.document document) [] .empty).toOption.map fun outcome =>
          outcome.report.findings.map (·.owner)) = some [some "v-text".toList] := by
    decide +kernel
  cases hparse : parseTemplate source.toList with
  | error error =>
    rw [hparse] at howners
    cases howners
  | ok document =>
    obtain ⟨rule, hrule, _, hscans⟩ := owner_not_mem_silentNames hparse options .error
    rw [hparse, hrule] at howners
    simp only [Except.toOption, Option.bind_some] at howners
    cases hscan : rule.scan (.document document) [] .empty with
    | error error =>
      rw [hscan] at howners
      cases howners
    | ok outcome =>
      rw [hscan] at howners
      exact ⟨document, rfl, rule, hrule, outcome, hscan, Option.some.inj howners,
        hscans [] .empty outcome hscan⟩

end Rule

end BareStrings
