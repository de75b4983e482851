import BareStrings.Proofs.Rule.Findings
import BareStrings.Proofs.Rule.Walk
import BareStrings.Proofs.Rule.Whitelist
import BareStrings.Rule.Scan

namespace BareStrings

open BareStrings.Markup BareStrings.Regex BareStrings.Report BareStrings.Text

namespace Report

/-- A report with findings added one after another. -/
def addAll (report : Report) (found : List Finding) : Report := found.foldl Report.add report

/-- Findings are added behind those that a report holds. -/
@[simp]
theorem findings_addAll (report : Report) (found : List Finding) :
    (report.addAll found).findings = report.findings ++ found := by
  induction found generalizing report with
  | nil => simp [addAll]
  | cons finding found ih => simpa [addAll, add] using ih (report.add finding)

/-- Adding findings does not change the files that a report counts. -/
@[simp]
theorem files_addAll (report : Report) (found : List Finding) :
    (report.addAll found).files = report.files := by
  induction found generalizing report with
  | nil => rfl
  | cons finding found ih => exact ih (report.add finding)

private theorem addAll_append (report : Report) (found more : List Finding) :
    report.addAll (found ++ more) = (report.addAll found).addAll more := List.foldl_append

end Report

namespace Rule

/-- A rule can be made under any options. -/
theorem ofOptions_eq_ok (options : Options) (severity : Severity) :
    ∃ rule : Rule, ofOptions options severity = .ok rule ∧ rule.options = options ∧
      rule.severity = severity := by
  obtain ⟨whitelist, hwhitelist, _⟩ := Whitelist.exists_ofEntries options.whitelist
  refine ⟨⟨options, severity, whitelist⟩, ?_, rfl, rfl⟩
  rw [ofOptions, hwhitelist]
  rfl

/-- What a rule looks for, given the targets of its options. -/
def criteria (rule : Rule) (targets : Targets) : Criteria :=
  ⟨rule.whitelist, rule.options.directives, targets⟩

/-- The findings of a tree in a file, of which none depends on any other. -/
def findingsOf (rule : Rule) (targets : Targets) (tree : Tree) (path : List Char) :
    Except MatchError (List Finding) :=
  ((rule.criteria targets).ofTree tree).map fun found => found.map (rule.finding path)

/-- Scans trees one after another into one report. -/
def scanAll (rule : Rule) (scans : List (Tree × List Char)) (report : Report) :
    Except ScanError Report :=
  scans.foldlM (fun report scan => return (← rule.scan scan.1 scan.2 report).report) report

/-- The outcome of a scan that has findings to add, or what breaks it off. -/
def outcomeOf (report : Report) : Except MatchError (List Finding) → Except ScanError Outcome
  | .ok found => .ok ⟨report.addAll found, found.length⟩
  | .error cause => .error (.analysis (.search cause))

/-- A scan of one tree never gets out of order. It adds the findings of the tree, and breaks off if these
cannot be told. -/
theorem scan_eq {rule : Rule} {targets : Targets}
    (htargets : Targets.ofAttributes rule.options.attributes = .ok targets) (tree : Tree)
    (path : List Char) (report : Report) :
    rule.scan tree path report = outcomeOf report (rule.findingsOf targets tree path) := by
  let fresh : Analyzer := ⟨rule.whitelist, rule.options.directives, .ofTargets targets, []⟩
  have hanalyzer : rule.analyzer = .ok fresh := by
    rw [analyzer, htargets]
    rfl
  have hmeets := fresh.meets_treeEvents (Resolver.faithful_ofTargets targets) tree
  change fresh.Meets tree.events ((rule.criteria targets).ofTree tree) at hmeets
  rw [scan, hanalyzer, findingsOf]
  cases htree : (rule.criteria targets).ofTree tree with
  | error cause =>
    rw [htree] at hmeets
    obtain ⟨last, found, hrun⟩ := hmeets
    simp only [bind, Except.bind, hrun]
    rfl
  | ok found =>
    rw [htree] at hmeets
    obtain ⟨resolver, _, _, hrun⟩ := hmeets
    have hrun : fresh.run tree.events = (_, found, none) := hrun
    simp only [bind, Except.bind, hrun, Except.map, outcomeOf, addAll, List.foldl_map,
      List.length_map]
    rfl

/-- A rule that can tell its findings in all trees adds them tree by tree. -/
private theorem scanAll_eq_ok {rule : Rule} {targets : Targets}
    (htargets : Targets.ofAttributes rule.options.attributes = .ok targets)
    {scans : List (Tree × List Char)} {found : List (List Finding)}
    (hfound : scans.mapM (fun scan => rule.findingsOf targets scan.1 scan.2) = .ok found)
    (report : Report) : rule.scanAll scans report = .ok (report.addAll found.flatten) := by
  induction scans generalizing found report with
  | nil =>
    cases hfound
    rfl
  | cons scan scans ih =>
    rw [List.mapM_cons] at hfound
    obtain ⟨first, hfirst, hfound⟩ := bind_eq_ok_iff.1 hfound
    obtain ⟨later, hlater, hfound⟩ := bind_eq_ok_iff.1 hfound
    cases hfound
    have hscan := scan_eq htargets scan.1 scan.2 report
    rw [hfirst] at hscan
    rw [List.flatten_cons, addAll_append, ← ih hlater]
    simp only [scanAll, List.foldlM_cons, hscan, outcomeOf, bind, Except.bind, pure, Except.pure]

/-- Findings can be told exactly if the attributes to check can be told on all elements. -/
theorem exists_findingsOf_iff (rule : Rule) {targets : Targets} {tree : Tree} (path : List Char) :
    (∃ found, rule.findingsOf targets tree path = .ok found) ↔ targets.Tell tree.parts := by
  have htold := (rule.criteria targets).exists_ofTree_iff tree
  rw [findingsOf]
  refine Iff.trans ?_ htold
  cases (rule.criteria targets).ofTree tree <;> simp [Except.map]

/-- A scan returns exactly if the attributes to check can be told on all elements. -/
theorem exists_scan_iff {rule : Rule} {targets : Targets}
    (htargets : Targets.ofAttributes rule.options.attributes = .ok targets) {tree : Tree}
    {path : List Char} {report : Report} :
    (∃ outcome, rule.scan tree path report = .ok outcome) ↔ targets.Tell tree.parts := by
  rw [scan_eq htargets, ← exists_findingsOf_iff rule path]
  cases rule.findingsOf targets tree path <;> simp [outcomeOf]

/-- Nothing breaks off a scan but a search without an answer. -/
theorem scan_eq_error {rule : Rule} {targets : Targets}
    (htargets : Targets.ofAttributes rule.options.attributes = .ok targets) {tree : Tree}
    {path : List Char} {report : Report} {error : ScanError}
    (herror : rule.scan tree path report = .error error) :
    ∃ cause, error = .analysis (.search cause) := by
  rw [scan_eq htargets] at herror
  cases hfound : rule.findingsOf targets tree path with
  | ok found =>
    rw [hfound] at herror
    cases herror
  | error cause =>
    rw [hfound] at herror
    exact ⟨cause, (Except.error.inj herror).symm⟩

/-- A scan of an element breaks off if the search for the attributes to check on it has no answer. -/
theorem scan_element_eq_error {rule : Rule} {targets : Targets}
    (htargets : Targets.ofAttributes rule.options.attributes = .ok targets) (tag : Tag)
    (children : List Node) {cause : MatchError} (hcause : targets.ofTag tag.rawName = .error cause)
    (path : List Char) (report : Report) :
    rule.scan (.node (.element tag children)) path report = .error (.analysis (.search cause)) := by
  have hfound : rule.findingsOf targets (.node (.element tag children)) path = .error cause := by
    simp only [findingsOf, Criteria.ofTree, Criteria.ofNode, criteria, hcause]
    rfl
  rw [scan_eq htargets, hfound]
  rfl

/-- A pattern that is read without fault, and a name in which the search for it has no answer. What is given
up inside a possessive repetition leaves a note of where its group begins, and that is behind the end that an
earlier round has noted. -/
theorem exists_ofTag_eq_error :
    ∃ targets, Targets.ofAttributes [(wording "/((x)|y|z)*+/", [wording "title"])] = .ok targets ∧
      targets.ofTag "xyz".toList = .error .reversedGroup := by
  have hsearch : ((Targets.ofAttributes [(wording "/((x)|y|z)*+/", [wording "title"])]).toOption.bind
      fun targets =>
        match targets.ofTag "xyz".toList with
        | .error cause => some cause
        | .ok _ => none) = some .reversedGroup := by
    decide +kernel
  cases htargets : Targets.ofAttributes [(wording "/((x)|y|z)*+/", [wording "title"])] with
  | error cause =>
    rw [htargets] at hsearch
    cases hsearch
  | ok targets =>
    rw [htargets] at hsearch
    simp only [Except.toOption, Option.bind_some] at hsearch
    split at hsearch
    · rename_i cause hcause
      cases hsearch
      exact ⟨targets, rfl, hcause⟩
    · cases hsearch

/-- Under options whose selectors compile, scans never get out of order. Each adds the findings that
the tree has by itself behind those that were there, and several scans with one rule add what each
of them adds. A scan breaks off exactly if a search for a pattern in the name of an element has no
answer, which needs a pattern that notes groups. -/
theorem scan_appends_findings {options : Options} {targets : Targets}
    (htargets : Targets.ofAttributes options.attributes = .ok targets) (severity : Severity) :
    ∃ rule : Rule, ofOptions options severity = .ok rule ∧ rule.options = options ∧
      rule.severity = severity ∧
      (∀ tree path report found, rule.findingsOf targets tree path = .ok found →
        ∃ outcome, rule.scan tree path report = .ok outcome ∧
          outcome.report.findings = report.findings ++ found ∧
          outcome.report.files = report.files) ∧
      (∀ tree path report cause, rule.findingsOf targets tree path = .error cause →
        rule.scan tree path report = .error (.analysis (.search cause))) ∧
      (∀ tree path, (∃ found, rule.findingsOf targets tree path = .ok found) ↔
        targets.Tell tree.parts) ∧
      ((∀ entry ∈ targets.patterns, entry.1.regex.captures = false) →
        ∀ parts, targets.Tell parts) ∧
      ∀ scans report found,
        scans.mapM (fun scan => rule.findingsOf targets scan.1 scan.2) = .ok found →
        ∃ last, rule.scanAll scans report = .ok last ∧
          last.findings = report.findings ++ found.flatten ∧ last.files = report.files := by
  obtain ⟨rule, hrule, hoptions, hseverity⟩ := ofOptions_eq_ok options severity
  rw [← hoptions] at htargets
  refine ⟨rule, hrule, hoptions, hseverity, ?_, ?_, fun _ path => exists_findingsOf_iff rule path, ?_, ?_⟩
  · intro tree path report found hfound
    refine ⟨_, (scan_eq htargets tree path report).trans (congrArg _ hfound), ?_, ?_⟩
    · exact findings_addAll report found
    · exact files_addAll report found
  · intro tree path report cause hcause
    exact (scan_eq htargets tree path report).trans (congrArg _ hcause)
  · exact fun hfree parts tag _ => Targets.exists_ofTag hfree tag.rawName
  · intro scans report found hfound
    exact ⟨_, scanAll_eq_ok htargets hfound report, by simp, by simp⟩

/-- An element in another one is judged by its own name: `label` counts on the outer element, whose
Pascal case has an entry, and `title` on the inner one, whose name a pattern matches. -/
theorem scan_nested_elements :
    let options : Options :=
      ⟨[wording "."],
        [(wording "/^s/", [wording "title"]), (wording "InputBox", [wording "label"])], []⟩
    let label (place : Position) : Attribute := .plain "label".toList (some ⟨"Hi.".toList, place⟩) place
    let title (place : Position) : Attribute := .plain "title".toList (some ⟨"Hi.".toList, place⟩) place
    let inner : Node := .element ⟨"s".toList, ⟨1, 5⟩, [label ⟨1, 6⟩, title ⟨1, 7⟩]⟩ []
    let outer : Node :=
      .element ⟨"input-box".toList, ⟨1, 0⟩, [label ⟨1, 1⟩, title ⟨1, 2⟩]⟩
        [inner, .text "...".toList ⟨1, 8⟩]
    (∃ targets, Targets.ofAttributes options.attributes = .ok targets) ∧
      ∃ rule : Rule, ofOptions options .warning = .ok rule ∧
        ∀ report, ∃ outcome, rule.scan (.node outer) [] report = .ok outcome ∧
          outcome.report.findings = report.findings ++
            [⟨.inAttribute, [], 1, 1, .warning, ruleName, some "label".toList⟩,
             ⟨.inAttribute, [], 1, 7, .warning, ruleName, some "title".toList⟩] := by
  intro options label title inner outer
  have htargets : ∃ targets, Targets.ofAttributes options.attributes = .ok targets := ⟨_, rfl⟩
  refine ⟨htargets, ?_⟩
  have hfound : ((ofOptions options .warning).toOption.bind fun rule =>
      (Targets.ofAttributes options.attributes).toOption.bind fun targets =>
        (rule.findingsOf targets (.node outer) []).toOption) =
      some [⟨.inAttribute, [], 1, 1, .warning, ruleName, some "label".toList⟩,
        ⟨.inAttribute, [], 1, 7, .warning, ruleName, some "title".toList⟩] := by
    decide +kernel
  obtain ⟨targets, htargets⟩ := htargets
  obtain ⟨rule, hrule, _, _, hscan, _⟩ := scan_appends_findings htargets .warning
  refine ⟨rule, hrule, fun report => ?_⟩
  rw [hrule, htargets] at hfound
  simp only [Except.toOption, Option.bind_some] at hfound
  cases htold : rule.findingsOf targets (.node outer) [] with
  | error cause =>
    rw [htold] at hfound
    cases hfound
  | ok found =>
    rw [htold] at hfound
    obtain ⟨outcome, houtcome, hfindings, _⟩ := hscan (.node outer) [] report found htold
    exact ⟨outcome, houtcome, hfindings.trans (congrArg _ (Option.some.inj hfound))⟩

/-- A pattern that is read without fault, and an element in whose name the search for it has no answer.
The text in the element is not reported. -/
theorem scan_search_without_answer :
    let options : Options := ⟨[], [(wording "/((x)|y|z)*+/", [wording "title"])], []⟩
    let tree : Tree :=
      .node (.element ⟨"xyz".toList, ⟨1, 0⟩, []⟩ [.text "hello".toList ⟨1, 5⟩])
    (∃ targets, Targets.ofAttributes options.attributes = .ok targets) ∧
      ∃ rule : Rule, ofOptions options .error = .ok rule ∧
        ∀ path report,
          rule.scan tree path report = .error (.analysis (.search .reversedGroup)) := by
  intro options tree
  obtain ⟨targets, htargets, hcause⟩ := exists_ofTag_eq_error
  obtain ⟨rule, hrule, hoptions, _⟩ := ofOptions_eq_ok options .error
  have hrules : Targets.ofAttributes rule.options.attributes = .ok targets := hoptions ▸ htargets
  exact ⟨⟨targets, htargets⟩, rule, hrule, scan_element_eq_error hrules _ _ hcause⟩

end Rule

end BareStrings
