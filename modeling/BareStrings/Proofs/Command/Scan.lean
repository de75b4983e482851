import BareStrings.Command.Scan
import BareStrings.Proofs.Markup.Passage
import BareStrings.Proofs.Rule.Scan

namespace BareStrings

open BareStrings.Files BareStrings.Markup BareStrings.Report BareStrings.Text

namespace Report

/-- A report, and behind it another one. -/
def join (report more : Report) : Report where
  summary :=
    ⟨report.summary.error + more.summary.error, report.summary.warning + more.summary.warning⟩
  findings := report.findings ++ more.findings
  files := report.files ++ more.files

@[simp]
theorem findings_join (report more : Report) :
    (report.join more).findings = report.findings ++ more.findings := rfl

@[simp]
theorem files_join (report more : Report) : (report.join more).files = report.files ++ more.files := rfl

@[simp]
theorem join_empty (report : Report) : report.join .empty = report := by simp [join, empty]

@[simp]
theorem empty_join (report : Report) : empty.join report = report := by simp [join, empty]

private theorem join_assoc (first second third : Report) :
    (first.join second).join third = first.join (second.join third) := by
  simp [join, Nat.add_assoc]

private theorem join_addFile (report more : Report) (path : List Char) :
    (report.join more).addFile path = report.join (more.addFile path) := by
  simp [join, addFile]

private theorem join_add (report more : Report) (finding : Finding) :
    (report.join more).add finding = report.join (more.add finding) := by
  cases hseverity : finding.severity <;>
    simp [join, add, Summary.increment, hseverity, Nat.add_assoc]

private theorem join_addAll (report more : Report) (found : List Finding) :
    (report.join more).addAll found = report.join (more.addAll found) := by
  induction found generalizing more with
  | nil => rfl
  | cons finding found ih =>
    have hstep := ih (more.add finding)
    rw [← join_add] at hstep
    exact hstep

/-- Reports one after another, as one. -/
def concat (reports : List Report) : Report := reports.foldr join .empty

@[simp]
theorem concat_nil : concat [] = .empty := rfl

@[simp]
theorem concat_cons (report : Report) (reports : List Report) :
    concat (report :: reports) = report.join (concat reports) := rfl

private theorem concat_append (reports others : List Report) :
    concat (reports ++ others) = (concat reports).join (concat others) := by
  induction reports with
  | nil => simp
  | cons report reports ih => simp [ih, join_assoc]

@[simp]
theorem findings_concat (reports : List Report) :
    (concat reports).findings = reports.flatMap (·.findings) := by
  induction reports with
  | nil => rfl
  | cons report reports ih => simp [ih]

@[simp]
theorem files_concat (reports : List Report) : (concat reports).files = reports.flatMap (·.files) := by
  induction reports with
  | nil => rfl
  | cons report reports ih => simp [ih]

/-- Reports that are made of items one by one, up to the first failure, are what a function makes of them. -/
theorem mapM_eq_ok_iff {α ε : Type} {f : α → Except ε Report} {items : List α} {reports : List Report} :
    items.mapM f = .ok reports ↔
      ∃ g : α → Report, (∀ item ∈ items, f item = .ok (g item)) ∧ reports = items.map g := by
  constructor
  · intro hmap
    refine ⟨fun item => (f item).toOption.getD .empty, ?_⟩
    induction items generalizing reports with
    | nil =>
      cases hmap
      exact ⟨nofun, rfl⟩
    | cons item items ih =>
      rw [List.mapM_cons] at hmap
      obtain ⟨first, hfirst, hmap⟩ := bind_eq_ok_iff.1 hmap
      obtain ⟨later, hlater, hmap⟩ := bind_eq_ok_iff.1 hmap
      cases hmap
      obtain ⟨hitems, hreports⟩ := ih hlater
      refine ⟨List.forall_mem_cons.2 ⟨?_, hitems⟩, ?_⟩
      · simp [hfirst, Except.toOption]
      · rw [List.map_cons, ← hreports]
        simp [hfirst, Except.toOption]
  · rintro ⟨g, hitems, rfl⟩
    induction items with
    | nil => rfl
    | cons item items ih =>
      obtain ⟨hfirst, hlater⟩ := List.forall_mem_cons.1 hitems
      rw [List.mapM_cons, hfirst, ih hlater]
      rfl

end Report

/-- What a scan finds, and whether it fails, does not depend on the report that it is added to. -/
theorem Rule.exists_scan_eq (rule : Rule) (tree : Tree) (path : List Char) :
    ∃ result : Except ScanError (List BareString),
      ∀ report, rule.scan tree path report = result.map fun found =>
        ⟨report.addAll (found.map (rule.finding path)), found.length⟩ := by
  cases hanalyzer : rule.analyzer with
  | error cause =>
    refine ⟨.error cause, fun report => ?_⟩
    rw [Rule.scan, hanalyzer]
    rfl
  | ok analyzer =>
    cases hrun : analyzer.run tree.events with | mk last rest
    obtain ⟨found, error⟩ := rest
    cases error with
    | some cause =>
      refine ⟨.error (.analysis cause), fun report => ?_⟩
      simp only [Rule.scan, hanalyzer, bind, Except.bind, hrun]
      rfl
    | none =>
      refine ⟨.ok found, fun report => ?_⟩
      simp only [Rule.scan, hanalyzer, bind, Except.bind, hrun, addAll, List.foldl_map]
      rfl

namespace Command

/-- A scan of one file, whatever has been reported before it, is the scan of that file alone. -/
theorem scanFile_join (rule : Rule) (files : FileTree) (path : Path) (report more : Report) :
    scanFile rule files path (report.join more) =
      ((scanFile rule files path more).1, (scanFile rule files path more).2.map report.join) := by
  unfold scanFile
  split
  · rfl
  · rfl
  · rename_i tree _
    obtain ⟨result, hscan⟩ := rule.exists_scan_eq tree path.text
    rw [join_addFile, hscan, hscan]
    cases result with
    | error cause => rfl
    | ok found => simp only [Except.map, join_addAll]

/-- What a scan of one file alone reports. -/
def reportOf (rule : Rule) (files : FileTree) (path : Path) : Except RunError Report :=
  (scanFile rule files path .empty).2

private theorem scanFile_report (rule : Rule) (files : FileTree) (path : Path) (report : Report) :
    (scanFile rule files path report).2 = (reportOf rule files path).map report.join := by
  have hscan := scanFile_join rule files path report .empty
  rw [join_empty] at hscan
  rw [hscan]
  rfl

/-- Whether there is something to look at in the file at a path. -/
def hasTree (files : FileTree) (path : Path) : Bool :=
  match treeAt? files path with
  | .ok (some _) => true
  | _ => false

/-- A scan of one file alone reports the file, if there is something to look at, and findings in that file
only. -/
theorem reportOf_eq_ok {rule : Rule} {files : FileTree} {path : Path} {report : Report}
    (hreport : reportOf rule files path = .ok report) :
    (report.files = if hasTree files path then [path.text] else []) ∧
      ∀ finding ∈ report.findings, finding.path = path.text ∧ hasTree files path = true := by
  unfold reportOf scanFile at hreport
  unfold hasTree
  split at hreport
  · cases hreport
  · rename_i hnone
    cases hreport
    simp [hnone, empty]
  · rename_i tree hsome
    obtain ⟨result, hscan⟩ := rule.exists_scan_eq tree path.text
    rw [hscan] at hreport
    cases result with
    | error cause => cases hreport
    | ok found =>
      cases hreport
      simp [hsome, addFile, empty, Rule.finding]

/-- A run over files reports what a scan of each alone reports, one after the other. -/
theorem scanFiles_report (rule : Rule) (files : FileTree) (paths : List Path) (report : Report) :
    (scanFiles rule files paths report).2 =
      (paths.mapM (reportOf rule files)).map fun reports => report.join (concat reports) := by
  induction paths generalizing report with
  | nil => simp [scanFiles, pure, Except.pure, Except.map]
  | cons path paths ih =>
    have hfirst := scanFile_report rule files path report
    rw [List.mapM_cons, scanFiles]
    cases hscan : scanFile rule files path report with
    | mk log result =>
      rw [hscan] at hfirst
      cases hreport : reportOf rule files path with
      | error cause =>
        rw [hreport] at hfirst
        simp only at hfirst
        subst hfirst
        rfl
      | ok alone =>
        rw [hreport] at hfirst
        simp only at hfirst
        subst hfirst
        simp only [Except.map, ih, bind, Except.bind]
        cases paths.mapM (reportOf rule files) with
        | error cause => rfl
        | ok later => simp [pure, Except.pure, join_assoc]

/-- The templates at a path and then those at others. -/
theorem templates_cons_eq_none {files : FileTree} {suffixes : List (List Char)} {root : Path}
    {roots : List Path} {found : List Path} :
    files.templates suffixes (root :: roots) = (found, none) ↔
      ∃ first later, files.templatesAt suffixes root = (first, none) ∧
        files.templates suffixes roots = (later, none) ∧ found = first ++ later := by
  rw [FileTree.templates]
  obtain ⟨first, error⟩ := files.templatesAt suffixes root
  cases error with
  | some cause => simp
  | none =>
    obtain ⟨later, error⟩ := files.templates suffixes roots
    cases error with
    | some cause => simp
    | none => simp [eq_comm]

/-- A run over some paths reports what a scan of each template there alone reports, one after the other. -/
theorem scanPaths_eq_ok_iff {rule : Rule} {files : FileTree} {roots : List Path} {report : Report} :
    (scanPaths rule files roots).2 = .ok report ↔
      ∃ found reports, files.templates templateSuffixes roots = (found, none) ∧
        found.mapM (reportOf rule files) = .ok reports ∧ report = concat reports := by
  unfold scanPaths
  obtain ⟨found, error⟩ := files.templates templateSuffixes roots
  have hfiles := scanFiles_report rule files found .empty
  cases hscan : scanFiles rule files found .empty with | mk log result
  rw [hscan] at hfiles
  simp only at hfiles
  cases hreports : found.mapM (reportOf rule files) with
  | error cause =>
    rw [hfiles, hreports, Except.map] at hscan
    cases error <;> simp [hscan, hreports]
  | ok reports =>
    rw [hfiles, hreports, Except.map, empty_join] at hscan
    cases error <;> simp [hscan, hreports, eq_comm]

/-- A run over some paths reports what a run over the first alone reports, and then what a run over the
others reports. -/
theorem scanPaths_cons_eq_ok_iff {rule : Rule} {files : FileTree} {root : Path} {roots : List Path}
    {report : Report} :
    (scanPaths rule files (root :: roots)).2 = .ok report ↔
      ∃ first later, (scanPaths rule files [root]).2 = .ok first ∧
        (scanPaths rule files roots).2 = .ok later ∧ report = first.join later := by
  simp only [scanPaths_eq_ok_iff, templates_cons_eq_none]
  constructor
  · rintro ⟨_, reports, ⟨first, later, hfirst, hlater, rfl⟩, hreports, rfl⟩
    rw [List.mapM_append] at hreports
    obtain ⟨firsts, hfirsts, hreports⟩ := bind_eq_ok_iff.1 hreports
    obtain ⟨laters, hlaters, hreports⟩ := bind_eq_ok_iff.1 hreports
    cases hreports
    refine ⟨concat firsts, concat laters, ⟨first, firsts, ⟨first, [], hfirst, rfl, by simp⟩, hfirsts, rfl⟩,
      ⟨later, laters, hlater, hlaters, rfl⟩, concat_append firsts laters⟩
  · rintro ⟨_, _, ⟨_, firsts, ⟨first, _, hfirst, hnothing, rfl⟩, hfirsts, rfl⟩,
      ⟨later, laters, hlater, hlaters, rfl⟩, rfl⟩
    cases hnothing
    rw [List.append_nil] at hfirsts
    refine ⟨_, firsts ++ laters, ⟨first, later, hfirst, hlater, rfl⟩, ?_, (concat_append firsts laters).symm⟩
    rw [List.mapM_append, hfirsts, hlaters]
    rfl

/-- A run over some paths reports what a run over each of them alone reports, one after the other. -/
theorem scanPaths_eq_ok_iff_mapM {rule : Rule} {files : FileTree} {roots : List Path} {report : Report} :
    (scanPaths rule files roots).2 = .ok report ↔
      ∃ blocks, roots.mapM (fun root => (scanPaths rule files [root]).2) = .ok blocks ∧
        report = concat blocks := by
  induction roots generalizing report with
  | nil => simp [scanPaths, FileTree.templates, scanFiles, pure, Except.pure, eq_comm]
  | cons root roots ih =>
    rw [scanPaths_cons_eq_ok_iff, List.mapM_cons]
    constructor
    · rintro ⟨first, later, hfirst, hlater, rfl⟩
      obtain ⟨blocks, hblocks, rfl⟩ := ih.1 hlater
      exact ⟨first :: blocks, by rw [hfirst, hblocks]; rfl, rfl⟩
    · rintro ⟨blocks, hblocks, rfl⟩
      obtain ⟨first, hfirst, hblocks⟩ := bind_eq_ok_iff.1 hblocks
      obtain ⟨later, hlater, hblocks⟩ := bind_eq_ok_iff.1 hblocks
      cases hblocks
      exact ⟨first, concat later, hfirst, ih.2 ⟨later, hlater, rfl⟩, rfl⟩

private theorem files_concat_map {files : FileTree} {found : List Path} {alone : Path → Report}
    (halone : ∀ path ∈ found, (alone path).files = if hasTree files path then [path.text] else []) :
    (concat (found.map alone)).files = (found.filter (hasTree files)).map Path.text := by
  induction found with
  | nil => rfl
  | cons path found ih =>
    obtain ⟨hfirst, hlater⟩ := List.forall_mem_cons.1 halone
    rw [List.map_cons, concat_cons, files_join, hfirst, ih hlater, List.filter_cons]
    split <;> simp

/-- Files do not influence one another. A run that is not broken off looks at the templates that are found
and have something to look at, in that order, and reports what a scan of each of them with a rule and a report
of its own finds. If the paths are given in another order, the run over them is not broken off either, and
the parts of the report that belong to each path are in that order. -/
theorem scanPaths_independent {options : Rule.Options} {severity : Severity} {rule : Rule}
    (hrule : Rule.ofOptions options severity = .ok rule) {files : FileTree} {roots : List Path}
    {report : Report} (hscan : (scanPaths rule files roots).2 = .ok report) :
    ∃ (found : List Path) (alone block : Path → Report),
      files.templates templateSuffixes roots = (found, none) ∧
      (∀ path ∈ found, ∀ fresh, Rule.ofOptions options severity = .ok fresh →
        (scanFile fresh files path .empty).2 = .ok (alone path)) ∧
      report.files = (found.filter (hasTree files)).map Path.text ∧
      report.findings = found.flatMap (fun path => (alone path).findings) ∧
      (∀ path ∈ found, ∀ finding ∈ (alone path).findings,
        finding.path = path.text ∧ path.text ∈ report.files) ∧
      (∀ root ∈ roots, ∀ fresh, Rule.ofOptions options severity = .ok fresh →
        (scanPaths fresh files [root]).2 = .ok (block root)) ∧
      ∀ others, others.Perm roots → ∃ later, (scanPaths rule files others).2 = .ok later ∧
        later.files = others.flatMap (fun root => (block root).files) ∧
        later.findings = others.flatMap (fun root => (block root).findings) := by
  obtain ⟨blocks, hblocks, _⟩ := scanPaths_eq_ok_iff_mapM.1 hscan
  obtain ⟨block, hblock, _⟩ := mapM_eq_ok_iff.1 hblocks
  obtain ⟨found, reports, hfound, hreports, rfl⟩ := scanPaths_eq_ok_iff.1 hscan
  obtain ⟨alone, halone, rfl⟩ := mapM_eq_ok_iff.1 hreports
  have hsame : ∀ fresh, Rule.ofOptions options severity = .ok fresh → fresh = rule := by
    intro fresh hfresh
    rw [hrule] at hfresh
    exact (Except.ok.inj hfresh).symm
  have hfiles : (concat (found.map alone)).files = (found.filter (hasTree files)).map Path.text :=
    files_concat_map fun path hpath => (reportOf_eq_ok (halone path hpath)).1
  refine ⟨found, alone, block, hfound, ?_, hfiles, ?_, ?_, ?_, ?_⟩
  · intro path hpath fresh hfresh
    rw [hsame fresh hfresh]
    exact halone path hpath
  · rw [findings_concat, List.flatMap_map]
  · intro path hpath finding hfinding
    obtain ⟨hwhere, htree⟩ := (reportOf_eq_ok (halone path hpath)).2 finding hfinding
    refine ⟨hwhere, ?_⟩
    rw [hfiles]
    exact List.mem_map_of_mem (List.mem_filter.2 ⟨hpath, htree⟩)
  · intro root hroot fresh hfresh
    rw [hsame fresh hfresh]
    exact hblock root hroot
  · intro others hperm
    have hothers : others.mapM (fun root => (scanPaths rule files [root]).2) = .ok (others.map block) :=
      mapM_eq_ok_iff.2 ⟨block, fun root hroot => hblock root (hperm.mem_iff.1 hroot), rfl⟩
    refine ⟨concat (others.map block), scanPaths_eq_ok_iff_mapM.2 ⟨_, hothers, rfl⟩, ?_, ?_⟩
    · rw [files_concat, List.flatMap_map]
    · rw [findings_concat, List.flatMap_map]

/-- A page that is found twice, a component without a template, and a page in a directory that is skipped;
then the same paths the other way round. -/
theorem scanPaths_independent_pages :
    let files : FileTree :=
      ⟨[(["app".toList], .directory), (["app".toList, "a.vue".toList], .file "<script></script>".toUTF8),
        (["app".toList, "b.html".toList], .file "b<br>c".toUTF8), (["app".toList, "dist".toList], .directory),
        (["app".toList, "dist".toList, "d.html".toList], .file "d".toUTF8)], ["app".toList]⟩
    let page := Path.ofText "b.html".toList
    let directory := Path.ofText ".".toList
    ∃ rule report, Rule.ofOptions .default .error = .ok rule ∧
      (scanPaths rule files [page, directory]).2 = .ok report ∧
      files.templates templateSuffixes [page, directory] =
        ([page, Path.ofText "a.vue".toList, page], none) ∧
      report.files = ["b.html".toList, "b.html".toList] ∧
      report.findings.map (fun finding => (finding.path, finding.column)) =
        [("b.html".toList, 0), ("b.html".toList, 5), ("b.html".toList, 0), ("b.html".toList, 5)] ∧
      ∃ later, (scanPaths rule files [directory, page]).2 = .ok later ∧
        ∃ block : Path → Report,
          (∀ root ∈ [page, directory], (scanPaths rule files [root]).2 = .ok (block root)) ∧
          later.files = (block directory).files ++ (block page).files ∧
          later.findings = (block directory).findings ++ (block page).findings := by
  intro files page directory
  have hbelow : files.templatesBelow templateSuffixes ["app".toList] =
      [["a.vue".toList], ["b.html".toList]] := by
    have hfound : ((files.below ["app".toList]).filter
        (files.isTemplateBelow templateSuffixes ["app".toList])).eraseDups =
          [["a.vue".toList], ["b.html".toList]] := by
      decide +kernel
    rw [FileTree.templatesBelow, hfound]
    exact List.mergeSort_of_pairwise (by decide)
  have hpage : files.templatesAt templateSuffixes page = ([page], none) := rfl
  have hdirectory : files.templatesAt templateSuffixes directory =
      ([Path.ofText "a.vue".toList, page], none) := by
    have hfind : files.find directory = .ok (some (["app".toList], .directory)) := rfl
    have hdirectories : files.directoriesBelow ["app".toList] = [["dist".toList]] := rfl
    rw [FileTree.templatesAt, hfind]
    simp only [hdirectories, hbelow]
    rfl
  have htemplates : files.templates templateSuffixes [page, directory] =
      ([page, Path.ofText "a.vue".toList, page], none) := by
    simp [FileTree.templates, hpage, hdirectory]
  have hread : ((Rule.ofOptions .default .error).toOption.bind fun rule =>
      (scanFiles rule files [page, Path.ofText "a.vue".toList, page] .empty).2.toOption.map fun report =>
        (report.files, report.findings.map fun finding => (finding.path, finding.column))) =
      some (["b.html".toList, "b.html".toList],
        [("b.html".toList, 0), ("b.html".toList, 5), ("b.html".toList, 0), ("b.html".toList, 5)]) := by
    decide +kernel
  obtain ⟨rule, hrule, _⟩ := Rule.ofOptions_eq_ok .default .error
  rw [hrule] at hread
  simp only [Except.toOption, Option.bind_some] at hread
  have hpaths : (scanPaths rule files [page, directory]).2 =
      (scanFiles rule files [page, Path.ofText "a.vue".toList, page] .empty).2 := by
    simp [scanPaths, htemplates]
  cases hscan : (scanPaths rule files [page, directory]).2 with
  | error cause =>
    rw [← hpaths, hscan] at hread
    cases hread
  | ok report =>
    rw [← hpaths, hscan] at hread
    obtain ⟨hfiles, hfindings⟩ := Prod.mk.inj (Option.some.inj hread)
    obtain ⟨_, _, block, _, _, _, _, _, hblock, hothers⟩ := scanPaths_independent hrule hscan
    obtain ⟨later, hlater, hlaterFiles, hlaterFindings⟩ :=
      hothers [directory, page] (List.Perm.swap page directory [])
    exact ⟨rule, report, hrule, hscan, htemplates, hfiles, hfindings, later, hlater, block,
      fun root hroot => hblock root hroot rule hrule, by simpa using hlaterFiles,
      by simpa using hlaterFindings⟩

end Command

end BareStrings
