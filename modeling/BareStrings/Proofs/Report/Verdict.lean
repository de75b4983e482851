import Mathlib.Algebra.GroupWithZero.Nat
import BareStrings.Proofs.Rule.Scan
import BareStrings.Proofs.Text.Split
import BareStrings.Report.Json
import BareStrings.Report.Table

namespace BareStrings

namespace Text

private theorem not_mem_decimal {c : Char} (hdigit : c.isDigit = false) (n : Nat) : c ∉ decimal n := by
  intro hmem
  have hother := Nat.isDigit_of_mem_toDigits (by decide) (by decide) hmem
  exact Bool.false_ne_true (hdigit.symm.trans hother)

end Text

namespace Report

open BareStrings.Text

/-- No finding is an error. -/
def NoErrors (findings : List Finding) : Prop := ∀ finding ∈ findings, finding.severity ≠ .error

/-- The counts of a report are the numbers of its findings of each severity. -/
def Tallies (report : Report) : Prop :=
  ∀ severity, report.summary.count severity = report.findings.countP (·.severity = severity)

private theorem tallies_empty : Tallies empty := by
  intro severity
  cases severity <;> rfl

private theorem Summary.count_increment (summary : Summary) (severity other : Severity) :
    (summary.increment severity).count other = summary.count other + if severity = other then 1 else 0 := by
  cases severity <;> cases other <;> rfl

/-- Adding a finding counts it under its severity and under no other. -/
theorem Tallies.add {report : Report} (htallies : report.Tallies) (finding : Finding) :
    (report.add finding).Tallies := by
  intro severity
  simp only [Report.add, Summary.count_increment, htallies severity, List.countP_append, List.countP_singleton,
    decide_eq_true_eq]

private theorem Tallies.addAll {report : Report} (htallies : report.Tallies) (findings : List Finding) :
    (report.addAll findings).Tallies := by
  induction findings generalizing report with
  | nil => exact htallies
  | cons finding findings ih => exact ih (htallies.add finding)

/-- Every finding is counted once, so all counts together are the number of findings. -/
theorem Tallies.sum_rows {report : Report} (htallies : report.Tallies) :
    (report.summary.rows.map (·.2)).sum = report.findings.length := by
  have hsplit := report.findings.length_eq_countP_add_countP (·.severity = .error)
  have hwarning : report.findings.countP (fun finding => ¬decide (finding.severity = .error) = true) =
      report.findings.countP (·.severity = .warning) := by
    refine List.countP_congr fun finding _ => ?_
    cases finding.severity <;> decide
  rw [hsplit, hwarning]
  simp [Summary.rows, Severity.all, htallies _]

private theorem Summary.total_eq (summary : Summary) : summary.total = (summary.rows.map (·.2)).sum :=
  List.sum_eq_foldl.symm

/-- The counts tell whether there are errors. -/
theorem Tallies.passed_iff {report : Report} (htallies : report.Tallies) :
    report.passed = true ↔ NoErrors report.findings := by
  have herror : report.summary.error = report.findings.countP (·.severity = .error) := htallies .error
  rw [passed, beq_iff_eq, herror, List.countP_eq_zero]
  simp [NoErrors]

private theorem foldl_max_eq_zero_iff {findings : List Finding} {start : Nat} :
    findings.foldl (fun status finding => max status finding.severity.exitStatus) start = 0 ↔
      start = 0 ∧ ∀ finding ∈ findings, finding.severity.exitStatus = 0 := by
  induction findings generalizing start with
  | nil => simp
  | cons finding findings ih =>
    rw [List.foldl_cons, ih, List.forall_mem_cons, Nat.max_eq_zero_iff, and_assoc]

/-- The findings themselves tell it too. -/
theorem exitStatus_eq_zero_iff (report : Report) : report.exitStatus = 0 ↔ NoErrors report.findings := by
  have hstatus (severity : Severity) : severity.exitStatus = 0 ↔ severity ≠ .error := by
    cases severity <;> decide
  simp [exitStatus, foldl_max_eq_zero_iff, NoErrors, hstatus]

/-- The member of a JSON object with a name. -/
def Json.member? (name : List Char) : Json → Option Json
  | .object members => members.lookup name
  | _ => none

private theorem member?_passed (report : Report) :
    report.toJson.member? "passed".toList = some (.boolean report.passed) := rfl

/-- What stands before the status in a table. -/
def statusLabel : List Char := "Status    : ".toList

/-- The status that a table prints: the rest of the first of its lines that begins with the label. -/
def printedStatus? (table : List Char) : Option (List Char) :=
  ((splitOn '\n' table).find? (statusLabel.isPrefixOf ·)).map (·.drop statusLabel.length)

/-- The lines of a table before the status. -/
def countLines (summary : Summary) : List (List Char) :=
  let rule := List.replicate tableHeader.length '-'
  ["Lint Summary".toList, List.replicate 40 '=', tableHeader, rule] ++
    summary.rows.map (fun (severity, count) => tableRow severity.word (decimal count)) ++ [rule]

/-- What a table shows behind the status. -/
def linesBehind (report : Report) (limit : Int) : List (List Char) :=
  ["Files     : ".toList ++ decimal report.files.length, "Findings  : ".toList ++ decimal report.summary.total] ++
    if (report.topFindings limit).isEmpty then []
    else [[], "Top Findings".toList, List.replicate 40 '-'] ++ (report.topFindings limit).flatMap findingLines

private theorem tableLines_eq (report : Report) (limit : Int) :
    report.tableLines limit = countLines report.summary ++ report.statusLine :: report.linesBehind limit := by
  rw [tableLines, countLines, linesBehind]
  simp only [List.append_assoc, List.cons_append, List.nil_append]

/-- A sign of the words, bars and rules before the status. There is no `P` among the letters. -/
def isTableSign (c : Char) : Bool := c.isAlpha && c != 'P' || c == ' ' || c == '|' || c == '-' || c == '='

private theorem mem_tableRow {left right : List Char} {c : Char} (hc : c ∈ tableRow left right) :
    c ∈ left ∨ c ∈ right ∨ isTableSign c = true := by
  have hbar : " | ".toList.all isTableSign = true := by decide
  simp only [tableRow, padRight, padLeft, List.mem_append, List.mem_replicate] at hc
  obtain ((hleft | ⟨_, rfl⟩) | hmiddle) | ⟨_, rfl⟩ | hright := hc
  · exact .inl hleft
  · exact .inr (.inr rfl)
  · exact .inr (.inr (List.all_eq_true.1 hbar c hmiddle))
  · exact .inr (.inr rfl)
  · exact .inr (.inl hright)

private theorem all_word (severity : Severity) : severity.word.all isTableSign = true := by
  cases severity <;> decide

/-- Before the status there are only these signs and digits. -/
theorem not_mem_countLines {summary : Summary} {line : List Char} (hline : line ∈ countLines summary)
    {c : Char} (hdigit : c.isDigit = false) (hsign : isTableSign c = false) : c ∉ line := by
  have htitle : "Lint Summary".toList.all isTableSign = true := by decide
  have hleft : "Severity".toList.all isTableSign = true := by decide
  have hright : "Count".toList.all isTableSign = true := by decide
  intro hc
  suffices hother : isTableSign c = true from Bool.false_ne_true (hsign.symm.trans hother)
  simp only [countLines, List.mem_append, List.mem_cons, List.mem_map, List.not_mem_nil, or_false] at hline
  obtain ((rfl | rfl | rfl | rfl) | ⟨row, _, rfl⟩) | rfl := hline
  · exact List.all_eq_true.1 htitle c hc
  · exact (List.mem_replicate.1 hc).2 ▸ rfl
  · obtain hword | hword | hmark := mem_tableRow hc
    · exact List.all_eq_true.1 hleft c hword
    · exact List.all_eq_true.1 hright c hword
    · exact hmark
  · exact (List.mem_replicate.1 hc).2 ▸ rfl
  · obtain hword | hcount | hmark := mem_tableRow hc
    · exact List.all_eq_true.1 (all_word row.1) c hword
    · exact absurd hcount (not_mem_decimal hdigit row.2)
    · exact hmark
  · exact (List.mem_replicate.1 hc).2 ▸ rfl

private theorem statusLine_eq (report : Report) :
    report.statusLine = statusLabel ++ if report.passed then "PASS".toList else "FAIL".toList := rfl

private theorem not_mem_statusLine {report : Report} {c : Char} (hlabel : c ∉ statusLabel)
    (hstatus : c ∉ if report.passed then "PASS".toList else "FAIL".toList) : c ∉ report.statusLine := by
  rw [statusLine_eq, List.mem_append, not_or]
  exact ⟨hlabel, hstatus⟩

/-- The status that a table prints is that of the report, whatever its findings say. -/
theorem printedStatus?_table (report : Report) (limit : Int) :
    printedStatus? (report.table limit) = some (if report.passed then "PASS".toList else "FAIL".toList) := by
  have hstatus : '\n' ∉ report.statusLine := not_mem_statusLine (by decide) (by split <;> decide)
  have hfront : ∀ line ∈ countLines report.summary ++ [report.statusLine], '\n' ∉ line :=
    List.forall_mem_append.2
      ⟨fun line hline => not_mem_countLines hline (by decide) (by decide), List.forall_mem_singleton.2 hstatus⟩
  have hcounts : (countLines report.summary).find? (statusLabel.isPrefixOf ·) = none := by
    refine List.find?_eq_none.2 fun line hline hlabel => ?_
    have hcolon : ':' ∈ line := (List.isPrefixOf_iff_prefix.1 hlabel).subset (by decide)
    exact not_mem_countLines hline (by decide) (by decide) hcolon
  have hlabel : statusLabel.isPrefixOf report.statusLine = true :=
    List.isPrefixOf_iff_prefix.2 (statusLine_eq report ▸ List.prefix_append _ _)
  have hlines : report.tableLines limit =
      countLines report.summary ++ [report.statusLine] ++ report.linesBehind limit := by
    rw [tableLines_eq, List.append_assoc, List.singleton_append]
  have hbehind : report.linesBehind limit ≠ [] := List.append_ne_nil_of_left_ne_nil (List.cons_ne_nil _ _) _
  rw [printedStatus?, table, hlines, splitOn_joinWith_append hfront hbehind, List.append_assoc, List.find?_append,
    hcounts, Option.none_or, List.singleton_append, List.find?_cons_of_pos hlabel, Option.map_some, statusLine_eq,
    List.drop_left]

/-- The status line of a report that passes. -/
def passLine : List Char := "Status    : PASS".toList

/-- The owner of a bare attribute, which its message tells. -/
def Finding.toldOwner (finding : Finding) : List (List Char) :=
  match finding.kind with
  | .inText => []
  | .inAttribute => finding.owner.toList

/-- The texts of a finding that its lines tell as they are. -/
def Finding.toldTexts (finding : Finding) : List (List Char) := finding.toldOwner ++ [finding.rule, finding.path]

private theorem infix_told_iff {front told back : List Char} (hfront : 'S' ∉ front) (hback : 'S' ∉ back) :
    passLine <:+: front ++ told ++ back ↔ passLine <:+: told := by
  constructor
  · intro hheld
    rw [List.append_assoc] at hheld
    have hfree : "Status    : PAS".toList ++ ['S'] <:+: told ++ back := infix_of_infix_append_left hfront hheld
    exact infix_of_infix_append_right hback hfree
  · rintro ⟨before, after, rfl⟩
    exact ⟨front ++ before, after ++ back, by simp only [List.append_assoc]⟩

private theorem infix_locationLine_iff (finding : Finding) :
    passLine <:+: "  Location: ".toList ++ finding.path ++ ':' :: decimal finding.line ++
        ':' :: decimal finding.column ↔ passLine <:+: finding.path := by
  have hback : 'S' ∉ (':' :: decimal finding.line) ++ ':' :: decimal finding.column := by
    have hdigits (n : Nat) : 'S' ∉ ':' :: decimal n :=
      List.not_mem_cons_of_ne_of_not_mem (by decide) (not_mem_decimal (by decide) n)
    exact List.not_mem_append (hdigits _) (hdigits _)
  rw [List.append_assoc]
  exact infix_told_iff (by decide) hback

/-- The line of a message holds the text of success exactly if an owner or a rule named in it does. -/
private theorem infix_messageLine_iff (finding : Finding) :
    passLine <:+: '[' :: finding.severity.word ++ "] ".toList ++ finding.message ++ " (".toList ++ finding.rule ++
        [')'] ↔
      (∃ owner ∈ finding.toldOwner, passLine <:+: owner) ∨ passLine <:+: finding.rule := by
  have hword : 'S' ∉ '[' :: finding.severity.word ++ "] ".toList := by
    cases finding.severity <;> decide
  cases hkind : finding.kind with
  | inText =>
    have hmessage : 'S' ∉ finding.message ++ " (".toList := by
      simp only [Finding.message, hkind]
      decide
    have hfront := List.not_mem_append hword hmessage
    rw [← List.append_assoc] at hfront
    rw [infix_told_iff hfront (by decide), Finding.toldOwner, hkind]
    simp only [List.not_mem_nil, false_and, exists_false, false_or]
  | inAttribute =>
    have hfront : 'S' ∉ '[' :: finding.severity.word ++ "] ".toList ++
        "Unexpected non-translated string used in \x60".toList := List.not_mem_append hword (by decide)
    have howner : passLine <:+: finding.owner.getD "None".toList ↔
        ∃ owner ∈ finding.owner.toList, passLine <:+: owner := by
      cases finding.owner with
      | none => exact iff_of_false (fun hheld => absurd (hheld.subset (a := 'S') (by decide)) (by decide)) (by simp)
      | some owner => simp
    have hline : '[' :: finding.severity.word ++ "] ".toList ++ finding.message ++ " (".toList ++ finding.rule ++
        [')'] = ('[' :: finding.severity.word ++ "] ".toList ++
          "Unexpected non-translated string used in \x60".toList ++ finding.owner.getD "None".toList ++ []) ++
        '\x60' :: (". (".toList ++ finding.rule ++ [')']) := by
      rw [Finding.message, hkind]
      simp
    rw [hline, infix_append_cons_iff (by decide), infix_told_iff hfront List.not_mem_nil,
      infix_told_iff (by decide) (by decide), howner, Finding.toldOwner, hkind]

/-- The lines of a finding hold the status line of a report that passes exactly if one of the texts told
does. -/
theorem infix_findingLines_iff (finding : Finding) :
    (∃ line ∈ findingLines finding, passLine <:+: line) ↔ ∃ told ∈ finding.toldTexts, passLine <:+: told := by
  simp only [findingLines, Finding.toldTexts, List.mem_append, List.mem_cons, List.not_mem_nil, or_false,
    or_and_right, exists_or, exists_eq_left, infix_messageLine_iff, infix_locationLine_iff, or_assoc]

/-- The lines behind the verdict hold the text of success exactly if a text that one of the findings shown
tells does. -/
private theorem infix_linesBehind_iff (report : Report) (limit : Int) :
    (∃ line ∈ report.linesBehind limit, passLine <:+: line) ↔
      ∃ finding ∈ report.topFindings limit, ∃ told ∈ finding.toldTexts, passLine <:+: told := by
  have hfixed {line : List Char} (habsent : 'P' ∉ line) : ¬passLine <:+: line :=
    fun hheld => habsent (hheld.subset (by decide))
  have hnumbered {label : List Char} (hlabel : 'P' ∉ label) (n : Nat) : ¬passLine <:+: label ++ decimal n :=
    hfixed (List.not_mem_append hlabel (not_mem_decimal (by decide) n))
  have hnumbers : ¬∃ line ∈ ["Files     : ".toList ++ decimal report.files.length,
      "Findings  : ".toList ++ decimal report.summary.total], passLine <:+: line := by
    rintro ⟨line, hline, hheld⟩
    obtain rfl | rfl := List.mem_pair.1 hline
    · exact hnumbered (by decide) _ hheld
    · exact hnumbered (by decide) _ hheld
  have hhead : ¬∃ line ∈ [[], "Top Findings".toList, List.replicate 40 '-'], passLine <:+: line :=
    fun ⟨line, hline, hheld⟩ => hfixed ((by decide : ∀ line ∈ [_, _, _], 'P' ∉ line) line hline) hheld
  have hlines : (∃ line ∈ (report.topFindings limit).flatMap findingLines, passLine <:+: line) ↔
      ∃ finding ∈ report.topFindings limit, ∃ told ∈ finding.toldTexts, passLine <:+: told := by
    simp only [← infix_findingLines_iff, List.mem_flatMap]
    exact ⟨fun ⟨line, ⟨finding, hfinding, hline⟩, hheld⟩ => ⟨finding, hfinding, line, hline, hheld⟩,
      fun ⟨finding, hfinding, line, hline, hheld⟩ => ⟨line, ⟨finding, hfinding, hline⟩, hheld⟩⟩
  cases hfindings : report.topFindings limit with
  | nil =>
    rw [linesBehind, if_pos (by rw [hfindings]; rfl), List.append_nil]
    exact iff_of_false hnumbers fun ⟨_, hmem, _⟩ => List.not_mem_nil hmem
  | cons finding findings =>
    rw [← hfindings, ← hlines, linesBehind, if_neg (by rw [hfindings]; exact Bool.false_ne_true)]
    simp only [List.mem_append, or_and_right, exists_or, hnumbers, hhead, false_or]

/-- A table holds the line of a report that passes exactly if that is its status line, or if a finding that
is told of holds it in its path, in the name of its rule or, being about a bare attribute, in its owner. -/
theorem infix_table_iff (report : Report) (limit : Int) :
    passLine <:+: report.table limit ↔
      report.passed = true ∨
        ∃ finding ∈ report.topFindings limit, ∃ told ∈ finding.toldTexts, passLine <:+: told := by
  have hcounts : ¬∃ line ∈ countLines report.summary, passLine <:+: line := fun ⟨line, hline, hheld⟩ =>
    not_mem_countLines (c := 'P') hline (by decide) (by decide) (hheld.subset (by decide))
  have hstatus : passLine <:+: report.statusLine ↔ report.passed = true := by
    refine ⟨fun hheld => ?_, fun hpasses => ?_⟩
    · by_contra hfails
      exact not_mem_statusLine (c := 'P') (by decide) (by rw [if_neg hfails]; decide) (hheld.subset (by decide))
    · rw [statusLine_eq, if_pos hpasses]
      exact List.infix_rfl
  rw [table, infix_joinWith_iff (by decide) (by decide), tableLines_eq]
  simp only [List.mem_append, List.mem_cons, or_and_right, exists_or, exists_eq_left, hcounts, false_or, hstatus,
    infix_linesBehind_iff]

/-- However many findings are added to a new report, and whatever they are, it holds them all in this order,
its counts are their numbers, and everything that is said of the report as a whole is the same: it passes,
its exit status is zero, its JSON document says that it passes, and the status that its table prints says
so, exactly if none of the findings is an error. The table also holds the line of a report that passes where
a finding told in it has that line in one of its texts. -/
theorem verdicts_agree (findings : List Finding) (limit : Int) :
    let report := empty.addAll findings
    report.findings = findings ∧
      report.summary.error = findings.countP (·.severity = .error) ∧
      report.summary.warning = findings.countP (·.severity = .warning) ∧
      report.summary.total = findings.length ∧ (report.summary.rows.map (·.2)).sum = findings.length ∧
      (report.passed = true ↔ NoErrors findings) ∧ (report.exitStatus = 0 ↔ NoErrors findings) ∧
      (report.toJson.member? "passed".toList = some (.boolean true) ↔ NoErrors findings) ∧
      (printedStatus? (report.table limit) = some "PASS".toList ↔ NoErrors findings) ∧
      (passLine <:+: report.table limit ↔ NoErrors findings ∨
        ∃ finding ∈ report.topFindings limit, ∃ told ∈ finding.toldTexts, passLine <:+: told) := by
  intro report
  have htallies : report.Tallies := tallies_empty.addAll findings
  have hfindings : report.findings = findings := findings_addAll empty findings
  have hpassed := htallies.passed_iff
  have hexit := report.exitStatus_eq_zero_iff
  rw [hfindings] at hpassed hexit
  refine ⟨hfindings, hfindings ▸ htallies .error, hfindings ▸ htallies .warning, ?_, ?_, hpassed, hexit, ?_, ?_, ?_⟩
  · rw [Summary.total_eq, htallies.sum_rows, hfindings]
  · rw [htallies.sum_rows, hfindings]
  · rw [member?_passed, ← hpassed, Option.some.injEq, Json.boolean.injEq]
  · rw [printedStatus?_table, ← hpassed, Option.some.injEq]
    cases report.passed <;> decide
  · rw [infix_table_iff, hpassed]

/-- An error in a file that is named like the line of a report that passes. -/
theorem passLine_in_path :
    let finding : Finding := ⟨.inText, passLine, 1, 0, .error, "no_bare_strings".toList, none⟩
    let report := empty.addAll [finding]
    passLine <:+: report.table defaultLimit ∧ report.passed = false ∧ report.exitStatus = 1 ∧
      ¬NoErrors report.findings := by
  intro finding report
  have htop : report.topFindings defaultLimit = [finding] := by
    rw [topFindings, show report.findings = [finding] from rfl, List.mergeSort_singleton]
    rfl
  have htold : passLine ∈ finding.toldTexts := List.mem_cons_of_mem _ List.mem_cons_self
  refine ⟨?_, rfl, rfl, fun hnone => hnone finding List.mem_cons_self rfl⟩
  exact (infix_table_iff report defaultLimit).2
    (.inr ⟨finding, htop ▸ List.mem_cons_self, passLine, htold, List.infix_rfl⟩)

end Report

end BareStrings
