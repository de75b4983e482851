import BareStrings.Report.Finding

namespace BareStrings

namespace Report

/-- The number of findings of each severity. -/
structure Summary where
  error : Nat
  warning : Nat
deriving DecidableEq

namespace Summary

/-- The count of one severity. -/
def count (summary : Summary) : Severity → Nat
  | .error => summary.error
  | .warning => summary.warning

/-- Counts one more. -/
def increment (summary : Summary) : Severity → Summary
  | .error => { summary with error := summary.error + 1 }
  | .warning => { summary with warning := summary.warning + 1 }

/-- The severities with their counts. -/
def rows (summary : Summary) : List (Severity × Nat) :=
  Severity.all.map fun severity => (severity, summary.count severity)

/-- The number of findings. -/
def total (summary : Summary) : Nat := (summary.rows.map (·.2)).foldl (· + ·) 0

end Summary

end Report

/-- What a run has found. -/
structure Report where
  summary : Report.Summary
  findings : List Report.Finding
  files : List (List Char)
deriving DecidableEq

namespace Report

/-- Nothing found, nothing looked at. -/
def empty : Report := ⟨⟨0, 0⟩, [], []⟩

/-- Adds a finding. -/
def add (report : Report) (finding : Finding) : Report :=
  { report with
    summary := report.summary.increment finding.severity
    findings := report.findings ++ [finding] }

/-- Adds a file to those looked at. -/
def addFile (report : Report) (path : List Char) : Report :=
  { report with files := report.files ++ [path] }

/-- A report without errors passes. -/
def passed (report : Report) : Bool := report.summary.error == 0

/-- The exit status: the greatest that a finding asks for. -/
def exitStatus (report : Report) : Nat :=
  report.findings.foldl (fun status finding => max status finding.severity.exitStatus) 0

/-- The items up to a limit. A negative limit counts from the end. -/
def upTo {α : Type} (limit : Int) (items : List α) : List α :=
  if 0 ≤ limit then items.take limit.toNat else items.take (items.length - (-limit).toNat)

/-- The findings in the order of a reader's interest, up to a limit. -/
def topFindings (report : Report) (limit : Int) : List Finding :=
  upTo limit (report.findings.mergeSort Finding.isOrdered)

/-- The number of findings that a table shows. -/
def defaultLimit : Int := 10

end Report

end BareStrings
