import BareStrings.Report.Basic

namespace BareStrings.Report

open BareStrings.Text

/-- A text filled up with blanks behind it. -/
def padRight (width : Nat) (text : List Char) : List Char :=
  text ++ List.replicate (width - text.length) ' '

/-- A text filled up with blanks before it. -/
def padLeft (width : Nat) (text : List Char) : List Char :=
  List.replicate (width - text.length) ' ' ++ text

/-- A line of the table of counts. -/
def tableRow (left right : List Char) : List Char :=
  padRight 10 left ++ " | ".toList ++ padLeft 5 right

/-- The head of the table of counts. -/
def tableHeader : List Char := tableRow "Severity".toList "Count".toList

/-- The two lines about one finding. -/
def findingLines (finding : Finding) : List (List Char) :=
  ['[' :: finding.severity.word ++ "] ".toList ++ finding.message ++ " (".toList ++ finding.rule ++
      [')'],
    "  Location: ".toList ++ finding.path ++ ':' :: decimal finding.line ++
      ':' :: decimal finding.column]

/-- The line that tells whether the report passes. -/
def statusLine (report : Report) : List Char :=
  "Status    : ".toList ++ if report.passed then "PASS".toList else "FAIL".toList

/-- The lines of the table, with the top findings up to a limit. -/
def tableLines (report : Report) (limit : Int) : List (List Char) :=
  let rule := List.replicate tableHeader.length '-'
  let findings := report.topFindings limit
  ["Lint Summary".toList, List.replicate 40 '=', tableHeader, rule] ++
    report.summary.rows.map (fun (severity, count) => tableRow severity.word (decimal count)) ++
    [rule, report.statusLine, "Files     : ".toList ++ decimal report.files.length,
      "Findings  : ".toList ++ decimal report.summary.total] ++
    if findings.isEmpty then []
    else [[], "Top Findings".toList, List.replicate 40 '-'] ++ findings.flatMap findingLines

/-- The table as text. -/
def table (report : Report) (limit : Int) : List Char := joinWith ['\n'] (report.tableLines limit)

end BareStrings.Report
