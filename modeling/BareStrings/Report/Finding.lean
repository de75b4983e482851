import BareStrings.Rule.Analyzer

namespace BareStrings.Report

open BareStrings.Rule BareStrings.Text

/-- How serious a finding is. -/
inductive Severity where
  | error
  | warning
deriving DecidableEq

namespace Severity

/-- The severities in the order of reports. -/
def all : List Severity := [.error, .warning]

/-- The word for a severity. -/
def word : Severity → List Char
  | .error => "ERROR".toList
  | .warning => "WARNING".toList

/-- The severity that a word means. -/
def ofWord? (word : List Char) : Option Severity := all.find? fun severity => severity.word == word

/-- The place of a severity in reports. -/
def rank : Severity → Nat
  | .error => 0
  | .warning => 1

/-- The exit status that a severity asks for. -/
def exitStatus : Severity → Nat
  | .error => 1
  | .warning => 0

end Severity

/-- The word for a kind of finding. -/
def kindWord : FindingKind → List Char
  | .inText => "text".toList
  | .inAttribute => "attribute".toList

/-- The kind of finding that a word means. -/
def kindOfWord? (word : List Char) : Option FindingKind :=
  [FindingKind.inText, .inAttribute].find? fun kind => kindWord kind == word

/-- A word that is none of those allowed. -/
inductive WordError where
  | kind (word : List Char)
  | severity (word : List Char)
deriving DecidableEq

/-- The wording of a word error. -/
def WordError.message : WordError → String
  | .kind word => String.ofList (quoted word ++ " is not a valid FindingKind".toList)
  | .severity word => String.ofList (quoted word ++ " is not a valid Severity".toList)

/-- A bare string in a file. -/
structure Finding where
  kind : FindingKind
  path : List Char
  line : Nat
  column : Nat
  severity : Severity
  rule : List Char
  owner : Option (List Char)
deriving DecidableEq

namespace Finding

/-- The name of the message. -/
def messageId (finding : Finding) : List Char :=
  match finding.kind with
  | .inText => "unexpected".toList
  | .inAttribute => "unexpectedInAttr".toList

/-- What a reader is told. -/
def message (finding : Finding) : List Char :=
  match finding.kind with
  | .inText => "Unexpected non-translated string used.".toList
  | .inAttribute =>
    "Unexpected non-translated string used in \x60".toList ++
      finding.owner.getD "None".toList ++ "\x60.".toList

/-- Whether a finding may stand before another in a report: by severity, then by path, then by
place. -/
def isOrdered (a b : Finding) : Bool :=
  if a.severity.rank ≠ b.severity.rank then a.severity.rank < b.severity.rank
  else if a.path ≠ b.path then decide (a.path < b.path)
  else if a.line ≠ b.line then a.line < b.line
  else a.column ≤ b.column

end Finding

end BareStrings.Report
