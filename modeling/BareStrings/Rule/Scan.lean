import BareStrings.Report.Basic
import BareStrings.Rule.Findings
import BareStrings.Text.Order

namespace BareStrings

open BareStrings.Markup BareStrings.Report BareStrings.Text

namespace Rule

/-- The name of the rule. -/
def ruleName : List Char := "no_bare_strings".toList

/-- Why a scan fails. -/
inductive ScanError where
  | whitelist (cause : Regex.SyntaxError)
  | selector (cause : SelectorError)
  | analysis (cause : AnalysisError)
deriving DecidableEq

/-- The wording of a scan error. -/
def ScanError.message : ScanError → String
  | .whitelist cause => printed cause.text
  | .selector cause => cause.message
  | .analysis cause => cause.message

end Rule

/-- The rule with its options and the severity of its findings. -/
structure Rule where
  options : Rule.Options
  severity : Report.Severity
  whitelist : Rule.Whitelist

namespace Rule

/-- The rule under some options. -/
def ofOptions (options : Options) (severity : Severity) : Except ScanError Rule := do
  let whitelist ← (Whitelist.ofEntries options.whitelist).mapError .whitelist
  return { options, severity, whitelist }

/-- A fresh analyzer for one tree. -/
def analyzer (rule : Rule) : Except ScanError Analyzer := do
  let targets ← (Targets.ofAttributes rule.options.attributes).mapError .selector
  return { whitelist := rule.whitelist, directives := rule.options.directives,
           resolver := .ofTargets targets, stack := [] }

/-- The finding of a bare string in a file. -/
def finding (rule : Rule) (path : List Char) (found : BareString) : Finding :=
  { kind := found.kind, path, line := found.position.line, column := found.position.column,
    severity := rule.severity, rule := ruleName, owner := found.owner }

/-- What a scan yields: the report, and the number of bare strings. -/
structure Outcome where
  report : Report
  count : Nat

/-- Adds the findings of a tree to a report. -/
def scan (rule : Rule) (tree : Tree) (path : List Char) (report : Report) :
    Except ScanError Outcome := do
  let (_, found, error) := (← rule.analyzer).run tree.events
  match error with
  | some cause => throw (.analysis cause)
  | none =>
    return { report := found.foldl (fun report found => report.add (rule.finding path found)) report
             count := found.length }

/-- The tags of a tree that a scan looks up, also one that breaks off, with the attributes to check
on each. -/
def lookedUp (rule : Rule) (tree : Tree) : List (List Char × List (List CodePoint)) :=
  match rule.analyzer with
  | .error _ => []
  | .ok analyzer => (analyzer.run tree.events).1.resolver.known

end Rule

end BareStrings
