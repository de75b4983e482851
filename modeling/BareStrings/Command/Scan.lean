import BareStrings.Command.Log
import BareStrings.Config.Source
import BareStrings.Files.Content
import BareStrings.Files.Templates
import BareStrings.Markup.Reader
import BareStrings.Rule.Scan

namespace BareStrings.Command

open BareStrings.Config BareStrings.Files BareStrings.Markup BareStrings.Rule

/-- Why a run breaks off. -/
inductive RunError where
  | file (cause : FileError)
  | encoding
  | config (cause : ConfigError)
  | markup (cause : MarkupError)
  | scan (cause : ScanError)

/-- The wording of an error that breaks off a run. -/
def RunError.message : RunError → String
  | .file cause => cause.message
  | .encoding => "the file is not UTF-8"
  | .config cause => cause.message
  | .markup cause => cause.message
  | .scan cause => cause.message

/-- The text of the file at a path, if there is one. -/
def textAt? (files : FileTree) (path : Path) : Except RunError (Option (List Char)) :=
  match files.find path with
  | .error cause => .error (.file cause)
  | .ok none => .ok none
  | .ok (some (_, .directory)) => .error (.file (.isDirectory path.text))
  | .ok (some (_, .file content)) =>
    match decode? content with
    | none => .error .encoding
    | some text => .ok (some text)

/-- The options in the file at a path. Nothing there and no data there both give nothing. -/
def optionsAt? (files : FileTree) (path : Path) : Except RunError (Option Options) := do
  match ← textAt? files path with
  | none => return none
  | some text => (optionsOfText? path.text text).mapError .config

/-- The endings of the names of single-file components. -/
def componentSuffix : List Char := ".vue".toList

/-- What to look at in a source: the template block of a component, or the whole of other markup. -/
def treeOf? (isComponent : Bool) (source : List Char) : Except MarkupError (Option Tree) :=
  if isComponent then (parseComponent source).map (·.map Element.toTree)
  else (parseTemplate source).map fun document => some (.document document)

/-- What to look at in the file at a path. A missing file counts as empty. -/
def treeAt? (files : FileTree) (path : Path) : Except RunError (Option Tree) := do
  let source ← textAt? files path
  (treeOf? (path.suffix == componentSuffix) (source.getD [])).mapError .markup

/-- What a scan of one file adds to a report: nothing if there is nothing to look at, otherwise the
file and its findings. What has been told is known also if the scan breaks off. -/
def scanFile (rule : Rule) (files : FileTree) (path : Path) (report : Report) :
    List LogEntry × Except RunError Report :=
  match treeAt? files path with
  | .error cause => ([], .error cause)
  | .ok none => ([.skipped path.text], .ok report)
  | .ok (some tree) =>
    let resolved := (rule.lookedUp tree).map fun (tag, attributes) =>
      LogEntry.resolved tag attributes
    match rule.scan tree path.text (report.addFile path.text) with
    | .error cause => (.linting path.text :: resolved, .error (.scan cause))
    | .ok outcome =>
      (.linting path.text :: resolved ++ [.counted path.text outcome.count], .ok outcome.report)

/-- Scans files one after the other into one report, up to the first that breaks off the run. -/
def scanFiles (rule : Rule) (files : FileTree) :
    List Path → Report → List LogEntry × Except RunError Report
  | [], report => ([], .ok report)
  | path :: paths, report =>
    match scanFile rule files path report with
    | (log, .error cause) => (log, .error cause)
    | (log, .ok report) =>
      let (more, result) := scanFiles rule files paths report
      (log ++ more, result)

/-- Scans the templates at some paths into one report. A path that cannot be looked at breaks off
the run when its turn comes. -/
def scanPaths (rule : Rule) (files : FileTree) (paths : List Path) :
    List LogEntry × Except RunError Report :=
  let (found, error) := files.templates templateSuffixes paths
  match scanFiles rule files found .empty, error with
  | (log, .ok _), some cause => (log, .error (.file cause))
  | scanned, _ => scanned

end BareStrings.Command
