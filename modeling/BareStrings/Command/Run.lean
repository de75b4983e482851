import BareStrings.Command.Arguments
import BareStrings.Command.Scan
import BareStrings.Report.Json
import BareStrings.Report.Table

namespace BareStrings.Command

open BareStrings.Config BareStrings.Files BareStrings.Report BareStrings.Rule BareStrings.Text

/-- How a run ends: with an exit status, with a refusal of its arguments or options, with a message,
or because of an error. -/
inductive Ending where
  | exit (status : Nat)
  | refused (reason : List Char)
  | stopped (reason : List Char)
  | failed (cause : RunError)

/-- What a run leaves behind. -/
structure Outcome where
  ending : Ending
  printed : List Char
  log : List LogEntry
  files : FileTree

/-- The name of the program. -/
def programName : List Char := "i18nlint".toList

/-- What a run tells besides what it prints: its log, and why it was refused or stopped. -/
def Outcome.told (outcome : Outcome) : List Char :=
  let log := outcome.log.flatMap LogEntry.line
  match outcome.ending with
  | .refused reason => log ++ programName ++ ": error: ".toList ++ reason ++ ['\n']
  | _ => log

/-- How the program is called. -/
def usage : List Char :=
  "usage: ".toList ++ programName ++ " [flags] [paths]\n\n".toList ++
    (joinWith ['\n'] (Flag.all.map fun flag => ' ' :: ' ' :: flag.label)) ++ ['\n']

/-- The name of the options file that is read if none is named. -/
def defaultConfig : List Char := ".i18nlint.yaml".toList

/-- The path of the options file. A file that is named must exist. -/
def configPath? (files : FileTree) (settings : Settings) : Except Ending (Option Path) := do
  let path := Path.ofText (settings.config.getD defaultConfig)
  match (← (files.find path).mapError fun cause => .failed (.file cause)), settings.config with
  | some _, _ => return some path
  | none, some name => throw (.stopped ("Options file not found: ".toList ++ name))
  | none, none => return none

/-- Writes a report, with the directories above it. -/
def writeReport (files : FileTree) (name : List Char) (content : List Char) :
    Except FileError FileTree := do
  let path := Path.ofText name
  let files ← files.ensureDirectories path.parent path.components.length
  files.write path (String.ofList content).toUTF8

/-- Prints a report, and prints or writes its JSON document. -/
def publish (files : FileTree) (settings : Settings) (log : List LogEntry) (report : Report) :
    Outcome :=
  let table := report.table defaultLimit ++ ['\n']
  let document := report.toJson.text
  match settings.output with
  | none =>
    let printed := table ++ "\nJSON Report\n".toList ++ document ++ ['\n']
    ⟨.exit report.exitStatus, printed, log, files⟩
  | some name =>
    match writeReport files name document with
    | .error cause => ⟨.failed (.file cause), table, log, files⟩
    | .ok files =>
      let printed := table ++ "\nReport written to ".toList ++ name ++ ['\n']
      ⟨.exit report.exitStatus, printed, log, files⟩

/-- The paths to look at. Without any it is the working directory. -/
def roots (settings : Settings) : List (List Char) :=
  if settings.paths.isEmpty then [['.']] else settings.paths

/-- Scans the templates at the paths and publishes the report. -/
def lintWith (options : Options) (files : FileTree) (settings : Settings) (log : List LogEntry) :
    Outcome :=
  match Rule.ofOptions options settings.severity with
  | .error cause => ⟨.failed (.scan cause), [], log, files⟩
  | .ok rule =>
    let (told, result) := scanPaths rule files ((roots settings).map Path.ofText)
    let log := log ++ told
    match result with
    | .error cause => ⟨.failed cause, [], log, files⟩
    | .ok report =>
      if report.files.isEmpty && settings.failOnEmpty then
        let reason := "No template files found in: ".toList ++ joinWith [',', ' '] (roots settings)
        ⟨.stopped reason, [], log, files⟩
      else
        publish files settings (if report.files.isEmpty then log ++ [.nothingFound] else log) report

/-- Reads the options and lints with them. -/
def lint (files : FileTree) (settings : Settings) : Outcome :=
  match configPath? files settings with
  | .error ending => ⟨ending, [], [], files⟩
  | .ok none => lintWith Options.default files settings []
  | .ok (some path) =>
    match optionsAt? files path with
    | .error (.config cause) =>
      let ending := if cause.isRuleBroken then Ending.refused cause.message.toList
        else .failed (.config cause)
      ⟨ending, [], [], files⟩
    | .error cause => ⟨.failed cause, [], [], files⟩
    | .ok (some options) => lintWith options files settings []
    | .ok none => lintWith Options.default files settings [.noOptions path.text]

/-- A run with arguments on files. The log is kept only if it is asked for. -/
def run (files : FileTree) (arguments : List (List Char)) : Outcome :=
  match Request.ofArguments arguments with
  | .error cause => ⟨.refused cause.text, [], [], files⟩
  | .ok .help => ⟨.exit 0, usage, [], files⟩
  | .ok (.lint settings) =>
    let outcome := lint files settings
    if settings.verbose then outcome else { outcome with log := [] }

end BareStrings.Command
