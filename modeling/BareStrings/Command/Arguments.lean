import BareStrings.Report.Finding
import BareStrings.Text.Order
import BareStrings.Unicode.Digit

namespace BareStrings.Command

open BareStrings.Report BareStrings.Text

/-- What a flag sets. -/
inductive Flag where
  | help
  | config
  | severity
  | format
  | output
  | failOnEmpty
  | verbose
deriving DecidableEq

namespace Flag

/-- All flags. -/
def all : List Flag := [help, config, severity, format, output, failOnEmpty, verbose]

/-- All spellings of the flags. -/
def spellings : List (List Char × Flag) :=
  [("-h", help), ("--help", help), ("--config", config), ("-c", config), ("--severity", severity),
    ("--format", format), ("--out", output), ("--output", output), ("--fail-on-empty", failOnEmpty),
    ("--verbose", verbose), ("-v", verbose)].map fun (spelling, flag) => (spelling.toList, flag)

/-- Whether a flag has a value. -/
def takesValue : Flag → Bool
  | config | severity | format | output => true
  | help | failOnEmpty | verbose => false

/-- A flag with its spellings, as messages name it. -/
def label (flag : Flag) : List Char :=
  joinWith ['/'] ((spellings.filter (·.2 == flag)).map (·.1))

/-- The values that a flag may have, if they are limited. -/
def choices : Flag → List (List Char)
  | severity => Severity.all.map fun severity => severity.word.map Char.toLower
  | format => ["json".toList]
  | _ => []

end Flag

/-- Why arguments are refused. -/
inductive UsageError where
  | ambiguous (argument : List Char) (spellings : List (List Char))
  | valueMissing (flag : Flag)
  | valueRefused (flag : Flag) (value : List Char)
  | invalidChoice (flag : Flag) (value : List Char)
  | unrecognized (arguments : List (List Char))

/-- The wording of a usage error. -/
def UsageError.text : UsageError → List Char
  | .ambiguous argument spellings =>
    "ambiguous option: ".toList ++ argument ++ " could match ".toList ++
      joinWith [',', ' '] spellings
  | .valueMissing flag => about flag ++ "expected one argument".toList
  | .valueRefused flag value => about flag ++ "ignored explicit argument ".toList ++ quoted value
  | .invalidChoice flag value =>
    about flag ++ "invalid choice: ".toList ++ quoted value ++ " (choose from ".toList ++
      joinWith [',', ' '] (flag.choices.map quoted) ++ [')']
  | .unrecognized arguments => "unrecognized arguments: ".toList ++ joinWith [' '] arguments
where
  /-- The beginning of a message about a flag. -/
  about (flag : Flag) : List Char := "argument ".toList ++ flag.label ++ ':' :: ' ' :: []

/-- What an argument is by itself. A flag may have a value attached; `isShort` tells that it is one
letter behind one dash. -/
inductive Argument where
  | plain (text : List Char)
  | endOfFlags
  | flagged (flag : Flag) (isShort : Bool) (attached : Option (List Char))
  | unknown (text : List Char)

namespace Argument

/-- Whether a text is a negative number in decimal digits. One line feed at its end is passed
over. -/
def isNegativeNumber (text : List Char) : Bool :=
  let text := if text.getLast? == some '\n' then text.dropLast else text
  match text with
  | '-' :: digits =>
    let whole := digits.takeWhile Unicode.isDecimalDigit
    match digits.dropWhile Unicode.isDecimalDigit with
    | [] => !whole.isEmpty
    | '.' :: fraction => !fraction.isEmpty && fraction.all Unicode.isDecimalDigit
    | _ => false
  | _ => false

/-- The spellings that a text may stand for, which is no spelling itself. Two dashes begin a long
flag that may be cut off; behind one dash the first letter decides. -/
def meanings (text : List Char) : List (List Char × Argument) :=
  let (name, attached) := match cutAt? ['='] text with
    | some (name, value) => (name, some value)
    | none => (text, none)
  let isLong := ['-', '-'].isPrefixOf text
  Flag.spellings.filterMap fun (spelling, flag) =>
    if isLong then
      if name.isPrefixOf spelling then some (spelling, .flagged flag false attached) else none
    else if spelling = text.take 2 then some (spelling, .flagged flag true (some (text.drop 2)))
    else none

/-- What a text is that is not behind the end of the flags. -/
def ofText (text : List Char) : Except UsageError Argument :=
  let isShort := text.head? == some '-' && text.tail.head? != some '-'
  let exact (spelling : List Char) (attached : Option (List Char)) : Option Argument :=
    (Flag.spellings.lookup spelling).map fun flag => .flagged flag isShort attached
  let cut := (cutAt? ['='] text).bind fun (name, value) => exact name (some value)
  if text.head? ≠ some '-' then .ok (.plain text)
  else
    match exact text none, cut with
    | some argument, _ => .ok argument
    | none, some argument => .ok argument
    | none, none =>
      if text.length = 1 then .ok (.plain text)
      else
        match meanings text with
        | [(_, argument)] => .ok argument
        | [] =>
          if isNegativeNumber text || text.contains ' ' then .ok (.plain text)
          else .ok (.unknown text)
        | several => .error (.ambiguous text (several.map (·.1)))

/-- What texts are. All behind two dashes are plain. -/
def ofTexts : List (List Char) → Except UsageError (List (List Char × Argument))
  | [] => .ok []
  | text :: rest =>
    if text = ['-', '-'] then .ok ((text, .endOfFlags) :: rest.map fun text => (text, .plain text))
    else do
      let argument ← ofText text
      return (text, argument) :: (← ofTexts rest)

end Argument

/-- What is asked for: the paths to look at, the options file and the place for the report if they
are named, and how to go about it. -/
structure Settings where
  paths : List (List Char)
  config : Option (List Char)
  severity : Severity
  output : Option (List Char)
  failOnEmpty : Bool
  verbose : Bool

namespace Settings

/-- What is asked for by no arguments. -/
def default : Settings :=
  { paths := [], config := none, severity := .error, output := none, failOnEmpty := false,
    verbose := false }

/-- The settings with a flag that has no value. -/
def raise (settings : Settings) : Flag → Settings
  | .failOnEmpty => { settings with failOnEmpty := true }
  | .verbose => { settings with verbose := true }
  | _ => settings

/-- The settings with the value of a flag. A file without a name counts as none. -/
def assign (settings : Settings) (flag : Flag) (value : List Char) : Except UsageError Settings :=
  let name := if value.isEmpty then none else some value
  if !flag.choices.isEmpty && !flag.choices.contains value then .error (.invalidChoice flag value)
  else
    match flag with
    | .config => .ok { settings with config := name }
    | .output => .ok { settings with output := name }
    | .severity =>
      let severity := (Severity.ofWord? (value.map Char.toUpper)).getD settings.severity
      .ok { settings with severity }
    | _ => .ok settings

end Settings

/-- What a command line asks for. -/
inductive Request where
  | help
  | lint (settings : Settings)

/-- How far the reading of arguments is: the settings so far, what could not be placed, and whether
the paths are still to come, being read, or read. Only paths that follow each other are taken. -/
structure Progress where
  settings : Settings
  extras : List (List Char)
  pathsBegun : Bool
  pathsEnded : Bool

namespace Progress

/-- Nothing read. -/
def start : Progress := ⟨.default, [], false, false⟩

/-- Reads an argument that is no flag. Two dashes are dropped from the paths. -/
def place (progress : Progress) (text : List Char) (isMark : Bool) : Progress :=
  if progress.pathsEnded then { progress with extras := progress.extras ++ [text] }
  else
    let paths := if isMark then [] else [text]
    { progress with
      pathsBegun := true
      settings := { progress.settings with paths := progress.settings.paths ++ paths } }

/-- What a flag does to the reading of paths. -/
def endPaths (progress : Progress) : Progress :=
  { progress with pathsEnded := progress.pathsBegun }

/-- The flags behind one dash. The first that has a value takes what is left for it; `none` is the
value to take from the next argument. -/
def cluster (flag : Flag) (isShort : Bool) :
    List Char → Except UsageError (List Flag × Option (Flag × Option (List Char)))
  | [] =>
    if flag.takesValue then .ok ([], some (flag, some [])) else .error (.valueRefused flag [])
  | c :: rest =>
    if flag.takesValue then .ok ([], some (flag, some (c :: rest)))
    else
      match if isShort then Flag.spellings.lookup ['-', c] else none with
      | none => .error (.valueRefused flag (c :: rest))
      | some next =>
        if rest.isEmpty then
          .ok (if next.takesValue then ([flag], some (next, none)) else ([flag, next], none))
        else do
          let (flags, last) ← cluster next isShort rest
          return (flag :: flags, last)

/-- The flags of an argument, and the last one if it has a value. -/
def flagsOf (flag : Flag) (isShort : Bool) :
    Option (List Char) → Except UsageError (List Flag × Option (Flag × Option (List Char)))
  | some attached => cluster flag isShort attached
  | none => .ok (if flag.takesValue then ([], some (flag, none)) else ([flag], none))

/-- Reads arguments one after the other. Help ends the reading. -/
def read (progress : Progress) : List (List Char × Argument) → Except UsageError Request
  | [] =>
    if progress.extras.isEmpty then .ok (.lint progress.settings)
    else .error (.unrecognized progress.extras)
  | (text, argument) :: rest =>
    match argument with
    | .plain _ => (progress.place text false).read rest
    | .endOfFlags => (progress.place text true).read rest
    | .unknown _ =>
      let progress := progress.endPaths
      { progress with extras := progress.extras ++ [text] }.read rest
    | .flagged flag isShort attached => do
      let progress := progress.endPaths
      let (flags, valued) ← flagsOf flag isShort attached
      let settings := flags.foldl Settings.raise progress.settings
      let next (settings : Settings) : Progress := { progress with settings }
      match valued, rest with
      | some (flag, none), (value, .plain _) :: rest =>
        if flags.contains .help then return .help
        (next (← settings.assign flag value)).read rest
      | some (flag, none), _ => throw (.valueMissing flag)
      | some (flag, some value), rest =>
        if flags.contains .help then return .help
        (next (← settings.assign flag value)).read rest
      | none, rest =>
        if flags.contains .help then return .help
        (next settings).read rest

end Progress

/-- What the arguments of a command line ask for. -/
def Request.ofArguments (arguments : List (List Char)) : Except UsageError Request := do
  Progress.start.read (← Argument.ofTexts arguments)

end BareStrings.Command
