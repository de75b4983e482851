import BareStrings.Command.Run

namespace BareStrings.Command

open BareStrings.Files BareStrings.Text

/-- The name of a location on the disk. -/
def diskName (location : Location) : String :=
  String.ofList ('/' :: joinWith ['/'] location)

/-- Reads what is at a location. Nothing is entered if nothing is there. -/
def readEntry (files : FileTree) (location : Location) : IO FileTree := do
  let place := (← IO.currentDir) / diskName location
  if ← place.isDir then return files.enter location .directory
  else if ← place.pathExists then
    return files.enter location (.file (← IO.FS.readBinFile place))
  else return files

/-- Reads what is on the way to a path, and at the path. -/
def readAlong (files : FileTree) (path : Path) : IO FileTree := do
  let mut files := files
  let mut here := if path.root.isEmpty then files.workingDirectory else []
  for name in path.components do
    here := if name = up then here.dropLast else here ++ [name]
    files ← readEntry files here
  return files

/-- Reads the templates below a directory. -/
partial def readBelow (files : FileTree) (location : Location) : IO FileTree := do
  let mut files := files
  for found in ← ((← IO.currentDir) / diskName location).readDir do
    let name := found.fileName.toList
    let place := location ++ [name]
    if (← found.path.symlinkMetadata).type == .dir then
      if !skippedNames.contains name then
        files ← readBelow (files.enter place .directory) place
    else if templateSuffixes.contains (Path.suffixOf name) then files ← readEntry files place
  return files

/-- Reads the templates at a path. -/
def readRoot (files : FileTree) (path : Path) : IO FileTree := do
  let files ← readAlong files path
  match files.find path with
  | .ok (some (location, .directory)) => readBelow files location
  | _ => return files

/-- Reads all that a run looks at. -/
def readFiles (settings : Settings) : IO FileTree := do
  let here := (Path.ofText (← IO.currentDir).toString.toList).components
  let mut files : FileTree := ⟨[(here, .directory)], here⟩
  for root in roots settings do
    files ← readRoot files (Path.ofText root)
  for name in settings.output do
    files ← readAlong files (Path.ofText name)
  readAlong files (Path.ofText (settings.config.getD defaultConfig))

/-- Writes the report to the disk as it is among the files after a run. -/
def writeOut (settings : Settings) (files : FileTree) : IO Unit := do
  for name in settings.output do
    match files.find (Path.ofText name) with
    | .ok (some (location, .file content)) =>
      let base ← IO.currentDir
      IO.FS.createDirAll (base / diskName location.dropLast)
      IO.FS.writeBinFile (base / diskName location) content
    | _ => pure ()

/-- Runs with arguments. Nothing is read if they are refused. -/
def execute (arguments : List (List Char)) : IO UInt32 := do
  let settings? := match Request.ofArguments arguments with
    | .ok (.lint settings) => some settings
    | _ => none
  let files ← match settings? with
    | some settings => readFiles settings
    | none => pure ⟨[], []⟩
  let outcome := run files arguments
  IO.print (String.ofList outcome.printed)
  IO.eprint (String.ofList outcome.told)
  match outcome.ending with
  | .exit status =>
    for settings in settings? do writeOut settings outcome.files
    return UInt32.ofNat status
  | .refused _ => return 2
  | .stopped reason =>
    IO.eprintln (String.ofList reason)
    return 1
  | .failed cause =>
    IO.eprintln cause.message
    return 1

end BareStrings.Command

/-- Runs with the arguments of the command line. -/
def main (arguments : List String) : IO UInt32 :=
  BareStrings.Command.execute (arguments.map String.toList)
