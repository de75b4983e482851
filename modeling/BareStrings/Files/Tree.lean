import BareStrings.Files.Path
import BareStrings.Text.Quoted

namespace BareStrings.Files

open BareStrings.Text

/-- The names that lead from the root to a file or directory. -/
abbrev Location := List Name

/-- What stands at a location. -/
inductive Entry where
  | directory
  | file (content : ByteArray)

/-- Whether an entry is a directory. -/
def Entry.isDirectory : Entry → Bool
  | .directory => true
  | .file _ => false

/-- All files and directories but the root, and the directory where relative paths begin. -/
structure FileTree where
  entries : List (Location × Entry)
  workingDirectory : Location

/-- Why something cannot be done with a file or directory, and the path at which it fails. -/
inductive FileError where
  | missing (path : List Char)
  | exists (path : List Char)
  | notDirectory (path : List Char)
  | isDirectory (path : List Char)
  | nameTooLong (path : List Char)
  | nullCharacter
deriving DecidableEq

/-- The wording of a file error, with its customary number. -/
def FileError.message : FileError → String
  | .missing path => "[Errno 2] No such file or directory: " ++ String.ofList (quoted path)
  | .exists path => "[Errno 17] File exists: " ++ String.ofList (quoted path)
  | .notDirectory path => "[Errno 20] Not a directory: " ++ String.ofList (quoted path)
  | .isDirectory path => "[Errno 21] Is a directory: " ++ String.ofList (quoted path)
  | .nameTooLong path => "[Errno 36] File name too long: " ++ String.ofList (quoted path)
  | .nullCharacter => "embedded null byte"

/-- The number of bytes that a name takes on the disk. -/
def byteCount (name : List Char) : Nat := (String.ofList name).utf8ByteSize

/-- The greatest number of bytes that a name may take. -/
def nameLimit : Nat := 255

/-- The greatest number of bytes that a path may take. -/
def pathLimit : Nat := 4095

/-- Whether the text of a path takes more bytes than it may. -/
def Path.isTooLong (path : Path) : Bool := pathLimit < byteCount path.text

namespace FileTree

/-- What stands at a location. The root is a directory. -/
def entryAt? (tree : FileTree) : Location → Option Entry
  | [] => some .directory
  | location => tree.entries.lookup location

/-- Where a walk over components leads from a location. Each but the last must be a directory, and
no name may be too long for the directory where it is looked up. -/
def walk (tree : FileTree) (path : List Char) : Location → List Name → Except FileError Location
  | here, [] => .ok here
  | here, name :: names =>
    match tree.entryAt? here with
    | none => .error (.missing path)
    | some (.file _) => .error (.notDirectory path)
    | some .directory =>
      if nameLimit < byteCount name then .error (.nameTooLong path)
      else tree.walk path (if name = up then here.dropLast else here ++ [name]) names

/-- Where a path leads if all but its end exists. -/
def locate (tree : FileTree) (path : Path) : Except FileError Location :=
  if path.text.contains '\x00' then .error .nullCharacter
  else if path.isTooLong then .error (.nameTooLong path.text)
  else tree.walk path.text (if path.root.isEmpty then tree.workingDirectory else []) path.components

/-- What stands at a path, with its location. Nothing stands where the way does not lead, but a name
that is too long is an error. -/
def find (tree : FileTree) (path : Path) : Except FileError (Option (Location × Entry)) :=
  match tree.locate path with
  | .error (.nameTooLong path) => .error (.nameTooLong path)
  | .error _ => .ok none
  | .ok location => .ok ((tree.entryAt? location).map (location, ·))

/-- The locations of everything below a location, seen from there. -/
def below (tree : FileTree) (location : Location) : List Location :=
  tree.entries.filterMap fun entry =>
    (location.isPrefixOf? entry.1).filter fun relative => !relative.isEmpty

/-- Enters something at a location, in place of what is there. -/
def enter (tree : FileTree) (location : Location) (entry : Entry) : FileTree :=
  { tree with entries := tree.entries.filter (·.1 ≠ location) ++ [(location, entry)] }

/-- Makes a directory where there is nothing. -/
def makeDirectory (tree : FileTree) (path : Path) : Except FileError FileTree := do
  let location ← tree.locate path
  match tree.entryAt? location with
  | some _ => throw (.exists path.text)
  | none => return tree.enter location .directory

/-- Makes a directory unless it is there. -/
def ensureDirectory (tree : FileTree) (path : Path) : Except FileError FileTree :=
  match tree.makeDirectory path with
  | .error (.missing missed) => .error (.missing missed)
  | .error cause =>
    match tree.find path with
    | .ok (some (_, .directory)) => .ok tree
    | .ok _ => .error cause
    | .error cause => .error cause
  | .ok made => .ok made

/-- Makes a directory and those above it, each unless it is there. The number bounds how many. -/
def ensureDirectories (tree : FileTree) (path : Path) : Nat → Except FileError FileTree
  | 0 => tree.ensureDirectory path
  | above + 1 =>
    match tree.ensureDirectory path with
    | .error (.missing _) => do
      (← tree.ensureDirectories path.parent above).ensureDirectory path
    | result => result

/-- Writes a file. -/
def write (tree : FileTree) (path : Path) (content : ByteArray) : Except FileError FileTree := do
  let location ← tree.locate path
  match tree.entryAt? location with
  | some .directory => throw (.isDirectory path.text)
  | _ => return tree.enter location (.file content)

end FileTree

end BareStrings.Files
