import BareStrings.Text.Split

namespace BareStrings.Files

open BareStrings.Text

/-- A name in a directory. -/
abbrev Name := List Char

/-- The component that leads to the directory above. -/
def up : Name := ['.', '.']

/-- A path. A root is one slash or two; without one the path begins at the working directory. -/
structure Path where
  root : List Char
  components : List Name
deriving DecidableEq

namespace Path

/-- The root at the head of a path. More than two slashes count as one. -/
def rootOf : List Char → List Char
  | '/' :: '/' :: '/' :: _ => ['/']
  | '/' :: '/' :: _ => ['/', '/']
  | '/' :: _ => ['/']
  | _ => []

/-- The path that a text writes. -/
def ofText (text : List Char) : Path :=
  ⟨rootOf text, (splitOn '/' text).filter fun name => !name.isEmpty && name != ['.']⟩

/-- The text of a path. The working directory is a single dot. -/
def text (path : Path) : List Char :=
  if path.root.isEmpty && path.components.isEmpty then ['.']
  else path.root ++ joinWith ['/'] path.components

/-- The path of something below a path. -/
def below (path : Path) (relative : List Name) : Path :=
  { path with components := path.components ++ relative }

/-- The path without its last component. -/
def parent (path : Path) : Path := { path with components := path.components.dropLast }

/-- The ending of a name: its last dot and what follows. A dot at either end of the name begins
none. -/
def suffixOf (name : Name) : List Char :=
  let ending := name.reverse.takeWhile (· ≠ '.')
  if ending.isEmpty || name.length ≤ ending.length + 1 then [] else '.' :: ending.reverse

/-- The ending of a path's last component. -/
def suffix (path : Path) : List Char := suffixOf (path.components.getLast?.getD [])

end Path

end BareStrings.Files
