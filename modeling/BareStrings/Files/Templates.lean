import BareStrings.Files.Tree
import BareStrings.Text.Order

namespace BareStrings.Files

open BareStrings.Text

/-- The endings of the names of templates. -/
def templateSuffixes : List (List Char) := [".vue", ".html"].map String.toList

/-- The names of directories whose content is not looked at. -/
def skippedNames : List Name := ["node_modules", ".git", "dist"].map String.toList

namespace FileTree

/-- Whether a file with one of the endings is below a location, and nothing on the way to it is
skipped. The names above the location do not matter. -/
def isTemplateBelow (tree : FileTree) (suffixes : List (List Char)) (location relative : Location) :
    Bool :=
  relative.all (fun name => !skippedNames.contains name) &&
    suffixes.contains (Path.suffixOf (relative.getLast?.getD [])) &&
    (tree.entryAt? (location ++ relative)).any fun entry => !entry.isDirectory

/-- The templates of a directory in the order of their components, each once, seen from there. -/
def templatesBelow (tree : FileTree) (suffixes : List (List Char)) (location : Location) :
    List Location :=
  ((tree.below location).filter (tree.isTemplateBelow suffixes location)).eraseDups.mergeSort
    fun a b => !b.lex a isBefore

/-- The directories below a location, whether they are skipped or not, seen from there. -/
def directoriesBelow (tree : FileTree) (location : Location) : List Location :=
  (tree.below location).filter fun relative =>
    (tree.entryAt? (location ++ relative)).any Entry.isDirectory

/-- Paths up to the first that is too long to be looked at, and the error there. -/
def upToTooLong (paths : List Path) : List Path × Option FileError :=
  (paths.takeWhile (!·.isTooLong),
    (paths.find? Path.isTooLong).map fun path => .nameTooLong path.text)

/-- The templates at a path, and the error that breaks the search off: the file there if it has one
of the endings, or the templates of the directory there. Nothing is found at a path where nothing is,
and in a directory that has one too far down to be listed. -/
def templatesAt (tree : FileTree) (suffixes : List (List Char)) (path : Path) :
    List Path × Option FileError :=
  match tree.find path with
  | .error cause => ([], some cause)
  | .ok none => ([], none)
  | .ok (some (_, .file _)) => (if suffixes.contains path.suffix then [path] else [], none)
  | .ok (some (location, .directory)) =>
    match upToTooLong ((tree.directoriesBelow location).map path.below) with
    | (_, some cause) => ([], some cause)
    | (_, none) => upToTooLong ((tree.templatesBelow suffixes location).map path.below)

/-- The templates at several paths, one path after the other, up to the first path that cannot be
looked at; and the error there. -/
def templates (tree : FileTree) (suffixes : List (List Char)) :
    List Path → List Path × Option FileError
  | [] => ([], none)
  | path :: paths =>
    match tree.templatesAt suffixes path with
    | (found, some cause) => (found, some cause)
    | (found, none) =>
      let (more, error) := templates tree suffixes paths
      (found ++ more, error)

end FileTree

end BareStrings.Files
