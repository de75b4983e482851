import BareStrings.Text.CodePoint

namespace BareStrings.Yaml

open BareStrings.Text

/-- What a node holds: text, or mentions of other nodes. -/
inductive Content where
  | scalar (text : List CodePoint)
  | sequence (items : List Nat)
  | mapping (entries : List (Nat × Nat))
deriving DecidableEq

/-- A node with the tag that names its kind. -/
structure Node where
  tag : List Char
  content : Content
deriving DecidableEq

/-- A document: the place of its node, and the table of all nodes. -/
structure Document where
  root : Nat
  nodes : Array Node

/-- The number of entries of the mappings among some nodes. -/
def entryCount (nodes : Array Node) : Nat :=
  nodes.foldl (fun count node =>
    match node.content with
    | .mapping entries => count + entries.length
    | _ => count) 0

end BareStrings.Yaml
