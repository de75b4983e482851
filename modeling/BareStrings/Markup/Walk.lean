import BareStrings.Markup.Node

namespace BareStrings.Markup

open BareStrings.Text

/-- What a walk meets. -/
inductive Event where
  | enter (rawName : List Char)
  | exit (rawName : List Char)
  | attr (written : Attribute)
  | text (value : List Char) (position : Position)
  | interpolation (expression : Option Expression) (position : Position)
deriving DecidableEq

mutual

/-- The events of a node and all below it. -/
def Node.events : Node → List Event
  | .element tag children =>
    .enter tag.rawName :: (tag.attributes.map .attr ++
      (nodesEvents children ++ [.exit tag.rawName]))
  | .text value position => [.text value position]
  | .interpolation expression position => [.interpolation expression position]

/-- The events of nodes one after another. -/
def nodesEvents : List Node → List Event
  | [] => []
  | node :: nodes => node.events ++ nodesEvents nodes

end

/-- The events of a tree. -/
def Tree.events : Tree → List Event
  | .document root => nodesEvents root.children
  | .node root => root.events

/-- A walk comes to something that is no part of a template. -/
structure ForeignNode where
  kind : List Char
deriving DecidableEq

/-- The wording of the complaint about a foreign node. -/
def ForeignNode.message (error : ForeignNode) : String :=
  "Unsupported template node: " ++ String.ofList error.kind

/-- The events of a tree whose outermost node has something foreign behind its last child: those up
to there. Text and interpolations have no children and are walked as they are. -/
def Tree.eventsUpTo (foreign : ForeignNode) : Tree → List Event × Option ForeignNode
  | .document root => (nodesEvents root.children, some foreign)
  | .node (.element tag children) =>
    (.enter tag.rawName :: (tag.attributes.map .attr ++ nodesEvents children), some foreign)
  | .node leaf => (leaf.events, none)

end BareStrings.Markup
