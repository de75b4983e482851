import BareStrings.Expression.Basic
import BareStrings.Markup.DirectiveKey
import BareStrings.Text.Position
import BareStrings.Unicode.Case

namespace BareStrings.Markup

open BareStrings.Text

/-- The value of a plain attribute and where it begins. -/
structure AttributeValue where
  text : List Char
  position : Position
deriving DecidableEq

/-- The expression bound by a directive, if its value holds one, and where the value begins. -/
structure BoundValue where
  expression : Option Expression
  position : Position
deriving DecidableEq

/-- An attribute as written in a start tag, with or without a value. -/
inductive Attribute where
  | plain (rawName : List Char) (value : Option AttributeValue) (position : Position)
  | directive (key : DirectiveKey) (value : Option BoundValue) (position : Position)
deriving DecidableEq

/-- What a start tag says: the name in its own spelling, where the tag begins, and the attributes in
order. -/
structure Tag where
  rawName : List Char
  position : Position
  attributes : List Attribute
deriving DecidableEq

/-- The name in lower case, which decides what kind of element it is. -/
def Tag.name (tag : Tag) : List Char := Unicode.toLower tag.rawName

/-- A node of a template tree. -/
inductive Node where
  | element (tag : Tag) (children : List Node)
  | text (value : List Char) (position : Position)
  | interpolation (expression : Option Expression) (position : Position)

/-- An element: its start tag and what is inside it. -/
structure Element where
  tag : Tag
  children : List Node

/-- The element as a node. -/
def Element.toNode (element : Element) : Node := .element element.tag element.children

/-- A whole source. -/
structure Document where
  position : Position
  children : List Node

/-- What can be looked at on its own: a whole source, or one node with all below it. -/
inductive Tree where
  | document (root : Document)
  | node (root : Node)

/-- An element as a tree of its own. -/
def Element.toTree (element : Element) : Tree := .node element.toNode

/-- Elements without an end tag and without children. -/
def voidNames : List (List Char) :=
  ["area", "base", "br", "col", "embed", "hr", "img", "input", "link", "meta", "param", "source",
    "track", "wbr"].map String.toList

/-- Elements whose body is code and not text. -/
def rawTextNames : List (List Char) := ["script", "style"].map String.toList

/-- Whether the element closes where it opens. -/
def Tag.isVoid (tag : Tag) : Bool := voidNames.contains tag.name

/-- Whether the body of the element is code. -/
def Tag.isRawText (tag : Tag) : Bool := rawTextNames.contains tag.name

end BareStrings.Markup
