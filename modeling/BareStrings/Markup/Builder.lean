import BareStrings.Markup.Lexeme.Basic
import BareStrings.Markup.Mustache
import BareStrings.Markup.StartTag

namespace BareStrings.Markup

open BareStrings.Text

/-- The part of an element that has been read. -/
def Element.enclose (element : Element) (nodes : List Node) : Element :=
  { element with children := element.children ++ nodes }

/-- A tree under construction: the finished nodes outside all open elements, the open elements with
their finished children, innermost first, the place where unfinished text began together with that
text, and the place reached. -/
structure Builder where
  children : List Node
  openElements : List Element
  pending : Option (Position × List Char)
  position : Position

namespace Builder

/-- Nothing read yet. -/
def empty : Builder := { children := [], openElements := [], pending := none, position := .start }

/-- Adds nodes at the place reached: inside the innermost open element, if there is one. -/
def addNodes (builder : Builder) (nodes : List Node) : Builder :=
  match builder.openElements with
  | [] => { builder with children := builder.children ++ nodes }
  | element :: outer => { builder with openElements := element.enclose nodes :: outer }

/-- The nodes that remain when all open elements are closed, of which the innermost also holds
`inner`. -/
def enclosed (inner : List Node) (openElements : List Element) : List Node :=
  openElements.foldl (fun nodes element => [(element.enclose nodes).toNode]) inner

/-- The tree so far, as if all open elements ended here. -/
def document (builder : Builder) : Document :=
  ⟨.start, builder.children ++ enclosed [] builder.openElements⟩

/-- Makes nodes of the unfinished text. -/
def flush (builder : Builder) : Except MarkupError Builder := do
  match builder.pending with
  | none => return builder
  | some (start, raw) =>
    let nodes ← textNodes start raw
    return { builder.addNodes nodes with pending := none }

/-- Closes the innermost open element of a name with all elements inside it, of which the innermost
also holds `inner`: the elements that stay open, and the closed one. -/
def closeNamed? (name : List Char) (inner : List Node) :
    List Element → Option (List Element × Node)
  | [] => none
  | element :: outer =>
    let closed := (element.enclose inner).toNode
    if element.tag.name = name then some (outer, closed) else closeNamed? name [closed] outer

/-- Closes the innermost open element of a name, if there is one. -/
def close (builder : Builder) (name : List Char) : Builder :=
  match closeNamed? name [] builder.openElements with
  | none => builder
  | some (outer, closed) => { builder with openElements := outer }.addNodes [closed]

/-- Adds the element of a start tag, and leaves it open unless it closes itself. -/
def addTag (builder : Builder) (tag : Tag) (selfClosing : Bool) : Builder :=
  if selfClosing || tag.isVoid then builder.addNodes [.element tag []]
  else { builder with openElements := ⟨tag, []⟩ :: builder.openElements }

/-- Whether the innermost open element holds code, in which text is ignored. -/
def inCode (builder : Builder) : Bool := builder.openElements.head?.any (·.tag.isRawText)

/-- Begins unfinished text at the place reached, unless there is some already. -/
def beginText (builder : Builder) : Builder :=
  if builder.inCode then builder
  else { builder with pending := builder.pending.or (some (builder.position, [])) }

/-- What a token does to the tree before its source is passed over. -/
def accept (builder : Builder) (token : Token) (raw : List Char) : Except MarkupError Builder := do
  match token with
  | .data => return builder.beginText
  | .startTag _ selfClosing =>
    let builder ← builder.flush
    return builder.addTag (← Tag.parse raw builder.position) selfClosing
  | .endTag name => return (← builder.flush).close name
  | .aside => builder.flush
  | .skipped => return builder

/-- Passes over source. Unfinished text takes it in. -/
def pass (builder : Builder) (raw : List Char) : Builder :=
  { builder with
    pending := builder.pending.map fun (start, text) => (start, text ++ raw)
    position := builder.position.advance raw }

/-- Takes in a token with its source. -/
def step (builder : Builder) (token : Token) (raw : List Char) : Except MarkupError Builder := do
  return (← builder.accept token raw).pass raw

end Builder

end BareStrings.Markup
