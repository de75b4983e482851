import BareStrings.Markup.Reader
import BareStrings.Proofs.Markup.Escape

namespace BareStrings.Markup

open BareStrings.Text

/-- How an element is closed. -/
inductive Closing where
  /-- By an end tag with the name in this spelling. -/
  | endTag (name : List Char)
  /-- By a slash in its start tag. -/
  | slash
  /-- By its start tag itself. -/
  | void
deriving DecidableEq

/-- An attribute to be written. -/
structure TemplateAttribute where
  name : List Char
  value : Option (List Char)
deriving DecidableEq

/-- A tree to be written. -/
inductive Template where
  | element (name : List Char) (attributes : List TemplateAttribute) (closing : Closing)
    (children : List Template)
  | text (value : List Char)
  | interpolation (body : List Char)

/-- Whether the start tag closes the element by a slash. -/
def Closing.isSlash : Closing → Bool
  | .slash => true
  | .endTag _ | .void => false

/-- What stands at the end of the start tag. -/
def Closing.bracket : Closing → List Char
  | .endTag _ | .void => ['>']
  | .slash => [' ', '/', '>']

/-- What stands behind the children. -/
def Closing.behind : Closing → List Char
  | .endTag name => '<' :: '/' :: name ++ ['>']
  | .slash | .void => []

/-- A value with its equals sign and its quotes. -/
def renderValue : Option (List Char) → List Char
  | none => []
  | some value => '=' :: '"' :: escapeValue value ++ ['"']

/-- An attribute as it is written behind what precedes it. -/
def TemplateAttribute.render (written : TemplateAttribute) : List Char :=
  ' ' :: written.name ++ renderValue written.value

/-- Attributes one after another. -/
def renderAttributes (attributes : List TemplateAttribute) : List Char :=
  attributes.flatMap TemplateAttribute.render

/-- A start tag. -/
def renderTag (name : List Char) (attributes : List TemplateAttribute) (closing : Closing) : List Char :=
  '<' :: name ++ renderAttributes attributes ++ closing.bracket

mutual

/-- A tree as markup. -/
def Template.render : Template → List Char
  | .element name attributes closing children =>
    renderTag name attributes closing ++ renderAll children ++ closing.behind
  | .text value => escapeText value
  | .interpolation body => Piece.opening ++ body ++ Piece.closing

/-- Trees one after another as markup. -/
def renderAll : List Template → List Char
  | [] => []
  | template :: templates => template.render ++ renderAll templates

end

/-- A name of an element: a letter and then letters, digits, dots, hyphens, colons and underscores,
but in no case one of the names of code. -/
structure IsElementName (name : List Char) : Prop where
  letter : ∃ c rest, name = c :: rest ∧ c.isAlpha = true
  chars : ∀ c ∈ name, Lexeme.isEndNameChar c = true
  not_code : name.map Char.toLower ∉ rawTextNames

/-- A character that may stand in the name of an attribute: no blank, no quote, no slash, no closing
bracket and no equals sign. -/
def IsAttributeChar (c : Char) : Prop :=
  isBlank c = false ∧ c ≠ '"' ∧ c ≠ '\'' ∧ c ≠ '/' ∧ c ≠ '>' ∧ c ≠ '='

/-- An attribute whose name can be read back, and its value too if the attribute is a directive. -/
structure TemplateAttribute.Valid (written : TemplateAttribute) : Prop where
  name_ne_nil : written.name ≠ []
  chars : ∀ c ∈ written.name, IsAttributeChar c
  expression : ∀ key value, DirectiveKey.parse? written.name = some key → written.value = some value →
    ∃ expression, Expression.parse value = .ok expression

/-- An element may be closed in this way: by an end tag that names it in any case, unless it is void,
or without one, if it has no children. -/
def Closing.Fits (closing : Closing) (name : List Char) (children : List Template) : Prop :=
  match closing with
  | .endTag spelling =>
    spelling.map Char.toLower = name.map Char.toLower ∧ name.map Char.toLower ∉ voidNames
  | .slash => children = []
  | .void => children = [] ∧ name.map Char.toLower ∈ voidNames

/-- Whether a tree is nothing but text. -/
def Template.isText : Template → Bool
  | .text _ => true
  | .element .. | .interpolation _ => false

/-- No text stands directly beside another one. -/
def TextsApart : List Template → Prop
  | first :: second :: rest =>
    ¬(first.isText = true ∧ second.isText = true) ∧ TextsApart (second :: rest)
  | [] | [_] => True

mutual

/-- A tree that can be read back. -/
def Template.Valid : Template → Prop
  | .element name attributes closing children =>
    IsElementName name ∧ (∀ written ∈ attributes, written.Valid) ∧ closing.Fits name children ∧
      TextsApart children ∧ AllValid children
  | .text value => value ≠ [] ∧ '\x7b' ∉ value
  | .interpolation body => (∀ c ∈ body, c ≠ '<' ∧ c ≠ '&' ∧ c ≠ '\x7d') ∧
    ∃ expression, Expression.parse body = .ok expression

/-- Trees that can be read back. -/
def AllValid : List Template → Prop
  | [] => True
  | template :: templates => template.Valid ∧ AllValid templates

end

/-- What a directive's value binds. -/
def boundTo (key : DirectiveKey) (value : List Char) : Option Expression :=
  (StartTag.boundExpression key value).toOption.join

/-- The attribute that is described, if it is written at this place. -/
def TemplateAttribute.at (position : Position) (written : TemplateAttribute) : Attribute :=
  let place := position.advance [' ']
  let valuePlace := place.advance (written.name ++ ['='])
  match DirectiveKey.parse? written.name with
  | none => .plain written.name (written.value.map (⟨·, valuePlace⟩)) place
  | some key => .directive key (written.value.map fun value => ⟨boundTo key value, valuePlace⟩) place

/-- The attributes that are described. -/
def attributesAt (position : Position) : List TemplateAttribute → List Attribute
  | [] => []
  | written :: later => written.at position :: attributesAt (position.advance written.render) later

/-- The start tag that is described. -/
def tagAt (position : Position) (name : List Char) (attributes : List TemplateAttribute) : Tag :=
  ⟨name, position, attributesAt (position.advance ('<' :: name)) attributes⟩

mutual

/-- The node that is described, if the tree is written at this place. -/
def Template.nodeAt (position : Position) : Template → Node
  | .element name attributes closing children =>
    .element (tagAt position name attributes)
      (nodesAt (position.advance (renderTag name attributes closing)) children)
  | .text value => .text value position
  | .interpolation body => .interpolation (readExpression body).toOption.join position

/-- The nodes that are described, if the trees are written one after another from this place on. -/
def nodesAt (position : Position) : List Template → List Node
  | [] => []
  | template :: templates =>
    template.nodeAt position :: nodesAt (position.advance template.render) templates

end

/-- Templates side by side are written side by side. -/
@[simp]
theorem renderAll_append (first second : List Template) :
    renderAll (first ++ second) = renderAll first ++ renderAll second := by
  induction first with
  | nil => rfl
  | cons template templates ih => simp [renderAll, ih]

/-- Templates side by side are read as nodes side by side, the second ones behind what is written of the
first ones. -/
theorem nodesAt_append (position : Position) (first second : List Template) :
    nodesAt position (first ++ second) =
      nodesAt position first ++ nodesAt (position.advance (renderAll first)) second := by
  induction first generalizing position with
  | nil => rfl
  | cons template templates ih => simp [nodesAt, renderAll, ih, Position.advance_append]

/-- Templates side by side are valid exactly if both lists are. -/
theorem allValid_append {first second : List Template} :
    AllValid (first ++ second) ↔ AllValid first ∧ AllValid second := by
  induction first with
  | nil => simp [AllValid]
  | cons template templates ih => simp [AllValid, ih, and_assoc]

/-- If no two texts meet in a list of templates, none do in a front of it. -/
theorem TextsApart.of_append_left {first second : List Template}
    (hapart : TextsApart (first ++ second)) : TextsApart first := by
  induction first with
  | nil => trivial
  | cons template templates ih =>
    cases templates with
    | nil => trivial
    | cons next templates => exact ⟨hapart.1, ih hapart.2⟩

/-- If no two texts meet in a list of templates, none do behind its first template. -/
theorem TextsApart.tail {template : Template} {templates : List Template}
    (hapart : TextsApart (template :: templates)) : TextsApart templates := by
  cases templates with
  | nil => trivial
  | cons next templates => exact hapart.2

/-- If no two texts meet in a list of templates, none do in an end of it. -/
theorem TextsApart.of_append_right {first second : List Template}
    (hapart : TextsApart (first ++ second)) : TextsApart second := by
  induction first with
  | nil => exact hapart
  | cons template templates ih => exact ih hapart.tail

end BareStrings.Markup
