import BareStrings.Proofs.Markup.Parts
import Mathlib.Logic.Relation

namespace BareStrings.Markup

/-- Each element is the last child of the one before it, and the first is the last of some nodes. -/
def IsSpine : List Node → List Element → Prop
  | _, [] => True
  | nodes, element :: inner => nodes.getLast? = some element.toNode ∧ IsSpine element.children inner

/-- The nodes that open elements, outermost first, make if they end where they are. -/
def within : List Element → List Node
  | [] => []
  | element :: inner => [(element.enclose (within inner)).toNode]

/-- Open elements, outermost first, as they stand in the tree: behind its finished children, each holds the
next one. -/
def wholes : List Element → List Element
  | [] => []
  | element :: inner => element.enclose (within inner) :: wholes inner

/-- In the tree an open element has the same start tag. -/
@[simp]
theorem map_tag_wholes (path : List Element) : (wholes path).map (·.tag) = path.map (·.tag) := by
  induction path with
  | nil => rfl
  | cons element inner ih => simp [wholes, ih, Element.enclose]

/-- Closing the elements inside an open one leaves the tree as it is, and the rest of the spine. -/
theorem wholes_append_enclose (outer : List Element) (element : Element) (inner : List Element) :
    within (outer ++ [element.enclose (within inner)]) = within (outer ++ element :: inner) ∧
      wholes (outer ++ [element.enclose (within inner)]) =
        (wholes (outer ++ element :: inner)).take (outer.length + 1) := by
  induction outer with
  | nil => simp [within, wholes, Element.enclose]
  | cons first outer ih => simp [within, wholes, ih.1, ih.2]

/-- A level of a tree under construction: finished nodes, and the open elements behind them, outermost
first, each with its finished children. -/
structure Site where
  finished : List Node
  opened : List Element

namespace Site

/-- All nodes of the level, as if the open elements ended where they are. -/
def nodes (site : Site) : List Node := site.finished ++ within site.opened

/-- The open elements as they stand in the tree, outermost first. -/
def spine (site : Site) : List Element := wholes site.opened

/-- The open elements of a site are the last ones of its nodes, each inside the one before. -/
theorem isSpine (site : Site) : IsSpine site.nodes site.spine := by
  obtain ⟨finished, opened⟩ := site
  induction opened generalizing finished with
  | nil => trivial
  | cons element inner ih => exact ⟨by simp [nodes, within], ih element.children⟩

end Site

/-- Nodes grow into others along some open elements. What is there stays as it is, and new nodes come behind
it; only the last node, if it is the outermost of the open elements, may grow inside, along the open elements
that it holds. -/
inductive Grows : List Element → List Node → List Node → Prop
  | behind (opened : List Element) (nodes more : List Node) : Grows opened nodes (nodes ++ more)
  | inside {element : Element} {inner : List Element} {grown : List Node} (before more : List Node)
      (hgrows : Grows inner element.children grown) :
      Grows (element :: inner) (before ++ [element.toNode])
        (before ++ .element element.tag grown :: more)

namespace Grows

/-- Nodes have grown out of themselves. -/
theorem refl (opened : List Element) (nodes : List Node) : Grows opened nodes nodes := by
  simpa using Grows.behind opened nodes []

/-- Where nothing is open, nodes only come behind. -/
theorem exists_append {nodes target : List Node} (hgrows : Grows [] nodes target) :
    ∃ more, target = nodes ++ more := by
  cases hgrows with
  | behind _ _ more => exact ⟨more, rfl⟩

/-- The outermost open element grows, if only by nothing, and new nodes come behind it. -/
theorem of_concat {element : Element} {inner : List Element} {nodes target : List Node}
    (hgrows : Grows (element :: inner) (nodes ++ [element.toNode]) target) :
    ∃ grown more, Grows inner element.children grown ∧
      target = nodes ++ .element element.tag grown :: more := by
  generalize hsource : nodes ++ [element.toNode] = source at hgrows
  cases hgrows with
  | behind _ _ more =>
    exact ⟨element.children, more, .refl inner _, by simp [← hsource, Element.toNode]⟩
  | inside before more hgrows =>
    obtain ⟨rfl, _⟩ := List.append_inj' hsource rfl
    exact ⟨_, more, hgrows, rfl⟩

end Grows

mutual

/-- No void element in a node has children. -/
def Node.VoidEmpty : Node → Prop
  | .element tag children => (tag.isVoid = true → children = []) ∧ AllVoidEmpty children
  | .text .. | .interpolation .. => True

/-- No void element in some nodes has children. -/
def AllVoidEmpty : List Node → Prop
  | [] => True
  | node :: nodes => node.VoidEmpty ∧ AllVoidEmpty nodes

end

@[simp]
theorem allVoidEmpty_append {first second : List Node} :
    AllVoidEmpty (first ++ second) ↔ AllVoidEmpty first ∧ AllVoidEmpty second := by
  induction first with
  | nil => simp [AllVoidEmpty]
  | cons node nodes ih => simp [AllVoidEmpty, ih, and_assoc]

@[simp]
theorem allVoidEmpty_element {tag : Tag} {children nodes : List Node} :
    AllVoidEmpty (.element tag children :: nodes) ↔
      ((tag.isVoid = true → children = []) ∧ AllVoidEmpty children) ∧ AllVoidEmpty nodes := Iff.rfl

/-- Where there are no nodes, no void element has children. -/
@[simp]
theorem allVoidEmpty_nil : AllVoidEmpty [] := trivial

/-- An edit of a level of the tree, behind all that is there: nodes are added, an element is opened, or open
elements are closed. It happens beside the outermost open element or somewhere inside it. -/
inductive Edit : Site → Site → Prop
  | add (nodes : List Node) {more : List Node} (hmore : AllVoidEmpty more) :
      Edit ⟨nodes, []⟩ ⟨nodes ++ more, []⟩
  | opens (nodes : List Node) {tag : Tag} (hvoid : tag.isVoid = false) :
      Edit ⟨nodes, []⟩ ⟨nodes, [⟨tag, []⟩]⟩
  | closes (nodes : List Node) (opened : List Element) :
      Edit ⟨nodes, opened⟩ ⟨nodes ++ within opened, []⟩
  | inside (nodes : List Node) (tag : Tag) {site next : Site} (hedit : Edit site next) :
      Edit ⟨nodes, ⟨tag, site.finished⟩ :: site.opened⟩ ⟨nodes, ⟨tag, next.finished⟩ :: next.opened⟩

namespace Edit

variable {site next : Site}

/-- An edit inside the innermost of some open elements. -/
theorem frame (hedit : Edit site next) (tag : Tag) (outer : List Element) (nodes : List Node) :
    Edit ⟨nodes, outer ++ ⟨tag, site.finished⟩ :: site.opened⟩
      ⟨nodes, outer ++ ⟨tag, next.finished⟩ :: next.opened⟩ := by
  induction outer generalizing nodes with
  | nil => exact .inside nodes tag hedit
  | cons element outer ih => exact .inside nodes element.tag (ih element.children)

/-- What grows out of an edited tree grows out of the tree before. -/
theorem grows (hedit : Edit site next) {target : List Node}
    (hgrows : Grows next.spine next.nodes target) : Grows site.spine site.nodes target := by
  induction hedit generalizing target with
  | add nodes =>
    obtain ⟨later, rfl⟩ := hgrows.exists_append
    simp only [Site.nodes, within, List.append_nil, List.append_assoc]
    exact .behind _ nodes _
  | opens nodes =>
    obtain ⟨inside, more, -, rfl⟩ := Grows.of_concat hgrows
    simp only [Site.nodes, within, List.append_nil]
    exact .behind _ nodes _
  | closes nodes opened =>
    obtain ⟨more, rfl⟩ := hgrows.exists_append
    simp only [Site.nodes, within, List.append_nil]
    exact .behind _ _ more
  | inside nodes tag _ ih =>
    obtain ⟨grown, more, hinside, rfl⟩ := Grows.of_concat hgrows
    exact .inside nodes more (ih hinside)

/-- An edit gives no children to void elements, and opens none. -/
theorem voidEmpty (hedit : Edit site next)
    (hsite : AllVoidEmpty site.nodes ∧ ∀ element ∈ site.opened, element.tag.isVoid = false) :
    AllVoidEmpty next.nodes ∧ ∀ element ∈ next.opened, element.tag.isVoid = false := by
  induction hedit with
  | add nodes hmore => simpa [Site.nodes, within, hmore] using hsite
  | opens nodes hvoid => simpa [Site.nodes, within, Element.enclose, Element.toNode, hvoid] using hsite
  | closes nodes opened => simpa [Site.nodes, within] using hsite.1
  | inside nodes tag _ ih =>
    simp only [Site.nodes, within, Element.enclose, Element.toNode, allVoidEmpty_append,
      allVoidEmpty_element, allVoidEmpty_nil, List.forall_mem_cons] at hsite ih ⊢
    obtain ⟨⟨hnodes, ⟨-, hinside⟩, -⟩, hvoid, hinner⟩ := hsite
    obtain ⟨hgrown, hopened⟩ := ih ⟨hinside, hinner⟩
    exact ⟨⟨hnodes, ⟨by simp [hvoid], hgrown⟩, trivial⟩, hvoid, hopened⟩

end Edit

/-- Void elements stay empty and are never open. -/
theorem voidEmpty_of_edits {site next : Site} (hedits : Relation.ReflTransGen Edit site next)
    (hsite : AllVoidEmpty site.nodes ∧ ∀ element ∈ site.opened, element.tag.isVoid = false) :
    AllVoidEmpty next.nodes ∧ ∀ element ∈ next.opened, element.tag.isVoid = false := by
  induction hedits with
  | refl => exact hsite
  | tail _ hedit ih => exact hedit.voidEmpty ih

/-- What grows out of a tree after some edits grows out of the tree before. -/
theorem Grows.of_edits {site next : Site} (hedits : Relation.ReflTransGen Edit site next)
    {target : List Node} (hgrows : Grows next.spine next.nodes target) :
    Grows site.spine site.nodes target := by
  induction hedits using Relation.ReflTransGen.head_induction_on with
  | refl => exact hgrows
  | head hedit _ ih => exact hedit.grows ih

end BareStrings.Markup
