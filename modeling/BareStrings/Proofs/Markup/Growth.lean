import BareStrings.Proofs.Markup.Spine
import BareStrings.Proofs.Markup.TagName

namespace BareStrings.Markup

open BareStrings.Text Relation

/-- The node at a place: which node to take, then which of its children, and so on. -/
def nodeAt? (nodes : List Node) : List Nat → Option Node
  | [] => none
  | [index] => nodes[index]?
  | index :: place =>
    match nodes[index]? with
    | some (.element _ children) => nodeAt? children place
    | _ => none

private theorem allVoidEmpty_of_mem {nodes : List Node} (hempty : AllVoidEmpty nodes) {node : Node}
    (hnode : node ∈ nodes) : node.VoidEmpty := by
  induction nodes with
  | nil => cases hnode
  | cons first nodes ih =>
    rcases List.mem_cons.1 hnode with rfl | hlater
    · exact hempty.1
    · exact ih hempty.2 hlater

/-- If all elements of a void name are empty, so is the one at a given place. -/
theorem voidEmpty_nodeAt? {nodes : List Node} (hempty : AllVoidEmpty nodes) {place : List Nat}
    {node : Node} (hnode : nodeAt? nodes place = some node) : node.VoidEmpty := by
  fun_induction nodeAt? nodes place with
  | case1 => cases hnode
  | case2 nodes index => exact allVoidEmpty_of_mem hempty (List.mem_of_getElem? hnode)
  | case3 nodes index place _ tag children hinside ih =>
    exact ih (allVoidEmpty_of_mem hempty (List.mem_of_getElem? hinside)).2 hnode
  | case4 => cases hnode

/-- A node is added at a place of a tree under construction: inside the innermost open element, or behind
all others. -/
inductive Adds : Site → List Nat → Node → Site → Prop
  | here (nodes : List Node) (node : Node) : Adds ⟨nodes, []⟩ [nodes.length] node ⟨nodes ++ [node], []⟩
  | inside {site next : Site} {place : List Nat} {node : Node} (nodes : List Node) (tag : Tag)
      (hadds : Adds site place node next) :
      Adds ⟨nodes, ⟨tag, site.finished⟩ :: site.opened⟩ (nodes.length :: place) node
        ⟨nodes, ⟨tag, next.finished⟩ :: next.opened⟩

namespace Adds

variable {site next : Site} {place : List Nat} {node : Node}

private theorem frame (hadds : Adds site place node next) (tag : Tag) (outer : List Element)
    (nodes : List Node) :
    ∃ place, Adds ⟨nodes, outer ++ ⟨tag, site.finished⟩ :: site.opened⟩ place node
      ⟨nodes, outer ++ ⟨tag, next.finished⟩ :: next.opened⟩ := by
  induction outer generalizing nodes with
  | nil => exact ⟨_, .inside nodes tag hadds⟩
  | cons element outer ih =>
    obtain ⟨place, hinside⟩ := ih element.children
    exact ⟨_, .inside nodes element.tag hinside⟩

private theorem exists_cons (hadds : Adds site place node next) : ∃ index later, place = index :: later := by
  cases hadds <;> exact ⟨_, _, rfl⟩

/-- Before, nothing is at the place. -/
theorem fresh (hadds : Adds site place node next) : nodeAt? site.nodes place = none := by
  induction hadds with
  | here nodes node => simp [nodeAt?, Site.nodes, within]
  | inside nodes tag hadds ih =>
    obtain ⟨index, later, rfl⟩ := hadds.exists_cons
    simpa [nodeAt?, Site.nodes, within, Element.enclose, Element.toNode] using ih

/-- A node that is not left open stays where it is and as it is. -/
theorem stays (hadds : Adds site place node next) {target : List Node}
    (hgrows : Grows next.spine next.nodes target) : nodeAt? target place = some node := by
  induction hadds generalizing target with
  | here nodes node =>
    obtain ⟨more, rfl⟩ := hgrows.exists_append
    simp [nodeAt?, Site.nodes, within]
  | inside nodes tag hadds ih =>
    obtain ⟨grown, more, hinside, rfl⟩ := Grows.of_concat hgrows
    obtain ⟨index, later, rfl⟩ := hadds.exists_cons
    simpa [nodeAt?, Element.enclose] using ih hinside

end Adds

/-- The nodes of a text are no elements, and so none of them is a void one with children. -/
private theorem voidEmpty_textNodes {position : Position} {raw : List Char} {nodes : List Node}
    (hnodes : textNodes position raw = .ok nodes) : AllVoidEmpty nodes := by
  unfold textNodes at hnodes
  generalize Piece.ofSource raw = pieces at hnodes
  induction pieces generalizing position nodes with
  | nil =>
    cases hnodes
    trivial
  | cons piece pieces ih =>
    obtain ⟨node, hnode, hnodes⟩ := bind_eq_ok_iff.1 hnodes
    obtain ⟨later, hlater, hnodes⟩ := bind_eq_ok_iff.1 hnodes
    cases hnodes
    refine ⟨?_, ih hlater⟩
    cases piece with
    | text =>
      obtain ⟨_, _, hnode⟩ := bind_eq_ok_iff.1 hnode
      cases hnode
      trivial
    | mustache =>
      obtain ⟨_, _, hnode⟩ := bind_eq_ok_iff.1 hnode
      obtain ⟨_, _, hnode⟩ := bind_eq_ok_iff.1 hnode
      cases hnode
      trivial

namespace Builder

/-- The tree so far: finished nodes, and the open elements behind them. -/
def site (builder : Builder) : Site := ⟨builder.children, builder.openElements.reverse⟩

/-- The open elements as they stand in the tree, outermost first. -/
def spine (builder : Builder) : List Element := builder.site.spine

private theorem enclosed_reverse (path : List Element) : enclosed [] path.reverse = within path := by
  induction path with
  | nil => rfl
  | cons element inner ih =>
    simp only [enclosed, List.foldl_reverse, List.foldr_cons] at ih ⊢
    rw [ih, within]

/-- The nodes of the document are those of the site that is built on. -/
theorem children_document (builder : Builder) : builder.document.children = builder.site.nodes := by
  rw [Site.nodes, site, ← enclosed_reverse, List.reverse_reverse]
  rfl

/-- The spine holds the open elements, the outermost of them first. -/
theorem map_tag_spine (builder : Builder) : builder.spine.map (·.tag) = builder.openTags.reverse := by
  simp [spine, Site.spine, site, openTags]

/-- The names of the open elements decide which are closed, whatever is inside them. -/
theorem forall_mem_spine {p : Tag → Prop} {builder : Builder} :
    (∀ element ∈ builder.spine, p element.tag) ↔ ∀ element ∈ builder.openElements, p element.tag := by
  have hspine : (∀ tag ∈ builder.spine.map (·.tag), p tag) ↔ ∀ tag ∈ builder.openTags.reverse, p tag := by
    rw [map_tag_spine]
  simpa [openTags] using hspine

/-- Nodes are added inside the innermost open element, or behind all others. -/
theorem edit_addNodes (builder : Builder) {nodes : List Node} (hnodes : AllVoidEmpty nodes) :
    Edit builder.site (builder.addNodes nodes).site := by
  unfold addNodes site
  split
  · rename_i hnone
    rw [hnone]
    exact .add builder.children hnodes
  · rename_i element outer hsome
    rw [hsome, List.reverse_cons, List.reverse_cons]
    exact (Edit.add element.children hnodes).frame element.tag outer.reverse builder.children

/-- Adding a start tag is one edit of the site. -/
private theorem edit_addTag (builder : Builder) (tag : Tag) (selfClosing : Bool) :
    Edit builder.site (builder.addTag tag selfClosing).site := by
  unfold addTag
  split
  · exact builder.edit_addNodes (by simp)
  · rename_i hopen
    rw [Bool.or_eq_true, not_or, Bool.not_eq_true, Bool.not_eq_true] at hopen
    cases hstack : builder.openElements with
    | nil =>
      simp only [site, hstack]
      exact .opens builder.children hopen.2
    | cons element outer =>
      simp only [site, hstack, List.reverse_cons, List.append_assoc, List.singleton_append]
      exact (Edit.opens element.children hopen.2).frame element.tag outer.reverse builder.children

/-- A node is added at some place of the site. -/
theorem exists_adds (builder : Builder) (node : Node) :
    ∃ place, Adds builder.site place node (builder.addNodes [node]).site := by
  unfold addNodes site
  split
  · rename_i hnone
    rw [hnone]
    exact ⟨_, .here builder.children node⟩
  · rename_i element outer hsome
    rw [hsome, List.reverse_cons, List.reverse_cons]
    exact (Adds.here element.children node).frame element.tag outer.reverse builder.children

/-- What is closed is the innermost open element of the name, with all elements inside it. -/
theorem exists_of_closeNamed? {name : List Char} {nodes : List Node} {openElements outer : List Element}
    {closed : Node} (hclose : closeNamed? name nodes openElements = some (outer, closed)) :
    ∃ inside element, openElements = inside ++ element :: outer ∧ element.tag.name = name ∧
      enclosed nodes (inside ++ [element]) = [closed] := by
  induction openElements generalizing nodes with
  | nil => cases hclose
  | cons first later ih =>
    simp only [closeNamed?] at hclose
    split at hclose
    · rename_i hname
      cases hclose
      exact ⟨[], first, rfl, hname, rfl⟩
    · obtain ⟨inside, element, rfl, hname, henclosed⟩ := ih hclose
      exact ⟨first :: inside, element, rfl, hname, henclosed⟩

/-- An end tag either finds no open element of its name, or ends some of the innermost open elements and
leaves the tree as it is. -/
theorem close_cases (builder : Builder) (name : List Char) :
    (closeNamed? name [] builder.openElements = none ∧ builder.close name = builder) ∨
      ∃ outer closed, closeNamed? name [] builder.openElements = some (outer, closed) ∧
        Edit builder.site (builder.close name).site ∧
        (builder.close name).site.nodes = builder.site.nodes ∧
        (builder.close name).spine = builder.spine.take outer.length := by
  cases hclose : closeNamed? name [] builder.openElements with
  | none => exact .inl ⟨rfl, by rw [close, hclose]⟩
  | some found =>
    obtain ⟨outer, closed⟩ := found
    obtain ⟨inside, element, hopen, -, henclosed⟩ := exists_of_closeNamed? hclose
    have hwithin : within (element :: inside.reverse) = [closed] := by
      rw [← henclosed, ← enclosed_reverse, List.reverse_cons, List.reverse_reverse]
    refine .inr ⟨outer, closed, rfl, ?_⟩
    rw [close, hclose]
    cases outer with
    | nil =>
      have hsite : builder.site = ⟨builder.children, element :: inside.reverse⟩ := by
        simp [site, hopen]
      have hclosed : ({ builder with openElements := [] }.addNodes [closed]).site =
          ⟨builder.children ++ within (element :: inside.reverse), []⟩ := by
        simp [site, addNodes, hwithin]
      simp only [spine, hsite]
      rw [hclosed]
      exact ⟨.closes _ _, by simp [Site.nodes, within], by simp [Site.spine, wholes]⟩
    | cons around outer =>
      have hsite : builder.site =
          ⟨builder.children, outer.reverse ++ around :: element :: inside.reverse⟩ := by
        simp [site, hopen]
      have hclosed : ({ builder with openElements := around :: outer }.addNodes [closed]).site =
          ⟨builder.children,
            outer.reverse ++ [around.enclose (within (element :: inside.reverse))]⟩ := by
        simp [site, addNodes, hwithin]
      obtain ⟨hnodes, hspine⟩ := wholes_append_enclose outer.reverse around (element :: inside.reverse)
      simp only [spine, hsite]
      rw [hclosed]
      refine ⟨?_, congrArg (builder.children ++ ·) hnodes, by simpa [Site.spine] using hspine⟩
      exact (Edit.closes around.children (element :: inside.reverse)).frame around.tag outer.reverse
        builder.children

/-- What an end tag of a name does where no text is unfinished: it closes the innermost open element of the
name with all inside it, or nothing if no open element has the name. The tree stays as it is. -/
structure ClosedBy (name : List Char) (builder next : Builder) : Prop where
  document_eq : next.document = builder.document
  innermost : ∀ outer element inside, builder.spine = outer ++ element :: inside →
    element.tag.name = name → (∀ later ∈ inside, later.tag.name ≠ name) → next.spine = outer
  stray : (∀ element ∈ builder.spine, element.tag.name ≠ name) → next.spine = builder.spine

private theorem document_eq_of_nodes {builder next : Builder}
    (hnodes : next.site.nodes = builder.site.nodes) : next.document = builder.document := by
  rw [← children_document, ← children_document] at hnodes
  exact congrArg (Document.mk .start) hnodes

/-- The innermost open element of a name on the spine is the one that is closed. -/
theorem closeNamed?_of_spine {builder : Builder} {name : List Char} {outer inside : List Element}
    {element : Element} (hspine : builder.spine = outer ++ element :: inside)
    (hname : element.tag.name = name) (hinside : ∀ later ∈ inside, later.tag.name ≠ name) :
    ∃ elements closed, closeNamed? name [] builder.openElements = some (elements, closed) ∧
      elements.length = outer.length := by
  have hopen : builder.openElements.map (·.tag) =
      (inside.map (·.tag)).reverse ++ element.tag :: (outer.map (·.tag)).reverse := by
    have htags := congrArg List.reverse builder.map_tag_spine
    rw [List.reverse_reverse, hspine] at htags
    simpa [openTags] using htags.symm
  obtain ⟨elements, closed, hclose, helements⟩ :=
    closeNamed?_append (by simpa using hinside) hname hopen []
  exact ⟨elements, closed, hclose, by simpa using congrArg List.length helements⟩

/-- Closing a name closes what an end tag of that name is said to close. -/
theorem closedBy_close (builder : Builder) (name : List Char) :
    builder.ClosedBy name (builder.close name) := by
  obtain ⟨hnone, heq⟩ | ⟨outer, closed, hclose, _, hnodes, htake⟩ := builder.close_cases name
  · refine ⟨by rw [heq], fun above element inside hspine hname hinside => ?_, fun _ => by rw [heq]⟩
    obtain ⟨_, _, hclose, _⟩ := closeNamed?_of_spine hspine hname hinside
    rw [hnone] at hclose
    cases hclose
  · refine ⟨document_eq_of_nodes hnodes, fun above element inside hspine hname hinside => ?_, ?_⟩
    · obtain ⟨_, _, hfound, hlength⟩ := closeNamed?_of_spine hspine hname hinside
      rw [hclose] at hfound
      cases hfound
      rw [htake, hspine, hlength, List.take_left]
    · intro hstray
      obtain ⟨_, element, hopen, hname, _⟩ := exists_of_closeNamed? hclose
      have hnever := (forall_mem_spine (p := fun tag => tag.name ≠ name)).1 hstray element
      exact absurd hname (hnever (by simp [hopen]))

/-- The text that waits becomes nodes by edits of the site. -/
theorem edits_flush {builder flushed : Builder} (hflush : builder.flush = .ok flushed) :
    ReflTransGen Edit builder.site flushed.site := by
  obtain ⟨_, rfl⟩ | ⟨_, _, nodes, _, hnodes, rfl⟩ := flush_cases hflush
  · exact .refl
  · exact .single (builder.edit_addNodes (voidEmpty_textNodes hnodes))

private theorem edits_close (builder : Builder) (name : List Char) :
    ReflTransGen Edit builder.site (builder.close name).site := by
  obtain ⟨_, heq⟩ | ⟨_, _, _, hedit, _⟩ := builder.close_cases name
  · rw [heq]
  · exact .single hedit

/-- Beginning a text changes nothing in the site. -/
theorem site_beginText (builder : Builder) : builder.beginText.site = builder.site := by
  unfold beginText
  split <;> rfl

/-- Whatever a step does to the tree is put together from edits. -/
theorem edits_step {builder next : Builder} {token : Token} {raw : List Char}
    (hstep : builder.step token raw = .ok next) : ReflTransGen Edit builder.site next.site := by
  obtain ⟨_, rfl⟩ | ⟨_, rfl⟩ | ⟨flushed, hflush, hnext⟩ := step_cases hstep
  · change ReflTransGen Edit builder.site builder.beginText.site
    rw [site_beginText]
  · exact .refl
  · refine (edits_flush hflush).trans ?_
    obtain ⟨_, selfClosing, tag, _, _, rfl⟩ | ⟨name, _, rfl⟩ | ⟨_, rfl⟩ := hnext
    · exact .single (flushed.edit_addTag tag selfClosing)
    · exact flushed.edits_close name
    · exact .refl

end Builder

end BareStrings.Markup
