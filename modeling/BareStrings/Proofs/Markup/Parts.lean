import BareStrings.Proofs.Markup.Passage

namespace BareStrings.Markup

open BareStrings.Text

/-- What stands at a place of a tree: a start tag with its attributes, a text or an interpolation. -/
inductive Part where
  | startTag (tag : Tag)
  | text (value : List Char) (position : Position)
  | interpolation (expression : Option Expression) (position : Position)
deriving DecidableEq

mutual

/-- The parts of a node. An element's start tag comes before all that is inside the element. -/
def Node.parts : Node → List Part
  | .element tag children => .startTag tag :: nodesParts children
  | .text value position => [.text value position]
  | .interpolation expression position => [.interpolation expression position]

/-- The parts of nodes one after another. -/
def nodesParts : List Node → List Part
  | [] => []
  | node :: nodes => node.parts ++ nodesParts nodes

end

@[simp]
theorem nodesParts_append (first second : List Node) :
    nodesParts (first ++ second) = nodesParts first ++ nodesParts second := by
  induction first with
  | nil => rfl
  | cons node nodes ih => simp [nodesParts, ih]

/-- The parts of a whole source. -/
def Document.parts (document : Document) : List Part := nodesParts document.children

/-- The parts of an element. -/
def Element.parts (element : Element) : List Part := .startTag element.tag :: nodesParts element.children

@[simp]
theorem Element.parts_enclose (element : Element) (nodes : List Node) :
    (element.enclose nodes).parts = element.parts ++ nodesParts nodes := by
  simp [parts, enclose]

@[simp]
theorem nodesParts_toNode (element : Element) : nodesParts [element.toNode] = element.parts := by
  simp [nodesParts, Element.toNode, Node.parts, Element.parts]

/-- The parts of open elements, given innermost first. -/
def openParts (openElements : List Element) : List Part := openElements.reverse.flatMap Element.parts

/-- The parts of an open element stand behind those of the elements around it. -/
@[simp]
theorem openParts_cons (element : Element) (outer : List Element) :
    openParts (element :: outer) = openParts outer ++ element.parts := by
  simp [openParts]

private theorem nodesParts_enclosed (inner : List Node) (openElements : List Element) :
    nodesParts (Builder.enclosed inner openElements) = openParts openElements ++ nodesParts inner := by
  induction openElements generalizing inner with
  | nil => rfl
  | cons element outer ih =>
    have houter := ih [(element.enclose inner).toNode]
    rw [nodesParts_toNode, Element.parts_enclose] at houter
    simpa [Builder.enclosed] using houter

namespace Builder

/-- The parts of the tree so far. -/
def parts (builder : Builder) : List Part := builder.document.parts

/-- The parts of a builder are those of what is closed, and then those of what is open. -/
private theorem parts_eq (builder : Builder) :
    builder.parts = nodesParts builder.children ++ openParts builder.openElements := by
  simp [parts, Document.parts, document, nodesParts_enclosed, nodesParts]

/-- Nodes that are added bring their parts behind those that are there. -/
theorem parts_addNodes (builder : Builder) (nodes : List Node) :
    (builder.addNodes nodes).parts = builder.parts ++ nodesParts nodes := by
  simp only [parts_eq, addNodes]
  split
  · rename_i hnone
    simp [hnone, openParts]
  · rename_i element outer hsome
    simp [hsome]

/-- Closing an element keeps all parts, in their order. -/
private theorem openParts_closeNamed? {name : List Char} {inner : List Node}
    {openElements outer : List Element} {closed : Node}
    (hclose : closeNamed? name inner openElements = some (outer, closed)) :
    openParts outer ++ nodesParts [closed] = openParts openElements ++ nodesParts inner := by
  induction openElements generalizing inner with
  | nil => cases hclose
  | cons element elements ih =>
    simp only [closeNamed?] at hclose
    split at hclose
    · cases hclose
      simp
    · simpa using ih hclose

/-- An end tag leaves all parts where they are. -/
theorem parts_close (builder : Builder) (name : List Char) :
    (builder.close name).parts = builder.parts := by
  unfold close
  split
  · rfl
  · rename_i outer closed hclose
    have hparts := openParts_closeNamed? hclose
    rw [parts_addNodes, parts_eq, parts_eq, List.append_assoc, hparts]
    simp [nodesParts]

/-- A start tag brings itself as one part more, whether it opens an element or not. -/
theorem parts_addTag (builder : Builder) (tag : Tag) (selfClosing : Bool) :
    (builder.addTag tag selfClosing).parts = builder.parts ++ [.startTag tag] := by
  unfold addTag
  split
  · simp [parts_addNodes, nodesParts, Node.parts]
  · simp [parts_eq, Element.parts, nodesParts]

/-- Beginning a text brings no part. -/
theorem parts_beginText (builder : Builder) : builder.beginText.parts = builder.parts := by
  unfold beginText
  split <;> simp [parts_eq]

/-- Moving on behind a passage brings no part. -/
theorem parts_pass (builder : Builder) (raw : List Char) :
    (builder.pass raw).parts = builder.parts := by
  simp [parts_eq, pass]

/-- Unfinished text becomes nodes, and everything else stays. -/
theorem flush_cases {builder flushed : Builder} (hflush : builder.flush = .ok flushed) :
    (builder.pending = none ∧ flushed = builder) ∨
      ∃ start raw nodes, builder.pending = some (start, raw) ∧ textNodes start raw = .ok nodes ∧
        flushed = { builder.addNodes nodes with pending := none } := by
  unfold flush at hflush
  split at hflush
  · rename_i hnone
    exact .inl ⟨hnone, (Except.ok.inj hflush).symm⟩
  · rename_i start raw hsome
    rw [bind_eq_ok_iff] at hflush
    obtain ⟨nodes, hnodes, hflushed⟩ := hflush
    exact .inr ⟨start, raw, nodes, hsome, hnodes, (Except.ok.inj hflushed).symm⟩

/-- Adding nodes does not move on in the source. -/
theorem position_addNodes (builder : Builder) (nodes : List Node) :
    (builder.addNodes nodes).position = builder.position := by
  unfold addNodes
  split <;> rfl

/-- Adding nodes leaves the text that waits as it is. -/
theorem pending_addNodes (builder : Builder) (nodes : List Node) :
    (builder.addNodes nodes).pending = builder.pending := by
  unfold addNodes
  split <;> rfl

/-- No text waits once the waiting text has become nodes. -/
theorem pending_flush {builder flushed : Builder} (hflush : builder.flush = .ok flushed) :
    flushed.pending = none := by
  obtain ⟨hnone, rfl⟩ | ⟨_, _, _, _, _, rfl⟩ := flush_cases hflush
  · exact hnone
  · rfl

/-- Closing an element does not move on in the source. -/
theorem position_close (builder : Builder) (name : List Char) :
    (builder.close name).position = builder.position := by
  unfold close
  split
  · rfl
  · rw [position_addNodes]

/-- Closing an element leaves the text that waits as it is. -/
theorem pending_close (builder : Builder) (name : List Char) :
    (builder.close name).pending = builder.pending := by
  unfold close
  split
  · rfl
  · rw [pending_addNodes]

/-- Adding a start tag does not move on in the source. -/
theorem position_addTag (builder : Builder) (tag : Tag) (selfClosing : Bool) :
    (builder.addTag tag selfClosing).position = builder.position := by
  unfold addTag
  split
  · exact position_addNodes builder _
  · rfl

/-- Adding a start tag leaves the text that waits as it is. -/
theorem pending_addTag (builder : Builder) (tag : Tag) (selfClosing : Bool) :
    (builder.addTag tag selfClosing).pending = builder.pending := by
  unfold addTag
  split
  · exact pending_addNodes builder _
  · rfl

/-- Beginning a text does not move on in the source. -/
theorem position_beginText (builder : Builder) : builder.beginText.position = builder.position := by
  unfold beginText
  split <;> rfl

/-- All that a passage can do. Text and nameless end tags leave unfinished text unfinished; the others
make nodes of it first. -/
theorem step_cases {builder next : Builder} {token : Token} {raw : List Char}
    (hstep : builder.step token raw = .ok next) :
    (token = .data ∧ next = builder.beginText.pass raw) ∨
      (token = .skipped ∧ next = builder.pass raw) ∨
      ∃ flushed, builder.flush = .ok flushed ∧
        ((∃ name selfClosing tag, token = .startTag name selfClosing ∧
            Tag.parse raw flushed.position = .ok tag ∧
            next = (flushed.addTag tag selfClosing).pass raw) ∨
          (∃ name, token = .endTag name ∧ next = (flushed.close name).pass raw) ∨
          (token = .aside ∧ next = flushed.pass raw)) := by
  rw [step, bind_eq_ok_iff] at hstep
  obtain ⟨accepted, haccept, hnext⟩ := hstep
  obtain rfl := Except.ok.inj hnext
  cases token with
  | data => exact .inl ⟨rfl, by rw [← Except.ok.inj haccept]⟩
  | skipped => exact .inr (.inl ⟨rfl, by rw [← Except.ok.inj haccept]⟩)
  | aside => exact .inr (.inr ⟨accepted, haccept, .inr (.inr ⟨rfl, rfl⟩)⟩)
  | endTag name =>
    simp only [accept, bind_eq_ok_iff] at haccept
    obtain ⟨flushed, hflush, hclose⟩ := haccept
    exact .inr (.inr ⟨flushed, hflush, .inr (.inl ⟨name, rfl, by rw [← Except.ok.inj hclose]⟩)⟩)
  | startTag name selfClosing =>
    simp only [accept, bind_eq_ok_iff] at haccept
    obtain ⟨flushed, hflush, tag, htag, hadd⟩ := haccept
    exact .inr (.inr ⟨flushed, hflush,
      .inl ⟨name, selfClosing, tag, rfl, htag, by rw [← Except.ok.inj hadd]⟩⟩)

end Builder

end BareStrings.Markup
