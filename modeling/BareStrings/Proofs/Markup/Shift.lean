import BareStrings.Proofs.Markup.Faithful
import BareStrings.Proofs.Markup.Template.Text

namespace BareStrings.Markup

open BareStrings.Text

/-- An attribute before decoding with its places moved behind a text that ends at `origin`. -/
def RawAttribute.shift (origin : Position) (raw : RawAttribute) : RawAttribute :=
  ⟨raw.name, raw.position.shift origin, raw.token.map fun (token, place) => (token, place.shift origin)⟩

/-- An attribute with its places moved. -/
def Attribute.shift (origin : Position) : Attribute → Attribute
  | .plain rawName value position =>
    .plain rawName (value.map fun value => ⟨value.text, value.position.shift origin⟩)
      (position.shift origin)
  | .directive key value position =>
    .directive key (value.map fun value => ⟨value.expression, value.position.shift origin⟩)
      (position.shift origin)

/-- A start tag with its places moved. -/
def Tag.shift (origin : Position) (tag : Tag) : Tag :=
  ⟨tag.rawName, tag.position.shift origin, tag.attributes.map (·.shift origin)⟩

mutual

/-- A node with all places in it moved. -/
def Node.shift (origin : Position) : Node → Node
  | .element tag children => .element (tag.shift origin) (shiftNodes origin children)
  | .text value position => .text value (position.shift origin)
  | .interpolation expression position => .interpolation expression (position.shift origin)

/-- Nodes with all places in them moved. -/
def shiftNodes (origin : Position) : List Node → List Node
  | [] => []
  | node :: nodes => node.shift origin :: shiftNodes origin nodes

end

/-- An element with all places in it moved. -/
def Element.shift (origin : Position) (element : Element) : Element :=
  ⟨element.tag.shift origin, shiftNodes origin element.children⟩

@[simp]
theorem shiftNodes_append (origin : Position) (first second : List Node) :
    shiftNodes origin (first ++ second) = shiftNodes origin first ++ shiftNodes origin second := by
  induction first with
  | nil => rfl
  | cons node nodes ih => simp [shiftNodes, ih]

@[simp]
theorem Element.shift_enclose (origin : Position) (element : Element) (nodes : List Node) :
    (element.enclose nodes).shift origin = (element.shift origin).enclose (shiftNodes origin nodes) := by
  simp [shift, enclose]

@[simp]
theorem Element.shift_toNode (origin : Position) (element : Element) :
    (element.shift origin).toNode = element.toNode.shift origin := by
  simp [shift, toNode, Node.shift]

section Reading

variable {position : Position} (hline : 1 ≤ position.line) (origin : Position)

include hline

/-- The attributes of a tag move with the tag. -/
private theorem rawAttributes_shift (text : List Char) :
    StartTag.rawAttributes (position.shift origin) text =
      (StartTag.rawAttributes position text).map (·.shift origin) := by
  fun_induction StartTag.rawAttributes position text with
  | case1 => exact StartTag.rawAttributes_nil _
  | case2 position c rest hstart name after behind hvalue ih =>
    rw [StartTag.rawAttributes_name hstart hvalue, Position.advance_shift hline,
      ih (Position.one_le_line_advance hline name)]
    rfl
  | case3 position c rest hstart name after behind lead token afterValue hvalue ih =>
    have hbehind := Position.one_le_line_advance hline name
    have hplace := Position.one_le_line_advance hbehind lead
    rw [StartTag.rawAttributes_value hstart hvalue, Position.advance_shift hline,
      Position.advance_shift hbehind, Position.advance_shift hplace,
      ih (Position.one_le_line_advance hplace token)]
    rfl
  | case4 position c rest hstart ih =>
    rw [StartTag.rawAttributes_skip (by simpa using hstart), Position.next_shift hline,
      ih (Position.one_le_line_advance hline [c])]

private theorem Tag.rawAttributes_shift (source : List Char) :
    Tag.rawAttributes source (position.shift origin) =
      (Tag.rawAttributes source position).map (·.shift origin) := by
  simp only [Tag.rawAttributes]
  split
  · exact Markup.rawAttributes_shift hline origin _
  · rw [Position.advance_shift hline]
    exact Markup.rawAttributes_shift (Position.one_le_line_advance hline _) origin _

end Reading

/-- The node of a piece moves with the piece. -/
private theorem Piece.toNode_shift {position : Position} {piece : Piece} {node : Node}
    (hnode : piece.toNode position = .ok node) (origin : Position) :
    piece.toNode (position.shift origin) = .ok (node.shift origin) := by
  cases piece with
  | text raw =>
    obtain ⟨value, hvalue, hnode⟩ := bind_eq_ok_iff.1 hnode
    cases hnode
    exact bind_eq_ok_iff.2 ⟨value, hvalue, rfl⟩
  | mustache body =>
    obtain ⟨text, htext, hnode⟩ := bind_eq_ok_iff.1 hnode
    obtain ⟨expression, hexpression, hnode⟩ := bind_eq_ok_iff.1 hnode
    cases hnode
    exact bind_eq_ok_iff.2 ⟨text, htext, bind_eq_ok_iff.2 ⟨expression, hexpression, rfl⟩⟩

/-- Text that stands behind another text becomes the same nodes there. -/
theorem textNodes_shift {position : Position} (hline : 1 ≤ position.line) (origin : Position)
    {raw : List Char} {nodes : List Node} (hnodes : textNodes position raw = .ok nodes) :
    textNodes (position.shift origin) raw = .ok (shiftNodes origin nodes) := by
  unfold textNodes at hnodes ⊢
  generalize Piece.ofSource raw = pieces at hnodes ⊢
  induction pieces generalizing position nodes with
  | nil =>
    cases hnodes
    rfl
  | cons piece pieces ih =>
    obtain ⟨node, hnode, hnodes⟩ := bind_eq_ok_iff.1 hnodes
    obtain ⟨later, hlater, hnodes⟩ := bind_eq_ok_iff.1 hnodes
    cases hnodes
    have hmore := ih (Position.one_le_line_advance hline piece.raw) hlater
    rw [← Position.advance_shift hline] at hmore
    exact bind_eq_ok_iff.2 ⟨_, Piece.toNode_shift hnode origin,
      bind_eq_ok_iff.2 ⟨_, hmore, rfl⟩⟩

/-- Decoding an attribute that has been moved gives the attribute, moved. -/
private theorem RawAttribute.decode_shift {raw : RawAttribute} {written : Attribute}
    (hdecode : raw.decode = .ok written) (origin : Position) :
    (raw.shift origin).decode = .ok (written.shift origin) := by
  obtain ⟨name, position, token⟩ := raw
  cases token with
  | none =>
    simp only [decode, shift, pure_bind, Option.map_none] at hdecode ⊢
    cases hkey : DirectiveKey.parse? name with
    | none =>
      simp only [hkey] at hdecode ⊢
      cases hdecode
      rfl
    | some key =>
      simp only [hkey] at hdecode ⊢
      cases hdecode
      rfl
  | some token =>
    simp only [decode, shift, Option.map_some] at hdecode ⊢
    obtain ⟨text, htext, hdecode⟩ := bind_eq_ok_iff.1 hdecode
    refine bind_eq_ok_iff.2 ⟨text, htext, ?_⟩
    cases hkey : DirectiveKey.parse? name with
    | none =>
      simp only [pure_bind, hkey] at hdecode ⊢
      cases hdecode
      rfl
    | some key =>
      simp only [pure_bind, hkey] at hdecode ⊢
      obtain ⟨expression, hexpression, hdecode⟩ := bind_eq_ok_iff.1 hdecode
      cases hdecode
      exact bind_eq_ok_iff.2 ⟨expression, hexpression, rfl⟩

/-- The same for all attributes of a tag. -/
private theorem mapM_decode_shift {raws : List RawAttribute} {attributes : List Attribute}
    (hdecode : raws.mapM RawAttribute.decode = .ok attributes) (origin : Position) :
    (raws.map (·.shift origin)).mapM RawAttribute.decode = .ok (attributes.map (·.shift origin)) := by
  induction raws generalizing attributes with
  | nil =>
    cases hdecode
    rfl
  | cons raw raws ih =>
    rw [List.mapM_cons, bind_eq_ok_iff] at hdecode
    obtain ⟨written, hwritten, hdecode⟩ := hdecode
    obtain ⟨later, hlater, hdecode⟩ := bind_eq_ok_iff.1 hdecode
    cases hdecode
    rw [List.map_cons, List.mapM_cons]
    exact bind_eq_ok_iff.2 ⟨_, RawAttribute.decode_shift hwritten origin,
      bind_eq_ok_iff.2 ⟨_, ih hlater, rfl⟩⟩

/-- A start tag that stands behind another text says the same there. -/
theorem Tag.parse_shift {position : Position} (hline : 1 ≤ position.line) (origin : Position)
    {source : List Char} {tag : Tag} (hparse : Tag.parse source position = .ok tag) :
    Tag.parse source (position.shift origin) = .ok (tag.shift origin) := by
  obtain ⟨attributes, hattributes, htag⟩ := bind_eq_ok_iff.1 hparse
  cases htag
  rw [Tag.parse, Tag.rawAttributes_shift hline]
  exact bind_eq_ok_iff.2 ⟨_, mapM_decode_shift hattributes origin, rfl⟩

namespace Builder

/-- The builder that has read the same behind another source, which gave nodes and left nothing open. -/
def behind (before : List Node) (origin : Position) (builder : Builder) : Builder :=
  { children := before ++ shiftNodes origin builder.children
    openElements := builder.openElements.map (·.shift origin)
    pending := builder.pending.map fun (start, raw) => (start.shift origin, raw)
    position := builder.position.shift origin }

variable (before : List Node) (origin : Position) (builder : Builder)

private theorem addNodes_behind (nodes : List Node) :
    (builder.behind before origin).addNodes (shiftNodes origin nodes) =
      (builder.addNodes nodes).behind before origin := by
  obtain ⟨children, openElements, pending, position⟩ := builder
  cases openElements <;> simp [addNodes, behind]

/-- Which elements a name closes does not depend on where they stand. -/
private theorem closeNamed?_shift (name : List Char) (inner : List Node) (openElements : List Element) :
    closeNamed? name (shiftNodes origin inner) (openElements.map (·.shift origin)) =
      (closeNamed? name inner openElements).map fun (outer, closed) =>
        (outer.map (·.shift origin), closed.shift origin) := by
  induction openElements generalizing inner with
  | nil => rfl
  | cons element outer ih =>
    have hname : (element.shift origin).tag.name = element.tag.name := rfl
    simp only [List.map_cons, closeNamed?, hname, ← Element.shift_enclose, Element.shift_toNode]
    split
    · rfl
    · exact ih [(element.enclose inner).toNode]

private theorem enclosed_shift (inner : List Node) (openElements : List Element) :
    enclosed (shiftNodes origin inner) (openElements.map (·.shift origin)) =
      shiftNodes origin (enclosed inner openElements) := by
  induction openElements generalizing inner with
  | nil => rfl
  | cons element outer ih =>
    have houter := ih [(element.enclose inner).toNode]
    simp only [shiftNodes, ← Element.shift_toNode, Element.shift_enclose] at houter
    simpa [enclosed] using houter

private theorem close_behind (name : List Char) :
    (builder.behind before origin).close name = (builder.close name).behind before origin := by
  have hclose : closeNamed? name [] (builder.behind before origin).openElements = _ :=
    closeNamed?_shift origin name [] builder.openElements
  unfold close
  rw [hclose]
  cases closeNamed? name [] builder.openElements with
  | none => rfl
  | some found =>
    exact addNodes_behind before origin { builder with openElements := found.1 } [found.2]

private theorem inCode_behind : (builder.behind before origin).inCode = builder.inCode := by
  obtain ⟨children, openElements, pending, position⟩ := builder
  cases openElements <;> rfl

private theorem beginText_behind :
    (builder.behind before origin).beginText = builder.beginText.behind before origin := by
  unfold beginText
  rw [inCode_behind]
  split
  · rfl
  · cases hpending : builder.pending <;> simp [behind, hpending]

private theorem addTag_behind (tag : Tag) (selfClosing : Bool) :
    (builder.behind before origin).addTag (tag.shift origin) selfClosing =
      (builder.addTag tag selfClosing).behind before origin := by
  have hvoid : (tag.shift origin).isVoid = tag.isVoid := rfl
  unfold addTag
  rw [hvoid]
  split
  · exact addNodes_behind before origin builder [.element tag []]
  · rfl

private theorem document_behind :
    (builder.behind before origin).document =
      ⟨.start, before ++ shiftNodes origin builder.document.children⟩ := by
  have henclosed := enclosed_shift origin [] builder.openElements
  rw [shiftNodes] at henclosed
  simp [document, behind, henclosed]

variable {builder} {source : List Char}

private theorem pass_behind (hline : 1 ≤ builder.position.line) (raw : List Char) :
    (builder.behind before origin).pass raw = (builder.pass raw).behind before origin := by
  have hposition := Position.advance_shift hline origin raw
  cases hpending : builder.pending <;> simp [behind, pass, hpending, hposition]

private theorem TrueTo.one_le_line (htrue : builder.TrueTo source) : 1 ≤ builder.position.line := by
  rw [htrue.position_eq]
  exact Position.one_le_line_advance (Nat.le_refl 1) source

/-- The waiting text gives the same nodes behind another source, moved there. -/
private theorem flush_behind (htrue : builder.TrueTo source) {flushed : Builder}
    (hflush : builder.flush = .ok flushed) :
    (builder.behind before origin).flush = .ok (flushed.behind before origin) := by
  obtain ⟨hnone, rfl⟩ | ⟨start, raw, nodes, hpending, hnodes, rfl⟩ := flush_cases hflush
  · have hmoved : (flushed.behind before origin).pending = none := by simp [behind, hnone]
    rw [flush, hmoved]
    rfl
  · obtain ⟨prior, -, hstart⟩ := htrue.pending_stands start raw hpending
    have hline : 1 ≤ start.line := by
      rw [hstart]
      exact Position.one_le_line_advance (Nat.le_refl 1) prior
    have hmoved : (builder.behind before origin).pending = some (start.shift origin, raw) := by
      simp [behind, hpending]
    rw [flush, hmoved]
    refine bind_eq_ok_iff.2 ⟨_, textNodes_shift hline origin hnodes, ?_⟩
    rw [addNodes_behind]
    rfl

/-- A passage does the same behind another source. -/
theorem step_behind (htrue : builder.TrueTo source) {token : Token} {raw : List Char} {next : Builder}
    (hstep : builder.step token raw = .ok next) :
    (builder.behind before origin).step token raw = .ok (next.behind before origin) := by
  have hpass : ∀ {builder : Builder}, builder.TrueTo source →
      (builder.behind before origin).pass raw = (builder.pass raw).behind before origin :=
    fun htrue => pass_behind before origin htrue.one_le_line raw
  obtain ⟨rfl, rfl⟩ | ⟨rfl, rfl⟩ | ⟨flushed, hflush, hnext⟩ := step_cases hstep
  · rw [← hpass htrue.beginText, ← beginText_behind]
    rfl
  · rw [← hpass htrue]
    rfl
  · have hflushed := htrue.flush hflush
    have hmoved := flush_behind before origin htrue hflush
    rcases hnext with ⟨name, selfClosing, tag, rfl, htag, rfl⟩ | ⟨name, rfl, rfl⟩ | ⟨rfl, rfl⟩
    · have hline : 1 ≤ (flushed.addTag tag selfClosing).position.line := by
        rw [position_addTag]
        exact hflushed.one_le_line
      rw [← pass_behind before origin hline, ← addTag_behind]
      refine bind_eq_ok_iff.2 ⟨_, bind_eq_ok_iff.2 ⟨_, hmoved, ?_⟩, rfl⟩
      exact bind_eq_ok_iff.2 ⟨_, Tag.parse_shift hflushed.one_le_line origin htag, rfl⟩
    · rw [← hpass (hflushed.close name), ← close_behind]
      exact bind_eq_ok_iff.2 ⟨_, bind_eq_ok_iff.2 ⟨_, hmoved, rfl⟩, rfl⟩
    · rw [← hpass hflushed]
      exact bind_eq_ok_iff.2 ⟨_, hmoved, rfl⟩

/-- Passages do the same behind another source. -/
theorem steps_behind {passages : List Passage} (htrue : builder.TrueTo source)
    (hsound : ∀ passage ∈ passages, passage.Sound) {last : Builder}
    (hsteps : builder.steps passages = .ok last) :
    (builder.behind before origin).steps passages = .ok (last.behind before origin) := by
  induction passages generalizing builder source with
  | nil =>
    cases hsteps
    rfl
  | cons passage passages ih =>
    rw [steps_cons, bind_eq_ok_iff] at hsteps ⊢
    obtain ⟨next, hstep, hsteps⟩ := hsteps
    have hnext := htrue.step (hsound passage List.mem_cons_self) hstep
    exact ⟨_, step_behind before origin htrue hstep,
      ih hnext (fun later hlater => hsound later (List.mem_cons_of_mem _ hlater)) hsteps⟩

end Builder

/-- A front that leaves nothing open stands for its nodes, and what follows it is read as if it stood
alone, at shifted places. -/
theorem parseTemplate_append {front rest : List Char} {nodes : List Node}
    (hfront : Builder.empty.Takes front rest (Builder.empty.grow nodes front)) {document : Document}
    (hrest : parseTemplate rest = .ok document) :
    parseTemplate (front ++ rest) =
      .ok ⟨.start, nodes ++ shiftNodes (Position.start.advance front) document.children⟩ := by
  obtain ⟨passages, hreads, hsteps⟩ := hfront
  obtain ⟨more, mode, unread, builder, last, hmore, hnone, hlater, hflush, rfl⟩ :=
    parseTemplate_eq_ok_iff.1 hrest
  have hgrown : Builder.empty.grow nodes front =
      Builder.empty.behind nodes (Position.start.advance front) := by
    simp [Builder.grow, Builder.behind, Builder.empty, Builder.addNodes, shiftNodes,
      Position.shift_start]
  have hmoved := Builder.steps_behind nodes (Position.start.advance front) .empty hmore.sound hlater
  have htrue := Builder.TrueTo.empty.steps hmore.sound hlater
  refine parseTemplate_eq_ok_iff.2 ⟨passages ++ more, mode, unread,
    builder.behind nodes (Position.start.advance front),
    last.behind nodes (Position.start.advance front), hreads.append hmore, hnone, ?_,
    Builder.flush_behind nodes _ htrue hflush, Builder.document_behind nodes _ last⟩
  rw [Builder.steps_append, hsteps, hgrown]
  exact hmoved

@[simp]
theorem Tag.language?_shift (origin : Position) (tag : Tag) :
    (tag.shift origin).language? = tag.language? := by
  simp only [language?, shift, List.findSome?_map]
  congr 2
  funext written
  cases written with
  | plain _ value _ => cases value <;> rfl
  | directive => rfl

/-- The first template among nodes moves with them. -/
private theorem firstTemplate?_shift (origin : Position) (nodes : List Node) :
    firstTemplate? (shiftNodes origin nodes) = (firstTemplate? nodes).map (·.shift origin) := by
  induction nodes with
  | nil => rfl
  | cons node nodes ih =>
    cases node with
    | text | interpolation => exact ih
    | element tag children =>
      have hname : (tag.shift origin).name = tag.name := rfl
      simp only [shiftNodes, Node.shift, firstTemplate?, hname]
      split
      · rfl
      · exact ih

/-- The template block of a component stays the same one. -/
theorem templateBlock?_shift (origin : Position) (nodes : List Node) :
    templateBlock? (shiftNodes origin nodes) = (templateBlock? nodes).map (·.shift origin) := by
  rw [templateBlock?, templateBlock?, firstTemplate?_shift]
  cases firstTemplate? nodes with
  | none => rfl
  | some element =>
    have hlanguage : (element.shift origin).tag.language? = element.tag.language? :=
      element.tag.language?_shift origin
    simp only [Option.map_some, Option.filter_some, hlanguage]
    split <;> rfl

end BareStrings.Markup
