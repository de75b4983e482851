import BareStrings.Markup.Walk
import BareStrings.Proofs.Markup.Parts

namespace BareStrings.Markup

open BareStrings.Text

/-- An attribute as it is decoded from source. -/
def Attribute.IsDecoded (written : Attribute) : Prop := ∃ raw : RawAttribute, raw.decode = .ok written

/-- All attributes of the start tags among some parts are decoded from source. -/
def AllDecoded (parts : List Part) : Prop :=
  ∀ tag, .startTag tag ∈ parts → ∀ written ∈ tag.attributes, written.IsDecoded

/-- What decoding makes of an attribute: a directive if its name is one, which binds what its value is read
as, and a plain attribute under the same name otherwise. -/
theorem RawAttribute.decode_cases {raw : RawAttribute} {written : Attribute}
    (hdecode : raw.decode = .ok written) :
    (∃ value, DirectiveKey.parse? raw.name = none ∧ written = .plain raw.name value raw.position) ∨
      ∃ key, DirectiveKey.parse? raw.name = some key ∧
        (written = .directive key none raw.position ∨
          ∃ text expression place, StartTag.boundExpression key text = .ok expression ∧
            written = .directive key (some ⟨expression, place⟩) raw.position) := by
  obtain ⟨name, position, token⟩ := raw
  cases hkey : DirectiveKey.parse? name with
  | none =>
    refine .inl ?_
    cases token with
    | none =>
      simp only [decode, pure_bind, hkey] at hdecode
      exact ⟨none, rfl, (Except.ok.inj hdecode).symm⟩
    | some token =>
      simp only [decode, pure_bind, bind_eq_ok_iff, hkey] at hdecode
      obtain ⟨text, _, hdecode⟩ := hdecode
      exact ⟨some ⟨text, token.2⟩, rfl, (Except.ok.inj hdecode).symm⟩
  | some key =>
    refine .inr ⟨key, rfl, ?_⟩
    cases token with
    | none =>
      simp only [decode, pure_bind, hkey] at hdecode
      exact .inl (Except.ok.inj hdecode).symm
    | some token =>
      simp only [decode, pure_bind, bind_eq_ok_iff, hkey] at hdecode
      obtain ⟨text, _, expression, hexpression, hdecode⟩ := hdecode
      exact .inr ⟨text, expression, token.2, hexpression, (Except.ok.inj hdecode).symm⟩

/-- Parts side by side have decoded values exactly if those of both lists have. -/
private theorem allDecoded_append {first second : List Part} :
    AllDecoded (first ++ second) ↔ AllDecoded first ∧ AllDecoded second := by
  simp only [AllDecoded, List.mem_append, or_imp, forall_and]

private theorem allDecoded_startTag {tag : Tag} {parts : List Part} :
    AllDecoded (.startTag tag :: parts) ↔
      (∀ written ∈ tag.attributes, written.IsDecoded) ∧ AllDecoded parts := by
  simp [AllDecoded, or_imp, forall_and]

private theorem Tag.isDecoded_of_parse {raw : List Char} {position : Position} {tag : Tag}
    (hparse : Tag.parse raw position = .ok tag) : ∀ written ∈ tag.attributes, written.IsDecoded := by
  rw [Tag.parse, bind_eq_ok_iff] at hparse
  obtain ⟨attributes, hattributes, htag⟩ := hparse
  obtain rfl := Except.ok.inj htag
  intro written hwritten
  obtain ⟨source, _, hdecode⟩ := exists_of_mem_mapM hattributes hwritten
  exact ⟨source, hdecode⟩

/-- Text has no attributes. -/
theorem allDecoded_textNodes {position : Position} {raw : List Char} {nodes : List Node}
    (hnodes : textNodes position raw = .ok nodes) : AllDecoded (nodesParts nodes) := by
  unfold textNodes at hnodes
  generalize Piece.ofSource raw = pieces at hnodes
  induction pieces generalizing position nodes with
  | nil =>
    cases hnodes
    exact nofun
  | cons piece pieces ih =>
    simp only [Piece.toNodes, bind_eq_ok_iff] at hnodes
    obtain ⟨node, hnode, later, hlater, hnodes⟩ := hnodes
    obtain rfl := Except.ok.inj hnodes
    rw [nodesParts, allDecoded_append]
    refine ⟨?_, ih hlater⟩
    cases piece with
    | text raw =>
      obtain ⟨text, _, hnode⟩ := bind_eq_ok_iff.1 hnode
      obtain rfl := Except.ok.inj hnode
      simp [Node.parts, AllDecoded]
    | mustache body =>
      simp only [Piece.toNode, bind_eq_ok_iff] at hnode
      obtain ⟨_, _, _, _, hnode⟩ := hnode
      obtain rfl := Except.ok.inj hnode
      simp [Node.parts, AllDecoded]

namespace Builder

variable {builder : Builder}

private theorem allDecoded_flush (hdecoded : AllDecoded builder.parts) {flushed : Builder}
    (hflush : builder.flush = .ok flushed) : AllDecoded flushed.parts := by
  obtain ⟨_, rfl⟩ | ⟨start, raw, nodes, _, hnodes, rfl⟩ := flush_cases hflush
  · exact hdecoded
  · have hparts : ({ builder.addNodes nodes with pending := none } : Builder).parts =
        builder.parts ++ nodesParts nodes := parts_addNodes builder nodes
    rw [hparts, allDecoded_append]
    exact ⟨hdecoded, allDecoded_textNodes hnodes⟩

/-- A passage adds no attribute but those that it decodes. -/
theorem allDecoded_step (hdecoded : AllDecoded builder.parts) {next : Builder} {token : Token}
    {raw : List Char} (hstep : builder.step token raw = .ok next) : AllDecoded next.parts := by
  obtain ⟨_, rfl⟩ | ⟨_, rfl⟩ | ⟨flushed, hflush, hnext⟩ := step_cases hstep
  · rwa [parts_pass, parts_beginText]
  · rwa [parts_pass]
  · have hflushed := allDecoded_flush hdecoded hflush
    rcases hnext with ⟨name, selfClosing, tag, _, htag, rfl⟩ | ⟨name, _, rfl⟩ | ⟨_, rfl⟩
    · rw [parts_pass, parts_addTag, allDecoded_append, allDecoded_startTag]
      exact ⟨hflushed, Tag.isDecoded_of_parse htag, nofun⟩
    · rwa [parts_pass, parts_close]
    · rwa [parts_pass]

private theorem allDecoded_steps {passages : List Passage} (hdecoded : AllDecoded builder.parts)
    {last : Builder} (hsteps : builder.steps passages = .ok last) : AllDecoded last.parts := by
  induction passages generalizing builder with
  | nil =>
    cases hsteps
    exact hdecoded
  | cons passage passages ih =>
    rw [steps_cons, bind_eq_ok_iff] at hsteps
    obtain ⟨next, hstep, hsteps⟩ := hsteps
    exact ih (allDecoded_step hdecoded hstep) hsteps

end Builder

/-- All attributes of a tree that is read from a source are decoded from that source. -/
theorem allDecoded_parseTemplate {source : List Char} {document : Document}
    (hparse : parseTemplate source = .ok document) : AllDecoded document.parts := by
  obtain ⟨passages, _, _, builder, last, _, _, hsteps, hflush, rfl⟩ :=
    parseTemplate_eq_ok_iff.1 hparse
  have hempty : AllDecoded Builder.empty.parts := nofun
  exact Builder.allDecoded_flush (Builder.allDecoded_steps hempty hsteps) hflush

mutual

/-- Every attribute that is visited inside a node has the decoded value of its token. -/
theorem isDecoded_of_mem_events {node : Node} (hdecoded : AllDecoded node.parts) {written : Attribute}
    (hmem : .attr written ∈ node.events) : written.IsDecoded := by
  match node with
  | .text value position => simp [Node.events] at hmem
  | .interpolation expression position => simp [Node.events] at hmem
  | .element tag children =>
    rw [Node.parts, allDecoded_startTag] at hdecoded
    simp only [Node.events, List.mem_cons, List.mem_append, List.mem_map, reduceCtorEq, false_or,
      List.not_mem_nil, or_false, Event.attr.injEq, exists_eq_right] at hmem
    rcases hmem with hown | hinside
    · exact hdecoded.1 written hown
    · exact isDecoded_of_mem_nodesEvents hdecoded.2 hinside

/-- The same for every attribute that is visited inside a list of nodes. -/
theorem isDecoded_of_mem_nodesEvents {nodes : List Node} (hdecoded : AllDecoded (nodesParts nodes))
    {written : Attribute} (hmem : .attr written ∈ nodesEvents nodes) : written.IsDecoded := by
  match nodes with
  | [] => cases hmem
  | node :: nodes =>
    rw [nodesParts, allDecoded_append] at hdecoded
    rcases List.mem_append.1 hmem with hfirst | hlater
    · exact isDecoded_of_mem_events hdecoded.1 hfirst
    · exact isDecoded_of_mem_nodesEvents hdecoded.2 hlater

end

end BareStrings.Markup
