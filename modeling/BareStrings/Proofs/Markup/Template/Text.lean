import BareStrings.Proofs.Markup.Passage
import BareStrings.Proofs.Markup.Template
import BareStrings.Proofs.Text.Split

namespace BareStrings.Markup

open BareStrings.Text

/-- Whether a tree is written without tags. -/
def Template.isPlain : Template → Bool
  | .text _ | .interpolation _ => true
  | .element .. => false

/-- A valid run of texts and interpolations. -/
structure IsRun (run : List Template) : Prop where
  plain : ∀ template ∈ run, template.isPlain = true
  valid : AllValid run
  apart : TextsApart run

namespace IsRun

variable {template : Template} {run : List Template}

/-- Nothing is a run of text. -/
theorem nil : IsRun [] := ⟨by simp, trivial, trivial⟩

/-- What follows the first part of a run of text is such a run. -/
private theorem tail (hrun : IsRun (template :: run)) : IsRun run :=
  ⟨fun later hlater => hrun.plain later (List.mem_cons_of_mem _ hlater), hrun.valid.2,
    hrun.apart.tail⟩

/-- A run holds no opening bracket. -/
theorem open_not_mem (hrun : IsRun run) : '<' ∉ renderAll run := by
  induction run with
  | nil => exact List.not_mem_nil
  | cons template run ih =>
    have hplain := hrun.plain template List.mem_cons_self
    have hvalid := hrun.valid.1
    rw [renderAll, List.mem_append, not_or]
    refine ⟨?_, ih hrun.tail⟩
    cases template with
    | element => cases hplain
    | text value => exact open_not_mem_escapeText value
    | interpolation body =>
      have hbody : '<' ∉ body := fun hmem => (hvalid.1 '<' hmem).1 rfl
      simp [Template.render, Piece.opening, Piece.closing, hbody]

private theorem render_ne_nil (hrun : IsRun (template :: run)) : template.render ≠ [] := by
  have hplain := hrun.plain template List.mem_cons_self
  have hvalid := hrun.valid.1
  cases template with
  | element => cases hplain
  | text value => exact CharRef.escape_ne_nil hvalid.1
  | interpolation body => simp [Template.render, Piece.opening]

/-- The references of a run can be decoded. -/
theorem decode_eq_ok (hrun : IsRun run) : ∃ decoded, CharRef.decode (renderAll run) = .ok decoded := by
  induction run with
  | nil => exact ⟨[], by rw [renderAll, CharRef.decode]⟩
  | cons template run ih =>
    obtain ⟨decoded, hdecoded⟩ := ih hrun.tail
    have hplain := hrun.plain template List.mem_cons_self
    have hvalid := hrun.valid.1
    rw [renderAll]
    cases template with
    | element => cases hplain
    | text value =>
      refine ⟨value ++ decoded, ?_⟩
      rw [Template.render, escapeText, CharRef.decode_escape, hdecoded]
      rfl
    | interpolation body =>
      have hclean : ∀ c ∈ Piece.opening ++ body ++ Piece.closing, c ≠ '&' := by
        intro c hc
        simp only [List.mem_append, Piece.opening, Piece.closing, List.mem_cons, List.not_mem_nil,
          or_false, or_self] at hc
        rcases hc with (rfl | hbody) | rfl
        · decide
        · exact (hvalid.1 c hbody).2.1
        · decide
      refine ⟨Piece.opening ++ body ++ Piece.closing ++ decoded, ?_⟩
      rw [Template.render, CharRef.decode_append hclean, hdecoded]
      rfl

end IsRun

/-- The piece of text that a tree without tags is written as. -/
def Template.piece : Template → Piece
  | .element .. => .text []
  | .text value => .text (escapeText value)
  | .interpolation body => .mustache body

/-- A source without a mustache is one piece of text. -/
theorem Piece.ofSource_eq_of_cut?_eq_none {source : List Char} (hcut : cut? source = none) :
    ofSource source = ofText source := by
  rw [ofSource]
  split
  · rfl
  · rename_i hsome
    rw [hcut] at hsome
    cases hsome

/-- A source with a mustache is cut at the first one, and what follows is cut in the same way. -/
theorem Piece.ofSource_eq_of_cut?_eq_some {source before body after : List Char}
    (hcut : cut? source = some (before, body, after)) :
    ofSource source = ofText before ++ .mustache body :: ofSource after := by
  rw [ofSource]
  split
  · rename_i hnone
    rw [hcut] at hnone
    cases hnone
  · rename_i hsome
    rw [hcut] at hsome
    cases hsome
    rfl

/-- An interpolation is cut out behind text without braces. -/
theorem Piece.cut?_mustache {before body : List Char} (hbefore : '\x7b' ∉ before)
    (hbody : '\x7d' ∉ body) (after : List Char) :
    cut? (before ++ ((mustache body).raw ++ after)) = some (before, body, after) := by
  have hopen : cutAt? opening (before ++ ((mustache body).raw ++ after)) =
      some (before, body ++ (closing ++ after)) := by
    have hcut := cutAt?_append hbefore ['\x7b'] (body ++ (closing ++ after))
    simpa [raw, opening] using hcut
  have hclose : cutAt? closing (body ++ (closing ++ after)) = some (body, after) :=
    cutAt?_append hbody ['\x7d'] after
  simp [cut?, hopen, hclose]

/-- Text without braces is one piece. -/
theorem Piece.ofSource_text {source : List Char} (hsource : '\x7b' ∉ source) :
    ofSource source = ofText source := by
  apply ofSource_eq_of_cut?_eq_none
  simp [cut?, opening, cutAt?_eq_none hsource]

namespace IsRun

variable {template : Template} {run : List Template}

private theorem close_not_mem {body : List Char} (hrun : IsRun (.interpolation body :: run)) :
    '\x7d' ∉ body := fun hmem => (hrun.valid.1.1 _ hmem).2.2 rfl

/-- A run is cut into the pieces that it was written from. -/
theorem ofSource_render {run : List Template} (hrun : IsRun run) :
    Piece.ofSource (renderAll run) = run.map Template.piece := by
  have hmustache : ∀ {body : List Char} {run : List Template}, IsRun (.interpolation body :: run) →
      Piece.ofSource (renderAll (.interpolation body :: run)) =
        .mustache body :: Piece.ofSource (renderAll run) := by
    intro body run hrun
    exact Piece.ofSource_eq_of_cut?_eq_some
      (Piece.cut?_mustache List.not_mem_nil hrun.close_not_mem (renderAll run))
  have htext : ∀ {value : List Char} {run : List Template}, IsRun (.text value :: run) →
      Piece.ofText (escapeText value) = [.text (escapeText value)] := by
    intro value run hrun
    have hne : escapeText value ≠ [] := hrun.render_ne_nil
    simp [Piece.ofText, hne]
  match run with
  | [] => rw [renderAll, Piece.ofSource_text List.not_mem_nil]; rfl
  | .element .. :: _ => cases hrun.plain _ List.mem_cons_self
  | .interpolation body :: later =>
    rw [hmustache hrun, ofSource_render hrun.tail]
    rfl
  | [.text value] =>
    have hbrace := brace_not_mem_escapeText hrun.valid.1.2
    rw [renderAll, renderAll, List.append_nil, Template.render, Piece.ofSource_text hbrace,
      htext hrun]
    rfl
  | .text value :: .text _ :: _ => exact absurd ⟨rfl, rfl⟩ hrun.apart.1
  | .text value :: .element .. :: _ =>
    cases hrun.plain _ (List.mem_cons_of_mem _ List.mem_cons_self)
  | .text value :: .interpolation body :: later =>
    have hbrace := brace_not_mem_escapeText hrun.valid.1.2
    have hcut := Piece.cut?_mustache hbrace hrun.tail.close_not_mem (renderAll later)
    have hsource : renderAll (.text value :: .interpolation body :: later) =
        escapeText value ++ ((Piece.mustache body).raw ++ renderAll later) := rfl
    rw [hsource, Piece.ofSource_eq_of_cut?_eq_some hcut, htext hrun, ofSource_render hrun.tail.tail]
    rfl
termination_by run.length

/-- The nodes of a run are those that it describes. -/
theorem toNodes_pieces (hrun : IsRun run) (position : Position) :
    Piece.toNodes position (run.map Template.piece) = .ok (nodesAt position run) := by
  induction run generalizing position with
  | nil => rfl
  | cons template run ih =>
    have hplain := hrun.plain template List.mem_cons_self
    have hvalid := hrun.valid.1
    have hraw : template.piece.raw = template.render := by
      cases template with
      | element => cases hplain
      | text => rfl
      | interpolation => rfl
    have hnode : template.piece.toNode position = .ok (template.nodeAt position) := by
      cases template with
      | element => cases hplain
      | text value =>
        rw [Template.piece, Piece.toNode, escapeText, decodeText_escape]
        rfl
      | interpolation body =>
        obtain ⟨expression, hexpression⟩ := hvalid.2
        have hread : readExpression body = .ok expression := by
          rw [readExpression, hexpression]
          rfl
        rw [Template.piece, Piece.toNode, decodeText_plain fun c hc => (hvalid.1 c hc).2.1,
          Template.nodeAt, hread]
        simp only [bind, Except.bind, hread]
        rfl
    rw [List.map_cons, Piece.toNodes, hnode, hraw, nodesAt, ih hrun.tail]
    rfl

private theorem textNodes_render (hrun : IsRun run) (position : Position) :
    textNodes position (renderAll run) = .ok (nodesAt position run) := by
  rw [textNodes, hrun.ofSource_render, hrun.toNodes_pieces]

end IsRun

namespace Builder

/-- The builder with nodes added that have been read from a source, and no unfinished text. -/
def grow (builder : Builder) (nodes : List Node) (raw : List Char) : Builder :=
  { builder.addNodes nodes with pending := none, position := builder.position.advance raw }

/-- A builder that has grown by text has no text waiting. -/
@[simp]
theorem pending_grow (builder : Builder) (nodes : List Node) (raw : List Char) :
    (builder.grow nodes raw).pending = none := rfl

/-- A builder that has grown by text stands behind the characters of that text. -/
@[simp]
theorem position_grow (builder : Builder) (nodes : List Node) (raw : List Char) :
    (builder.grow nodes raw).position = builder.position.advance raw := rfl

/-- Growing by nothing changes nothing. -/
theorem grow_nil {builder : Builder} (hnone : builder.pending = none) : builder.grow [] [] = builder := by
  obtain ⟨children, openElements, pending, position⟩ := builder
  cases hnone
  cases openElements <;> simp [grow, addNodes, Element.enclose]

/-- Growing twice is growing once by both. -/
theorem grow_grow (builder : Builder) (nodes more : List Node) (raw others : List Char) :
    (builder.grow nodes raw).grow more others = builder.grow (nodes ++ more) (raw ++ others) := by
  obtain ⟨children, openElements, pending, position⟩ := builder
  cases openElements <;> simp [grow, addNodes, Element.enclose, Position.advance_append]

/-- Growing by text does not change whether the builder is in code. -/
theorem inCode_grow (builder : Builder) (nodes : List Node) (raw : List Char) :
    (builder.grow nodes raw).inCode = builder.inCode := by
  obtain ⟨children, openElements, pending, position⟩ := builder
  cases openElements <;> rfl

end Builder

/-- Reading a source, up to what remains, adds nodes, as soon as unfinished text is made into nodes,
and leaves the builder otherwise as it was. -/
def Builder.Gains (builder : Builder) (source rest : List Char) (nodes : List Node) : Prop :=
  ∃ last, builder.Takes source rest last ∧ last.flush = .ok (builder.grow nodes source)

/-- Reading a run adds the nodes that it describes. -/
theorem IsRun.gains {run : List Template} (hrun : IsRun run) {rest : List Char} (hrest : AtTag rest)
    {builder : Builder} (hnone : builder.pending = none) (hcode : builder.inCode = false) :
    builder.Gains (renderAll run) rest (nodesAt builder.position run) := by
  cases run with
  | nil =>
    refine ⟨builder, .refl builder rest, ?_⟩
    rw [nodesAt, renderAll, Builder.grow_nil hnone, Builder.flush, hnone]
    rfl
  | cons template run =>
    have hne : renderAll (template :: run) ≠ [] := by simp [renderAll, hrun.render_ne_nil]
    obtain ⟨decoded, hdecode⟩ := hrun.decode_eq_ok
    obtain ⟨lexeme, hnext, htoken, hmode, hsize⟩ :=
      Lexeme.next?_text hne hrun.open_not_mem (decodeText_of_decode hdecode) hrest
    have hnodes := hrun.textNodes_render builder.position
    generalize renderAll (template :: run) = raw at *
    generalize nodesAt builder.position (template :: run) = nodes at *
    have hbegin : builder.beginText.pass raw =
        { builder with
          pending := some (builder.position, raw), position := builder.position.advance raw } := by
      simp [Builder.beginText, hcode, hnone, Builder.pass]
    refine ⟨builder.beginText.pass raw, .of_step hnext hmode hsize (by rw [htoken]; rfl), ?_⟩
    rw [hbegin, Builder.flush]
    simp only [hnodes, bind, Except.bind, Builder.addNodes, Builder.grow]
    cases builder.openElements <;> rfl

end BareStrings.Markup
