import BareStrings.Proofs.Markup.Escape
import BareStrings.Proofs.Markup.Faithful

namespace BareStrings.Markup

open BareStrings.Text

/-- A character of a source with the kind of lexeme that it was read in. -/
structure Mark where
  char : Char
  token : Token
deriving DecidableEq

/-- The characters of a passage. -/
def Passage.marks (passage : Passage) : List Mark := passage.raw.map fun c => ⟨c, passage.token⟩

/-- The characters of passages. -/
def Passage.marksOf (passages : List Passage) : List Mark := passages.flatMap marks

/-- The text that marked characters spell. -/
def Mark.textOf (marks : List Mark) : List Char := marks.map char

/-- The texts of two lists of marks stand one behind the other. -/
@[simp]
theorem Mark.textOf_append (first second : List Mark) :
    textOf (first ++ second) = textOf first ++ textOf second := List.map_append

@[simp]
theorem Passage.textOf_marks (passage : Passage) : Mark.textOf passage.marks = passage.raw := by
  simp [Mark.textOf, marks, Function.comp_def]

private theorem Passage.textOf_marksOf (passages : List Passage) :
    Mark.textOf (marksOf passages) = rawOf passages := by
  induction passages with
  | nil => rfl
  | cons passage passages ih =>
    rw [rawOf_cons, ← ih, ← textOf_marks, ← Mark.textOf_append]
    rfl

/-- A stretch of a source that a text or an interpolation stands for. -/
structure Slice where
  position : Position
  marks : List Mark
deriving DecidableEq

/-- Marked source, from a place on, cut into a slice for each piece. -/
def Slice.ofPieces (position : Position) (marks : List Mark) : List Piece → List Slice
  | [] => []
  | piece :: pieces =>
    ⟨position, marks.take piece.raw.length⟩ ::
      ofPieces (position.advance piece.raw) (marks.drop piece.raw.length) pieces

/-- A slice stands in a marked source where its place says. -/
def Slice.StandsIn (source : List Mark) (slice : Slice) : Prop :=
  ∃ before after, source = before ++ slice.marks ++ after ∧
    slice.position = Position.start.advance (Mark.textOf before)

/-- A text or an interpolation stands for a slice: it begins there, and what it says is what that
source says. -/
def Part.StandsFor (source : List Mark) (slice : Slice) : Part → Prop
  | .startTag _ => False
  | .text value position => slice.StandsIn source ∧ position = slice.position ∧
    slice.marks ≠ [] ∧ decodeText (Mark.textOf slice.marks) = .ok value
  | .interpolation expression position => slice.StandsIn source ∧ position = slice.position ∧
    ∃ body text, Mark.textOf slice.marks = (Piece.mustache body).raw ∧ decodeText body = .ok text ∧
      readExpression text = .ok expression

/-- Parts stand for slices, each for the one at its place in the list. -/
inductive StandFor (source : List Mark) : List Part → List Slice → Prop
  | nil : StandFor source [] []
  | cons {part : Part} {slice : Slice} {parts : List Part} {slices : List Slice}
      (hpart : part.StandsFor source slice) (hparts : StandFor source parts slices) :
      StandFor source (part :: parts) (slice :: slices)

private theorem StandFor.append {source : List Mark} {parts more : List Part} {slices others : List Slice}
    (hparts : StandFor source parts slices) (hmore : StandFor source more others) :
    StandFor source (parts ++ more) (slices ++ others) := by
  induction hparts with
  | nil => exact hmore
  | cons hpart _ ih => exact .cons hpart ih

/-- Whether a part is a text or an interpolation. -/
def Part.isText : Part → Bool
  | .startTag _ => false
  | .text .. | .interpolation .. => true

/-- The texts and interpolations of a tree. -/
def Document.texts (document : Document) : List Part := document.parts.filter Part.isText

/-- Slices of pieces hold all that the pieces do. -/
theorem Slice.marks_ofPieces {position : Position} {marks : List Mark} {pieces : List Piece}
    (hraw : Mark.textOf marks = pieces.flatMap Piece.raw) :
    (ofPieces position marks pieces).flatMap Slice.marks = marks := by
  induction pieces generalizing position marks with
  | nil => simpa [Mark.textOf, ofPieces] using hraw.symm
  | cons piece pieces ih =>
    have hrest : Mark.textOf (marks.drop piece.raw.length) = pieces.flatMap Piece.raw := by
      rw [Mark.textOf, List.map_drop, ← Mark.textOf, hraw, List.flatMap_cons, List.drop_left]
    rw [ofPieces, List.flatMap_cons, ih hrest, List.take_append_drop]

/-- The nodes of pieces stand for the slices of the pieces. -/
theorem Piece.standFor_toNodes {source before marks after : List Mark} {position : Position}
    {pieces : List Piece} (hpieces : ∀ piece ∈ pieces, piece.raw ≠ [])
    (hsource : source = before ++ marks ++ after)
    (hposition : position = Position.start.advance (Mark.textOf before))
    (hraw : Mark.textOf marks = pieces.flatMap Piece.raw) {nodes : List Node}
    (hnodes : Piece.toNodes position pieces = .ok nodes) :
    (nodesParts nodes).filter Part.isText = nodesParts nodes ∧
      StandFor source (nodesParts nodes) (Slice.ofPieces position marks pieces) := by
  induction pieces generalizing before marks position nodes with
  | nil =>
    cases hnodes
    exact ⟨rfl, .nil⟩
  | cons piece pieces ih =>
    simp only [Piece.toNodes, bind_eq_ok_iff] at hnodes
    obtain ⟨node, hnode, later, hlater, hnodes⟩ := hnodes
    cases hnodes
    have hfirst : Mark.textOf (marks.take piece.raw.length) = piece.raw := by
      rw [Mark.textOf, List.map_take, ← Mark.textOf, hraw, List.flatMap_cons, List.take_left]
    have hrest : Mark.textOf (marks.drop piece.raw.length) = pieces.flatMap Piece.raw := by
      rw [Mark.textOf, List.map_drop, ← Mark.textOf, hraw, List.flatMap_cons, List.drop_left]
    have hpiece := hpieces piece List.mem_cons_self
    have hmarks : marks.take piece.raw.length ≠ [] := by
      intro hempty
      rw [hempty] at hfirst
      exact hpiece hfirst.symm
    have hsplit : source =
        before ++ marks.take piece.raw.length ++ marks.drop piece.raw.length ++ after := by
      rw [List.append_assoc before, List.take_append_drop, hsource]
    have hbehind : position.advance piece.raw =
        Position.start.advance (Mark.textOf (before ++ marks.take piece.raw.length)) := by
      rw [Mark.textOf_append, hfirst, Position.advance_append, hposition]
    have hstands : Slice.StandsIn source ⟨position, marks.take piece.raw.length⟩ :=
      ⟨before, marks.drop piece.raw.length ++ after, by rw [hsplit, List.append_assoc], hposition⟩
    have hnext := ih (fun later hmem => hpieces later (List.mem_cons_of_mem _ hmem)) hsplit hbehind
      hrest hlater
    cases piece with
    | text raw =>
      rw [Piece.toNode, bind_eq_ok_iff] at hnode
      obtain ⟨value, hvalue, hnode⟩ := hnode
      cases hnode
      refine ⟨by simpa [nodesParts, Node.parts, Part.isText] using hnext.1, ?_⟩
      refine .cons ⟨hstands, rfl, hmarks, ?_⟩ hnext.2
      rw [hfirst]
      exact hvalue
    | mustache body =>
      simp only [Piece.toNode, bind_eq_ok_iff] at hnode
      obtain ⟨text, htext, expression, hexpression, hnode⟩ := hnode
      cases hnode
      refine ⟨by simpa [nodesParts, Node.parts, Part.isText] using hnext.1, ?_⟩
      exact .cons ⟨hstands, rfl, body, text, hfirst, htext, hexpression⟩ hnext.2

/-- Whether a lexeme leaves unfinished text unfinished. -/
def Token.keepsText : Token → Bool
  | .data | .skipped => true
  | .startTag .. | .endTag _ | .aside => false

namespace Builder

/-- The slices of unfinished text, whose characters are `marks`. -/
def cut (builder : Builder) (marks : List Mark) : List Slice :=
  match builder.pending with
  | none => []
  | some (start, raw) => Slice.ofPieces start marks (Piece.ofSource raw)

/-- The slices that become texts and interpolations when passages are taken in up to the end of the
source. Of the text that is unfinished before, `marks` are the characters. -/
def slices (builder : Builder) (marks : List Mark) : List Passage → List Slice
  | [] => builder.cut marks
  | passage :: later =>
    match builder.step passage.token passage.raw with
    | .error _ => []
    | .ok next =>
      if passage.token.keepsText then
        next.slices (if next.pending.isSome then marks ++ passage.marks else []) later
      else builder.cut marks ++ next.slices [] later

/-- Somewhere among passages an empty end tag is read while there is unfinished text. -/
def MeetsEmptyTag (builder : Builder) (passages : List Passage) : Prop :=
  ∃ before passage after middle, passages = before ++ passage :: after ∧
    builder.steps before = .ok middle ∧ middle.pending ≠ none ∧ passage.token = .skipped

/-- The texts and interpolations of the tree so far. -/
def texts (builder : Builder) : List Part := builder.document.texts

private theorem texts_eq (builder : Builder) : builder.texts = builder.parts.filter Part.isText := rfl

/-- A builder that has passed over `read` is true to it, and its unfinished text is the text of
`marks` at the end of that source. -/
structure Carries (builder : Builder) (marks read : List Mark) : Prop where
  trueTo : builder.TrueTo (Mark.textOf read)
  suffix : marks <:+ read
  eq_nil : builder.pending = none → marks = []
  text_eq : ∀ start raw, builder.pending = some (start, raw) → raw = Mark.textOf marks

namespace Carries

variable {builder : Builder} {marks read : List Mark}

/-- Everything that is unfinished ends up in its slices. -/
theorem marks_cut (hcarries : builder.Carries marks read) :
    (builder.cut marks).flatMap Slice.marks = marks := by
  unfold cut
  split
  · rename_i hnone
    rw [hcarries.eq_nil hnone]
    rfl
  · rename_i start raw hsome
    apply Slice.marks_ofPieces
    rw [Piece.rawOf_ofSource, hcarries.text_eq start raw hsome]

/-- Unfinished text becomes parts that stand for its slices. -/
theorem flush (hcarries : builder.Carries marks read) {flushed : Builder}
    (hflush : builder.flush = .ok flushed) (after : List Mark) :
    ∃ more, flushed.texts = builder.texts ++ more ∧
      StandFor (read ++ after) more (builder.cut marks) := by
  obtain ⟨hnone, rfl⟩ | ⟨start, raw, nodes, hsome, hnodes, rfl⟩ := flush_cases hflush
  · refine ⟨[], (List.append_nil _).symm, ?_⟩
    rw [cut, hnone]
    exact .nil
  · obtain ⟨before, hread⟩ := hcarries.suffix
    obtain ⟨first, hsource, hstart⟩ := hcarries.trueTo.pending_stands start raw hsome
    have hraw := hcarries.text_eq start raw hsome
    have hbefore : Mark.textOf before = first := by
      rw [← hread, Mark.textOf_append, ← hraw] at hsource
      exact List.append_cancel_right hsource
    rw [← hbefore] at hstart
    obtain ⟨htexts, hstand⟩ := Piece.standFor_toNodes (fun piece => Piece.raw_ne_nil)
      (by rw [hread]) hstart (by rw [Piece.rawOf_ofSource, hraw]) hnodes
    refine ⟨nodesParts nodes, ?_, ?_⟩
    · have hparts : ({ builder.addNodes nodes with pending := none } : Builder).parts =
          builder.parts ++ nodesParts nodes := parts_addNodes builder nodes
      rw [texts_eq, hparts, List.filter_append, htexts, texts_eq]
    · rw [cut, hsome]
      exact hstand

/-- A passage either leaves the parts alone and lengthens the unfinished text, if there is any then,
or makes parts of that text first. -/
theorem step (hcarries : builder.Carries marks read) {passage : Passage} (hsound : passage.Sound)
    {next : Builder} (hstep : builder.step passage.token passage.raw = .ok next) :
    (passage.token.keepsText = true ∧ next.texts = builder.texts ∧
        next.Carries (if next.pending.isSome then marks ++ passage.marks else [])
          (read ++ passage.marks)) ∨
      (passage.token.keepsText = false ∧ next.Carries [] (read ++ passage.marks) ∧
        ∃ flushed, builder.flush = .ok flushed ∧ next.texts = flushed.texts) := by
  have htrue : next.TrueTo (Mark.textOf (read ++ passage.marks)) := by
    rw [Mark.textOf_append, Passage.textOf_marks]
    exact hcarries.trueTo.step hsound hstep
  -- A passage that leaves text unfinished only adds its source to that text.
  have hkeeps : ∀ start : Option (Position × List Char),
      next.pending = start.map (fun text => (text.1, text.2 ++ passage.raw)) →
      (∀ position raw, start = some (position, raw) → raw = Mark.textOf marks) →
      next.Carries (if next.pending.isSome then marks ++ passage.marks else [])
        (read ++ passage.marks) := by
    intro start hpending hstart
    cases start with
    | none =>
      have hnone : next.pending = none := hpending
      refine ⟨htrue, ?_, ?_, ?_⟩ <;> simp [hnone]
    | some text =>
      have hsome : next.pending = some (text.1, text.2 ++ passage.raw) := hpending
      have htext := hstart text.1 text.2 rfl
      refine ⟨htrue, ?_, ?_, ?_⟩
      · obtain ⟨before, hread⟩ := hcarries.suffix
        exact ⟨before, by simp [hsome, ← hread]⟩
      · simp [hsome]
      · intro position raw hraw
        rw [hsome] at hraw
        cases hraw
        simp [hsome, htext]
  have hflushes : next.pending = none → next.Carries [] (read ++ passage.marks) := by
    intro hnone
    exact ⟨htrue, List.nil_suffix, fun _ => rfl, by simp [hnone]⟩
  obtain ⟨htoken, rfl⟩ | ⟨htoken, rfl⟩ | ⟨flushed, hflush, hnext⟩ := step_cases hstep
  · refine .inl ⟨by rw [htoken]; rfl, by rw [texts_eq, parts_pass, parts_beginText, texts_eq],
      hkeeps builder.beginText.pending rfl ?_⟩
    intro position raw hpending
    unfold beginText at hpending
    split at hpending
    · exact hcarries.text_eq position raw hpending
    · rcases Option.or_eq_some_iff.1 hpending with hold | ⟨hnone, hnew⟩
      · exact hcarries.text_eq position raw hold
      · cases hnew
        rw [hcarries.eq_nil hnone]
        rfl
  · exact .inl ⟨by rw [htoken]; rfl, by rw [texts_eq, parts_pass, texts_eq],
      hkeeps builder.pending rfl hcarries.text_eq⟩
  · have hnone := pending_flush hflush
    rcases hnext with ⟨name, selfClosing, tag, htoken, _, rfl⟩ | ⟨name, htoken, rfl⟩ | ⟨htoken, rfl⟩
    · refine .inr ⟨by rw [htoken]; rfl, hflushes ?_, flushed, hflush, ?_⟩
      · simp [pass, pending_addTag, hnone]
      · rw [texts_eq, parts_pass, parts_addTag, List.filter_append, texts_eq]
        simp [Part.isText]
    · refine .inr ⟨by rw [htoken]; rfl, hflushes ?_, flushed, hflush, ?_⟩
      · simp [pass, pending_close, hnone]
      · rw [texts_eq, parts_pass, parts_close, texts_eq]
    · refine .inr ⟨by rw [htoken]; rfl, hflushes ?_, flushed, hflush, ?_⟩
      · simp [pass, hnone]
      · rw [texts_eq, parts_pass, texts_eq]

/-- Reading on to the end makes texts and interpolations that stand for the slices. -/
theorem steps {passages : List Passage} (hcarries : builder.Carries marks read)
    (hsound : ∀ passage ∈ passages, passage.Sound) {last flushed : Builder}
    (hsteps : builder.steps passages = .ok last) (hflush : last.flush = .ok flushed) :
    ∃ more, flushed.texts = builder.texts ++ more ∧
      StandFor (read ++ Passage.marksOf passages) more (builder.slices marks passages) := by
  induction passages generalizing builder marks read with
  | nil =>
    cases hsteps
    exact hcarries.flush hflush []
  | cons passage passages ih =>
    rw [steps_cons, bind_eq_ok_iff] at hsteps
    obtain ⟨next, hstep, hsteps⟩ := hsteps
    have hlater := fun later hmem => hsound later (List.mem_cons_of_mem passage hmem)
    have hsource : read ++ Passage.marksOf (passage :: passages) =
        read ++ passage.marks ++ Passage.marksOf passages := (List.append_assoc ..).symm
    rw [slices, hstep, hsource]
    rcases hcarries.step (hsound passage List.mem_cons_self) hstep with
      ⟨hkeeps, htexts, hnext⟩ | ⟨hkeeps, hnext, middle, hmiddle, htexts⟩
    · obtain ⟨more, hmore, hstand⟩ := ih hnext hlater hsteps
      simp only [hkeeps, if_true]
      exact ⟨more, by rw [hmore, htexts], hstand⟩
    · obtain ⟨first, hfirst, hcut⟩ := hcarries.flush hmiddle (passage.marks ++ Passage.marksOf passages)
      obtain ⟨more, hmore, hstand⟩ := ih hnext hlater hsteps
      rw [← List.append_assoc] at hcut
      simp only [hkeeps, Bool.false_eq_true, if_false]
      exact ⟨first ++ more, by rw [hmore, htexts, hfirst, List.append_assoc], hcut.append hstand⟩

end Carries

/-- An empty tag is met at the first passage, with text waiting, or behind it. -/
private theorem meetsEmptyTag_cons {builder next : Builder} {passage : Passage} {passages : List Passage}
    (hstep : builder.step passage.token passage.raw = .ok next) :
    builder.MeetsEmptyTag (passage :: passages) ↔
      (builder.pending ≠ none ∧ passage.token = .skipped) ∨ next.MeetsEmptyTag passages := by
  constructor
  · rintro ⟨before, skipped, after, middle, hsplit, hsteps, hpending, htoken⟩
    cases before with
    | nil =>
      cases hsplit
      cases hsteps
      exact .inl ⟨hpending, htoken⟩
    | cons first before =>
      cases hsplit
      rw [steps_cons, hstep] at hsteps
      exact .inr ⟨before, skipped, after, middle, rfl, hsteps, hpending, htoken⟩
  · rintro (⟨hpending, htoken⟩ | ⟨before, skipped, after, middle, hsplit, hsteps, hpending, htoken⟩)
    · exact ⟨[], passage, passages, builder, rfl, rfl, hpending, htoken⟩
    · refine ⟨passage :: before, skipped, after, middle, by rw [hsplit]; rfl, ?_, hpending, htoken⟩
      rw [steps_cons, hstep]
      exact hsteps

/-- Text and empty end tags leave no text finished. -/
theorem pending_of_keepsText {builder next : Builder} {token : Token} {raw : List Char}
    (hstep : builder.step token raw = .ok next) (hkeeps : token.keepsText = true)
    (hnone : next.pending = none) : builder.pending = none := by
  obtain ⟨_, rfl⟩ | ⟨_, rfl⟩ | ⟨_, _, hnext⟩ := step_cases hstep
  · have hbegin : builder.beginText.pending = none := by simpa [pass] using hnone
    unfold beginText at hbegin
    split at hbegin
    · exact hbegin
    · exact (Option.or_eq_none_iff.1 hbegin).1
  · simpa [pass] using hnone
  · rcases hnext with ⟨_, _, _, rfl, _⟩ | ⟨_, rfl, _⟩ | ⟨rfl, _⟩ <;> cases hkeeps

/-- An empty end tag begins no text. -/
theorem pending_of_skipped {builder next : Builder} {raw : List Char}
    (hstep : builder.step .skipped raw = .ok next) (hsome : next.pending.isSome) :
    builder.pending ≠ none := by
  cases hstep
  intro hnone
  simp [pass, hnone] at hsome

private theorem exists_skipped_marks {passage : Passage} (hsound : passage.Sound) :
    (∃ mark ∈ passage.marks, mark.token = .skipped) ↔ passage.token = .skipped := by
  obtain ⟨c, hc⟩ := List.exists_mem_of_ne_nil _ hsound.raw_ne_nil
  constructor
  · rintro ⟨mark, hmark, htoken⟩
    obtain ⟨_, _, rfl⟩ := List.mem_map.1 hmark
    exact htoken
  · intro htoken
    exact ⟨⟨c, passage.token⟩, List.mem_map.2 ⟨c, hc, rfl⟩, htoken⟩

namespace Carries

variable {builder : Builder} {marks read : List Mark}

/-- Slices hold nothing but text and the empty end tags that are met, and these are all in them. -/
theorem marks_slices {passages : List Passage} (hcarries : builder.Carries marks read)
    (hsound : ∀ passage ∈ passages, passage.Sound) {last : Builder}
    (hsteps : builder.steps passages = .ok last) :
    (∀ mark ∈ (builder.slices marks passages).flatMap Slice.marks,
        mark ∈ marks ∨ mark.token.keepsText = true) ∧
      ((∃ mark ∈ (builder.slices marks passages).flatMap Slice.marks, mark.token = .skipped) ↔
        (∃ mark ∈ marks, mark.token = .skipped) ∨ builder.MeetsEmptyTag passages) := by
  induction passages generalizing builder marks read with
  | nil =>
    have hmeets : ¬builder.MeetsEmptyTag [] := by simp [MeetsEmptyTag]
    rw [slices, hcarries.marks_cut]
    exact ⟨fun mark hmark => .inl hmark, by simp [hmeets]⟩
  | cons passage passages ih =>
    rw [steps_cons, bind_eq_ok_iff] at hsteps
    obtain ⟨next, hstep, hsteps⟩ := hsteps
    have hlater := fun later hmem => hsound later (List.mem_cons_of_mem passage hmem)
    rw [slices, hstep, meetsEmptyTag_cons hstep]
    rcases hcarries.step (hsound passage List.mem_cons_self) hstep with
      ⟨hkeeps, _, hnext⟩ | ⟨hkeeps, hnext, _⟩
    · obtain ⟨honly, hiff⟩ := ih hnext hlater hsteps
      simp only [hkeeps, if_true]
      cases hpending : next.pending with
      | none =>
        have hnone := pending_of_keepsText hstep hkeeps hpending
        rw [hpending] at honly hiff
        simp only [Option.isSome_none, Bool.false_eq_true, if_false] at honly hiff ⊢
        rw [hcarries.eq_nil hnone]
        exact ⟨honly, by simpa [hnone] using hiff⟩
      | some text =>
        have hmet : passage.token = .skipped → builder.pending ≠ none := by
          intro htoken
          rw [htoken] at hstep
          exact pending_of_skipped hstep (by simp [hpending])
        rw [hpending] at honly hiff
        simp only [Option.isSome_some, if_true] at honly hiff ⊢
        constructor
        · intro mark hmark
          refine (honly mark hmark).elim (fun hknown => ?_) .inr
          rcases List.mem_append.1 hknown with hold | hnew
          · exact .inl hold
          · obtain ⟨_, _, rfl⟩ := List.mem_map.1 hnew
            exact .inr hkeeps
        · have hboth : (builder.pending ≠ none ∧ passage.token = .skipped) ↔
              passage.token = .skipped := ⟨And.right, fun htoken => ⟨hmet htoken, htoken⟩⟩
          rw [hiff, hboth, ← exists_skipped_marks (hsound passage List.mem_cons_self)]
          simp only [List.mem_append, or_and_right, exists_or, or_assoc]
    · obtain ⟨honly, hiff⟩ := ih hnext hlater hsteps
      have htoken : passage.token ≠ .skipped := by
        intro htoken
        rw [htoken] at hkeeps
        cases hkeeps
      simp only [hkeeps, Bool.false_eq_true, if_false, List.flatMap_append, hcarries.marks_cut]
      constructor
      · intro mark hmark
        rcases List.mem_append.1 hmark with hold | hnew
        · exact .inl hold
        · exact .inr ((honly mark hnew).resolve_left List.not_mem_nil)
      · simp only [List.not_mem_nil, false_and, exists_false, false_or] at hiff
        simp only [List.mem_append, or_and_right, exists_or, hiff, htoken, and_false, false_or]

private theorem empty : Builder.empty.Carries [] [] :=
  ⟨.empty, List.nil_suffix, fun _ => rfl, by rintro _ _ ⟨⟩⟩

end Carries

end Builder

/-- Each text and each interpolation stands for a slice of the source. Slices hold text and empty end
tags and nothing else, and they hold text only exactly if no empty end tag is read while text is
unfinished. -/
theorem texts_standFor_slices {source : List Char} {document : Document}
    (hparse : parseTemplate source = .ok document) :
    ∃ passages mode rest, Reads true .markup source passages mode rest ∧
      Lexeme.next? true mode rest = .ok none ∧
      source = Mark.textOf (Passage.marksOf passages) ++ rest ∧
      StandFor (Passage.marksOf passages) document.texts (Builder.empty.slices [] passages) ∧
      (∀ slice ∈ Builder.empty.slices [] passages, ∀ mark ∈ slice.marks,
        mark.token = .data ∨ mark.token = .skipped) ∧
      (∀ passage ∈ passages, passage.token = .skipped → passage.raw = "</>".toList) ∧
      ((∀ slice ∈ Builder.empty.slices [] passages, ∀ mark ∈ slice.marks, mark.token = .data) ↔
        ¬Builder.empty.MeetsEmptyTag passages) := by
  obtain ⟨passages, mode, rest, builder, last, hreads, hnone, hsteps, hflush, hdocument⟩ :=
    parseTemplate_eq_ok_iff.1 hparse
  have hsound := hreads.sound
  obtain ⟨more, htexts, hstand⟩ := Builder.Carries.empty.steps hsound hsteps hflush
  obtain ⟨honly, hiff⟩ := Builder.Carries.empty.marks_slices hsound hsteps
  have hkinds : ∀ slice ∈ Builder.empty.slices [] passages, ∀ mark ∈ slice.marks,
      mark.token = .data ∨ mark.token = .skipped := by
    intro slice hslice mark hmark
    have hkeeps := (honly mark (List.mem_flatMap.2 ⟨slice, hslice, hmark⟩)).resolve_left
      List.not_mem_nil
    generalize mark.token = token at hkeeps
    cases token with
    | data => exact .inl rfl
    | skipped => exact .inr rfl
    | startTag name selfClosing => cases hkeeps
    | endTag name => cases hkeeps
    | aside => cases hkeeps
  refine ⟨passages, mode, rest, hreads, hnone, ?_, ?_, hkinds,
    fun passage hmem => (hsound passage hmem).skipped, ?_⟩
  · rw [Passage.textOf_marksOf]
    exact hreads.text_eq
  · have hmore : document.texts = more := by
      rw [← hdocument]
      exact htexts
    rw [hmore]
    exact hstand
  · simp only [List.not_mem_nil, false_and, exists_false, false_or] at hiff
    rw [← hiff]
    constructor
    · rintro hdata ⟨mark, hmark, hskipped⟩
      obtain ⟨slice, hslice, hmem⟩ := List.mem_flatMap.1 hmark
      rw [hdata slice hslice mark hmem] at hskipped
      cases hskipped
    · intro hclean slice hslice mark hmark
      refine (hkinds slice hslice mark hmark).resolve_right fun hskipped => ?_
      exact hclean ⟨mark, List.mem_flatMap.2 ⟨slice, hslice, hmark⟩, hskipped⟩

/-- A comment and an interpolation divide a text, and an empty end tag does not. -/
theorem texts_standFor_slices_divided :
    let source := "a</>\x7b\x7b b \x7d\x7d<!--c-->d".toList
    ∃ document, parseTemplate source = .ok document ∧
      document.texts =
        [.text "a</>".toList ⟨1, 0⟩, .interpolation (some (.dynamic "b".toList)) ⟨1, 4⟩,
          .text "d".toList ⟨1, 19⟩] ∧
      ∃ passages mode rest, Reads true .markup source passages mode rest ∧
        StandFor (Passage.marksOf passages) document.texts (Builder.empty.slices [] passages) := by
  intro source
  have htexts : (parseTemplate source).toOption.map Document.texts =
      some [.text "a</>".toList ⟨1, 0⟩, .interpolation (some (.dynamic "b".toList)) ⟨1, 4⟩,
        .text "d".toList ⟨1, 19⟩] := by
    decide +kernel
  cases hparse : parseTemplate source with
  | error error =>
    rw [hparse] at htexts
    cases htexts
  | ok document =>
    rw [hparse] at htexts
    obtain ⟨passages, mode, rest, hreads, _, _, hstand, _⟩ := texts_standFor_slices hparse
    exact ⟨document, rfl, Option.some.inj htexts, passages, mode, rest, hreads, hstand⟩

/-- An empty end tag between two pieces of text becomes text with them. -/
theorem empty_end_tag_in_slice :
    let source := "a</>b".toList
    let passages : List Passage := [⟨.data, ['a']⟩, ⟨.skipped, ['<', '/', '>']⟩, ⟨.data, ['b']⟩]
    (parseTemplate source).toOption.map Document.texts = some [.text source ⟨1, 0⟩] ∧
      Reads true .markup source passages .markup [] ∧
      Builder.empty.slices [] passages = [⟨⟨1, 0⟩, Passage.marksOf passages⟩] ∧
      ∃ slice ∈ Builder.empty.slices [] passages, ∃ mark ∈ slice.marks, mark.token ≠ .data := by
  intro source passages
  have htext : ∀ c, c ≠ '&' → Lexeme.ofText [c] 0 = .ok ⟨.data, 1, .markup, by decide⟩ := by
    intro c hc
    rw [Lexeme.ofText, List.take_succ_cons, List.take_zero, decodeText_plain (by simpa using hc)]
    rfl
  have hfirst : Lexeme.next? true .markup source = .ok (some ⟨.data, 1, .markup, by decide⟩) := by
    change (Lexeme.ofText ['a'] 0 >>= fun lexeme => .ok (some lexeme)) = _
    rw [htext 'a' (by decide)]
    rfl
  have hlast : Lexeme.next? true .markup ['b'] = .ok (some ⟨.data, 1, .markup, by decide⟩) := by
    change (Lexeme.ofText ['b'] 0 >>= fun lexeme => .ok (some lexeme)) = _
    rw [htext 'b' (by decide)]
    rfl
  have hreads : Reads true .markup source passages .markup [] :=
    .cons _ hfirst (.cons ⟨.skipped, 3, .markup, by decide⟩ rfl (.cons _ hlast .nil))
  have hslices : Builder.empty.slices [] passages = [⟨⟨1, 0⟩, Passage.marksOf passages⟩] := by
    decide +kernel
  refine ⟨by decide +kernel, hreads, hslices, ?_⟩
  rw [hslices]
  exact ⟨_, List.mem_singleton_self _, ⟨'<', .skipped⟩, by decide, by decide⟩

end BareStrings.Markup
