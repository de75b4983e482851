import BareStrings.Proofs.Markup.Place
import BareStrings.Proofs.Markup.Template.Text

namespace BareStrings.Markup

open BareStrings.Text

namespace Piece

/-- A text that holds an interpolation is cut at one that begins no later. -/
theorem exists_cut? (others inside rest : List Char) :
    ∃ before body after, cut? (others ++ (mustache inside).raw ++ rest) = some (before, body, after) ∧
      before.length ≤ others.length := by
  have hsource : others ++ (mustache inside).raw ++ rest =
      others ++ opening ++ (inside ++ closing ++ rest) := by simp [raw]
  obtain ⟨before, tail, hopen, hle⟩ := exists_cutAt? opening others (inside ++ closing ++ rest)
  -- What is behind the first opening braces is long enough to hold the closing ones.
  have hclosing : closing ++ rest <:+ tail := by
    have hall := cutAt?_eq_some hopen
    have hend : closing ++ rest <:+ before ++ opening ++ tail :=
      ⟨others ++ opening ++ inside, by rw [← hall]; simp⟩
    apply List.suffix_of_suffix_length_le hend (List.suffix_append _ tail)
    have hlength := congrArg List.length hall
    simp only [List.length_append] at hlength ⊢
    omega
  obtain ⟨front, hfront⟩ := hclosing
  rw [← List.append_assoc] at hfront
  obtain ⟨body, after, hclose, _⟩ := exists_cutAt? closing front rest
  refine ⟨before, body, after, ?_, hle⟩
  simp only [hsource, cut?, hopen, ← hfront, hclose, Option.bind_eq_bind, Option.bind_some,
    Option.pure_def]

/-- The first interpolation of a text ends as soon as it can. -/
theorem length_le_of_cut? {source before body after : List Char}
    (hcut : cut? source = some (before, body, after)) {other rest : List Char}
    (hother : (mustache body).raw ++ after = (mustache other).raw ++ rest) :
    body.length ≤ other.length := by
  simp only [cut?, Option.bind_eq_bind, Option.bind_eq_some_iff, Option.pure_def,
    Option.some.injEq, Prod.mk.injEq, Prod.exists] at hcut
  obtain ⟨_, tail, _, _, _, hclose, rfl, rfl, rfl⟩ := hcut
  have htail : tail = other ++ closing ++ rest := by
    rw [cutAt?_eq_some hclose]
    simpa [raw] using hother
  obtain ⟨found, _, hfound, hle⟩ := exists_cutAt? closing other rest
  rw [← htail, hclose] at hfound
  cases hfound
  exact hle

/-- Pieces that a text is cut into. An interpolation ends at the first closing braces. A text piece is
not empty, no interpolation begins inside it, be it whole in it or not, and no other text follows. -/
inductive IsCut : List Piece → Prop
  | nil : IsCut []
  | mustache {body : List Char} {latter : List Piece}
    (shortest : ∀ other rest, (Piece.mustache body).raw ++ latter.flatMap raw =
      (Piece.mustache other).raw ++ rest → body.length ≤ other.length)
    (later : IsCut latter) : IsCut (.mustache body :: latter)
  | text {written : List Char} {latter : List Piece} (ne_nil : written ≠ [])
    (none_inside : ∀ before behind, written = before ++ behind → behind ≠ [] →
      ∀ body rest, behind ++ latter.flatMap raw ≠ (Piece.mustache body).raw ++ rest)
    (apart : ∀ other others, latter ≠ .text other :: others)
    (later : IsCut latter) : IsCut (.text written :: latter)

/-- Text before pieces that begin with no text. -/
theorem IsCut.behindText {written : List Char} {latter : List Piece}
    (hinside : ∀ before behind, written = before ++ behind → behind ≠ [] →
      ∀ body rest, behind ++ latter.flatMap raw ≠ (Piece.mustache body).raw ++ rest)
    (hapart : ∀ other others, latter ≠ .text other :: others) (hlater : IsCut latter) :
    IsCut (ofText written ++ latter) := by
  unfold ofText
  split
  · exact hlater
  · rename_i hne
    exact .text (by simpa using hne) hinside hapart hlater

/-- A text is cut into such pieces. -/
theorem isCut_ofSource (source : List Char) : IsCut (ofSource source) := by
  fun_induction ofSource source with
  | case1 source hcut =>
    rw [← List.append_nil (ofText source)]
    refine .behindText ?_ (fun _ _ => (List.cons_ne_nil _ _).symm) .nil
    intro before behind hsource _ body rest hspan
    rw [List.flatMap_nil, List.append_nil] at hspan
    obtain ⟨_, _, _, hfound, _⟩ := exists_cut? before body rest
    rw [List.append_assoc, ← hspan, ← hsource, hcut] at hfound
    cases hfound
  | case2 source before body after hcut hshorter ih =>
    refine .behindText ?_ (fun _ _ heq => by cases heq) (.mustache ?_ ih)
    · intro former behind hbefore hne other rest hspan
      rw [List.flatMap_cons, rawOf_ofSource] at hspan
      have hsource : source = former ++ (Piece.mustache other).raw ++ rest := by
        rw [cut?_eq_some hcut, hbefore, List.append_assoc, List.append_assoc, hspan,
          List.append_assoc]
      obtain ⟨_, _, _, hfound, hle⟩ := exists_cut? former other rest
      rw [← hsource, hcut] at hfound
      cases hfound
      have hpos := List.length_pos_iff.2 hne
      rw [hbefore, List.length_append] at hle
      omega
    · intro other rest hspan
      rw [rawOf_ofSource] at hspan
      exact length_le_of_cut? hcut hspan

/-- A text that goes on with an interpolation is cut there, if none begins before. -/
theorem IsCut.cut?_mustache {body : List Char} {latter : List Piece}
    (hcut : IsCut (.mustache body :: latter)) {before : List Char}
    (hbefore : ∀ former behind, before = former ++ behind → behind ≠ [] → ∀ other rest,
      behind ++ ((Piece.mustache body).raw ++ latter.flatMap raw) ≠
        (Piece.mustache other).raw ++ rest) :
    cut? (before ++ ((Piece.mustache body).raw ++ latter.flatMap raw)) =
      some (before, body, latter.flatMap raw) := by
  cases hcut with
  | mustache shortest _ =>
    obtain ⟨found, inside, after, hfound, hle⟩ := exists_cut? before body (latter.flatMap raw)
    rw [List.append_assoc] at hfound
    have hsource := cut?_eq_some hfound
    obtain ⟨behind, hbehind⟩ : found <+: before := by
      have hwhole : found <+: before ++ ((Piece.mustache body).raw ++ latter.flatMap raw) :=
        ⟨(Piece.mustache inside).raw ++ after, by rw [hsource, List.append_assoc]⟩
      exact List.prefix_of_prefix_length_le hwhole (List.prefix_append before _) hle
    rw [← hbehind, List.append_assoc, List.append_assoc, List.append_cancel_left_eq] at hsource
    obtain rfl : behind = [] := by
      by_contra hne
      exact hbefore found behind hbehind.symm hne inside after hsource
    rw [List.nil_append] at hsource
    rw [List.append_nil] at hbehind
    -- Both insides end as soon as they can, so they are the same.
    have hlength : body.length = inside.length :=
      Nat.le_antisymm (shortest inside after hsource) (length_le_of_cut? hfound hsource.symm)
    obtain ⟨hraw, hafter⟩ := List.append_inj hsource (by simp [raw, hlength])
    have hinside : body = inside := by simpa [raw] using hraw
    rw [hfound, hbehind, hinside, hafter]

private theorem IsCut.cut?_front {body : List Char} {latter : List Piece}
    (hcut : IsCut (.mustache body :: latter)) :
    cut? ((Piece.mustache body).raw ++ latter.flatMap raw) = some ([], body, latter.flatMap raw) := by
  have hnone : ∀ former behind : List Char, [] = former ++ behind → behind ≠ [] → ∀ other rest,
      behind ++ ((Piece.mustache body).raw ++ latter.flatMap raw) ≠
        (Piece.mustache other).raw ++ rest := by
    intro former behind hnil hne
    exact absurd (List.append_eq_nil_iff.1 hnil.symm).2 hne
  exact hcut.cut?_mustache hnone

/-- Pieces that a text is cut into are those of the text. -/
theorem IsCut.ofSource_eq {pieces : List Piece} (hcut : IsCut pieces) :
    ofSource (pieces.flatMap raw) = pieces := by
  induction hcut with
  | nil => exact ofSource_text List.not_mem_nil
  | @mustache body latter shortest later ih =>
    have hfirst := (IsCut.mustache shortest later).cut?_front
    rw [List.flatMap_cons, ofSource_eq_of_cut?_eq_some hfirst, ih]
    rfl
  | @text written latter ne_nil none_inside apart later ih =>
    have hwritten : ofText written = [.text written] := by simp [ofText, ne_nil]
    rw [List.flatMap_cons]
    cases latter with
    | nil =>
      rw [List.flatMap_nil, List.append_nil] at *
      have hnone : cut? (Piece.text written).raw = none := by
        cases hfound : cut? (Piece.text written).raw with
        | none => rfl
        | some found =>
          obtain ⟨before, body, after⟩ := found
          have hsource : written = before ++ ((Piece.mustache body).raw ++ after) := by
            rw [← List.append_assoc]
            exact cut?_eq_some hfound
          exact absurd (List.append_nil _)
            (none_inside before _ hsource (by simp [raw, opening]) body after)
      rw [ofSource_eq_of_cut?_eq_none hnone]
      exact hwritten
    | cons piece latter =>
      cases piece with
      | text other => exact absurd rfl (apart other latter)
      | mustache body =>
        rw [List.flatMap_cons] at none_inside ih ⊢
        rw [ofSource_eq_of_cut?_eq_some later.cut?_front] at ih
        have hcut := later.cut?_mustache none_inside
        change ofSource (written ++ _) = _
        rw [ofSource_eq_of_cut?_eq_some hcut, hwritten, List.singleton_append]
        exact congrArg _ ih

/-- A piece can be made into a node: its source can be decoded, and the inside of an interpolation can
be read. -/
def IsReadable : Piece → Prop
  | .text written => ∃ value, decodeText written = .ok value
  | .mustache body => ∃ value expression, decodeText body = .ok value ∧
    readExpression value = .ok expression

/-- The node of a piece that begins at a place: the decoded text, or what the decoded inside of an
interpolation is read as. -/
inductive Gives (position : Position) : Piece → Node → Prop
  | text {written value : List Char} (hvalue : decodeText written = .ok value) :
    Gives position (.text written) (.text value position)
  | mustache {body value : List Char} {expression : Option Expression}
    (hvalue : decodeText body = .ok value) (hexpression : readExpression value = .ok expression) :
    Gives position (.mustache body) (.interpolation expression position)

/-- A piece that can be read gives a node that shows what it holds. -/
private theorem IsReadable.exists_toNode {piece : Piece} (hreadable : piece.IsReadable)
    (position : Position) :
    ∃ node, piece.toNode position = .ok node ∧ Gives position piece node := by
  cases piece with
  | text written =>
    obtain ⟨value, hvalue⟩ := hreadable
    exact ⟨_, by rw [toNode, hvalue]; rfl, .text hvalue⟩
  | mustache body =>
    obtain ⟨value, expression, hvalue, hexpression⟩ := hreadable
    refine ⟨.interpolation expression position, ?_, .mustache hvalue hexpression⟩
    simp only [toNode, hvalue, hexpression, bind, Except.bind]
    rfl

/-- Pieces that can be read give a node each, where they stand. -/
theorem exists_toNodes {pieces : List Piece} (hreadable : ∀ piece ∈ pieces, piece.IsReadable)
    (position : Position) :
    ∃ nodes, toNodes position pieces = .ok nodes ∧ nodes.length = pieces.length ∧
      ∀ former piece latter, pieces = former ++ piece :: latter →
        ∃ node, nodes[former.length]? = some node ∧
          Gives (position.advance (former.flatMap raw)) piece node := by
  induction pieces generalizing position with
  | nil => exact ⟨[], rfl, rfl, by simp⟩
  | cons first pieces ih =>
    obtain ⟨hfirst, hlater⟩ := List.forall_mem_cons.1 hreadable
    obtain ⟨node, hnode, hgives⟩ := hfirst.exists_toNode position
    obtain ⟨nodes, hnodes, hlength, hall⟩ := ih hlater (position.advance first.raw)
    refine ⟨node :: nodes, ?_, by simp [hlength], ?_⟩
    · simp only [toNodes, hnode, hnodes, bind, Except.bind]
      rfl
    · intro former piece latter hsplit
      cases former with
      | nil =>
        obtain ⟨rfl, rfl⟩ := List.cons.inj hsplit
        exact ⟨node, rfl, hgives⟩
      | cons head former =>
        obtain ⟨rfl, rfl⟩ := List.cons.inj hsplit
        obtain ⟨found, hfound, hgiven⟩ := hall former piece latter rfl
        refine ⟨found, by simpa using hfound, ?_⟩
        rwa [List.flatMap_cons, Position.advance_append]

end Piece

/-- Unfinished text is cut in the one way that there is, and if all pieces can be read, their nodes are
added inside the innermost open element, or outside of all elements if none is open. -/
theorem Builder.flush_appends_pieces {builder : Builder} {start : Position} {raw : List Char}
    (hpending : builder.pending = some (start, raw)) :
    ∃ pieces, pieces.flatMap Piece.raw = raw ∧ Piece.IsCut pieces ∧
      (∀ others, others.flatMap Piece.raw = raw → Piece.IsCut others → others = pieces) ∧
      ((∀ piece ∈ pieces, piece.IsReadable) →
        ∃ nodes flushed, builder.flush = .ok flushed ∧ nodes.length = pieces.length ∧
          (∀ former piece latter, pieces = former ++ piece :: latter →
            ∃ node, nodes[former.length]? = some node ∧
              piece.Gives (start.advance (former.flatMap Piece.raw)) node) ∧
          (builder.openElements = [] →
            flushed = { builder with children := builder.children ++ nodes, pending := none }) ∧
          ∀ element outer, builder.openElements = element :: outer →
            flushed = { builder with
              openElements := { element with children := element.children ++ nodes } :: outer
              pending := none }) := by
  refine ⟨Piece.ofSource raw, Piece.rawOf_ofSource raw, Piece.isCut_ofSource raw, ?_, ?_⟩
  · intro others hraw hcut
    rw [← hraw, hcut.ofSource_eq]
  · intro hreadable
    obtain ⟨nodes, hnodes, hlength, hgives⟩ := Piece.exists_toNodes hreadable start
    refine ⟨nodes, { builder.addNodes nodes with pending := none }, ?_, hlength, hgives, ?_, ?_⟩
    · rw [flush, hpending]
      simp only [textNodes, hnodes, bind, Except.bind]
      rfl
    · intro hopen
      simp only [addNodes, hopen]
    · intro element outer hopen
      simp only [addNodes, hopen, Element.enclose]

/-- Three opening braces, an inside that ends too early for one of the closing ones, an empty inside and
braces that are never closed. -/
theorem Builder.flush_appends_pieces_braces :
    let raw := "a\x7b\x7b\x7bx\x7d\x7d\x7d&amp;\x7b\x7b\x7d\x7d\n\x7b\x7b".toList
    let pieces : List Piece := [.text ['a'], .mustache ['\x7b', 'x'], .text "\x7d&amp;".toList,
      .mustache [], .text "\n\x7b\x7b".toList]
    let outside : Element := ⟨⟨"p".toList, .start, []⟩, [.text ['b'] ⟨1, 3⟩]⟩
    let builder : Builder := ⟨[], [outside], some (⟨2, 3⟩, raw), ⟨3, 2⟩⟩
    pieces.flatMap Piece.raw = raw ∧ Piece.IsCut pieces ∧ (∀ piece ∈ pieces, piece.IsReadable) ∧
      ∃ nodes flushed, builder.flush = .ok flushed ∧ nodes.length = 5 ∧
        (∃ node, nodes[2]? = some node ∧ Piece.Gives ⟨2, 10⟩ (.text "\x7d&amp;".toList) node) ∧
        flushed = { builder with
          openElements := [{ outside with children := outside.children ++ nodes }], pending := none } := by
  intro raw pieces outside builder
  obtain ⟨found, hraw, hcut, hunique, hflush⟩ :=
    @flush_appends_pieces builder ⟨2, 3⟩ raw rfl
  have hpieces : Piece.ofSource raw = pieces := by decide +kernel
  obtain rfl : pieces = found := by
    rw [← hpieces]
    exact hunique _ (Piece.rawOf_ofSource raw) (Piece.isCut_ofSource raw)
  have hreadable : ∀ piece ∈ pieces, piece.IsReadable := by
    simp only [pieces, List.forall_mem_cons]
    refine ⟨⟨['a'], by decide +kernel⟩,
      ⟨['\x7b', 'x'], some (.dynamic ['\x7b', 'x']), by decide +kernel, by decide +kernel⟩,
      ⟨['\x7d', '&'], by decide +kernel⟩, ⟨[], none, by decide +kernel, by decide +kernel⟩,
      ⟨"\n\x7b\x7b".toList, by decide +kernel⟩, by simp⟩
  obtain ⟨nodes, flushed, hflushed, hlength, hgives, _, hopen⟩ := hflush hreadable
  refine ⟨hraw, hcut, hreadable, nodes, flushed, hflushed, hlength, ?_, hopen outside [] rfl⟩
  exact hgives [.text ['a'], .mustache ['\x7b', 'x']] _ _ rfl

end BareStrings.Markup
