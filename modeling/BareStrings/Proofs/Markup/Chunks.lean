import BareStrings.Proofs.Markup.Parts
import BareStrings.Proofs.Markup.Stable

namespace BareStrings.Markup

open BareStrings.Text

namespace Builder

private theorem pass_append (builder : Builder) (text more : List Char) :
    builder.pass (text ++ more) = (builder.pass text).pass more := by
  simp only [pass, Position.advance_append, Option.map_map, Builder.mk.injEq, true_and, and_true]
  cases builder.pending <;> simp

private theorem pass_nil (builder : Builder) : builder.pass [] = builder := by
  obtain ⟨children, openElements, pending, position⟩ := builder
  cases pending <;> simp [pass]

private theorem beginText_pass_beginText (builder : Builder) (text : List Char) :
    (builder.beginText.pass text).beginText = builder.beginText.pass text := by
  unfold beginText
  split
  · rename_i hcode
    exact if_pos hcode
  · rename_i hcode
    refine (if_neg hcode).trans ?_
    simp only [pass, Builder.mk.injEq, true_and, and_true]
    cases builder.pending <;> rfl

/-- Taking in data begins a text and moves on behind it. -/
theorem step_data (builder : Builder) (raw : List Char) :
    builder.step .data raw = .ok (builder.beginText.pass raw) := rfl

end Builder

namespace Reader

/-- Whether reading a text, before more of the source, meets a start tag that leaves a quote open which
the rest of the source closes. -/
def cutsQuote (more : List Char) (mode : Mode) (text : List Char) : Bool :=
  match text with
  | [] => false
  | c :: rest =>
    (mode == .markup && Lexeme.cutsQuote more (c :: rest)) ||
      match Lexeme.next? false mode (c :: rest) with
      | .ok (some lexeme) => cutsQuote more lexeme.mode ((c :: rest).drop lexeme.size)
      | _ => false
termination_by text.length
decreasing_by
  have hpos := lexeme.size_pos
  simp only [List.length_drop, List.length_cons]
  omega

/-- Whether some chunk ends behind a start tag that leaves a quote open which a later chunk closes. -/
def cutsQuotes (reader : Reader) : List (List Char) → Bool
  | [] => false
  | chunk :: later =>
    cutsQuote later.flatten reader.mode (reader.unread ++ chunk) ||
      match reader.feed chunk with
      | .ok next => next.cutsQuotes later
      | .error _ => false

/-- A text whose quotes are not cut has a first lexeme that is not cut, and nothing is cut behind it. -/
private theorem cutsQuote_eq_false {more text : List Char} {mode : Mode}
    (hcut : cutsQuote more mode text = false) :
    (mode = .markup → Lexeme.cutsQuote more text = false) ∧
      ∀ {lexeme}, Lexeme.next? false mode text = .ok (some lexeme) →
        cutsQuote more lexeme.mode (text.drop lexeme.size) = false := by
  cases text with
  | nil => exact ⟨fun _ => rfl, fun hnext => by cases mode <;> cases hnext⟩
  | cons c rest =>
    rw [cutsQuote, Bool.or_eq_false_iff] at hcut
    refine ⟨?_, fun hnext => ?_⟩
    · rintro rfl
      simpa using hcut.1
    · have hlater := hcut.2
      rw [hnext] at hlater
      exact hlater

/-- A run takes its first lexeme in and goes on with the rest of the text. -/
theorem run_of_next? {final : Bool} {builder : Builder} {mode : Mode} {text : List Char}
    {lexeme : Lexeme} (hnext : Lexeme.next? final mode text = .ok (some lexeme)) :
    run final builder mode text =
      builder.step lexeme.token (text.take lexeme.size) >>= fun next =>
        run final next lexeme.mode (text.drop lexeme.size) := by
  cases text with
  | nil => cases mode <;> cases hnext
  | cons c rest =>
    rw [run, hnext]
    simp only
    cases builder.step lexeme.token ((c :: rest).take lexeme.size) <;> rfl

/-- Text up to the next tag that is not refused is one step. -/
theorem run_atTag {builder : Builder} {text rest : List Char} {reader : Reader} (hne : text ≠ [])
    (htext : '<' ∉ text) (hrest : AtTag rest) :
    run true builder .markup (text ++ rest) = .ok reader ↔
      ¬CharRef.HoldsLong text ∧
        run true (builder.beginText.pass text) .markup rest = .ok reader := by
  by_cases hlong : CharRef.HoldsLong text
  · simp only [hlong, not_true, false_and, iff_false]
    intro hrun
    obtain ⟨c, tail, rfl⟩ := List.exists_cons_of_ne_nil hne
    rw [List.mem_cons, not_or] at htext
    rw [List.cons_append, run, Lexeme.next?_markup_text (Ne.symm htext.1), Bool.not_true,
      Bool.and_false, if_neg Bool.false_ne_true, takeWhile_atTag htext.2 hrest] at hrun
    cases hofText : Lexeme.ofText (c :: (tail ++ rest)) tail.length with
    | error error =>
      rw [hofText] at hrun
      cases hrun
    | ok lexeme =>
      have hclean := ofText_eq_ok_iff.1 ⟨lexeme, hofText⟩
      rw [← List.cons_append, ← List.length_cons (a := c), List.take_left] at hclean
      exact hclean hlong
  · obtain ⟨value, hdecode⟩ := decodeText_eq_ok_iff.2 hlong
    obtain ⟨lexeme, hnext, htoken, hmode, hsize⟩ := Lexeme.next?_text hne htext hdecode hrest
    rw [run_of_next? hnext, htoken, hmode, hsize, List.take_left, List.drop_left, Builder.step_data]
    simp only [hlong, not_false_eq_true, true_and]
    rfl

/-- Text without a tag that has been read is read on with what follows it. -/
theorem run_text {builder : Builder} {text more : List Char} {reader : Reader} (hne : text ≠ [])
    (htext : '<' ∉ text) (hrun : run true builder .markup (text ++ more) = .ok reader) :
    run true (builder.beginText.pass text) .markup more = .ok reader := by
  obtain ⟨front, rest, hsplit, hfront, hrest⟩ :
      ∃ front rest, more = front ++ rest ∧ '<' ∉ front ∧ AtTag rest := by
    refine ⟨more.takeWhile (· != '<'), more.dropWhile (· != '<'),
      List.takeWhile_append_dropWhile.symm, fun hmem => ?_, ?_⟩
    · simpa using List.mem_takeWhile_imp hmem
    · cases hdrop : more.dropWhile (· != '<') with
      | nil => exact .inl rfl
      | cons c behind =>
        have hhead := List.head_dropWhile_not (· != '<') (l := more) (by simp [hdrop])
        simp only [hdrop, List.head_cons, bne_eq_false_iff_eq] at hhead
        exact .inr ⟨behind, by rw [hhead]⟩
  subst hsplit
  have hwhole : '<' ∉ text ++ front := by simp [htext, hfront]
  rw [← List.append_assoc, run_atTag (by simp [hne]) hwhole hrest] at hrun
  obtain ⟨hclean, hrun⟩ := hrun
  rw [Builder.pass_append] at hrun
  cases front with
  | nil => rwa [Builder.pass_nil] at hrun
  | cons c front =>
    refine (run_atTag (List.cons_ne_nil c front) hfront hrest).2 ⟨fun hlong => ?_, ?_⟩
    · exact hclean (hlong.of_isInfix (List.suffix_append text _).isInfix)
    · rwa [Builder.beginText_pass_beginText]

/-- A run over the beginning of a source goes on, with the rest of the source, to where the run over the
whole source goes. -/
theorem run_append {builder : Builder} {mode : Mode} {text more : List Char} {last : Reader}
    (hmode : mode.BracketFree) (hcut : cutsQuote more mode text = false)
    (hrun : run true builder mode (text ++ more) = .ok last) :
    ∃ reader, run false builder mode text = .ok reader ∧ reader.mode.BracketFree ∧
      run true reader.builder reader.mode (reader.unread ++ more) = .ok last := by
  fun_induction run false builder mode text with
  | case1 builder mode => exact ⟨_, rfl, hmode, hrun⟩
  | case2 builder mode c rest error hnext =>
    obtain ⟨error, herror⟩ := Lexeme.next?_append_error (cutsQuote_eq_false hcut).1 hnext
    rw [List.cons_append] at hrun herror
    rw [run, herror] at hrun
    cases hrun
  | case3 builder mode c rest hnone => exact ⟨_, rfl, hmode, hrun⟩
  | case4 builder mode c rest lexeme hnext error hstep =>
    obtain ⟨hsize, hsame⟩ | ⟨_, _, htoken, _⟩ :=
      Lexeme.next?_append hmode (cutsQuote_eq_false hcut).1 hnext
    · rw [run_of_next? hsame, List.take_append_of_le_length hsize, hstep] at hrun
      cases hrun
    · rw [htoken, Builder.step_data] at hstep
      cases hstep
  | case5 builder mode c rest lexeme hnext next hstep ih =>
    have hlater := Lexeme.bracketFree_of_next? hmode hnext
    obtain ⟨hsize, hsame⟩ | ⟨rfl, htext, htoken, hmarkup, hsize⟩ :=
      Lexeme.next?_append hmode (cutsQuote_eq_false hcut).1 hnext
    · rw [run_of_next? hsame, List.take_append_of_le_length hsize, hstep,
        List.drop_append_of_le_length hsize] at hrun
      exact ih hlater ((cutsQuote_eq_false hcut).2 hnext) hrun
    · rw [htoken, hsize, List.take_length, Builder.step_data] at hstep
      cases hstep
      rw [hmarkup, hsize, List.drop_length, run]
      exact ⟨_, rfl, trivial, run_text (List.cons_ne_nil c rest) htext hrun⟩

/-- Chunks are read, one after another, to where the run over their concatenation goes. -/
theorem feeds_append {chunks : List (List Char)} {reader last : Reader}
    (hmode : reader.mode.BracketFree) (hcut : reader.cutsQuotes chunks = false)
    (hrun : run true reader.builder reader.mode (reader.unread ++ chunks.flatten) = .ok last) :
    ∃ next, chunks.foldlM feed reader = .ok next ∧
      run true next.builder next.mode next.unread = .ok last := by
  induction chunks generalizing reader with
  | nil => exact ⟨reader, rfl, by simpa using hrun⟩
  | cons chunk later ih =>
    rw [cutsQuotes, Bool.or_eq_false_iff] at hcut
    rw [List.flatten_cons, ← List.append_assoc] at hrun
    obtain ⟨middle, hfeed, hmiddle, hlater⟩ := run_append hmode hcut.1 hrun
    have hcuts := hcut.2
    rw [feed, hfeed] at hcuts
    obtain ⟨next, hfeeds, hlast⟩ := ih hmiddle hcuts hlater
    refine ⟨next, ?_, hlast⟩
    rw [List.foldlM_cons, feed, hfeed]
    exact hfeeds

/-- However a source is cut into chunks, reading them one after another gives the tree of the source, as
long as no chunk ends behind a start tag that leaves a quote open which a later chunk closes. -/
theorem document_of_chunks {chunks : List (List Char)} {document : Document}
    (hparse : parseTemplate chunks.flatten = .ok document)
    (hcut : Reader.empty.cutsQuotes chunks = false) :
    ∃ reader builder, chunks.foldlM feed .empty = .ok reader ∧ reader.finish = .ok builder ∧
      builder.document = document := by
  rw [parseTemplate_eq, bind_eq_ok_iff] at hparse
  obtain ⟨last, hrun, hdocument⟩ := hparse
  obtain ⟨builder, hflush, hdocument⟩ := bind_eq_ok_iff.1 hdocument
  have hempty : Reader.empty.mode.BracketFree := trivial
  obtain ⟨reader, hfeeds, hlast⟩ := feeds_append hempty hcut hrun
  refine ⟨reader, builder, hfeeds, ?_, Except.ok.inj hdocument⟩
  rw [finish, hlast]
  exact hflush

/-- Chunks that end inside a quoted value, a character reference, an interpolation, the opening of a
comment, code and the end tag of code. -/
theorem document_of_cut_chunks :
    let chunks := ["<p t= \"a".toList, ">b\">x &am".toList, "p; \x7b\x7b y".toList,
      " \x7d\x7d<!-".toList, "- c --><script>a </scr".toList, "ipt>".toList]
    ∃ document reader builder, parseTemplate chunks.flatten = .ok document ∧
      Reader.empty.cutsQuotes chunks = false ∧ chunks.foldlM feed .empty = .ok reader ∧
      reader.finish = .ok builder ∧ builder.document = document ∧
      document.parts =
        [.startTag ⟨"p".toList, ⟨1, 0⟩, [.plain "t".toList (some ⟨"a>b".toList, ⟨1, 6⟩⟩) ⟨1, 3⟩]⟩,
          .text "x & ".toList ⟨1, 12⟩, .interpolation (some (.dynamic "y".toList)) ⟨1, 20⟩,
          .startTag ⟨"script".toList, ⟨1, 37⟩, []⟩] := by
  intro chunks
  have hparts : (parseTemplate chunks.flatten).toOption.map Document.parts =
      some [.startTag ⟨"p".toList, ⟨1, 0⟩, [.plain "t".toList (some ⟨"a>b".toList, ⟨1, 6⟩⟩) ⟨1, 3⟩]⟩,
        .text "x & ".toList ⟨1, 12⟩, .interpolation (some (.dynamic "y".toList)) ⟨1, 20⟩,
        .startTag ⟨"script".toList, ⟨1, 37⟩, []⟩] := by
    decide +kernel
  have hcut : Reader.empty.cutsQuotes chunks = false := by decide +kernel
  cases hparse : parseTemplate chunks.flatten with
  | error error =>
    rw [hparse] at hparts
    cases hparts
  | ok document =>
    rw [hparse] at hparts
    obtain ⟨reader, builder, hfeeds, hfinish, hdocument⟩ := document_of_chunks hparse hcut
    exact ⟨document, reader, builder, rfl, hcut, hfeeds, hfinish, hdocument, Option.some.inj hparts⟩

/-- A value behind a blank, whose quote is closed in the second chunk only: the first chunk is read as a
whole tag with an empty value, and the rest of the value becomes text. -/
theorem document_of_cut_quote :
    let chunks := ["<a b= \"x>".toList, "y\">".toList]
    Reader.empty.cutsQuotes chunks = true ∧
      (parseTemplate chunks.flatten).toOption.map Document.parts =
        some [.startTag ⟨"a".toList, ⟨1, 0⟩,
          [.plain "b".toList (some ⟨"x>y".toList, ⟨1, 6⟩⟩) ⟨1, 3⟩]⟩] ∧
      (chunks.foldlM feed .empty >>= finish).toOption.map (·.document.parts) =
        some [.startTag ⟨"a".toList, ⟨1, 0⟩, [.plain "b".toList (some ⟨[], ⟨1, 6⟩⟩) ⟨1, 3⟩]⟩,
          .text "y\">".toList ⟨1, 9⟩] := by
  decide +kernel

end Reader

end BareStrings.Markup
