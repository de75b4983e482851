import BareStrings.Markup.Reader
import BareStrings.Proofs.Except
import BareStrings.Proofs.Text.Ascii

namespace BareStrings.Markup

open BareStrings.Text

/-- A lexeme that has been read, with its source. -/
structure Passage where
  token : Token
  raw : List Char
deriving DecidableEq

namespace Passage

/-- The source of passages. -/
def rawOf (passages : List Passage) : List Char := passages.flatMap raw

/-- No passages hold no characters. -/
@[simp]
theorem rawOf_nil : rawOf [] = [] := rfl

/-- The characters of passages stand one behind the other. -/
@[simp]
theorem rawOf_cons (passage : Passage) (passages : List Passage) :
    rawOf (passage :: passages) = passage.raw ++ rawOf passages := rfl

end Passage

/-- Some lexemes can be told at the front of a text, in a mode, one after another. The last mode and
the rest of the text are what is left to go on with; no claim is made that nothing more can be
told. -/
inductive Reads (final : Bool) : Mode → List Char → List Passage → Mode → List Char → Prop
  | nil {mode : Mode} {text : List Char} : Reads final mode text [] mode text
  | cons {mode last : Mode} {text rest : List Char} {passages : List Passage} (lexeme : Lexeme)
      (hnext : Lexeme.next? final mode text = .ok (some lexeme))
      (hrest : Reads final lexeme.mode (text.drop lexeme.size) passages last rest) :
      Reads final mode text (⟨lexeme.token, text.take lexeme.size⟩ :: passages) last rest

namespace Reads

variable {final : Bool} {mode middle last : Mode} {text between rest : List Char}
  {passages more : List Passage}

/-- A reading goes on where another one has stopped. -/
theorem append (hfirst : Reads final mode text passages middle between)
    (hsecond : Reads final middle between more last rest) :
    Reads final mode text (passages ++ more) last rest := by
  induction hfirst with
  | nil => exact hsecond
  | cons lexeme hnext _ ih => exact .cons lexeme hnext (ih hsecond)

/-- Nothing is lost: the passages and the rest make up the text. -/
theorem text_eq (hreads : Reads final mode text passages last rest) :
    text = Passage.rawOf passages ++ rest := by
  induction hreads with
  | nil => rfl
  | cons lexeme _ _ ih =>
    rw [Passage.rawOf_cons, List.append_assoc, ← ih, List.take_append_drop]

/-- A lexeme that is told at the front of a text is a reading of one passage. -/
theorem of_next? {source : List Char} {lexeme : Lexeme}
    (hnext : Lexeme.next? final mode (source ++ rest) = .ok (some lexeme))
    (hsize : lexeme.size = source.length) :
    Reads final mode (source ++ rest) [⟨lexeme.token, source⟩] lexeme.mode rest := by
  have hreads := Reads.cons lexeme hnext .nil
  rwa [hsize, List.take_left, List.drop_left] at hreads

/-- Each passage has been told at the front of some text. -/
theorem exists_next? {passage : Passage} (hreads : Reads final mode text passages last rest)
    (hmem : passage ∈ passages) :
    ∃ mode text lexeme, Lexeme.next? final mode text = .ok (some lexeme) ∧
      passage = ⟨lexeme.token, text.take lexeme.size⟩ := by
  induction hreads with
  | nil => cases hmem
  | @cons mode _ text _ _ lexeme hnext _ ih =>
    rcases List.mem_cons.1 hmem with hfirst | hlater
    · exact ⟨mode, text, lexeme, hnext, hfirst⟩
    · exact ih hlater

end Reads

namespace Builder

/-- Takes in passages one after another. -/
def steps (builder : Builder) (passages : List Passage) : Except MarkupError Builder :=
  passages.foldlM (fun builder passage => builder.step passage.token passage.raw) builder

/-- Taking in no passages leaves the builder as it is. -/
@[simp]
theorem steps_nil (builder : Builder) : builder.steps [] = .ok builder := rfl

/-- Passages are taken in one by one. -/
theorem steps_cons (builder : Builder) (passage : Passage) (passages : List Passage) :
    builder.steps (passage :: passages) =
      builder.step passage.token passage.raw >>= (steps · passages) := List.foldlM_cons

/-- Taking in two lists of passages is taking in the second one behind the first one. -/
theorem steps_append (builder : Builder) (first second : List Passage) :
    builder.steps (first ++ second) = builder.steps first >>= (steps · second) :=
  List.foldlM_append

end Builder

namespace Reader

/-- A run is a reading of passages, as far as lexemes can be told, from which the tree is made. -/
theorem run_eq_ok_iff {final : Bool} {builder : Builder} {mode : Mode} {text : List Char}
    {reader : Reader} :
    run final builder mode text = .ok reader ↔
      ∃ passages, Reads final mode text passages reader.mode reader.unread ∧
        Lexeme.next? final reader.mode reader.unread = .ok none ∧
        builder.steps passages = .ok reader.builder := by
  constructor
  · intro hrun
    fun_induction run final builder mode text with
    | case1 builder mode =>
      cases hrun
      exact ⟨[], .nil, by cases mode <;> rfl, rfl⟩
    | case2 => cases hrun
    | case3 builder mode c rest hnone =>
      cases hrun
      exact ⟨[], .nil, hnone, rfl⟩
    | case4 => cases hrun
    | case5 builder mode c rest lexeme hnext next hstep ih =>
      obtain ⟨passages, hreads, hnone, hsteps⟩ := ih hrun
      refine ⟨_, .cons lexeme hnext hreads, hnone, ?_⟩
      rw [Builder.steps_cons, hstep]
      exact hsteps
  · rintro ⟨passages, hreads, hnone, hsteps⟩
    obtain ⟨last, lastMode, rest⟩ := reader
    simp only at hreads hnone hsteps
    induction hreads generalizing builder with
    | @nil mode text =>
      cases hsteps
      cases text with
      | nil => rw [run]
      | cons c rest =>
        rw [run]
        split
        · rename_i error herror
          rw [hnone] at herror
          cases herror
        · rfl
        · rename_i lexeme hlexeme
          rw [hnone] at hlexeme
          cases hlexeme
    | @cons mode last text rest passages lexeme hnext _ ih =>
      rw [Builder.steps_cons, bind_eq_ok_iff] at hsteps
      obtain ⟨next, hstep, hsteps⟩ := hsteps
      cases text with
      | nil => cases mode <;> cases hnext
      | cons c rest =>
        rw [run]
        split
        · rename_i error herror
          rw [hnext] at herror
          cases herror
        · rename_i hstop
          rw [hnext] at hstop
          cases hstop
        · rename_i found hfound
          rw [hnext] at hfound
          cases hfound
          simp only [hstep]
          exact ih hnone hsteps

end Reader

deriving instance DecidableEq for Lexeme

namespace Lexeme

/-- A lexeme of some size has the token, the mode and the size that are given for it. -/
theorem ofSize?_eq_some {token : Token} {mode : Mode} {size : Option Nat} {lexeme : Lexeme}
    (hlexeme : ofSize? token mode size = some lexeme) :
    lexeme.token = token ∧ lexeme.mode = mode ∧ size = some lexeme.size := by
  unfold ofSize? at hlexeme
  split at hlexeme
  · split at hlexeme
    · cases hlexeme
      exact ⟨rfl, rfl, rfl⟩
    · cases hlexeme
  · cases hlexeme

/-- A lexeme of text is data, stays in markup and has the length of the run. -/
theorem ofText_eq_ok {text : List Char} {more : Nat} {lexeme : Lexeme}
    (hlexeme : ofText text more = .ok lexeme) :
    lexeme.token = .data ∧ lexeme.mode = .markup ∧ lexeme.size = more + 1 := by
  unfold ofText at hlexeme
  cases hdecode : decodeText (text.take (more + 1)) with
  | error cause =>
    rw [hdecode] at hlexeme
    cases hlexeme
  | ok decoded =>
    rw [hdecode] at hlexeme
    cases hlexeme
    exact ⟨rfl, rfl, rfl⟩

/-- A start tag that ends takes at least one character behind its opening. -/
private theorem tagSpan_size {text : List Char} {selfClosing : Bool}
    (hending : (tagSpan text).ending = .closed selfClosing) : 1 ≤ (tagSpan text).size := by
  revert hending
  unfold tagSpan
  simp only
  split
  · simp
  · simp
  · simp
  · intro hending
    split at hending <;> cases hending

/-- What begins like a start tag is one, longer than its bracket and its first letter, or text. -/
theorem startTag?_cases {text : List Char} {lexeme : Lexeme}
    (hlexeme : startTag? text = .ok (some lexeme)) :
    lexeme.token = .data ∨
      2 ≤ lexeme.size ∧ ∃ name selfClosing, lexeme.token = .startTag name selfClosing := by
  simp only [startTag?] at hlexeme
  split at hlexeme
  · cases hlexeme
  · rw [bind_eq_ok_iff] at hlexeme
    obtain ⟨values, _, hlexeme⟩ := hlexeme
    exact .inl (ofSize?_eq_some (Except.ok.inj hlexeme)).1
  · rename_i selfClosing hending
    rw [bind_eq_ok_iff] at hlexeme
    obtain ⟨values, _, hlexeme⟩ := hlexeme
    obtain ⟨htoken, _, hsize⟩ := ofSize?_eq_some (Except.ok.inj hlexeme)
    have hspan := tagSpan_size hending
    rw [Option.some.injEq] at hsize
    exact .inr ⟨by omega, _, _, htoken⟩

/-- A letter may stand in the name of a start tag. -/
theorem isTagNameChar_of_isAlpha {c : Char} (hletter : c.isAlpha = true) :
    isTagNameChar c = true := by
  have hother : ∀ d : Char, d.isAlpha = false → (c == d) = false :=
    fun d hd => beq_eq_false_iff_ne.2 (ne_of_isAlpha hletter hd)
  simp only [isTagNameChar, Bool.not_eq_true', Bool.or_eq_false_iff]
  exact ⟨⟨⟨⟨⟨⟨⟨hother _ rfl, hother _ rfl⟩, hother _ rfl⟩, hother _ rfl⟩, hother _ rfl⟩, hother _ rfl⟩,
    hother _ rfl⟩, hother _ rfl⟩

/-- A text begins with an end tag of a name: a well-formed one, or else one whose name is what
precedes the end of a name. -/
def IsEndTagAt (text name : List Char) : Prop :=
  (∃ size, endTag? text = some (name, size)) ∨
    endTag? text = none ∧ name = Unicode.toLower ((text.drop 2).takeWhile isTagNameChar)

/-- What begins with a bracket and a slash is an end tag, an empty one, or passed over. -/
theorem closing?_cases {text : List Char} {lexeme : Lexeme} (hlexeme : closing? text = some lexeme) :
    (∃ name, lexeme.token = .endTag name ∧ IsEndTagAt text name) ∨ lexeme.token = .aside ∨
      lexeme.token = .skipped ∧ lexeme.size = 3 ∧ ∃ behind, text.drop 2 = '>' :: behind := by
  simp only [closing?] at hlexeme
  split at hlexeme
  · rename_i hend
    exact .inl ⟨_, (ofSize?_eq_some hlexeme).1, .inl ⟨_, hend⟩⟩
  · rename_i hend
    split at hlexeme
    · cases hlexeme
    · rename_i behind hbehind
      obtain ⟨htoken, _, hsize⟩ := ofSize?_eq_some hlexeme
      exact .inr (.inr ⟨htoken, (Option.some.inj hsize).symm, behind, hbehind⟩)
    · rename_i c rest _ hinside
      split at hlexeme
      · exact .inr (.inl (ofSize?_eq_some hlexeme).1)
      · rename_i hletter
        have hchar : isTagNameChar c = true := isTagNameChar_of_isAlpha (by simpa using hletter)
        refine .inl ⟨_, (ofSize?_eq_some hlexeme).1, .inr ⟨hend, ?_⟩⟩
        rw [hinside, List.takeWhile_cons, if_pos hchar]

/-- What begins with a bracket, told apart by the character behind it. -/
theorem construct?_cases {rest : List Char} {lexeme : Lexeme}
    (hlexeme : construct? ('<' :: rest) = .ok (some lexeme)) :
    (∃ c behind, rest = c :: behind ∧ c.isAlpha = true ∧
        startTag? ('<' :: rest) = .ok (some lexeme)) ∨
      (∃ behind, rest = '/' :: behind ∧ closing? ('<' :: rest) = some lexeme) ∨
      lexeme.token = .aside ∨ lexeme.token = .data := by
  cases rest with
  | nil => cases hlexeme
  | cons c rest =>
    simp only [construct?, List.drop_succ_cons, List.drop_zero] at hlexeme
    split at hlexeme
    · rename_i hletter
      exact .inl ⟨c, rest, rfl, hletter, hlexeme⟩
    · split at hlexeme
      · rename_i hslash
        exact .inr (.inl ⟨rest, by rw [hslash], Except.ok.inj hlexeme⟩)
      · split at hlexeme
        · rw [bind_eq_ok_iff] at hlexeme
          obtain ⟨size, _, hlexeme⟩ := hlexeme
          exact .inr (.inr (.inl (ofSize?_eq_some (Except.ok.inj hlexeme)).1))
        · split at hlexeme
          · exact .inr (.inr (.inl (ofSize?_eq_some (Except.ok.inj hlexeme)).1))
          · exact .inr (.inr (.inr (ofSize?_eq_some (Except.ok.inj hlexeme)).1))

/-- What is read is text, the end tag of code, or a construct that begins with a bracket. -/
theorem next?_cases {final : Bool} {mode : Mode} {text : List Char} {lexeme : Lexeme}
    (hnext : next? final mode text = .ok (some lexeme)) :
    lexeme.token = .data ∨ (∃ name, lexeme.token = .endTag name ∧ IsEndTagAt text name) ∨
      ∃ rest, text = '<' :: rest ∧ construct? text = .ok (some lexeme) := by
  match mode, text with
  | .markup, [] | .rawText _, [] => cases hnext
  | .rawText opened, c :: rest =>
    simp only [next?, inRawText, Except.ok.injEq] at hnext
    split at hnext
    · cases hnext
    · split at hnext
      · rename_i hend
        exact .inr (.inl ⟨_, (ofSize?_eq_some hnext).1, .inl ⟨_, hend⟩⟩)
      · exact .inl (ofSize?_eq_some hnext).1
    · cases hnext
      exact .inl rfl
  | .markup, c :: rest =>
    simp only [next?, inMarkup] at hnext
    split at hnext
    · rename_i hopen
      rw [bind_eq_ok_iff] at hnext
      obtain ⟨found, hconstruct, hnext⟩ := hnext
      cases found with
      | some found =>
        cases hnext
        exact .inr (.inr ⟨rest, by rw [hopen], hconstruct⟩)
      | none =>
        simp only at hnext
        split at hnext
        · rw [bind_eq_ok_iff] at hnext
          obtain ⟨found, hfound, hsome⟩ := hnext
          cases hsome
          exact .inl (ofText_eq_ok hfound).1
        · cases hnext
    · split at hnext
      · cases hnext
      · rw [bind_eq_ok_iff] at hnext
        obtain ⟨found, hfound, hsome⟩ := hnext
        cases hsome
        exact .inl (ofText_eq_ok hfound).1

/-- A start tag begins with a bracket and a letter. -/
theorem next?_startTag {final : Bool} {mode : Mode} {text : List Char} {lexeme : Lexeme}
    (hnext : next? final mode text = .ok (some lexeme)) {name : List Char} {selfClosing : Bool}
    (htoken : lexeme.token = .startTag name selfClosing) :
    ∃ c behind, text.take lexeme.size = '<' :: c :: behind ∧ c.isAlpha = true := by
  obtain hdata | ⟨_, hend, _⟩ | ⟨rest, rfl, hconstruct⟩ := next?_cases hnext
  · simp [htoken] at hdata
  · simp [htoken] at hend
  · obtain ⟨c, behind, rfl, hletter, hstart⟩ | ⟨behind, _, hclosing⟩ | haside | hdata :=
      construct?_cases hconstruct
    · obtain hdata | ⟨hsize, _⟩ := startTag?_cases hstart
      · simp [htoken] at hdata
      · obtain ⟨size, hmore⟩ := Nat.exists_eq_add_of_le hsize
        exact ⟨c, behind.take size, by simp [hmore, Nat.add_comm 2], hletter⟩
    · obtain ⟨_, hend, _⟩ | haside | ⟨hskipped, _⟩ := closing?_cases hclosing <;> simp_all
    · simp [htoken] at haside
    · simp [htoken] at hdata

/-- Only an empty end tag is passed over without a trace. -/
theorem next?_skipped {final : Bool} {mode : Mode} {text : List Char} {lexeme : Lexeme}
    (hnext : next? final mode text = .ok (some lexeme)) (htoken : lexeme.token = .skipped) :
    text.take lexeme.size = ['<', '/', '>'] := by
  obtain hdata | ⟨_, hend, _⟩ | ⟨rest, rfl, hconstruct⟩ := next?_cases hnext
  · simp [htoken] at hdata
  · simp [htoken] at hend
  · obtain ⟨_, _, rfl, _, hstart⟩ | ⟨behind, rfl, hclosing⟩ | haside | hdata :=
      construct?_cases hconstruct
    · obtain hdata | ⟨_, _, _, hopen⟩ := startTag?_cases hstart <;> simp_all
    · obtain ⟨_, hend, _⟩ | haside | ⟨_, hsize, behind, hbracket⟩ := closing?_cases hclosing
      · simp [htoken] at hend
      · simp [htoken] at haside
      · rw [List.drop_succ_cons, List.drop_succ_cons, List.drop_zero] at hbracket
        simp [hsize, hbracket]
    · simp [htoken] at haside
    · simp [htoken] at hdata

end Lexeme

/-- What is known of a passage that has been read: it holds something, a start tag begins like one,
and only an empty end tag is passed over without a trace. -/
structure Passage.Sound (passage : Passage) : Prop where
  raw_ne_nil : passage.raw ≠ []
  startTag : ∀ name selfClosing, passage.token = .startTag name selfClosing →
    ∃ c rest, passage.raw = '<' :: c :: rest ∧ c.isAlpha = true
  skipped : passage.token = .skipped → passage.raw = ['<', '/', '>']

/-- Every passage of a reading has been read as a lexeme of its characters. -/
theorem Reads.sound {final : Bool} {mode last : Mode} {text rest : List Char}
    {passages : List Passage} (hreads : Reads final mode text passages last rest) :
    ∀ passage ∈ passages, passage.Sound := by
  intro passage hmem
  obtain ⟨mode, text, lexeme, hnext, rfl⟩ := hreads.exists_next? hmem
  refine ⟨?_, ?_, ?_⟩
  · have hsize := lexeme.size_pos
    have htext : text ≠ [] := by
      rintro rfl
      cases mode <;> cases hnext
    rw [ne_eq, List.take_eq_nil_iff, not_or]
    exact ⟨by omega, htext⟩
  · exact fun name selfClosing htoken => Lexeme.next?_startTag hnext htoken
  · exact fun htoken => Lexeme.next?_skipped hnext htoken

/-- A lexeme that can be told before the end of the source is known is the same at its end. -/
theorem next?_final {mode : Mode} {text : List Char} (found : Except MarkupError Lexeme)
    (hnext : Lexeme.next? false mode text = found.map some) :
    Lexeme.next? true mode text = found.map some := by
  match mode, text with
  | .markup, [] | .rawText _, [] => exact hnext
  | .rawText name, c :: rest => exact hnext
  | .markup, c :: rest =>
    simp only [Lexeme.next?, Lexeme.inMarkup] at hnext ⊢
    split at hnext
    · rename_i hopen
      rw [if_pos hopen]
      cases hconstruct : Lexeme.construct? (c :: rest) with
      | error error =>
        rw [hconstruct] at hnext
        exact hnext
      | ok lexeme =>
        rw [hconstruct] at hnext
        cases lexeme with
        | some lexeme => exact hnext
        | none => cases found <;> cases hnext
    · rename_i hopen
      rw [if_neg hopen]
      split at hnext
      · cases found <;> cases hnext
      · simpa using hnext

namespace Reader

/-- Reading on at the end of the source, from where an earlier run has stopped, is reading everything
there. -/
theorem run_final (builder : Builder) (mode : Mode) (text : List Char) :
    (run false builder mode text >>= fun reader =>
      run true reader.builder reader.mode reader.unread) = run true builder mode text := by
  fun_induction run false builder mode text with
  | case1 builder mode => rfl
  | case2 builder mode c rest error hnext =>
    rw [run, next?_final (.error error) hnext]
    rfl
  | case3 builder mode c rest hnone => rfl
  | case4 builder mode c rest lexeme hnext error hstep =>
    rw [run, next?_final (.ok lexeme) hnext]
    simp only [Except.map, hstep]
    rfl
  | case5 builder mode c rest lexeme hnext next hstep ih =>
    have hfinal : run true builder mode (c :: rest) =
        run true next lexeme.mode ((c :: rest).drop lexeme.size) := by
      rw [run, next?_final (.ok lexeme) hnext]
      simp only [Except.map, hstep]
    rw [ih, hfinal]

end Reader

/-- Reading markup takes one run, in which nothing is held back. -/
theorem parseTemplate_eq (source : List Char) :
    parseTemplate source = (do
      let reader ← Reader.run true .empty .markup source
      return (← reader.builder.flush).document) := by
  have hrun := Reader.run_final .empty .markup source
  rw [← hrun]
  simp only [parseTemplate, Reader.feed, Reader.finish, Reader.empty, List.nil_append, bind_assoc]

/-- A source is read in passages, up to code that is never closed, and the tree is what the passages
make of it. -/
theorem parseTemplate_eq_ok_iff {source : List Char} {document : Document} :
    parseTemplate source = .ok document ↔
      ∃ passages mode rest builder last, Reads true .markup source passages mode rest ∧
        Lexeme.next? true mode rest = .ok none ∧ Builder.empty.steps passages = .ok builder ∧
        builder.flush = .ok last ∧ last.document = document := by
  rw [parseTemplate_eq, bind_eq_ok_iff]
  constructor
  · rintro ⟨reader, hrun, hflush⟩
    rw [bind_eq_ok_iff] at hflush
    obtain ⟨last, hflush, hdocument⟩ := hflush
    obtain ⟨passages, hreads, hnone, hsteps⟩ := Reader.run_eq_ok_iff.1 hrun
    exact ⟨passages, _, _, _, last, hreads, hnone, hsteps, hflush, Except.ok.inj hdocument⟩
  · rintro ⟨passages, mode, rest, builder, last, hreads, hnone, hsteps, hflush, rfl⟩
    refine ⟨⟨builder, mode, rest⟩, Reader.run_eq_ok_iff.2 ⟨passages, hreads, hnone, hsteps⟩, ?_⟩
    rw [hflush]
    rfl

/-- What remains of a source is nothing or begins with a tag. -/
def AtTag (rest : List Char) : Prop := rest = [] ∨ ∃ behind, rest = '<' :: behind

/-- A run of text ends where a tag begins. -/
theorem takeWhile_atTag {text rest : List Char} (htext : '<' ∉ text) (hrest : AtTag rest) :
    (text ++ rest).takeWhile (· != '<') = text := by
  have hall : ∀ c ∈ text, (c != '<') = true := by
    intro c hc
    rw [bne_iff_ne]
    rintro rfl
    exact htext hc
  rw [List.takeWhile_append_of_pos hall]
  obtain rfl | ⟨behind, rfl⟩ := hrest
  · simp
  · simp

/-- Text up to the next tag is one lexeme. -/
theorem Lexeme.next?_text {text rest decoded : List Char} (hne : text ≠ []) (htext : '<' ∉ text)
    (hdecode : decodeText text = .ok decoded) (hrest : AtTag rest) :
    ∃ lexeme, next? true .markup (text ++ rest) = .ok (some lexeme) ∧ lexeme.token = .data ∧
      lexeme.mode = .markup ∧ lexeme.size = text.length := by
  obtain ⟨c, tail, rfl⟩ := List.exists_cons_of_ne_nil hne
  rw [List.mem_cons, not_or] at htext
  have hwhole : (c :: (tail ++ rest)).take (tail.length + 1) = c :: tail := by simp
  refine ⟨⟨.data, tail.length + 1, .markup, Nat.succ_pos _⟩, ?_, rfl, rfl, rfl⟩
  rw [List.cons_append, next?, inMarkup, if_neg (Ne.symm htext.1), Bool.not_true, Bool.and_false,
    if_neg Bool.false_ne_true, takeWhile_atTag htext.2 hrest, ofText, hwhole,
    hdecode]
  rfl

namespace Builder

/-- Reading a source, up to what remains, takes a builder to another one. -/
def Takes (builder : Builder) (source rest : List Char) (last : Builder) : Prop :=
  ∃ passages, Reads true .markup (source ++ rest) passages .markup rest ∧
    builder.steps passages = .ok last

/-- The empty source takes a builder to itself. -/
theorem Takes.refl (builder : Builder) (rest : List Char) : builder.Takes [] rest builder :=
  ⟨[], .nil, rfl⟩

/-- Two sources, one behind the other, take a builder where the second one takes it from where the first
one has. -/
theorem Takes.trans {builder middle last : Builder} {source more rest : List Char}
    (hfirst : builder.Takes source (more ++ rest) middle) (hmore : middle.Takes more rest last) :
    builder.Takes (source ++ more) rest last := by
  obtain ⟨passages, hreads, hsteps⟩ := hfirst
  obtain ⟨others, hothers, hlater⟩ := hmore
  refine ⟨passages ++ others, ?_, ?_⟩
  · rw [List.append_assoc]
    exact hreads.append hothers
  · rw [steps_append, hsteps]
    exact hlater

/-- Reading one lexeme is one step. -/
theorem Takes.of_step {builder last : Builder} {source rest : List Char} {lexeme : Lexeme}
    (hnext : Lexeme.next? true .markup (source ++ rest) = .ok (some lexeme))
    (hmode : lexeme.mode = .markup) (hsize : lexeme.size = source.length)
    (hstep : builder.step lexeme.token source = .ok last) : builder.Takes source rest last := by
  have hreads := Reads.of_next? hnext hsize
  rw [hmode] at hreads
  refine ⟨_, hreads, ?_⟩
  rw [steps_cons, hstep]
  rfl

end Builder

end BareStrings.Markup
