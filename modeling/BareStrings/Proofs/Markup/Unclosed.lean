import BareStrings.Proofs.Markup.Chunks
import BareStrings.Proofs.Markup.CodeBlock
import BareStrings.Proofs.Markup.Nesting

namespace BareStrings.Markup

open BareStrings.Text

/-- A character of a name in lower case after the first. -/
def isLowerNameChar (c : Char) : Bool :=
  c.isLower || c.isDigit || c == '-' || c == '.' || c == ':' || c == '_'

/-- A name in lower case that a well-formed end tag can have. -/
def isLowerName : List Char → Bool
  | [] => false
  | c :: rest => c.isLower && rest.all isLowerNameChar

/-- The end tags of some elements, one behind the other. -/
def endTagsOf (tags : List Tag) : List Char := tags.flatMap fun tag => endTagOf tag.name

@[simp]
theorem endTagsOf_cons (tag : Tag) (tags : List Tag) :
    endTagsOf (tag :: tags) = endTagOf tag.name ++ endTagsOf tags := rfl

private theorem isEndNameChar_of_isLowerNameChar {c : Char} (hchar : isLowerNameChar c = true) :
    Lexeme.isEndNameChar c = true := by
  have halpha := @isAlpha_of_isLower c
  simp only [isLowerNameChar, Lexeme.isEndNameChar, Char.isAlphanum, Bool.or_eq_true] at hchar ⊢
  tauto

private theorem toLower_of_isLowerNameChar {c : Char} (hchar : isLowerNameChar c = true) : c.toLower = c :=
  of_ascii (P := fun c => isLowerNameChar c = true → c.toLower = c)
    (by decide) (isEndNameChar_ascii (isEndNameChar_of_isLowerNameChar hchar)) hchar

section Names

variable {name : List Char} (hname : isLowerName name = true)

include hname

private theorem exists_of_isLowerName : ∃ c rest, name = c :: rest ∧ c.isAlpha = true := by
  cases name with
  | nil => cases hname
  | cons c rest =>
    simp only [isLowerName, Bool.and_eq_true] at hname
    exact ⟨c, rest, rfl, isAlpha_of_isLower hname.1⟩

/-- Every character of a name in small letters may stand in one. -/
private theorem chars_of_isLowerName : ∀ c ∈ name, isLowerNameChar c = true := by
  cases name with
  | nil => cases hname
  | cons c rest =>
    simp only [isLowerName, Bool.and_eq_true, List.all_eq_true] at hname
    intro d hd
    rcases List.mem_cons.1 hd with rfl | hrest
    · simp [isLowerNameChar, hname.1]
    · exact hname.2 d hrest

private theorem endNameChars_of_isLowerName : ∀ c ∈ name, Lexeme.isEndNameChar c = true :=
  fun c hc => isEndNameChar_of_isLowerNameChar (chars_of_isLowerName hname c hc)

private theorem isPlainName_of_isLowerName : IsPlainName name :=
  ⟨exists_of_isLowerName hname,
    fun c hc => isTagNameChar_of_isEndNameChar (endNameChars_of_isLowerName hname c hc),
    fun c hc => isBlank_of_isEndNameChar (endNameChars_of_isLowerName hname c hc)⟩

private theorem toLower_of_isLowerName : Unicode.toLower name = name := by
  rw [Unicode.toLower_ascii fun c hc => isEndNameChar_ascii (endNameChars_of_isLowerName hname c hc)]
  have hsame : ∀ c ∈ name, c.toLower = id c :=
    fun c hc => toLower_of_isLowerNameChar (chars_of_isLowerName hname c hc)
  rw [List.map_congr_left hsame, List.map_id]

private theorem null_not_mem_of_isLowerName : '\x00' ∉ name :=
  fun hmem => absurd (chars_of_isLowerName hname _ hmem) (by decide)

end Names

private theorem atTag_endTagsOf (tags : List Tag) : AtTag (endTagsOf tags) := by
  cases tags with
  | nil => exact .inl rfl
  | cons tag tags => exact .inr ⟨_, rfl⟩

/-- End tags for names in small letters hold no quote. -/
private theorem not_isQuote_endTagsOf {tags : List Tag} (hnames : ∀ tag ∈ tags, isLowerName tag.name = true) :
    ∀ c ∈ endTagsOf tags, ¬Lexeme.IsQuote c := by
  intro c hc hquote
  obtain ⟨tag, htag, hmem⟩ := List.mem_flatMap.1 hc
  simp only [endTagOf, List.cons_append, List.mem_cons, List.mem_append, List.not_mem_nil, or_false] at hmem
  obtain rfl | rfl | hname | rfl := hmem
  · exact absurd hquote (by decide)
  · exact absurd hquote (by decide)
  · have hchar := chars_of_isLowerName (hnames tag htag) c hname
    obtain rfl | rfl := hquote <;> exact absurd hchar (by decide)
  · exact absurd hquote (by decide)

private theorem Builder.openTags_beginText (builder : Builder) :
    builder.beginText.openTags = builder.openTags := by
  unfold beginText
  split <;> rfl

namespace Lexeme

/-- What is counted as an open quote is one. -/
private theorem isQuote_of_mem_openQuotes {previous : Char} {text : List Char} {quote : Char}
    (hopen : quote ∈ openQuotes previous text) : IsQuote quote := by
  fun_induction openQuotes previous text with
  | case1 => cases hopen
  | case2 => cases hopen
  | case3 previous c rest span hspan ih =>
    rcases List.mem_append.1 hopen with hfirst | hlater
    · rw [Option.mem_toList, openQuote?] at hfirst
      split at hfirst
      · cases hfirst
      · split at hfirst
        · rename_i hquote
          cases hfirst
          exact hquote.1
        · cases hfirst
    · exact ih hlater

section Follow

variable {more : List Char} (hquotes : ∀ c ∈ more, ¬IsQuote c)

include hquotes

/-- What holds no quotes closes none. -/
theorem cutsQuote_of_not_isQuote (text : List Char) : cutsQuote more text = false := by
  unfold cutsQuote
  split
  · rw [Bool.and_eq_false_iff, List.any_eq_false]
    refine .inr fun quote hopen hmem => ?_
    exact hquotes quote (List.contains_iff_mem.1 hmem) (isQuote_of_mem_openQuotes hopen)
  · rfl

/-- What can be told before the end of a source is the same before a tag without quotes. -/
theorem next?_append_atTag (htag : AtTag more) {mode : Mode} {text : List Char} {lexeme : Lexeme}
    (hmode : mode.BracketFree) (hnext : next? false mode text = .ok (some lexeme)) :
    lexeme.size ≤ text.length ∧ next? true mode (text ++ more) = .ok (some lexeme) := by
  obtain hsame | ⟨rfl, htext, _, _, hsize⟩ :=
    next?_append hmode (fun _ => cutsQuote_of_not_isQuote hquotes text) hnext
  · exact hsame
  · refine ⟨Nat.le_of_eq hsize, ?_⟩
    cases text with
    | nil => cases hnext
    | cons c rest =>
      rw [List.mem_cons, not_or] at htext
      have hfinal := next?_final (.ok lexeme) hnext
      have hrest : rest.takeWhile (· != '<') = rest := by
        simpa using takeWhile_atTag htext.2 (.inl rfl)
      rw [next?_markup_text (Ne.symm htext.1), Bool.not_true, Bool.and_false,
        if_neg Bool.false_ne_true, hrest] at hfinal
      rw [List.cons_append, next?_markup_text (Ne.symm htext.1), Bool.not_true, Bool.and_false,
        if_neg Bool.false_ne_true, takeWhile_atTag htext.2 htag]
      have htake : (c :: (rest ++ more)).take (rest.length + 1) = (c :: rest).take (rest.length + 1) := by
        simp
      rw [ofText, htake]
      exact hfinal

end Follow

end Lexeme

namespace Reader

/-- A run over a source that a tag without quotes follows stops where the run over the source does, and goes
on with what follows. -/
theorem run_append_atTag {more : List Char} (hquotes : ∀ c ∈ more, ¬Lexeme.IsQuote c) (htag : AtTag more)
    {builder : Builder} {mode : Mode} {text : List Char} {reader : Reader} (hmode : mode.BracketFree)
    (hrun : run false builder mode text = .ok reader) :
    run true builder mode (text ++ more) = run true reader.builder reader.mode (reader.unread ++ more) := by
  fun_induction run false builder mode text with
  | case1 =>
    cases hrun
    rfl
  | case2 => cases hrun
  | case3 =>
    cases hrun
    rfl
  | case4 => cases hrun
  | case5 builder mode c rest lexeme hnext next hstep ih =>
    obtain ⟨hsize, hmore⟩ := Lexeme.next?_append_atTag hquotes htag hmode hnext
    rw [run_of_next? hmore, List.take_append_of_le_length hsize, hstep, List.drop_append_of_le_length hsize]
    exact ih (Lexeme.bracketFree_of_next? hmode hnext) hrun

/-- Text at the end of a source is read in the same way before a tag. -/
theorem exists_run_text {builder : Builder} {text : List Char} {last : Reader} (htext : '<' ∉ text)
    (hrun : run true builder .markup text = .ok last) :
    last.builder.openTags = builder.openTags ∧
      ∀ rest, AtTag rest → ∀ after, run true last.builder .markup rest = .ok after →
        run true builder .markup (text ++ rest) = .ok after := by
  by_cases hempty : text = []
  · subst hempty
    rw [run] at hrun
    cases hrun
    exact ⟨rfl, fun _ _ _ hafter => hafter⟩
  · rw [← List.append_nil text] at hrun
    obtain ⟨hclean, hlast⟩ := (run_atTag hempty htext (.inl rfl)).1 hrun
    rw [run] at hlast
    cases hlast
    refine ⟨?_, fun rest hrest after hafter => (run_atTag hempty htext hrest).2 ⟨hclean, hafter⟩⟩
    change builder.beginText.openTags = builder.openTags
    exact Builder.openTags_beginText builder

end Reader

private theorem lowerCode_of_isBlank {c : Char} (hblank : isBlank c = true) :
    Unicode.lowerCode c.toNat = c.toNat := by
  have hblanks : ∀ code ∈ Lexeme.blankCodes, Unicode.lowerCode code = code := by decide
  exact hblanks c.toNat (Lexeme.mem_blankCodes hblank)

/-- A start tag under whose name code follows makes an element of the same name, unless a null follows the
name of the tag: then the null is part of the name of the element. -/
theorem Passage.name_of_code {passage : Passage} {position : Position} {tag : Tag}
    (hopen : ∃ c rest, passage.raw = '<' :: c :: rest ∧ c.isAlpha = true)
    (hparse : Tag.parse passage.raw position = .ok tag)
    (hcode : Unicode.toLower passage.spelledName ∈ rawTextNames) :
    tag.name = Unicode.toLower passage.spelledName ∨ '\x00' ∈ tag.name := by
  have hblank : ∀ c ∈ passage.spelledName, isBlank c = false := by
    intro c hc
    rw [← Bool.not_eq_true]
    intro hblank
    have hsigma : c ≠ 'Σ' := by
      rintro rfl
      exact absurd hblank (by decide)
    have hdotted : c ≠ 'İ' := by
      rintro rfl
      exact absurd hblank (by decide)
    have hmem := Unicode.mem_toLower hsigma hdotted (lowerCode_of_isBlank hblank) hc
    have hletter := Lexeme.of_letter (p := fun letter => !isBlank letter) (by decide) hcode hmem
    rw [hblank] at hletter
    cases hletter
  by_cases hnull : passage.behindName.head? = some '\x00'
  · obtain ⟨behind, hbehind⟩ := List.head?_eq_some_iff.1 hnull
    have hsplit : passage.raw.drop 1 = passage.spelledName ++ '\x00' :: behind := by
      rw [← hbehind]
      exact List.takeWhile_append_dropWhile.symm
    have hchars : ∀ c ∈ passage.spelledName, StartTag.isNameChar c = true :=
      fun c hc => isNameChar_of_isTagNameChar (List.mem_takeWhile_imp hc) (hblank c hc)
    have hnullChar : StartTag.isNameChar '\x00' = true := by decide
    refine .inr (Unicode.mem_toLower (by decide) (by decide) (by decide) ?_)
    rw [Tag.rawName_of_parse hopen hparse, hsplit, List.takeWhile_append_of_pos hchars,
      List.takeWhile_cons, if_pos hnullChar]
    simp
  · exact .inl ((passage.toLower_spelledName_eq_iff hopen hparse).2 ⟨hblank, hnull⟩).symm

namespace Reader

/-- In code, the innermost open element is the one of the start tag before the code. -/
def CodeOpen (reader : Reader) : Prop :=
  ∀ name, reader.mode = .rawText name →
    name ∈ rawTextNames ∧
      ∃ tag outer, reader.builder.openTags = tag :: outer ∧ (tag.name = name ∨ '\x00' ∈ tag.name)

/-- The start tag of code leaves its element open. -/
theorem codeOpen_startTag {final : Bool} {mode : Mode} {text : List Char} {lexeme : Lexeme}
    (hnext : Lexeme.next? final mode text = .ok (some lexeme)) {name : List Char}
    (hname : name ∈ rawTextNames) (htoken : lexeme.token = .startTag name false) {builder next : Builder}
    (hstep : builder.step lexeme.token (text.take lexeme.size) = .ok next) :
    ∃ tag outer, next.openTags = tag :: outer ∧ (tag.name = name ∨ '\x00' ∈ tag.name) := by
  have hreads : Reads final mode text [⟨lexeme.token, text.take lexeme.size⟩] lexeme.mode
      (text.drop lexeme.size) := .cons lexeme hnext .nil
  have hspelled := hreads.startTag_name List.mem_cons_self htoken
  have hopen := (hreads.sound _ List.mem_cons_self).startTag name false htoken
  rw [hspelled] at hname
  rw [htoken] at hstep
  obtain ⟨hdata, _⟩ | ⟨hskipped, _⟩ | ⟨flushed, hflush, hnext⟩ := Builder.step_cases hstep
  · cases hdata
  · cases hskipped
  · obtain ⟨_, _, tag, hstart, hparse, rfl⟩ | ⟨_, hend, _⟩ | ⟨haside, _⟩ := hnext
    · cases hstart
      have htag : tag.name = name ∨ '\x00' ∈ tag.name := by
        rw [hspelled]
        exact Passage.name_of_code hopen hparse hname
      have hnotVoid : tag.isVoid = false := by
        have hdisjoint : ∀ kind ∈ voidNames, kind ∉ rawTextNames ∧ '\x00' ∉ kind := by decide
        rw [Tag.isVoid, ← Bool.not_eq_true, List.contains_iff_mem]
        intro hvoid
        obtain hsame | hnull := htag
        · rw [hsame, hspelled] at hvoid
          exact (hdisjoint _ hvoid).1 hname
        · exact (hdisjoint _ hvoid).2 hnull
      refine ⟨tag, flushed.openTags, ?_, htag⟩
      simp [Builder.openTags, Builder.addTag, Builder.pass, hnotVoid]
    · cases hend
    · cases haside

/-- In code, a step leaves the element of the code the innermost open one. -/
private theorem Step.codeOpen {reader next : Reader} (hstep : Step reader next) (hopen : reader.CodeOpen) :
    next.CodeOpen := by
  cases hstep with
  | chunk => exact hopen
  | @lexeme _ _ lexeme _ hnext hstep =>
    intro name hcode
    obtain ⟨hmode, hdata⟩ | ⟨hname, hstart⟩ := Lexeme.rawText_of_next? hnext hcode
    · obtain ⟨hname, tag, outer, htags, htag⟩ := hopen name hmode
      rw [hdata, Builder.step_data] at hstep
      cases hstep
      exact ⟨hname, tag, outer, (Builder.openTags_beginText _).trans htags, htag⟩
    · exact ⟨hname, codeOpen_startTag hnext hname hstart hstep⟩
  | last hflush =>
    intro name hcode
    rw [Builder.openTags_flush hflush]
    exact hopen name hcode

private theorem ComesTo.codeOpen {reader later : Reader} (hcomes : reader.ComesTo later)
    (hopen : reader.CodeOpen) : later.CodeOpen := by
  induction hcomes with
  | refl => exact hopen
  | tail _ hstep ih => exact hstep.codeOpen ih

end Reader

namespace Builder

private theorem flush_of_none {builder : Builder} (hnone : builder.pending = none) :
    builder.flush = .ok builder := by
  unfold flush
  rw [hnone]
  rfl

private theorem inCode_of_openTags {builder : Builder} {tag : Tag} {outer : List Tag}
    (hopen : builder.openTags = tag :: outer) : builder.inCode = tag.isRawText := by
  unfold openTags at hopen
  unfold inCode
  cases hstack : builder.openElements with
  | nil => simp [hstack] at hopen
  | cons element elements =>
    rw [hstack, List.map_cons, List.cons.injEq] at hopen
    simp [hopen.1]

/-- The end tag of the innermost open element closes it and leaves the tree as it is. -/
theorem exists_step_endTag {builder flushed : Builder} {tag : Tag} {outer : List Tag}
    (hopen : builder.openTags = tag :: outer) (hflush : builder.flush = .ok flushed) (raw : List Char) :
    ∃ next, builder.step (.endTag tag.name) raw = .ok next ∧ next.openTags = outer ∧
      next.flush = .ok next ∧ next.document = flushed.document := by
  have hstep : builder.step (.endTag tag.name) raw = .ok ((flushed.close tag.name).pass raw) := by
    simp only [step, accept, hflush]
    rfl
  have hinner : ∀ later ∈ ([] : List Tag), later.name ≠ tag.name := by simp
  have hnext : ((flushed.close tag.name).pass raw).openTags = outer :=
    openTags_step_endTag (by rw [hopen, List.nil_append]) hinner hstep
  have hnone : ((flushed.close tag.name).pass raw).pending = none := by
    have hclosed := (pending_close flushed tag.name).trans (pending_flush hflush)
    simp [pass, hclosed]
  exact ⟨_, hstep, hnext, flush_of_none hnone, (flushed.closedBy_close tag.name).document_eq⟩

/-- The end tags of all open elements, innermost first, close them one after another. -/
theorem exists_takes_endTags {tags : List Tag} (hnames : ∀ tag ∈ tags, isLowerName tag.name = true)
    {builder flushed : Builder} (hopen : builder.openTags = tags) (hflush : builder.flush = .ok flushed) :
    ∃ last closed, builder.Takes (endTagsOf tags) [] last ∧ last.flush = .ok closed ∧
      closed.document = flushed.document := by
  induction tags generalizing builder flushed with
  | nil => exact ⟨builder, flushed, .refl builder [], hflush, rfl⟩
  | cons tag outer ih =>
    have hname := hnames tag List.mem_cons_self
    obtain ⟨next, hstep, hnext, hnextFlush, hdocument⟩ :=
      exists_step_endTag hopen hflush (endTagOf tag.name)
    obtain ⟨last, closed, htakes, hlast, hclosed⟩ :=
      ih (fun later hlater => hnames later (List.mem_cons_of_mem _ hlater)) hnext hnextFlush
    obtain ⟨lexeme, hlexeme, htoken, hmode, hsize⟩ :=
      Lexeme.next?_endTagOf (isPlainName_of_isLowerName hname) (endTagsOf outer)
    rw [toLower_of_isLowerName hname] at htoken
    have hfirst : builder.Takes (endTagOf tag.name) (endTagsOf outer) next :=
      .of_step hlexeme hmode hsize (by rw [htoken, hstep])
    refine ⟨last, closed, ?_, hlast, hclosed.trans hdocument⟩
    rw [endTagsOf_cons]
    exact Takes.trans (by rwa [List.append_nil]) htakes

/-- A run over all of a source that is taken in ends there. -/
theorem Takes.run_eq {builder last : Builder} {source : List Char} (htakes : builder.Takes source [] last) :
    Reader.run true builder .markup source = .ok ⟨last, .markup, []⟩ := by
  obtain ⟨passages, hreads, hsteps⟩ := htakes
  rw [List.append_nil] at hreads
  exact Reader.run_eq_ok_iff.2 ⟨passages, hreads, rfl, hsteps⟩

end Builder

namespace Lexeme

private theorem isCodeEnd_endTagOf {name : List Char} (hname : name ∈ rawTextNames) :
    IsCodeEnd name (endTagOf name) := by
  have hlower : ∀ kind ∈ rawTextNames, kind.map Char.toLower = kind := by decide
  exact ⟨name, hlower name hname, [], [], by simp, by simp, by simp [endTagOf]⟩

/-- Without a bracket, the end of code is not found. -/
theorem next?_rawText_eq_none {name text : List Char} (htext : '<' ∉ text) (final : Bool) :
    next? final (.rawText name) text = .ok none := by
  have hsize : rawTextSize? name text = none := by
    induction text with
    | nil => rfl
    | cons c rest ih =>
      rw [List.mem_cons, not_or] at htext
      have hnot : closesRawText name (c :: rest) = false := by
        unfold closesRawText
        split
        · rename_i heq
          cases heq
          exact absurd rfl htext.1
        · rfl
      rw [rawTextSize?, hnot, ih htext.2]
      rfl
  cases text with
  | nil => rfl
  | cons c rest =>
    rw [next?, inRawText, hsize]
    exact List.cons_ne_nil c rest

end Lexeme

namespace Reader

private theorem run_of_none {final : Bool} {mode : Mode} {text : List Char}
    (hnone : Lexeme.next? final mode text = .ok none) (builder : Builder) :
    run final builder mode text = .ok ⟨builder, mode, text⟩ :=
  run_eq_ok_iff.2 ⟨[], .nil, hnone, rfl⟩

/-- The rest of code without a bracket, and the end tags of the open elements behind it, leave the tree as it
is. -/
theorem exists_run_code {builder : Builder} {tag : Tag} {outer : List Tag} {unread : List Char}
    (hopen : builder.openTags = tag :: outer) (hname : tag.name ∈ rawTextNames)
    (hnone : builder.pending = none) (hunread : '<' ∉ unread)
    (hnames : ∀ later ∈ outer, isLowerName later.name = true) :
    ∃ after closed,
      run true builder (.rawText tag.name) (unread ++ endTagsOf (tag :: outer)) = .ok after ∧
        after.builder.flush = .ok closed ∧ closed.document = builder.document := by
  have hfree : ∀ ending, ending <:+: unread → ¬IsCodeEnd tag.name ending := by
    intro ending hinside hend
    obtain ⟨more, rfl⟩ := hend.exists_cons
    exact hunread (hinside.subset List.mem_cons_self)
  have hend := Lexeme.isCodeEnd_endTagOf hname
  obtain ⟨data, hbody, hdata⟩ := Lexeme.reads_body hname hend hfree (endTagsOf outer)
  obtain ⟨lexeme, hlexeme, htoken, hmode, hsize⟩ := Lexeme.next?_ending hname hend (endTagsOf outer)
  have hcode : builder.inCode = true := by
    rw [Builder.inCode_of_openTags hopen, Tag.isRawText, List.contains_iff_mem]
    exact hname
  have hraw : Passage.rawOf data = unread := (List.append_cancel_right hbody.text_eq).symm
  have hinside : builder.steps data = .ok (builder.pass unread) := by
    rw [Builder.steps_data hcode hnone hdata, hraw, Builder.pass_eq_grow hnone]
  have hpassOpen : (builder.pass unread).openTags = tag :: outer := hopen
  have hpassNone : (builder.pass unread).pending = none := by simp [Builder.pass, hnone]
  obtain ⟨next, hstep, hnext, hnextFlush, hdocument⟩ :=
    Builder.exists_step_endTag hpassOpen (Builder.flush_of_none hpassNone) (endTagOf tag.name)
  obtain ⟨after, closed, ⟨others, hothers, hlater⟩, hafter, hclosed⟩ :=
    Builder.exists_takes_endTags hnames hnext hnextFlush
  have hending := Reads.of_next? hlexeme hsize
  rw [hmode] at hending
  rw [List.append_nil] at hothers
  refine ⟨⟨after, .markup, []⟩, closed, run_eq_ok_iff.2
    ⟨data ++ ([⟨lexeme.token, endTagOf tag.name⟩] ++ others), ?_, rfl, ?_⟩, hafter,
    hclosed.trans hdocument⟩
  · exact hbody.append (hending.append hothers)
  · simp only [Builder.steps_append, Builder.steps_cons, Builder.steps_nil, hinside, htoken, hstep, bind,
      Except.bind]
    exact hlater

/-- What is left of a source without a bracket, and the end tags of the open elements behind it, are read so
that the tree is the same as without the end tags. -/
theorem exists_run_endTags {reader last : Reader} {flushed : Builder} (hsound : reader.builder.Sound)
    (hcode : reader.CodeOpen) (hunread : '<' ∉ reader.unread)
    (hnames : ∀ tag ∈ reader.builder.openTags, isLowerName tag.name = true)
    (hrun : run true reader.builder reader.mode reader.unread = .ok last)
    (hflush : last.builder.flush = .ok flushed) :
    ∃ after closed,
      run true reader.builder reader.mode (reader.unread ++ endTagsOf reader.builder.openTags) = .ok after ∧
        after.builder.flush = .ok closed ∧ closed.document = flushed.document := by
  cases hmode : reader.mode with
  | markup =>
    rw [hmode] at hrun
    obtain ⟨htags, hbefore⟩ := exists_run_text hunread hrun
    obtain ⟨after, closed, htakes, hafter, hclosed⟩ := Builder.exists_takes_endTags hnames htags hflush
    exact ⟨_, closed, hbefore _ (atTag_endTagsOf _) _ htakes.run_eq, hafter, hclosed⟩
  | rawText name =>
    obtain ⟨hname, tag, outer, hopen, htag⟩ := hcode name hmode
    rw [hopen] at hnames ⊢
    obtain rfl : tag.name = name :=
      htag.resolve_right (null_not_mem_of_isLowerName (hnames tag List.mem_cons_self))
    have hraw : tag.isRawText = true := List.contains_iff_mem.2 hname
    have hnone := hsound.code ((Builder.inCode_of_openTags hopen).trans hraw)
    -- Without its end tag the code is never read, and no text is unfinished there.
    rw [hmode, run_of_none (Lexeme.next?_rawText_eq_none hunread true)] at hrun
    cases hrun
    obtain rfl := Except.ok.inj ((Builder.flush_of_none hnone).symm.trans hflush)
    exact exists_run_code hopen hname hnone hunread
      fun later hlater => hnames later (List.mem_cons_of_mem _ hlater)

end Reader

/-- Whatever is still open at the end of a source is closed there as its end tags would close it: the tree of
the source is the tree of the source with the end tags of all open elements behind it, innermost first,
unless an unfinished tag or comment at the end would take them in. -/
theorem parseTemplate_append_endTags {source : List Char} {document : Document}
    (hparse : parseTemplate source = .ok document) :
    ∃ reader, Reader.empty.feed source = .ok reader ∧
      ('<' ∉ reader.unread → (∀ tag ∈ reader.builder.openTags, isLowerName tag.name = true) →
        parseTemplate (source ++ endTagsOf reader.builder.openTags) = .ok document) := by
  rw [parseTemplate, bind_eq_ok_iff] at hparse
  obtain ⟨reader, hfeed, hparse⟩ := hparse
  obtain ⟨flushed, hfinish, hdocument⟩ := bind_eq_ok_iff.1 hparse
  rw [Reader.finish, bind_eq_ok_iff] at hfinish
  obtain ⟨last, hlast, hflush⟩ := hfinish
  refine ⟨reader, hfeed, fun hunread hnames => ?_⟩
  have hcomes := Reader.comesTo_feed hfeed
  have hempty : Reader.empty.CodeOpen := by simp [Reader.CodeOpen, Reader.empty]
  obtain ⟨after, closed, hafter, hclosed, heq⟩ := Reader.exists_run_endTags (hcomes.sound .empty)
    (hcomes.codeOpen hempty) hunread hnames hlast hflush
  have hmarkup : Mode.markup.BracketFree := trivial
  have hrun : Reader.run false .empty .markup source = .ok reader := hfeed
  have hwhole := Reader.run_append_atTag (not_isQuote_endTagsOf hnames) (atTag_endTagsOf _) hmarkup hrun
  rw [parseTemplate_eq, hwhole, hafter, ← hdocument]
  simp only [bind, Except.bind, hclosed, heq]

/-- A text that ends inside a character reference, and a script that ends inside one. -/
theorem parseTemplate_append_endTags_cut :
    let cuts := [("<ul><li>a<p>b &am".toList, "</p></li></ul>".toList),
      ("<div>\x7b\x7b c<script>d &am".toList, "</script></div>".toList)]
    ∀ cut ∈ cuts, ∃ document reader, parseTemplate cut.1 = .ok document ∧
      Reader.empty.feed cut.1 = .ok reader ∧ '<' ∉ reader.unread ∧
      (∀ tag ∈ reader.builder.openTags, isLowerName tag.name = true) ∧
      endTagsOf reader.builder.openTags = cut.2 ∧ parseTemplate (cut.1 ++ cut.2) = .ok document := by
  intro cuts cut hcut
  have hread : ∀ cut ∈ cuts, (do
      let _ ← parseTemplate cut.1
      let reader ← Reader.empty.feed cut.1
      return (reader.unread.contains '<', reader.builder.openTags.all (isLowerName ·.name),
        endTagsOf reader.builder.openTags) : Except MarkupError _) = .ok (false, true, cut.2) := by
    decide +kernel
  obtain ⟨document, hparse, hfed⟩ := bind_eq_ok_iff.1 (hread cut hcut)
  obtain ⟨reader, hfeed, hends⟩ := parseTemplate_append_endTags hparse
  rw [hfeed] at hfed
  obtain ⟨hunread, hfacts⟩ := Prod.mk.inj (Except.ok.inj hfed)
  obtain ⟨hnames, hendTags⟩ := Prod.mk.inj hfacts
  have hopen : '<' ∉ reader.unread := by simpa using hunread
  have hlower : ∀ tag ∈ reader.builder.openTags, isLowerName tag.name = true := List.all_eq_true.1 hnames
  have hsame := hends hopen hlower
  rw [hendTags] at hsame
  exact ⟨document, reader, hparse, hfeed, hopen, hlower, hendTags, hsame⟩

end BareStrings.Markup
