import BareStrings.Proofs.Markup.EndTag
import BareStrings.Proofs.Markup.Place

namespace BareStrings.Markup

open BareStrings.Text

/-- The name of a start tag in its own spelling, as the lexer reads it. -/
def Passage.spelledName (passage : Passage) : List Char :=
  (passage.raw.drop 1).takeWhile Lexeme.isTagNameChar

/-- What stands behind that name. -/
def Passage.behindName (passage : Passage) : List Char :=
  (passage.raw.drop 1).dropWhile Lexeme.isTagNameChar

namespace Lexeme

private theorem name_tagSpan (text : List Char) : (tagSpan text).name = text.takeWhile isTagNameChar := by
  unfold tagSpan
  simp only
  split <;> rfl

private theorem length_name_le_size (text : List Char) :
    (text.takeWhile isTagNameChar).length ≤ (tagSpan text).size := by
  unfold tagSpan
  simp only
  split <;> simp only <;> omega

/-- A start tag's name is all that precedes the end of its name, in lower case. -/
theorem startTag?_startTag {text : List Char} {lexeme : Lexeme}
    (hlexeme : startTag? text = .ok (some lexeme)) {name : List Char} {selfClosing : Bool}
    (htoken : lexeme.token = .startTag name selfClosing) :
    name = Unicode.toLower ((text.drop 1).takeWhile isTagNameChar) ∧
      ((text.drop 1).takeWhile isTagNameChar).length < lexeme.size := by
  simp only [startTag?] at hlexeme
  split at hlexeme
  · cases hlexeme
  · rw [bind_eq_ok_iff] at hlexeme
    obtain ⟨values, _, hlexeme⟩ := hlexeme
    have hdata := (ofSize?_eq_some (Except.ok.inj hlexeme)).1
    rw [htoken] at hdata
    cases hdata
  · rw [bind_eq_ok_iff] at hlexeme
    obtain ⟨values, _, hlexeme⟩ := hlexeme
    obtain ⟨hstart, _, hsize⟩ := ofSize?_eq_some (Except.ok.inj hlexeme)
    have hlength := length_name_le_size (text.drop 1)
    rw [htoken, Token.startTag.injEq, name_tagSpan] at hstart
    rw [Option.some.injEq] at hsize
    exact ⟨hstart.1, by omega⟩

/-- The lexeme of a start tag is what is read as one. -/
theorem next?_eq_startTag? {final : Bool} {mode : Mode} {text : List Char} {lexeme : Lexeme}
    (hnext : next? final mode text = .ok (some lexeme)) {name : List Char} {selfClosing : Bool}
    (htoken : lexeme.token = .startTag name selfClosing) :
    startTag? text = .ok (some lexeme) := by
  obtain hdata | ⟨_, hend, _⟩ | ⟨rest, rfl, hconstruct⟩ := next?_cases hnext
  · simp [htoken] at hdata
  · simp [htoken] at hend
  · obtain ⟨_, _, _, _, hstart⟩ | ⟨_, _, hclosing⟩ | haside | hdata := construct?_cases hconstruct
    · exact hstart
    · obtain ⟨_, hend, _⟩ | haside | ⟨hskipped, _⟩ := closing?_cases hclosing <;> simp_all
    · simp [htoken] at haside
    · simp [htoken] at hdata

end Lexeme

/-- The lexer's name of a start tag is the spelled one in lower case. -/
theorem Reads.startTag_name {final : Bool} {mode last : Mode} {text rest : List Char}
    {passages : List Passage} (hreads : Reads final mode text passages last rest)
    {passage : Passage} (hmem : passage ∈ passages) {name : List Char} {selfClosing : Bool}
    (htoken : passage.token = .startTag name selfClosing) :
    name = Unicode.toLower passage.spelledName := by
  obtain ⟨_, text, lexeme, hnext, rfl⟩ := hreads.exists_next? hmem
  obtain ⟨hname, hlength⟩ :=
    Lexeme.startTag?_startTag (Lexeme.next?_eq_startTag? hnext htoken) htoken
  obtain ⟨size, hsize⟩ := Nat.exists_eq_add_of_le' lexeme.size_pos
  have hinside : (text.take lexeme.size).drop 1 = (text.drop 1).take size := by
    rw [List.drop_take, hsize, Nat.add_sub_cancel]
  rw [hname, Passage.spelledName, hinside, ← List.take_takeWhile, List.take_of_length_le]
  omega

/-- A tag's own name ends at the first blank, slash or closing bracket. -/
theorem Tag.rawName_of_parse {raw : List Char} {position : Position} {tag : Tag}
    (hopen : ∃ c rest, raw = '<' :: c :: rest ∧ c.isAlpha = true)
    (hparse : Tag.parse raw position = .ok tag) :
    tag.rawName = (raw.drop 1).takeWhile StartTag.isNameChar := by
  obtain ⟨c, rest, rfl, hletter⟩ := hopen
  obtain ⟨name, behind, hsplit, hname, _⟩ := splitName_append hletter rest
  rw [Tag.parse, bind_eq_ok_iff] at hparse
  obtain ⟨_, _, htag⟩ := hparse
  cases htag
  simp only [Tag.splitName] at hsplit ⊢
  split
  · rename_i hempty
    rw [if_pos hempty] at hsplit
    cases hsplit
    exact absurd rfl hname
  · rfl

private theorem isNameChar_of_not_isTagNameChar {c : Char} (hchar : Lexeme.isTagNameChar c = false)
    (hzero : c ≠ '\x00') : StartTag.isNameChar c = false := by
  simp only [Lexeme.isTagNameChar, Bool.not_eq_false', Bool.or_eq_true, beq_iff_eq] at hchar
  rcases hchar with ((((((rfl | rfl) | rfl) | rfl) | rfl) | rfl) | rfl) | rfl
  all_goals first | exact absurd rfl hzero | decide

/-- Two readings of the front of a text end at the same place exactly if what the first takes in ends
not the second and what ends the first ends the second too. -/
theorem takeWhile_eq_iff {p q : Char → Bool} (text : List Char) :
    text.takeWhile p = text.takeWhile q ↔
      (∀ c ∈ text.takeWhile p, q c = true) ∧ (text.dropWhile p).head?.all (fun c => !q c) = true := by
  induction text with
  | nil => simp
  | cons c rest ih =>
    cases hp : p c <;> cases hq : q c <;> simp [hp, hq, ih]

/-- The two readings of a tag's name agree exactly if it holds no blank and no null character follows it. -/
private theorem Passage.spelledName_eq_iff (passage : Passage) :
    passage.spelledName = (passage.raw.drop 1).takeWhile StartTag.isNameChar ↔
      (∀ c ∈ passage.spelledName, isBlank c = false) ∧ passage.behindName.head? ≠ some '\x00' := by
  rw [spelledName, takeWhile_eq_iff]
  apply and_congr
  · constructor
    · intro hname c hc
      have hchar := hname c hc
      simp only [StartTag.isNameChar, Bool.and_eq_true, Bool.not_eq_true'] at hchar
      exact hchar.1.1
    · exact fun hblank c hc =>
        isNameChar_of_isTagNameChar (List.mem_takeWhile_imp hc) (hblank c hc)
  · rw [behindName]
    cases hbehind : (passage.raw.drop 1).dropWhile Lexeme.isTagNameChar with
    | nil => simp
    | cons c rest =>
      have hne : (passage.raw.drop 1).dropWhile Lexeme.isTagNameChar ≠ [] := by
        rw [hbehind]
        exact List.cons_ne_nil c rest
      have hend := List.head_dropWhile_not Lexeme.isTagNameChar hne
      simp only [hbehind, List.head_cons] at hend
      simp only [List.head?_cons, Option.all_some, Bool.not_eq_true', ne_eq, Option.some.injEq]
      constructor
      · rintro hname rfl
        exact absurd hname (by decide)
      · exact isNameChar_of_not_isTagNameChar hend

/-- The two names of a start tag are the same exactly if the spelled one holds no blank and no null
stands behind it. -/
theorem Passage.toLower_spelledName_eq_iff (passage : Passage) {position : Position} {tag : Tag}
    (hopen : ∃ c rest, passage.raw = '<' :: c :: rest ∧ c.isAlpha = true)
    (hparse : Tag.parse passage.raw position = .ok tag) :
    Unicode.toLower passage.spelledName = tag.name ↔
      (∀ c ∈ passage.spelledName, isBlank c = false) ∧ passage.behindName.head? ≠ some '\x00' := by
  rw [← passage.spelledName_eq_iff, Tag.name, Tag.rawName_of_parse hopen hparse]
  constructor
  · intro hlower
    rcases List.prefix_or_prefix_of_prefix
      (List.takeWhile_prefix (l := passage.raw.drop 1) Lexeme.isTagNameChar)
      (List.takeWhile_prefix (l := passage.raw.drop 1) StartTag.isNameChar) with hbegins | hbegins
    · exact Unicode.eq_of_toLower_eq hbegins hlower
    · exact (Unicode.eq_of_toLower_eq hbegins hlower.symm).symm
  · exact congrArg Unicode.toLower

/-- The end tag with a name in this spelling. -/
def endTagOf (name : List Char) : List Char := '<' :: '/' :: name ++ ['>']

namespace Lexeme

/-- An end tag that holds nothing but a plain name is either well-formed, or its name is made of other
characters too. -/
theorem endTag?_endTagOf {name : List Char} (hname : IsPlainName name) (behind : List Char) :
    endTag? (endTagOf name ++ behind) =
      if name.all isEndNameChar then some (Unicode.toLower name, (endTagOf name).length) else none := by
  have htag : IsEndTagOf name (endTagOf name) := ⟨[], [], by simp, by simp, by simp [endTagOf]⟩
  split
  · rename_i hall
    have hchars := List.all_eq_true.1 hall
    rw [endTag?_of_isEndTagOf htag hname.letter hchars,
      Unicode.toLower_ascii fun c hc => isEndNameChar_ascii (hchars c hc)]
  · rename_i hother
    -- The name of a well-formed end tag would be this one.
    by_contra hsome
    obtain ⟨⟨found, size⟩, hend⟩ := Option.ne_none_iff_exists'.1 hsome
    obtain ⟨word, tag, beyond, htext, hword, hne, hchars, -, -⟩ := exists_of_endTag? hend
    have hunique := htag.word_eq hword hname.isWord (.of_isEndName hne hchars) htext
    exact hother (List.all_eq_true.2 (hunique ▸ hchars))

/-- The lexeme of an end tag has the name of the end tag at the front of the text. -/
theorem isEndTagAt_of_next? {final : Bool} {mode : Mode} {text : List Char} {lexeme : Lexeme}
    (hnext : next? final mode text = .ok (some lexeme)) {name : List Char}
    (htoken : lexeme.token = .endTag name) : IsEndTagAt text name := by
  obtain hdata | ⟨_, hend, hat⟩ | ⟨rest, rfl, hconstruct⟩ := next?_cases hnext
  · simp [htoken] at hdata
  · rw [htoken, Token.endTag.injEq] at hend
    rwa [hend]
  · obtain ⟨_, _, rfl, _, hstart⟩ | ⟨_, _, hclosing⟩ | haside | hdata := construct?_cases hconstruct
    · obtain hdata | ⟨_, _, _, hopen⟩ := startTag?_cases hstart <;> simp_all
    · obtain ⟨_, hend, hat⟩ | haside | ⟨hskipped, _⟩ := closing?_cases hclosing
      · rw [htoken, Token.endTag.injEq] at hend
        rwa [hend]
      · simp [htoken] at haside
      · simp [htoken] at hskipped
    · simp [htoken] at haside
    · simp [htoken] at hdata

/-- The name of an end tag is what is written there, behind the slash and blanks, in lower case. -/
theorem exists_spelled_endTag {final : Bool} {mode : Mode} {text : List Char} {lexeme : Lexeme}
    (hnext : next? final mode text = .ok (some lexeme)) {name : List Char}
    (htoken : lexeme.token = .endTag name) :
    ∃ blanks spelled behind, text.drop 2 = blanks ++ (spelled ++ behind) ∧
      (∀ c ∈ blanks, isBlank c = true) ∧ name = Unicode.toLower spelled := by
  obtain ⟨size, hend⟩ | ⟨_, hspelled⟩ := isEndTagAt_of_next? hnext htoken
  · obtain ⟨word, _, behind, rfl, ⟨before, after, hbefore, _, rfl⟩, _, hchars, hname, _⟩ :=
      exists_of_endTag? hend
    refine ⟨before, word, after ++ '>' :: behind, by simp, hbefore, ?_⟩
    rw [Unicode.toLower_ascii fun c hc => isEndNameChar_ascii (hchars c hc), hname]
  · exact ⟨[], _, _, List.takeWhile_append_dropWhile.symm, by simp, hspelled⟩

/-- An end tag with a plain name is read as one in whatever mode it is read as an end tag at all. -/
theorem next?_endTagOf_name {final : Bool} {mode : Mode} {name behind : List Char} {lexeme : Lexeme}
    (hname : IsPlainName name)
    (hnext : next? final mode (endTagOf name ++ behind) = .ok (some lexeme)) {ended : List Char}
    (htoken : lexeme.token = .endTag ended) : ended = Unicode.toLower name := by
  have hend := endTag?_endTagOf hname behind
  obtain ⟨size, hsome⟩ | ⟨_, hspelled⟩ := isEndTagAt_of_next? hnext htoken
  · rw [hsome] at hend
    split at hend
    · rw [Option.some.injEq, Prod.mk.injEq] at hend
      exact hend.1
    · cases hend
  · have hbracket : isTagNameChar '>' = false := by decide
    have hinside : (endTagOf name ++ behind).drop 2 = name ++ '>' :: behind := by simp [endTagOf]
    rw [hspelled, hinside, List.takeWhile_append_of_pos hname.chars]
    simp [hbracket]

/-- An end tag with a plain name is read as one in ordinary markup. -/
theorem next?_endTagOf {name : List Char} (hname : IsPlainName name) (behind : List Char) :
    ∃ lexeme, next? true .markup (endTagOf name ++ behind) = .ok (some lexeme) ∧
      lexeme.token = .endTag (Unicode.toLower name) ∧ lexeme.mode = .markup ∧
      lexeme.size = (endTagOf name).length := by
  have hpos : 0 < (endTagOf name).length := by simp [endTagOf]
  have hclosing : closing? (endTagOf name ++ behind) =
      some ⟨.endTag (Unicode.toLower name), (endTagOf name).length, .markup, hpos⟩ := by
    obtain ⟨c, word, rfl, hletter⟩ := hname.letter
    have hinside : (endTagOf (c :: word) ++ behind).drop 2 = c :: (word ++ '>' :: behind) := by
      simp [endTagOf]
    rw [closing?, endTag?_endTagOf hname]
    by_cases hwell : (c :: word).all isEndNameChar = true
    · rw [if_pos hwell]
      simp [ofSize?, hpos]
    · have hbracket : isTagNameChar '>' = false := by decide
      have hcBracket : c ≠ '>' := ne_of_isAlpha hletter rfl
      have hlast : endOf? bracket? (c :: (word ++ '>' :: behind)) = some (word.length + 2) :=
        endOf?_bracket? hname.bracket_not_mem behind
      have hword : (word ++ '>' :: behind).takeWhile isTagNameChar = word := by
        rw [List.takeWhile_append_of_pos fun d hd => hname.chars d (List.mem_cons_of_mem c hd)]
        simp [hbracket]
      rw [if_neg hwell]
      simp only [hinside]
      rw [if_neg (by simp [hletter]), hword, hlast]
      simp [ofSize?, endTagOf]
  have hslash : '/'.isAlpha = false := by decide
  have hconstruct : construct? (endTagOf name ++ behind) =
      .ok (closing? (endTagOf name ++ behind)) := by
    simp [construct?, endTagOf, hslash]
  have hopen : endTagOf name ++ behind = '<' :: ('/' :: name ++ ['>'] ++ behind) := rfl
  refine ⟨⟨.endTag (Unicode.toLower name), (endTagOf name).length, .markup, hpos⟩, ?_, rfl, rfl, rfl⟩
  rw [hclosing] at hconstruct
  rw [hopen] at hconstruct ⊢
  rw [next?, inMarkup, if_pos rfl, hconstruct]
  rfl

end Lexeme

namespace Builder

/-- The start tags of the open elements, innermost first. -/
def openTags (builder : Builder) : List Tag := builder.openElements.map (·.tag)

private theorem openTags_addNodes (builder : Builder) (nodes : List Node) :
    (builder.addNodes nodes).openTags = builder.openTags := by
  unfold addNodes openTags
  split
  · rfl
  · rename_i element outer hopen
    simp [hopen, Element.enclose]

/-- The elements that are open stay open where the waiting text becomes nodes. -/
theorem openTags_flush {builder flushed : Builder} (hflush : builder.flush = .ok flushed) :
    flushed.openTags = builder.openTags := by
  obtain ⟨_, rfl⟩ | ⟨_, _, nodes, _, _, rfl⟩ := flush_cases hflush
  · rfl
  · exact openTags_addNodes builder nodes

/-- Closing a name closes the innermost open element of that name with all that is open inside it. -/
theorem closeNamed?_append {name : List Char} {inner : List Tag} (hinner : ∀ tag ∈ inner, tag.name ≠ name)
    {tag : Tag} (hname : tag.name = name) {outer : List Tag} {openElements : List Element}
    (hopen : openElements.map (·.tag) = inner ++ tag :: outer) (nodes : List Node) :
    ∃ elements closed, closeNamed? name nodes openElements = some (elements, closed) ∧
      elements.map (·.tag) = outer := by
  induction openElements generalizing inner nodes with
  | nil => simp at hopen
  | cons element elements ih =>
    rw [closeNamed?]
    cases inner with
    | nil =>
      obtain ⟨htag, houter⟩ : element.tag = tag ∧ _ := List.cons.inj hopen
      rw [if_pos (by rw [htag, hname])]
      exact ⟨elements, _, rfl, houter⟩
    | cons first inner =>
      obtain ⟨htag, hrest⟩ : element.tag = first ∧ _ := List.cons.inj hopen
      rw [if_neg (by rw [htag]; exact hinner first List.mem_cons_self)]
      exact ih (fun later hlater => hinner later (List.mem_cons_of_mem first hlater)) hrest _

/-- An end tag closes the innermost open element of its name and all elements inside it. -/
theorem openTags_step_endTag {builder next : Builder} {tag : Tag} {inner outer : List Tag}
    (hopen : builder.openTags = inner ++ tag :: outer) (hinner : ∀ later ∈ inner, later.name ≠ tag.name)
    {raw : List Char} (hstep : builder.step (.endTag tag.name) raw = .ok next) :
    next.openTags = outer := by
  obtain ⟨hdata, _⟩ | ⟨hskipped, _⟩ | ⟨flushed, hflush, hnext⟩ := step_cases hstep
  · cases hdata
  · cases hskipped
  · obtain ⟨_, _, _, hstart, _⟩ | ⟨name, hend, rfl⟩ | ⟨haside, _⟩ := hnext
    · cases hstart
    · rw [Token.endTag.injEq] at hend
      subst hend
      rw [← openTags_flush hflush] at hopen
      obtain ⟨elements, closed, hclose, helements⟩ := closeNamed?_append hinner rfl hopen []
      rw [close, hclose]
      change (addNodes { flushed with openElements := elements } [closed]).openTags = outer
      rw [openTags_addNodes]
      exact helements
    · cases haside

end Builder

/-- The lexer's name of a start tag is the name of the element that is made of the tag exactly if the
spelled name holds no blank and no null stands behind it. Where the names are the same, an end tag of
the same spelling has that name too, and closes the innermost open element of the name. -/
theorem Reads.startTag_name_eq_iff {final : Bool} {mode last : Mode} {text rest : List Char}
    {passages : List Passage} (hreads : Reads final mode text passages last rest)
    {passage : Passage} (hmem : passage ∈ passages) {name : List Char} {selfClosing : Bool}
    (htoken : passage.token = .startTag name selfClosing) {position : Position} {tag : Tag}
    (hparse : Tag.parse passage.raw position = .ok tag) :
    (name = tag.name ↔ (∀ c ∈ passage.spelledName, isBlank c = false) ∧
        passage.behindName.head? ≠ some '\x00') ∧
      (name = tag.name →
        (∀ behind, ∃ lexeme,
          Lexeme.next? true .markup (endTagOf passage.spelledName ++ behind) = .ok (some lexeme) ∧
          lexeme.token = .endTag tag.name ∧ lexeme.size = (endTagOf passage.spelledName).length) ∧
        (∀ closing ∈ passages, closing.raw = endTagOf passage.spelledName →
          ∀ ended, closing.token = .endTag ended → ended = tag.name) ∧
        ∀ (builder next : Builder) (inner outer : List Tag) (raw : List Char),
          builder.openTags = inner ++ tag :: outer → (∀ later ∈ inner, later.name ≠ tag.name) →
          builder.step (.endTag tag.name) raw = .ok next → next.openTags = outer) := by
  have hopen := (hreads.sound passage hmem).startTag name selfClosing htoken
  have hname := hreads.startTag_name hmem htoken
  have hiff := passage.toLower_spelledName_eq_iff hopen hparse
  rw [← hname] at hiff
  refine ⟨hiff, fun hagree => ?_⟩
  have hplain : IsPlainName passage.spelledName := by
    obtain ⟨c, behind, hraw, hletter⟩ := hopen
    refine ⟨⟨c, behind.takeWhile Lexeme.isTagNameChar, ?_, hletter⟩, ?_, (hiff.1 hagree).1⟩
    · rw [Passage.spelledName, hraw, List.drop_succ_cons, List.drop_zero, List.takeWhile_cons,
        if_pos (Lexeme.isTagNameChar_of_isAlpha hletter)]
    · exact fun c hc => List.mem_takeWhile_imp hc
  rw [hname] at hagree
  refine ⟨fun behind => ?_, ?_, ?_⟩
  · obtain ⟨lexeme, hnext, hend, _, hsize⟩ := Lexeme.next?_endTagOf hplain behind
    exact ⟨lexeme, hnext, by rw [hend, hagree], hsize⟩
  · intro closing hclosing hraw ended hended
    obtain ⟨_, text, lexeme, hnext, rfl⟩ := hreads.exists_next? hclosing
    have htext : text = endTagOf passage.spelledName ++ text.drop lexeme.size := by
      rw [← hraw, List.take_append_drop]
    rw [htext] at hnext
    rw [← hagree]
    exact Lexeme.next?_endTagOf_name hplain hnext hended
  · exact fun builder next inner outer raw htags hinner hstep =>
      Builder.openTags_step_endTag htags hinner hstep

/-- A name with a letter beyond ASCII, which a tab ends in the start tag. -/
theorem startTag_name_eq_accented :
    let opening : Passage := ⟨.startTag "aé".toList false, "<Aé\tx='1'>".toList⟩
    let passages : List Passage :=
      [opening, ⟨.data, "y".toList⟩, ⟨.endTag "aé".toList, "</Aé>".toList⟩]
    let tag : Tag := ⟨"Aé".toList, ⟨1, 0⟩, [.plain "x".toList (some ⟨"1".toList, ⟨1, 6⟩⟩) ⟨1, 4⟩]⟩
    Reads true .markup "<Aé\tx='1'>y</Aé>".toList passages .markup [] ∧
      Tag.parse opening.raw .start = .ok tag ∧
      (∀ c ∈ opening.spelledName, isBlank c = false) ∧ opening.behindName.head? ≠ some '\x00' ∧
      "aé".toList = tag.name ∧ endTagOf opening.spelledName = "</Aé>".toList ∧
      ∀ (builder next : Builder) (inner outer : List Tag) (raw : List Char),
        builder.openTags = inner ++ tag :: outer → (∀ later ∈ inner, later.name ≠ tag.name) →
        builder.step (.endTag tag.name) raw = .ok next → next.openTags = outer := by
  intro opening passages tag
  have hreads : Reads true .markup "<Aé\tx='1'>y</Aé>".toList passages .markup [] := by
    refine .cons ⟨_, 10, .markup, by decide⟩ ?_ (.cons ⟨_, 1, .markup, by decide⟩ ?_
      (.cons ⟨_, 5, .markup, by decide⟩ ?_ .nil))
    all_goals decide +kernel
  have hparse : Tag.parse opening.raw .start = .ok tag := by decide +kernel
  have hblank : ∀ c ∈ opening.spelledName, isBlank c = false := by
    simp [opening, Passage.spelledName, Lexeme.isTagNameChar, isBlank, isBlankCode]
  have hnull : opening.behindName.head? ≠ some '\x00' := by decide
  obtain ⟨hiff, hcloses⟩ :=
    hreads.startTag_name_eq_iff List.mem_cons_self rfl hparse
  have hname := hiff.2 ⟨hblank, hnull⟩
  exact ⟨hreads, hparse, hblank, hnull, hname, by decide, (hcloses hname).2.2⟩

/-- A vertical tab in the name: the lexer reads it as part of the name, and the element's name ends
before it. The end tag of the same spelling closes nothing, so what follows it is still inside. -/
theorem startTag_name_ne_tab :
    let opening : Passage := ⟨.startTag "a\x0bb".toList false, "<a\x0bb>".toList⟩
    let passages : List Passage := [opening, ⟨.data, "x".toList⟩,
      ⟨.endTag "a\x0bb".toList, "</a\x0bb>".toList⟩, ⟨.data, "y".toList⟩]
    Reads true .markup "<a\x0bb>x</a\x0bb>y".toList passages .markup [] ∧
      (Tag.parse opening.raw .start).toOption.map Tag.name = some "a".toList ∧
      (Builder.empty.steps passages).toOption.map (·.openTags.map Tag.name) = some ["a".toList] ∧
      (parseTemplate "<a\x0bb>x</a\x0bb>y".toList).toOption.map (·.children.length) = some 1 := by
  intro opening passages
  refine ⟨?_, by decide +kernel, by decide +kernel, by decide +kernel⟩
  refine .cons ⟨_, 5, .markup, by decide⟩ ?_ (.cons ⟨_, 1, .markup, by decide⟩ ?_
    (.cons ⟨_, 6, .markup, by decide⟩ ?_ (.cons ⟨_, 1, .markup, by decide⟩ ?_ .nil)))
  all_goals decide +kernel

end BareStrings.Markup
