import BareStrings.Proofs.Markup.Passage
import BareStrings.Proofs.Markup.SpelledTag
import BareStrings.Proofs.Markup.TagSpan
import BareStrings.Proofs.Markup.Template
import BareStrings.Proofs.Text.Ascii
import BareStrings.Proofs.Unicode.Case

namespace BareStrings.Markup

open BareStrings.Text

/-- What may stand in the name of an element is a visible character of ASCII and ends no name. -/
theorem isEndNameChar_visible {c : Char} (hchar : Lexeme.isEndNameChar c = true) :
    0x20 < c.toNat ∧ c.toNat < 0x7F ∧ c ≠ '/' ∧ c ≠ '>' := by
  have hcode : c.val.toNat = c.toNat := rfl
  have hzero : '0'.val.toNat = 48 := rfl
  have hnine : '9'.val.toNat = 57 := rfl
  simp only [Lexeme.isEndNameChar, Char.isAlphanum, Char.isDigit, Bool.or_eq_true, isAlpha_iff,
    Bool.and_eq_true, beq_iff_eq, decide_eq_true_eq, ge_iff_le, UInt32.le_iff_toNat_le, hcode,
    hzero, hnine] at hchar
  rcases hchar with ((((hcodes | rfl) | rfl) | rfl) | rfl)
  · refine ⟨by omega, by omega, ?_, ?_⟩
    · rintro rfl
      have hslash : '/'.toNat = 47 := rfl
      omega
    · rintro rfl
      have hbracket : '>'.toNat = 62 := rfl
      omega
  all_goals decide

/-- The characters of the names of end tags belong to ASCII. -/
theorem isEndNameChar_ascii {c : Char} (hchar : Lexeme.isEndNameChar c = true) : c.toNat < 128 := by
  have hvisible := isEndNameChar_visible hchar
  omega

/-- No blank may stand in the name of an end tag. -/
theorem isBlank_of_isEndNameChar {c : Char} (hchar : Lexeme.isEndNameChar c = true) :
    isBlank c = false := by
  obtain ⟨hlow, hhigh, _⟩ := isEndNameChar_visible hchar
  exact isBlank_eq_false hlow hhigh

/-- What may stand in the name of an end tag may stand in that of a start tag. -/
theorem isTagNameChar_of_isEndNameChar {c : Char} (hchar : Lexeme.isEndNameChar c = true) :
    Lexeme.isTagNameChar c = true := by
  obtain ⟨hlow, hhigh, hslash, hbracket⟩ := isEndNameChar_visible hchar
  have hcontrol : ∀ d : Char, d.toNat ≤ 0x20 → c ≠ d := by
    rintro d hd rfl
    omega
  simp only [Lexeme.isTagNameChar, Bool.not_eq_true', Bool.or_eq_false_iff, beq_eq_false_iff_ne]
  exact ⟨⟨⟨⟨⟨⟨⟨hcontrol _ (by decide), hcontrol _ (by decide)⟩, hcontrol _ (by decide)⟩,
    hcontrol _ (by decide)⟩, hcontrol _ (by decide)⟩, hslash⟩, hbracket⟩, hcontrol _ (by decide)⟩

/-- A character of a start tag's name may stand in a written name, unless it is a blank. -/
theorem isNameChar_of_isTagNameChar {c : Char} (hchar : Lexeme.isTagNameChar c = true)
    (hblank : isBlank c = false) : StartTag.isNameChar c = true := by
  simp only [Lexeme.isTagNameChar, Bool.not_eq_true', Bool.or_eq_false_iff,
    beq_eq_false_iff_ne] at hchar
  simp [StartTag.isNameChar, hblank, hchar.1.1.2, hchar.1.2]

/-- A name that an end tag can have and that both readings of a name take in whole. -/
structure IsPlainName (name : List Char) : Prop where
  letter : ∃ c rest, name = c :: rest ∧ c.isAlpha = true
  chars : ∀ c ∈ name, Lexeme.isTagNameChar c = true
  not_blank : ∀ c ∈ name, isBlank c = false

/-- A plain name holds no bracket. -/
theorem IsPlainName.bracket_not_mem {name : List Char} (hname : IsPlainName name) : '>' ∉ name :=
  fun hmem => absurd (hname.chars '>' hmem) (by decide)

/-- The name of an element is a plain name. -/
theorem IsElementName.isPlainName {name : List Char} (hname : IsElementName name) : IsPlainName name :=
  ⟨hname.letter, fun c hc => isTagNameChar_of_isEndNameChar (hname.chars c hc),
    fun c hc => isBlank_of_isEndNameChar (hname.chars c hc)⟩

/-- The name of an element in lower case. -/
theorem IsElementName.toLower {name : List Char} (hname : IsElementName name) :
    Unicode.toLower name = name.map Char.toLower :=
  Unicode.toLower_ascii fun c hc => isEndNameChar_ascii (hname.chars c hc)

/-- What can stand in a start tag behind a name or a value. -/
inductive TagTail : List Char → Prop
  | nil : TagTail []
  | bracket {rest : List Char} : TagTail ('>' :: rest)
  | slash {rest : List Char} : TagTail (' ' :: '/' :: rest)
  | name {c : Char} {rest : List Char} (hchar : IsAttributeChar c) : TagTail (' ' :: c :: rest)

private theorem TemplateAttribute.Valid.exists_cons {written : TemplateAttribute} (hvalid : written.Valid) :
    ∃ c rest, written.name = c :: rest ∧ IsAttributeChar c ∧ ∀ d ∈ rest, IsAttributeChar d := by
  obtain ⟨c, rest, hname⟩ := List.exists_cons_of_ne_nil hvalid.name_ne_nil
  have hchars := hvalid.chars
  rw [hname] at hchars
  exact ⟨c, rest, hname, hchars c List.mem_cons_self,
    fun d hd => hchars d (List.mem_cons_of_mem c hd)⟩

namespace TagTail

variable {tail : List Char}

/-- Attributes with such a text behind them are such a text themselves. -/
theorem renderAttributes {attributes : List TemplateAttribute}
    (hvalid : ∀ written ∈ attributes, written.Valid) (htail : TagTail tail) :
    TagTail (renderAttributes attributes ++ tail) := by
  cases attributes with
  | nil => exact htail
  | cons written later =>
    obtain ⟨c, rest, hname, hchar, _⟩ := (hvalid written List.mem_cons_self).exists_cons
    rw [Markup.renderAttributes, List.flatMap_cons, TemplateAttribute.render, hname]
    exact .name hchar

private theorem of_bracket (closing : Closing) (rest : List Char) : TagTail (closing.bracket ++ rest) := by
  cases closing with
  | endTag => exact .bracket
  | slash => exact .slash
  | void => exact .bracket

/-- A name ends where such a text begins. -/
theorem takeWhile (htail : TagTail tail) {p : Char → Bool} (hblank : p ' ' = false)
    (hbracket : p '>' = false) : tail.takeWhile p = [] ∧ tail.dropWhile p = tail := by
  cases htail <;> simp [hblank, hbracket]

private theorem takeWhile_append (htail : TagTail tail) {p : Char → Bool} (hblank : p ' ' = false)
    (hbracket : p '>' = false) {name : List Char} (hname : ∀ c ∈ name, p c = true) :
    (name ++ tail).takeWhile p = name ∧ (name ++ tail).dropWhile p = tail := by
  obtain ⟨htake, hdrop⟩ := htail.takeWhile hblank hbracket
  rw [List.takeWhile_append_of_pos hname, List.dropWhile_append_of_pos hname, htake, hdrop]
  exact ⟨List.append_nil name, rfl⟩

/-- The name of an attribute ends before its value. -/
theorem takeWhile_append_value (htail : TagTail tail) {p : Char → Bool} (hblank : p ' ' = false)
    (hbracket : p '>' = false) (hsign : p '=' = false) {name : List Char}
    (hname : ∀ c ∈ name, p c = true) (value : Option (List Char)) :
    (name ++ (renderValue value ++ tail)).takeWhile p = name ∧
      (name ++ (renderValue value ++ tail)).dropWhile p = renderValue value ++ tail := by
  cases value with
  | none => exact htail.takeWhile_append hblank hbracket hname
  | some value =>
    rw [List.takeWhile_append_of_pos hname, List.dropWhile_append_of_pos hname]
    simp [renderValue, hsign]

/-- There is no equals sign behind its blanks. -/
theorem no_sign (htail : TagTail tail) (rest : List Char) : tail.dropWhile isBlank ≠ '=' :: rest := by
  have hblank : isBlank ' ' = true := by decide
  have hbracket : isBlank '>' = false := by decide
  have hslash : isBlank '/' = false := by decide
  cases htail with
  | nil => simp
  | bracket => simp [hbracket]
  | slash => simp [hblank, hslash]
  | name hchar => simp [hblank, hchar.1, hchar.2.2.2.2.2]

end TagTail

namespace Lexeme

/-- The value that is passed over with an attribute. -/
def spanValue (written : TemplateAttribute) : List Char := (written.value.map escapeValue).getD []

private theorem valueSpan?_none {tail : List Char} (htail : TagTail tail) : valueSpan? tail = none := by
  have hsigns : (tail.dropWhile isBlank).takeWhile (· == '=') = [] := by
    cases hdrop : tail.dropWhile isBlank with
    | nil => rfl
    | cons c rest =>
      have hsign : c ≠ '=' := by
        rintro rfl
        exact htail.no_sign rest hdrop
      simp [hsign]
  simp [valueSpan?, hsigns]

/-- A rendered value spans exactly what is written of it. -/
private theorem valueSpan?_some (value tail : List Char) :
    valueSpan? (renderValue (some value) ++ tail) =
      some (escapeValue value, (renderValue (some value)).length) := by
  have hblank : isBlank '=' = false := by decide
  have hquote : isBlank '"' = false := by decide
  have hall : ∀ c ∈ escapeValue value, (c != '"') = true := by
    intro c hc
    rw [bne_iff_ne]
    rintro rfl
    exact quote_not_mem_escapeValue value hc
  have hinside : (escapeValue value ++ '"' :: tail).takeWhile (· != '"') = escapeValue value := by
    simp [List.takeWhile_append_of_pos hall]
  simp [valueSpan?, renderValue, hblank, hquote, hinside]
  omega

/-- The gap in front of what may follow a name. -/
theorem gapSize_renderAttributes {attributes : List TemplateAttribute}
    (hvalid : ∀ written ∈ attributes, written.Valid) (hne : attributes ≠ []) (tail : List Char) :
    ∃ behind, renderAttributes attributes ++ tail = ' ' :: behind ∧
      gapSize (renderAttributes attributes ++ tail) = 1 := by
  obtain ⟨written, later, rfl⟩ := List.exists_cons_of_ne_nil hne
  obtain ⟨c, rest, hname, hchar, _⟩ := (hvalid written List.mem_cons_self).exists_cons
  obtain ⟨hblank, _, _, hslash, _⟩ := hchar
  have hspace : isBlank ' ' = true := by decide
  rw [renderAttributes, List.flatMap_cons, TemplateAttribute.render, hname]
  refine ⟨_, rfl, ?_⟩
  simp [gapSize, hblank, hslash, hspace]

/-- An attribute is passed over together with the gap behind it. -/
theorem attributeSpan?_render {written : TemplateAttribute} (hvalid : written.Valid) {tail : List Char}
    (htail : TagTail tail) {previous : Char} (hprevious : precedesAttribute previous = true) :
    ∃ span, attributeSpan? previous (written.name ++ (renderValue written.value ++ tail)) = some span ∧
      span.value = spanValue written ∧
      span.size = written.name.length + (renderValue written.value).length + gapSize tail := by
  obtain ⟨c, rest, hname, hchar, hrest⟩ := hvalid.exists_cons
  have hspace : isBlank ' ' = true := by decide
  have hinName : ∀ d ∈ rest, (!isBlank d && d != '/' && d != '=' && d != '>') = true := by
    intro d hd
    obtain ⟨hblank, _, _, hslash, hbracket, hsign⟩ := hrest d hd
    simp [hblank, hslash, hbracket, hsign]
  obtain ⟨htake, hdrop⟩ := htail.takeWhile_append_value (by simp [hspace]) (by simp) (by simp) hinName
    written.value
  have hvalue : valueSpan? (renderValue written.value ++ tail) =
      written.value.map fun value => (escapeValue value, (renderValue (some value)).length) := by
    cases written.value with
    | none => exact valueSpan?_none htail
    | some value => exact valueSpan?_some value tail
  obtain ⟨hblank, _, _, hslash, hbracket, _⟩ := hchar
  have hopen : (!precedesAttribute previous || isBlank c || c == '/' || c == '>') = false := by
    simp [hprevious, hblank, hslash, hbracket]
  rw [hname, List.cons_append, attributeSpan?, if_neg (by simp [hopen])]
  refine ⟨_, rfl, ?_, ?_⟩
  · simp only [hdrop, hvalue, spanValue]
    cases written.value <;> rfl
  · simp only [htake, hdrop, hvalue, List.length_cons]
    cases written.value with
    | none => simp [renderValue]; omega
    | some value => simp; omega

/-- Attributes are passed over together, with the gaps behind them. -/
theorem attributeSpans_render {attributes : List TemplateAttribute}
    (hvalid : ∀ written ∈ attributes, written.Valid) (closing : Closing) (rest : List Char)
    {previous : Char} (hprevious : attributes ≠ [] → precedesAttribute previous = true) :
    ∃ size,
      attributeSpans previous
          ((renderAttributes attributes ++ (closing.bracket ++ rest)).drop
            (gapSize (renderAttributes attributes ++ (closing.bracket ++ rest)))) =
        (attributes.map spanValue, size) ∧
      gapSize (renderAttributes attributes ++ (closing.bracket ++ rest)) + size =
        (renderAttributes attributes).length + gapSize (closing.bracket ++ rest) := by
  induction attributes generalizing previous with
  | nil =>
    have hspace : isBlank ' ' = true := by decide
    have hbracket : isBlank '>' = false := by decide
    refine ⟨0, ?_, by simp [renderAttributes]⟩
    cases closing <;>
      simp [renderAttributes, Closing.bracket, gapSize, hspace, hbracket, attributeSpans, attributeSpan?]
  | cons written later ih =>
    have hlater := fun next hnext => hvalid next (List.mem_cons_of_mem written hnext)
    obtain ⟨_, _, hgap⟩ := gapSize_renderAttributes hvalid (by simp) (closing.bracket ++ rest)
    have htail := (TagTail.of_bracket closing rest).renderAttributes hlater
    obtain ⟨span, hspan, hvalue, hsize⟩ :=
      attributeSpan?_render (hvalid written List.mem_cons_self) htail (hprevious (by simp))
    have hsource : renderAttributes (written :: later) ++ (closing.bracket ++ rest) =
        ' ' :: (written.name ++ (renderValue written.value ++
          (renderAttributes later ++ (closing.bracket ++ rest)))) := by
      simp [renderAttributes, TemplateAttribute.render]
    have hlength : (renderAttributes (written :: later)).length =
        1 + written.name.length + (renderValue written.value).length +
          (renderAttributes later).length := by
      simp [renderAttributes, TemplateAttribute.render]
      omega
    rw [hgap, hsource, List.drop_succ_cons, List.drop_zero, attributeSpans_eq hspan, hvalue]
    -- Behind the attribute a blank has been passed over, if there is another attribute.
    have hbehind : later ≠ [] → precedesAttribute
        (((written.name ++ (renderValue written.value ++
          (renderAttributes later ++ (closing.bracket ++ rest)))).take span.size).getLastD previous) =
        true := by
      intro hne
      obtain ⟨behind, hblank, hone⟩ := gapSize_renderAttributes hlater hne (closing.bracket ++ rest)
      have hfront : written.name ++ (renderValue written.value ++ ' ' :: behind) =
          (written.name ++ renderValue written.value ++ [' ']) ++ behind := by simp
      have htake : (written.name ++ (renderValue written.value ++ ' ' :: behind)).take span.size =
          written.name ++ renderValue written.value ++ [' '] := by
        rw [hfront, hsize, hone]
        exact List.take_left' (by simp [Nat.add_assoc])
      rw [hblank, htake]
      simp [precedesAttribute, isBlank, isBlankCode]
    have hdrop : ∀ tail : List Char, (written.name ++ (renderValue written.value ++ tail)).drop
        (written.name.length + (renderValue written.value).length + gapSize tail) =
        tail.drop (gapSize tail) := by
      intro tail
      rw [← List.append_assoc, ← List.length_append, List.drop_length_add_append]
    obtain ⟨size, hspans, hsum⟩ := ih hlater hbehind
    rw [← hdrop, ← hsize] at hspans
    rw [hspans]
    exact ⟨span.size + size, rfl, by omega⟩

/-- A start tag is passed over in full. -/
theorem tagSpan_render {name : List Char} (hname : IsPlainName name)
    {attributes : List TemplateAttribute} (hvalid : ∀ written ∈ attributes, written.Valid)
    (closing : Closing) (rest : List Char) :
    tagSpan (name ++ (renderAttributes attributes ++ (closing.bracket ++ rest))) =
      { name, values := attributes.map spanValue, ending := .closed closing.isSlash,
        size := name.length + (renderAttributes attributes).length + closing.bracket.length } := by
  have htail := (TagTail.of_bracket closing rest).renderAttributes hvalid
  have htake := (htail.takeWhile_append (p := isTagNameChar) (by decide) (by decide) hname.chars).1
  have hprevious : attributes ≠ [] → precedesAttribute
      (((name ++ (renderAttributes attributes ++ (closing.bracket ++ rest))).take
        (name.length + gapSize (renderAttributes attributes ++ (closing.bracket ++ rest)))).getLastD
          '<') = true := by
    intro hne
    obtain ⟨behind, hblank, hone⟩ := gapSize_renderAttributes hvalid hne (closing.bracket ++ rest)
    have hfront : (name ++ ' ' :: behind).take (name.length + 1) = name ++ [' '] := by
      rw [List.take_length_add_append]
      rfl
    rw [hone, hblank, hfront]
    simp [precedesAttribute, isBlank, isBlankCode]
  obtain ⟨size, hspans, hsum⟩ := attributeSpans_render hvalid closing rest hprevious
  have hdrop : (name ++ (renderAttributes attributes ++ (closing.bracket ++ rest))).drop
      (name.length + gapSize (renderAttributes attributes ++ (closing.bracket ++ rest)) + size) =
      (closing.bracket ++ rest).drop (gapSize (closing.bracket ++ rest)) := by
    rw [Nat.add_assoc, hsum, List.drop_length_add_append, List.drop_length_add_append]
  generalize hgap : gapSize (renderAttributes attributes ++ (closing.bracket ++ rest)) = gap at *
  simp only [tagSpan, htake, List.drop_left, hgap, List.drop_length_add_append, hspans, hdrop]
  clear hdrop hspans hprevious htake htail hgap
  have hbracket : gapSize ('>' :: rest) = 0 := by simp [gapSize, isBlank, isBlankCode]
  have hslash : gapSize (' ' :: '/' :: '>' :: rest) = 1 := by simp [gapSize, isBlank, isBlankCode]
  cases closing <;> simp [Closing.bracket, Closing.isSlash, hbracket, hslash] at hsum ⊢ <;> omega

/-- The spans of rendered attributes are decoded to their values. -/
private theorem mapM_spanValue (attributes : List TemplateAttribute) :
    (attributes.map spanValue).mapM decodeText =
      .ok (attributes.map fun written => written.value.getD []) := by
  induction attributes with
  | nil => rfl
  | cons written later ih =>
    have hfirst : decodeText (spanValue written) = .ok (written.value.getD []) := by
      rw [spanValue]
      cases written.value with
      | none => exact decodeText_plain (by simp)
      | some value => exact decodeText_escape '"' value
    rw [List.map_cons, List.mapM_cons, hfirst, ih]
    rfl

/-- A start tag is read as one lexeme, and what is behind it is code if its name says so. -/
theorem next?_renderTag {name : List Char} (hname : IsPlainName name)
    {attributes : List TemplateAttribute} (hvalid : ∀ written ∈ attributes, written.Valid)
    (closing : Closing) (rest : List Char) :
    ∃ lexeme, next? true .markup (renderTag name attributes closing ++ rest) = .ok (some lexeme) ∧
      lexeme.token = .startTag (Unicode.toLower name) closing.isSlash ∧
      lexeme.mode = (if !closing.isSlash && rawTextNames.contains (Unicode.toLower name) then
        .rawText (Unicode.toLower name) else .markup) ∧
      lexeme.size = (renderTag name attributes closing).length := by
  have hsource : renderTag name attributes closing ++ rest =
      '<' :: (name ++ (renderAttributes attributes ++ (closing.bracket ++ rest))) := by
    simp [renderTag]
  have hspan := tagSpan_render hname hvalid closing rest
  obtain ⟨c, tail, hsplit, hletter⟩ := hname.letter
  have hlength : (renderTag name attributes closing).length =
      name.length + (renderAttributes attributes).length + closing.bracket.length + 1 := by
    simp [renderTag]
    omega
  have hstart : startTag? ('<' :: (name ++ (renderAttributes attributes ++ (closing.bracket ++ rest)))) =
      .ok (some ⟨.startTag (Unicode.toLower name) closing.isSlash,
        name.length + (renderAttributes attributes).length + closing.bracket.length + 1,
        if !closing.isSlash && rawTextNames.contains (Unicode.toLower name) then
          .rawText (Unicode.toLower name) else .markup, Nat.succ_pos _⟩) := by
    simp only [startTag?, List.drop_succ_cons, List.drop_zero, hspan, mapM_spanValue]
    simp [bind, Except.bind, ofSize?]
    rfl
  have hconstruct : construct?
      ('<' :: (name ++ (renderAttributes attributes ++ (closing.bracket ++ rest)))) =
      startTag? ('<' :: (name ++ (renderAttributes attributes ++ (closing.bracket ++ rest)))) := by
    rw [hsplit, List.cons_append, construct?]
    simp [hletter]
  refine ⟨⟨.startTag (Unicode.toLower name) closing.isSlash,
    name.length + (renderAttributes attributes).length + closing.bracket.length + 1, _,
    Nat.succ_pos _⟩, ?_, rfl, rfl, hlength.symm⟩
  rw [hsource, next?, inMarkup, if_pos rfl, hconstruct, hstart]
  rfl

/-- Behind the start tag of an element that holds no code, ordinary markup goes on. -/
theorem next?_renderTag_markup {name : List Char} (hname : IsElementName name)
    {attributes : List TemplateAttribute} (hvalid : ∀ written ∈ attributes, written.Valid)
    (closing : Closing) (rest : List Char) :
    ∃ lexeme, next? true .markup (renderTag name attributes closing ++ rest) = .ok (some lexeme) ∧
      lexeme.token = .startTag (name.map Char.toLower) closing.isSlash ∧ lexeme.mode = .markup ∧
      lexeme.size = (renderTag name attributes closing).length := by
  have hcode : rawTextNames.contains (name.map Char.toLower) = false := by
    simpa using hname.not_code
  obtain ⟨lexeme, hnext, htoken, hmode, hsize⟩ := next?_renderTag hname.isPlainName hvalid closing rest
  rw [hname.toLower] at htoken hmode
  rw [hcode, Bool.and_false, if_neg Bool.false_ne_true] at hmode
  exact ⟨lexeme, hnext, htoken, hmode, hsize⟩

end Lexeme

namespace TemplateAttribute

/-- The attribute before decoding, if it is written at this place. -/
def rawAt (position : Position) (written : TemplateAttribute) : RawAttribute :=
  let place := position.advance [' ']
  ⟨written.name, place, written.value.map fun value =>
    ('"' :: escapeValue value ++ ['"'], place.advance (written.name ++ ['=']))⟩

/-- The attribute with one blank in front of it and its value between double quotes. -/
def spelled (written : TemplateAttribute) : SpelledAttribute :=
  ⟨[' '], written.name, written.value.map fun value => ⟨[], [], .quoted '"' (escapeValue value)⟩⟩

private theorem render_spelled (written : TemplateAttribute) : written.spelled.render = written.render := by
  obtain ⟨name, value⟩ := written
  cases value <;> simp [spelled, SpelledAttribute.render, SpelledAttribute.behindName,
    SpelledValue.lead, SpelledText.token, TemplateAttribute.render, renderValue]

private theorem rawAt_spelled (position : Position) (written : TemplateAttribute) :
    StartTag.rawAt position written.spelled = written.rawAt position := by
  obtain ⟨name, value⟩ := written
  cases value <;> rfl

private theorem Valid.spelled {written : TemplateAttribute} (hvalid : written.Valid) :
    written.spelled.Valid where
  gap_ne_nil := by simp [TemplateAttribute.spelled]
  gap_blank := by simp [TemplateAttribute.spelled, AllBlank]; decide
  name_ne_nil := hvalid.name_ne_nil
  name_chars := hvalid.chars
  value_valid := by
    intro value hvalue
    obtain ⟨text, _, rfl⟩ := Option.map_eq_some_iff.1 hvalue
    exact ⟨nofun, nofun, .inl rfl, quote_not_mem_escapeValue text⟩

/-- A rendered attribute is decoded to the attribute that it renders. -/
private theorem decode_rawAt {written : TemplateAttribute} (hvalid : written.Valid) (position : Position) :
    (written.rawAt position).decode = .ok (written.at position) := by
  obtain ⟨name, value⟩ := written
  have hexpression := hvalid.expression
  cases value with
  | none =>
    simp only [RawAttribute.decode, rawAt, TemplateAttribute.at, Option.map_none, pure_bind]
    cases DirectiveKey.parse? name <;> rfl
  | some value =>
    have htoken : StartTag.tokenContent ('"' :: escapeValue value ++ ['"']) = escapeValue value := by
      simp [StartTag.tokenContent]
    have hdecode : decodeText (escapeValue value) = .ok value := decodeText_escape '"' value
    simp only [RawAttribute.decode, rawAt, TemplateAttribute.at, Option.map_some, htoken, hdecode]
    cases hkey : DirectiveKey.parse? name with
    | none => rfl
    | some key =>
      obtain ⟨expression, hparse⟩ := hexpression key value hkey rfl
      have hread : readExpression value = .ok expression := by
        rw [readExpression, hparse]
        rfl
      obtain ⟨bound, hbound⟩ := StartTag.exists_boundExpression hread key
      simp only [boundTo, bind, Except.bind, pure, Except.pure, hbound]
      rfl

end TemplateAttribute

namespace StartTag

/-- The attributes before decoding. -/
def rawsAt (position : Position) : List TemplateAttribute → List RawAttribute
  | [] => []
  | written :: later => written.rawAt position :: rawsAt (position.advance written.render) later

private theorem mapM_decode_rawsAt {attributes : List TemplateAttribute}
    (hvalid : ∀ written ∈ attributes, written.Valid) (position : Position) :
    (rawsAt position attributes).mapM RawAttribute.decode = .ok (attributesAt position attributes) := by
  induction attributes generalizing position with
  | nil => rfl
  | cons written later ih =>
    have hlater := fun next hnext => hvalid next (List.mem_cons_of_mem written hnext)
    rw [rawsAt, List.mapM_cons, (TemplateAttribute.decode_rawAt (hvalid _ List.mem_cons_self) _),
      ih hlater]
    rfl

private theorem spelledRaws_spelled (position : Position) (attributes : List TemplateAttribute) :
    spelledRaws position (attributes.map TemplateAttribute.spelled) = rawsAt position attributes := by
  induction attributes generalizing position with
  | nil => rfl
  | cons written later ih =>
    rw [List.map_cons, spelledRaws, rawsAt, ih, TemplateAttribute.render_spelled,
      TemplateAttribute.rawAt_spelled]

end StartTag

/-- The closing bracket with what stands before it. -/
def Closing.ending : Closing → TagEnding
  | .slash => ⟨[' '], true⟩
  | .endTag _ | .void => ⟨[], false⟩

private theorem Closing.valid_ending (closing : Closing) : closing.ending.Valid := by
  have hblank : isBlank ' ' = true := by decide
  cases closing <;> simp [Closing.ending, TagEnding.Valid, AllBlank, hblank]

/-- A rendered tag is a spelled one, with every value in double quotes. -/
private theorem spelledTag_spelled (name : List Char) (attributes : List TemplateAttribute)
    (closing : Closing) :
    spelledTag name (attributes.map TemplateAttribute.spelled) closing.ending =
      renderTag name attributes closing := by
  have hattributes : (attributes.map TemplateAttribute.spelled).flatMap SpelledAttribute.render =
      renderAttributes attributes := by
    rw [List.flatMap_map]
    exact List.flatMap_congr fun written _ => written.render_spelled
  have hbracket : closing.ending.inside ++ ['>'] = closing.bracket := by cases closing <;> rfl
  rw [spelledTag, hattributes, List.append_assoc, hbracket]
  rfl

/-- A start tag is read back as the name and the attributes that it was written from. -/
theorem Tag.parse_renderTag {name : List Char} (hname : IsPlainName name)
    {attributes : List TemplateAttribute} (hvalid : ∀ written ∈ attributes, written.Valid)
    (closing : Closing) (position : Position) :
    Tag.parse (renderTag name attributes closing) position = .ok (tagAt position name attributes) := by
  obtain ⟨c, rest, hsplit, _⟩ := hname.letter
  have hne : name ≠ [] := by simp [hsplit]
  have hchars : ∀ c ∈ name, StartTag.isNameChar c = true :=
    fun c hc => isNameChar_of_isTagNameChar (hname.chars c hc) (hname.not_blank c hc)
  have hspelled : ∀ spelled ∈ attributes.map TemplateAttribute.spelled, spelled.Valid := by
    intro spelled hmem
    obtain ⟨written, hwritten, rfl⟩ := List.mem_map.1 hmem
    exact (hvalid written hwritten).spelled
  have hraws := rawAttributes_spelledTag hne hchars hspelled closing.valid_ending position
  have hbehind := splitName_spelledTag hne hchars hspelled closing.valid_ending
  rw [spelledTag_spelled] at hraws hbehind
  rw [parse, hraws, StartTag.spelledRaws_spelled, StartTag.mapM_decode_rawsAt hvalid, hbehind]
  rfl

end BareStrings.Markup
