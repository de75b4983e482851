import BareStrings.Proofs.Markup.Parts
import BareStrings.Proofs.Markup.TagName
import BareStrings.Proofs.Markup.Template.StartTag
import BareStrings.Proofs.Markup.Template.Text

namespace BareStrings.Markup

open BareStrings.Text

private theorem isEndNameChar_toLower (c : Char) :
    Lexeme.isEndNameChar c.toLower = Lexeme.isEndNameChar c := apply_toLower (by decide) c

/-- A name in another case is made of the same kinds of character. -/
theorem IsElementName.spelling {name spelling : List Char} (hname : IsElementName name)
    (hspelling : spelling.map Char.toLower = name.map Char.toLower) :
    ∃ c rest, spelling = c :: rest ∧ c.isAlpha = true ∧
      ∀ d ∈ rest, Lexeme.isEndNameChar d = true := by
  obtain ⟨first, tail, hsplit, hletter⟩ := hname.letter
  have hchars := hname.chars
  subst hsplit
  cases spelling with
  | nil => cases hspelling
  | cons c rest =>
    rw [List.map_cons, List.map_cons, List.cons.injEq] at hspelling
    refine ⟨c, rest, rfl, ?_, ?_⟩
    · rw [← isAlpha_toLower, hspelling.1, isAlpha_toLower, hletter]
    · intro d hd
      have hlower : d.toLower ∈ tail.map Char.toLower := by
        rw [← hspelling.2]
        exact List.mem_map_of_mem hd
      obtain ⟨e, he, heq⟩ := List.mem_map.1 hlower
      rw [← isEndNameChar_toLower, ← heq, isEndNameChar_toLower]
      exact hchars e (List.mem_cons_of_mem first he)

/-- An end tag is read as one lexeme, with its name in lower case. -/
theorem Lexeme.next?_endTag {name spelling : List Char} (hname : IsElementName name)
    (hspelling : spelling.map Char.toLower = name.map Char.toLower) (rest : List Char) :
    ∃ lexeme, next? true .markup ((Closing.endTag spelling).behind ++ rest) = .ok (some lexeme) ∧
      lexeme.token = .endTag (name.map Char.toLower) ∧ lexeme.mode = .markup ∧
      lexeme.size = (Closing.endTag spelling).behind.length := by
  obtain ⟨c, tail, hsplit, hletter, htail⟩ := hname.spelling hspelling
  have hchars : ∀ d ∈ spelling, isEndNameChar d = true := by
    intro d hd
    rw [hsplit] at hd
    rcases List.mem_cons.1 hd with rfl | hmem
    · simp [isEndNameChar, Char.isAlphanum, hletter]
    · exact htail d hmem
  have hascii : ∀ d ∈ spelling, d.toNat < 128 := fun d hd => isEndNameChar_ascii (hchars d hd)
  have hplain : IsPlainName spelling :=
    ⟨⟨c, tail, hsplit, hletter⟩, fun d hd => isTagNameChar_of_isEndNameChar (hchars d hd),
      fun d hd => isBlank_of_isEndNameChar (hchars d hd)⟩
  obtain ⟨lexeme, hnext, htoken, hmode, hsize⟩ := next?_endTagOf hplain rest
  rw [Unicode.toLower_ascii hascii, hspelling] at htoken
  exact ⟨lexeme, hnext, htoken, hmode, hsize⟩

namespace Builder

/-- A start tag with a slash, or that of a void element, adds an element without children. -/
private theorem step_startTag_closed {builder flushed : Builder} (hflush : builder.flush = .ok flushed)
    {raw : List Char} {tag : Tag} (htag : Tag.parse raw flushed.position = .ok tag)
    {name : List Char} {selfClosing : Bool} (hclosed : (selfClosing || tag.isVoid) = true) :
    builder.step (.startTag name selfClosing) raw = .ok (flushed.grow [.element tag []] raw) := by
  have hnone := pending_flush hflush
  have hposition := position_addNodes flushed [.element tag []]
  have hpending := pending_addNodes flushed [.element tag []]
  rw [hnone] at hpending
  simp only [step, accept, hflush, htag, bind, Except.bind, addTag, hclosed, if_true]
  simp only [pure, Except.pure, pass, grow, hposition, hpending, Option.map_none]

/-- The builder inside an element that a start tag has opened. -/
def opened (builder : Builder) (tag : Tag) (raw : List Char) : Builder :=
  { builder with
    openElements := ⟨tag, []⟩ :: builder.openElements
    position := builder.position.advance raw }

/-- Any other start tag opens its element. -/
theorem step_startTag_open {builder flushed : Builder} (hflush : builder.flush = .ok flushed)
    {raw : List Char} {tag : Tag} (htag : Tag.parse raw flushed.position = .ok tag)
    (hopen : tag.isVoid = false) (name : List Char) :
    builder.step (.startTag name false) raw = .ok (flushed.opened tag raw) := by
  have hnone := pending_flush hflush
  simp only [step, accept, hflush, htag, bind, Except.bind, addTag, hopen, Bool.or_self,
    Bool.false_eq_true, if_false]
  simp only [pure, Except.pure, pass, opened, hnone, Option.map_none]

/-- The end tag of an element adds it to what surrounds it. -/
theorem step_endTag {builder outer : Builder} {tag : Tag} {raw inside : List Char} {nodes : List Node}
    (hflush : builder.flush = .ok ((outer.opened tag raw).grow nodes inside)) (behind : List Char) :
    builder.step (.endTag tag.name) behind =
      .ok (outer.grow [.element tag nodes] (raw ++ inside ++ behind)) := by
  simp only [step, accept, hflush, bind, Except.bind, close, grow, opened, addNodes, closeNamed?,
    if_true, Element.enclose, Element.toNode, List.append_nil, List.nil_append]
  simp only [pure, Except.pure, pass, Position.advance_append]
  cases outer.openElements <;> rfl

end Builder

private theorem tagAt_name {name : List Char} (hname : IsElementName name)
    (attributes : List TemplateAttribute) (position : Position) :
    (tagAt position name attributes).name = name.map Char.toLower := hname.toLower

private theorem IsRun.snoc {run more : List Template} {template : Template} (hrun : IsRun run)
    (hplain : template.isPlain = true) (hvalid : AllValid (run ++ template :: more))
    (hapart : TextsApart (run ++ template :: more)) : IsRun (run ++ [template]) := by
  rw [← List.singleton_append, ← List.append_assoc] at hvalid hapart
  refine ⟨?_, (allValid_append.1 hvalid).1, hapart.of_append_left⟩
  intro written hwritten
  rcases List.mem_append.1 hwritten with hold | hnew
  · exact hrun.plain written hold
  · rwa [List.mem_singleton.1 hnew]

namespace Builder

/-- An element is read behind a run of text, which is made into nodes first. -/
theorem takes_element {first flushed : Builder} (hflush : first.flush = .ok flushed)
    {name : List Char} {attributes : List TemplateAttribute} {closing : Closing}
    {children : List Template} (hvalid : (Template.element name attributes closing children).Valid)
    (hchildren : ∀ {builder : Builder} {rest : List Char}, builder.pending = none →
      builder.inCode = false → AtTag rest →
      builder.Gains (renderAll children) rest (nodesAt builder.position children))
    (rest : List Char) :
    first.Takes (Template.element name attributes closing children).render rest
      (flushed.grow [(Template.element name attributes closing children).nodeAt flushed.position]
        (Template.element name attributes closing children).render) := by
  obtain ⟨hname, hattributes, hfits, _⟩ := hvalid
  have htag := Tag.parse_renderTag hname.isPlainName hattributes closing flushed.position
  have hlower := tagAt_name hname attributes flushed.position
  -- An element without children is its start tag.
  have hclosed : children = [] → closing.behind = [] →
      (closing.isSlash || (tagAt flushed.position name attributes).isVoid) = true →
      first.Takes (Template.element name attributes closing children).render rest
        (flushed.grow [(Template.element name attributes closing children).nodeAt flushed.position]
          (Template.element name attributes closing children).render) := by
    rintro rfl hbehind hclosed
    obtain ⟨lexeme, hnext, htoken, hmode, hsize⟩ :=
      Lexeme.next?_renderTag_markup hname hattributes closing rest
    have hrender : (Template.element name attributes closing []).render =
        renderTag name attributes closing := by
      simp [Template.render, renderAll, hbehind]
    rw [hrender]
    refine .of_step hnext hmode hsize ?_
    rw [htoken]
    exact step_startTag_closed hflush htag hclosed
  cases closing with
  | slash => exact hclosed hfits rfl rfl
  | void =>
    refine hclosed hfits.1 rfl ?_
    simpa [Closing.isSlash, Tag.isVoid, hlower] using hfits.2
  | endTag spelling =>
    obtain ⟨hspelling, hnotVoid⟩ := hfits
    obtain ⟨lexeme, hnext, htoken, hmode, hsize⟩ := Lexeme.next?_renderTag_markup hname hattributes
      (.endTag spelling) (renderAll children ++ ((Closing.endTag spelling).behind ++ rest))
    have hopen : (tagAt flushed.position name attributes).isVoid = false := by
      simpa [Tag.isVoid, hlower] using hnotVoid
    have hstart : first.Takes (renderTag name attributes (.endTag spelling))
        (renderAll children ++ ((Closing.endTag spelling).behind ++ rest))
        (flushed.opened (tagAt flushed.position name attributes)
          (renderTag name attributes (.endTag spelling))) := by
      refine .of_step hnext hmode hsize ?_
      rw [htoken]
      exact step_startTag_open hflush htag hopen _
    have hcodeInside : (flushed.opened (tagAt flushed.position name attributes)
        (renderTag name attributes (.endTag spelling))).inCode = false := by
      simpa [opened, inCode, Tag.isRawText, hlower] using hname.not_code
    have hnone := pending_flush hflush
    have hpending : (flushed.opened (tagAt flushed.position name attributes)
        (renderTag name attributes (.endTag spelling))).pending = none := hnone
    have hbehind : AtTag ((Closing.endTag spelling).behind ++ rest) := .inr ⟨_, rfl⟩
    obtain ⟨inner, hinner, hgrown⟩ := hchildren hpending hcodeInside hbehind
    obtain ⟨lexeme, hnext, htoken, hmode, hsize⟩ := Lexeme.next?_endTag hname hspelling rest
    have hend := Takes.of_step hnext hmode hsize (by
      rw [htoken, ← hlower]
      exact step_endTag hgrown _)
    exact (hstart.trans hinner).trans hend

/-- A run of text that has not been read yet and the trees behind it are read together. -/
theorem gains_all {builder : Builder} (hnone : builder.pending = none)
    (hcode : builder.inCode = false) {run : List Template} (hrun : IsRun run)
    (templates : List Template) (hvalid : AllValid (run ++ templates))
    (hapart : TextsApart (run ++ templates)) {rest : List Char} (hrest : AtTag rest) :
    builder.Gains (renderAll (run ++ templates)) rest
      (nodesAt builder.position (run ++ templates)) := by
  match templates with
  | [] =>
    rw [List.append_nil]
    exact hrun.gains hrest hnone hcode
  | .text value :: more =>
    have hmore := gains_all hnone hcode (hrun.snoc rfl hvalid hapart) more (by simpa using hvalid)
      (by simpa using hapart) hrest
    simpa using hmore
  | .interpolation body :: more =>
    have hmore := gains_all hnone hcode (hrun.snoc rfl hvalid hapart) more (by simpa using hvalid)
      (by simpa using hapart) hrest
    simpa using hmore
  | .element name attributes closing children :: more =>
    have ⟨_, helementValid, hmoreValid⟩ := allValid_append.1 hvalid
    have ⟨_, _, _, hchildrenApart, hchildrenValid⟩ := helementValid
    have hopen : AtTag (renderAll (.element name attributes closing children :: more) ++ rest) :=
      .inr ⟨_, rfl⟩
    obtain ⟨first, hfirst, hflush⟩ := hrun.gains hopen hnone hcode
    have hinside := (inCode_grow builder (nodesAt builder.position run) (renderAll run)).trans hcode
    have hchildren : ∀ {builder : Builder} {rest : List Char}, builder.pending = none →
        builder.inCode = false → AtTag rest →
        builder.Gains (renderAll children) rest (nodesAt builder.position children) :=
      fun hnone hcode hrest => gains_all hnone hcode .nil children hchildrenValid hchildrenApart hrest
    have helement := takes_element hflush helementValid hchildren (renderAll more ++ rest)
    have hbehind := inCode_grow (builder.grow (nodesAt builder.position run) (renderAll run))
      [Template.nodeAt (builder.position.advance (renderAll run))
        (.element name attributes closing children)]
      (Template.element name attributes closing children).render
    obtain ⟨last, hlast, hgrown⟩ := gains_all rfl (hbehind.trans hinside) .nil more hmoreValid
      hapart.of_append_right.tail hrest
    rw [List.nil_append] at hlast hgrown
    refine ⟨last, ?_, ?_⟩
    · rw [renderAll_append]
      exact hfirst.trans (helement.trans hlast)
    · rw [nodesAt_append, renderAll_append, hgrown, grow_grow, grow_grow]
      rfl

end Builder

/-- Reading undoes writing: the nodes of a source that was written from trees are those that the trees
describe. -/
theorem parseTemplate_render {templates : List Template} (hvalid : AllValid templates)
    (hapart : TextsApart templates) :
    parseTemplate (renderAll templates) = .ok ⟨.start, nodesAt .start templates⟩ := by
  have hempty : Builder.empty.pending = none := rfl
  obtain ⟨last, ⟨passages, hreads, hsteps⟩, hflush⟩ :=
    Builder.gains_all hempty rfl .nil templates hvalid hapart (.inl rfl)
  rw [List.nil_append, List.append_nil] at hreads
  rw [List.nil_append] at hflush
  refine parseTemplate_eq_ok_iff.2 ⟨passages, .markup, [], last, _, hreads, rfl, hsteps, hflush, ?_⟩
  simp [Builder.grow, Builder.addNodes, Builder.document, Builder.enclosed, Builder.empty]

/-- An element with a directive, a value full of markup, a name alone, text beside an interpolation,
a void element and one that a slash closes. -/
theorem parseTemplate_render_list :
    let attributes : List TemplateAttribute :=
      [⟨"v-if".toList, some "a < b".toList⟩, ⟨"T".toList, some "<&\"".toList⟩, ⟨"x&".toList, none⟩]
    let templates : List Template :=
      [.element "Ul".toList attributes (.endTag "uL".toList)
        [.text "1 < 2\x7d\n".toList, .interpolation " n ".toList, .element "BR".toList [] .void [],
          .element "my-item".toList [⟨"@y".toList, none⟩] .slash [], .text "&".toList]]
    AllValid templates ∧ TextsApart templates ∧
      renderAll templates = ("<Ul v-if=\"a < b\" T=\"<&amp;&quot;\" x&>1 &lt; 2\x7d\n".toList ++
        "\x7b\x7b n \x7d\x7d<BR><my-item @y />&amp;</uL>".toList) ∧
      parseTemplate (renderAll templates) = .ok ⟨.start, nodesAt .start templates⟩ := by
  intro attributes templates
  have hread : ∀ {source : List Char}, (Expression.parse source).toOption.isSome = true →
      ∃ expression, Expression.parse source = .ok expression := by
    intro source hsome
    cases hparse : Expression.parse source with
    | error error =>
      rw [hparse] at hsome
      cases hsome
    | ok expression => exact ⟨expression, rfl⟩
  have hattributes : ∀ written ∈ attributes, written.Valid := by
    intro written hwritten
    simp only [attributes, List.mem_cons, List.not_mem_nil, or_false] at hwritten
    rcases hwritten with rfl | rfl | rfl
    · refine ⟨by simp, by simp [IsAttributeChar, isBlank, isBlankCode], ?_⟩
      rintro key value - ⟨⟩
      exact hread (by decide +kernel)
    · refine ⟨by simp, by simp [IsAttributeChar, isBlank, isBlankCode], ?_⟩
      rintro key value hkey
      cases hkey
    · exact ⟨by simp, by simp [IsAttributeChar, isBlank, isBlankCode], by rintro key value - ⟨⟩⟩
  have hlist : IsElementName "Ul".toList :=
    ⟨⟨'U', ['l'], rfl, rfl⟩, List.all_eq_true.1 (by decide), by decide⟩
  have hbreak : IsElementName "BR".toList :=
    ⟨⟨'B', ['R'], rfl, rfl⟩, List.all_eq_true.1 (by decide), by decide⟩
  have hitem : IsElementName "my-item".toList :=
    ⟨⟨'m', "y-item".toList, rfl, rfl⟩, List.all_eq_true.1 (by decide), by decide⟩
  have hdirective : ∀ written ∈ [(⟨"@y".toList, none⟩ : TemplateAttribute)], written.Valid := by
    intro written hwritten
    rw [List.mem_singleton.1 hwritten]
    exact ⟨by simp, by simp [IsAttributeChar, isBlank, isBlankCode], by rintro key value - ⟨⟩⟩
  have hvalid : AllValid templates := by
    refine ⟨⟨hlist, hattributes, ⟨by decide, by decide⟩, by simp [TextsApart, Template.isText],
      ⟨by decide, by decide⟩, ⟨by simp, hread (by decide +kernel)⟩, ?_, ?_, ⟨by decide, by decide⟩,
      trivial⟩, trivial⟩
    · exact ⟨hbreak, by simp, ⟨rfl, by decide⟩, trivial, trivial⟩
    · exact ⟨hitem, hdirective, rfl, trivial, trivial⟩
  have hapart : TextsApart templates := trivial
  exact ⟨hvalid, hapart, by decide +kernel, parseTemplate_render hvalid hapart⟩

end BareStrings.Markup
