import BareStrings.Proofs.Markup.Code
import BareStrings.Proofs.Markup.Shift
import BareStrings.Proofs.Markup.Template.Parse

namespace BareStrings.Markup

open BareStrings.Text

/-- A script or a style sheet: the name and the attributes of its start tag, its body, and its end tag. -/
structure CodeBlock where
  name : List Char
  attributes : List TemplateAttribute
  body : List Char
  ending : List Char

namespace CodeBlock

/-- The name in lower case. -/
def kind (block : CodeBlock) : List Char := block.name.map Char.toLower

/-- The start tag. -/
def opening (block : CodeBlock) : List Char :=
  '<' :: block.name ++ renderAttributes block.attributes ++ ['>']

/-- The block as it stands in a source. -/
def render (block : CodeBlock) : List Char := block.opening ++ block.body ++ block.ending

/-- What the start tag says, if it is written at this place. -/
def tag (block : CodeBlock) (position : Position) : Tag := tagAt position block.name block.attributes

/-- A block of code whose body does not hold its end. -/
structure Valid (block : CodeBlock) : Prop where
  kind_code : block.kind ∈ rawTextNames
  attributes_valid : ∀ written ∈ block.attributes, written.Valid
  body_free : ∀ tag, tag <:+: block.body → ¬IsCodeEnd block.kind tag
  ending_isEnd : IsCodeEnd block.kind block.ending

end CodeBlock

namespace Builder

/-- Where no text waits, moving on behind a passage adds nothing but its characters. -/
theorem pass_eq_grow {builder : Builder} (hnone : builder.pending = none) (raw : List Char) :
    builder.pass raw = builder.grow [] raw := by
  obtain ⟨children, openElements, pending, position⟩ := builder
  cases hnone
  cases openElements <;> simp [pass, grow, addNodes, Element.enclose]

/-- In code, data only moves the place reached. -/
theorem steps_data {builder : Builder} (hcode : builder.inCode = true) (hnone : builder.pending = none)
    {passages : List Passage} (hdata : ∀ passage ∈ passages, passage.token = .data) :
    builder.steps passages = .ok (builder.grow [] (Passage.rawOf passages)) := by
  induction passages generalizing builder with
  | nil => rw [Passage.rawOf_nil, grow_nil hnone, steps_nil]
  | cons passage passages ih =>
    have hbegin : builder.beginText = builder := if_pos hcode
    have hstep : builder.step passage.token passage.raw = .ok (builder.grow [] passage.raw) := by
      rw [hdata passage List.mem_cons_self, ← pass_eq_grow hnone]
      exact congrArg (fun begun : Builder => Except.ok (begun.pass passage.raw)) hbegin
    rw [steps_cons, hstep, Passage.rawOf_cons]
    have hlater := ih ((inCode_grow builder [] passage.raw).trans hcode) rfl
      fun later hlater => hdata later (List.mem_cons_of_mem _ hlater)
    rw [grow_grow] at hlater
    exact hlater

end Builder

namespace CodeBlock.Valid

variable {block : CodeBlock} (hvalid : block.Valid)

include hvalid

/-- The name of an element of code is a plain name. -/
private theorem isPlainName : IsPlainName block.name := by
  have halpha := Lexeme.isAlpha_of_spelling hvalid.kind_code rfl
  have hne : block.name ≠ [] := by
    intro hnil
    have hcode := hvalid.kind_code
    rw [kind, hnil] at hcode
    exact absurd hcode (by decide)
  obtain ⟨c, rest, hname⟩ := List.exists_cons_of_ne_nil hne
  refine ⟨⟨c, rest, hname, halpha c (by simp [hname])⟩, fun d hd => ?_, fun d hd => ?_⟩
  · exact Lexeme.isTagNameChar_of_isAlpha (halpha d hd)
  · exact isBlank_of_isAlpha (halpha d hd)

private theorem toLower_name : Unicode.toLower block.name = block.kind :=
  Unicode.toLower_ascii (Lexeme.ascii_of_spelling hvalid.kind_code rfl)

/-- The element of a block is no void one and no template, and holds code. -/
theorem tag_kind (position : Position) :
    (block.tag position).name = block.kind ∧ (block.tag position).isVoid = false ∧
      (block.tag position).isRawText = true ∧ (block.tag position).name ≠ "template".toList := by
  have hname : (block.tag position).name = block.kind := hvalid.toLower_name
  have hkinds : ∀ kind ∈ rawTextNames,
      voidNames.contains kind = false ∧ rawTextNames.contains kind = true ∧ kind ≠ "template".toList := by
    decide
  rw [Tag.isVoid, Tag.isRawText, hname]
  exact ⟨rfl, hkinds block.kind hvalid.kind_code⟩

/-- The start tag is read as one lexeme, and code follows it. -/
theorem next?_opening (rest : List Char) :
    ∃ lexeme, Lexeme.next? true .markup (block.opening ++ rest) = .ok (some lexeme) ∧
      lexeme.token = .startTag block.kind false ∧ lexeme.mode = .rawText block.kind ∧
      lexeme.size = block.opening.length := by
  obtain ⟨lexeme, hnext, htoken, hmode, hsize⟩ := Lexeme.next?_renderTag hvalid.isPlainName
    hvalid.attributes_valid (.endTag block.name) rest
  have hcode : rawTextNames.contains block.kind = true := by simpa using hvalid.kind_code
  rw [hvalid.toLower_name] at htoken hmode
  rw [hcode] at hmode
  exact ⟨lexeme, hnext, htoken, hmode, hsize⟩

private theorem parse_opening (position : Position) :
    Tag.parse block.opening position = .ok (block.tag position) :=
  Tag.parse_renderTag hvalid.isPlainName hvalid.attributes_valid (.endTag block.name) position

/-- A block is read as an element without children, and nothing of it is left open. -/
theorem takes {first flushed : Builder} (hflush : first.flush = .ok flushed) (rest : List Char) :
    first.Takes block.render rest
      (flushed.grow [.element (block.tag flushed.position) []] block.render) := by
  obtain ⟨hname, hnotVoid, hcode, -⟩ := hvalid.tag_kind flushed.position
  obtain ⟨start, hstart, hstartToken, hstartMode, hstartSize⟩ :=
    hvalid.next?_opening (block.body ++ (block.ending ++ rest))
  obtain ⟨data, hbody, hdata⟩ :=
    Lexeme.reads_body hvalid.kind_code hvalid.ending_isEnd hvalid.body_free rest
  obtain ⟨last, hlast, hlastToken, hlastMode, hlastSize⟩ :=
    Lexeme.next?_ending hvalid.kind_code hvalid.ending_isEnd rest
  have hrawOf : Passage.rawOf data = block.body := (List.append_cancel_right hbody.text_eq).symm
  have hstartReads := Reads.of_next? hstart hstartSize
  have hlastReads := Reads.of_next? hlast hlastSize
  rw [hstartMode] at hstartReads
  rw [hlastMode] at hlastReads
  have hopen : first.step start.token block.opening =
      .ok (flushed.opened (block.tag flushed.position) block.opening) := by
    rw [hstartToken]
    exact Builder.step_startTag_open hflush (hvalid.parse_opening flushed.position) hnotVoid block.kind
  have hnone := Builder.pending_flush hflush
  have hinCode : (flushed.opened (block.tag flushed.position) block.opening).inCode = true := hcode
  have hinside : (flushed.opened (block.tag flushed.position) block.opening).steps data =
      .ok ((flushed.opened (block.tag flushed.position) block.opening).grow [] block.body) := by
    rw [← hrawOf]
    exact Builder.steps_data hinCode hnone hdata
  have hclose : ((flushed.opened (block.tag flushed.position) block.opening).grow [] block.body).step
      last.token block.ending =
      .ok (flushed.grow [.element (block.tag flushed.position) []] block.render) := by
    rw [hlastToken, ← hname]
    exact Builder.step_endTag rfl block.ending
  refine ⟨[⟨start.token, block.opening⟩] ++ (data ++ [⟨last.token, block.ending⟩]), ?_, ?_⟩
  · have hreads := hstartReads.append (hbody.append hlastReads)
    simpa [render] using hreads
  · simp only [Builder.steps_append, Builder.steps_cons, Builder.steps_nil, hopen, hinside, hclose, bind,
      Except.bind]

end CodeBlock.Valid

/-- Code is opaque: whatever its body holds, the block becomes one element without children, and what
follows it is read as if it stood alone, with all places shifted by the block. -/
theorem CodeBlock.parseTemplate_render_append {block : CodeBlock} (hvalid : block.Valid)
    {rest : List Char} {document : Document} (hrest : parseTemplate rest = .ok document) :
    parseTemplate (block.render ++ rest) =
        .ok ⟨.start, .element (block.tag .start) [] ::
          shiftNodes (Position.start.advance block.render) document.children⟩ ∧
      ∃ component, parseComponent rest = .ok component ∧
        parseComponent (block.render ++ rest) =
          .ok (component.map (·.shift (Position.start.advance block.render))) := by
  have hempty : Builder.empty.flush = .ok .empty := rfl
  have htemplate := parseTemplate_append (hvalid.takes hempty rest) hrest
  obtain ⟨-, -, -, hother⟩ := hvalid.tag_kind .start
  refine ⟨htemplate, templateBlock? document.children, ?_, ?_⟩
  · rw [parseComponent, hrest]
    rfl
  · have hfirst : ∀ nodes, templateBlock? (.element (block.tag .start) [] :: nodes) = templateBlock? nodes := by
      intro nodes
      simp only [templateBlock?, firstTemplate?, if_neg hother]
    rw [parseComponent, htemplate, ← templateBlock?_shift, ← hfirst]
    rfl

/-- A script with quotes, tags, a comment, an interpolation and ends of other elements in its body, before
a template that begins on the same line. -/
theorem CodeBlock.parseTemplate_render_append_script :
    let block : CodeBlock :=
      ⟨"Script".toList, [⟨"lang".toList, some "<ts>".toList⟩],
        "\nlet a = '</' + \"<div>\" // <!-- \x7b\x7b a\n</style></scripts></\u017Fcript>".toList,
        "</ scRIPT\n>".toList⟩
    let rest := "<Template><p t=\"b\">c</p>\n<br></Template>".toList
    block.Valid ∧
      block.render = ("<Script lang=\"<ts>\">\nlet a = '</' + \"<div>\" // <!-- \x7b\x7b a\n".toList ++
        "</style></scripts></\u017Fcript></ scRIPT\n>".toList) ∧
      ∃ document, parseTemplate rest = .ok document ∧
        parseTemplate (block.render ++ rest) =
          .ok ⟨.start, .element (block.tag .start) [] :: shiftNodes ⟨4, 1⟩ document.children⟩ ∧
        nodesParts (shiftNodes ⟨4, 1⟩ document.children) =
          [.startTag ⟨"Template".toList, ⟨4, 1⟩, []⟩,
            .startTag ⟨"p".toList, ⟨4, 11⟩, [.plain "t".toList (some ⟨"b".toList, ⟨4, 16⟩⟩) ⟨4, 14⟩]⟩,
            .text "c".toList ⟨4, 20⟩, .text "\n".toList ⟨4, 25⟩, .startTag ⟨"br".toList, ⟨5, 0⟩, []⟩] ∧
        ∃ component, parseComponent rest = .ok (some component) ∧
          parseComponent (block.render ++ rest) = .ok (some (component.shift ⟨4, 1⟩)) := by
  intro block rest
  have hattributes : ∀ written ∈ block.attributes, written.Valid := by
    intro written hwritten
    rw [List.mem_singleton.1 hwritten]
    refine ⟨by simp, by simp [IsAttributeChar, isBlank, isBlankCode], ?_⟩
    rintro key value hkey
    cases hkey
  have hvalid : block.Valid := by
    refine ⟨by decide, hattributes, ?_, "scRIPT".toList, by decide, [' '], ['\n'], ?_, ?_, by decide⟩
    · rw [Lexeme.forall_not_isCodeEnd_iff (by decide)]
      decide +kernel
    · simp [isBlank, isBlankCode]
    · simp [isBlank, isBlankCode]
  have hread : (parseTemplate rest).toOption.map (fun document =>
      (nodesParts (shiftNodes ⟨4, 1⟩ document.children), (templateBlock? document.children).isSome)) =
      some ([.startTag ⟨"Template".toList, ⟨4, 1⟩, []⟩,
        .startTag ⟨"p".toList, ⟨4, 11⟩, [.plain "t".toList (some ⟨"b".toList, ⟨4, 16⟩⟩) ⟨4, 14⟩]⟩,
        .text "c".toList ⟨4, 20⟩, .text "\n".toList ⟨4, 25⟩, .startTag ⟨"br".toList, ⟨5, 0⟩, []⟩],
        true) := by decide +kernel
  cases hparse : parseTemplate rest with
  | error error =>
    rw [hparse] at hread
    cases hread
  | ok document =>
    rw [hparse] at hread
    obtain ⟨hparts, hsome⟩ := Prod.mk.inj (Option.some.inj hread)
    have horigin : Position.start.advance block.render = ⟨4, 1⟩ := by decide +kernel
    obtain ⟨htemplate, found, hfound, hshifted⟩ := CodeBlock.parseTemplate_render_append hvalid hparse
    rw [horigin] at htemplate hshifted
    have hblock : parseComponent rest = .ok (templateBlock? document.children) := by
      rw [parseComponent, hparse]
      rfl
    obtain ⟨component, hcomponent⟩ := Option.isSome_iff_exists.1 hsome
    obtain rfl := Except.ok.inj (hfound.symm.trans hblock)
    rw [hcomponent] at hfound hshifted
    exact ⟨hvalid, by decide +kernel, document, rfl, htemplate, hparts, component, hfound, hshifted⟩

end BareStrings.Markup
