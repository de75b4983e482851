import BareStrings.Proofs.Markup.Growth

namespace BareStrings.Markup

open BareStrings.Text Relation

namespace Builder

/-- What the steps of a builder keep: void elements are empty and never open, and in code no text is
unfinished. -/
structure Sound (builder : Builder) : Prop where
  void : AllVoidEmpty builder.site.nodes ∧ ∀ element ∈ builder.site.opened, element.tag.isVoid = false
  code : builder.inCode = true → builder.pending = none

namespace Sound

variable {builder next : Builder}

/-- Before anything is read nothing is open. -/
theorem empty : Sound .empty :=
  ⟨⟨allVoidEmpty_nil, fun _ hmem => nomatch hmem⟩, fun _ => rfl⟩

private theorem flush (hsound : builder.Sound) (hflush : builder.flush = .ok next) : next.Sound :=
  ⟨voidEmpty_of_edits (edits_flush hflush) hsound.void, fun _ => pending_flush hflush⟩

/-- In code no text begins. -/
theorem beginText (hsound : builder.Sound) : builder.beginText.Sound := by
  refine ⟨by rw [site_beginText]; exact hsound.void, fun hcode => ?_⟩
  unfold Builder.beginText at hcode ⊢
  split
  · rename_i hinside
    exact hsound.code hinside
  · rename_i houtside
    rw [if_neg houtside] at hcode
    exact absurd hcode houtside

/-- A sound builder stays sound whatever token it takes in. -/
private theorem step (hsound : builder.Sound) {token : Token} {raw : List Char}
    (hstep : builder.step token raw = .ok next) : next.Sound := by
  refine ⟨voidEmpty_of_edits (edits_step hstep) hsound.void, ?_⟩
  have hpass : ∀ {builder : Builder}, builder.pending = none → (builder.pass raw).pending = none := by
    intro builder hnone
    simp [pass, hnone]
  obtain ⟨_, rfl⟩ | ⟨_, rfl⟩ | ⟨flushed, hflush, hnext⟩ := step_cases hstep
  · exact fun hcode => hpass (hsound.beginText.code hcode)
  · exact fun hcode => hpass (hsound.code hcode)
  · have hnone := pending_flush hflush
    obtain ⟨_, _, _, _, _, rfl⟩ | ⟨_, _, rfl⟩ | ⟨_, rfl⟩ := hnext
    · exact fun _ => hpass ((pending_addTag _ _ _).trans hnone)
    · exact fun _ => hpass ((pending_close _ _).trans hnone)
    · exact fun _ => hpass hnone

end Sound

/-- The open elements of a tree under construction. -/
structure Nested (builder : Builder) : Prop where
  isSpine : IsSpine builder.document.children builder.spine
  not_void : ∀ element ∈ builder.spine, element.tag.isVoid = false
  void_empty : ∀ place tag children,
    nodeAt? builder.document.children place = some (.element tag children) → tag.isVoid = true →
      children = []
  code_not_pending : ∀ element, builder.spine.getLast? = some element → element.tag.isRawText = true →
    builder.pending = none

/-- In a sound builder each open element lies inside the one that was opened before it. -/
private theorem Sound.nested {builder : Builder} (hsound : builder.Sound) : builder.Nested := by
  refine ⟨?_, ?_, ?_, ?_⟩
  · rw [children_document]
    exact builder.site.isSpine
  · rw [forall_mem_spine (p := fun tag => tag.isVoid = false)]
    simpa [site] using hsound.void.2
  · intro place tag children hnode hvoid
    rw [children_document] at hnode
    exact (voidEmpty_nodeAt? hsound.void.1 hnode).1 hvoid
  · intro element hlast hcode
    have htag := congrArg (Option.map (·.tag)) hlast
    rw [← List.getLast?_map, map_tag_spine, List.getLast?_reverse, openTags, List.head?_map] at htag
    refine hsound.code ?_
    obtain ⟨innermost, hinnermost, heq⟩ := Option.map_eq_some_iff.1 htag
    simp only at heq
    rw [inCode, hinnermost, Option.any_some, heq, hcode]

end Builder

namespace Reader

/-- A step of a reader: more of the source comes, a lexeme is told and taken in, or the source ends and its
last text is made into nodes. -/
inductive Step : Reader → Reader → Prop
  | chunk (reader : Reader) (more : List Char) :
      Step reader { reader with unread := reader.unread ++ more }
  | lexeme {final : Bool} {reader : Reader} {lexeme : Lexeme} {next : Builder}
      (hnext : Lexeme.next? final reader.mode reader.unread = .ok (some lexeme))
      (hstep : reader.builder.step lexeme.token (reader.unread.take lexeme.size) = .ok next) :
      Step reader ⟨next, lexeme.mode, reader.unread.drop lexeme.size⟩
  | last {reader : Reader} {flushed : Builder} (hflush : reader.builder.flush = .ok flushed) :
      Step reader { reader with builder := flushed }

/-- Some steps lead from one state to another. -/
def ComesTo (reader later : Reader) : Prop := ReflTransGen Step reader later

/-- A run comes from its builder to its result step by step. -/
private theorem comesTo_run {final : Bool} {builder : Builder} {mode : Mode} {text : List Char}
    {next : Reader} (hrun : run final builder mode text = .ok next) : ComesTo ⟨builder, mode, text⟩ next := by
  fun_induction run final builder mode text with
  | case1 =>
    cases hrun
    exact .refl
  | case2 => cases hrun
  | case3 =>
    cases hrun
    exact .refl
  | case4 => cases hrun
  | case5 builder mode c rest lexeme hnext next hstep ih =>
    have hfirst : Step ⟨builder, mode, c :: rest⟩ ⟨next, lexeme.mode, (c :: rest).drop lexeme.size⟩ :=
      .lexeme hnext hstep
    exact .head hfirst (ih hrun)

/-- What a chunk leads to is a state that its steps lead to. -/
theorem comesTo_feed {reader next : Reader} {chunk : List Char} (hfeed : reader.feed chunk = .ok next) :
    reader.ComesTo next := .head (.chunk reader chunk) (comesTo_run hfeed)

private theorem comesTo_finish {reader : Reader} {builder : Builder} (hfinish : reader.finish = .ok builder) :
    ∃ last, reader.ComesTo last ∧ last.builder = builder := by
  rw [finish, bind_eq_ok_iff] at hfinish
  obtain ⟨next, hrun, hflush⟩ := hfinish
  exact ⟨_, (comesTo_run hrun).tail (.last hflush), rfl⟩

private theorem Step.edits {reader next : Reader} (hstep : Step reader next) :
    ReflTransGen Edit reader.builder.site next.builder.site := by
  cases hstep with
  | chunk => exact .refl
  | lexeme _ hstep => exact Builder.edits_step hstep
  | last hflush => exact Builder.edits_flush hflush

private theorem Step.sound {reader next : Reader} (hstep : Step reader next) (hsound : reader.builder.Sound) :
    next.builder.Sound := by
  cases hstep with
  | chunk => exact hsound
  | lexeme _ hstep => exact hsound.step hstep
  | last hflush => exact hsound.flush hflush

/-- A sound reader stays sound along every later run. -/
theorem ComesTo.sound {reader later : Reader} (hcomes : reader.ComesTo later)
    (hsound : reader.builder.Sound) : later.builder.Sound := by
  induction hcomes with
  | refl => exact hsound
  | tail _ hstep ih => exact hstep.sound ih

/-- The nodes of a tree grow along its open elements to those of every later state. -/
theorem ComesTo.grows {reader later : Reader} (hcomes : reader.ComesTo later) :
    Grows reader.builder.spine reader.builder.document.children later.builder.document.children := by
  rw [Builder.children_document, Builder.children_document]
  induction hcomes using ReflTransGen.head_induction_on with
  | refl => exact .refl _ _
  | head hstep _ ih => exact .of_edits hstep.edits ih

/-- An element that its start tag closes, or that is void, stays as it is added: nothing comes inside. -/
theorem exists_place_of_closed {builder flushed next : Builder} {name raw : List Char} {selfClosing : Bool}
    {tag : Tag} (hflush : builder.flush = .ok flushed)
    (htag : Tag.parse raw flushed.position = .ok tag) (hclosed : (selfClosing || tag.isVoid) = true)
    (hstep : builder.step (.startTag name selfClosing) raw = .ok next) :
    ∃ place, nodeAt? flushed.document.children place = none ∧
      ∀ mode unread later, ComesTo ⟨next, mode, unread⟩ later →
        nodeAt? later.builder.document.children place = some (.element tag []) := by
  have hnext : next = (flushed.addNodes [.element tag []]).pass raw := by
    simp only [Builder.step, Builder.accept, hflush, htag, bind, Except.bind, Builder.addTag, hclosed,
      if_true] at hstep
    exact (Except.ok.inj hstep).symm
  obtain ⟨place, hadds⟩ := flushed.exists_adds (.element tag [])
  refine ⟨place, ?_, fun mode unread later hlater => hadds.stays ?_⟩
  · rw [Builder.children_document]
    exact hadds.fresh
  · have hgrows := hlater.grows
    rw [hnext, Builder.children_document] at hgrows
    exact hgrows

/-- Feeding a chunk and finishing are steps. In every state that steps lead to from the beginning, the open
elements are nested as they are in the tree, the tree only grows from there on, an end tag closes the
innermost open element of its name in lower case, and what a start tag adds without opening it stays empty. -/
theorem states_nested :
    (∀ reader chunk next, feed reader chunk = .ok next → reader.ComesTo next) ∧
      (∀ reader builder, finish reader = .ok builder →
        ∃ last, reader.ComesTo last ∧ last.builder = builder) ∧
      ∀ reader, empty.ComesTo reader →
        reader.builder.Nested ∧
        (∀ later, reader.ComesTo later → Grows reader.builder.spine reader.builder.document.children
          later.builder.document.children) ∧
        (∀ final lexeme name, Lexeme.next? final reader.mode reader.unread = .ok (some lexeme) →
          lexeme.token = .endTag name →
            ∃ blanks spelled behind, reader.unread.drop 2 = blanks ++ (spelled ++ behind) ∧
              (∀ c ∈ blanks, isBlank c = true) ∧ name = Unicode.toLower spelled) ∧
        (∀ name raw next, reader.builder.step (.endTag name) raw = .ok next →
          ∃ flushed, reader.builder.flush = .ok flushed ∧
            flushed.spine.map (·.tag) = reader.builder.spine.map (·.tag) ∧
            flushed.ClosedBy name next) ∧
        ∀ name selfClosing raw next, reader.builder.step (.startTag name selfClosing) raw = .ok next →
          ∃ flushed tag, reader.builder.flush = .ok flushed ∧
            Tag.parse raw flushed.position = .ok tag ∧
            ((selfClosing || tag.isVoid) = true →
              ∃ place, nodeAt? flushed.document.children place = none ∧
                ∀ mode unread later, ComesTo ⟨next, mode, unread⟩ later →
                  nodeAt? later.builder.document.children place = some (.element tag [])) := by
  refine ⟨fun _ _ _ => comesTo_feed, fun _ _ => comesTo_finish, fun reader hreached =>
    ⟨(hreached.sound .empty).nested, fun _ hlater => hlater.grows,
      fun _ _ _ hnext htoken => Lexeme.exists_spelled_endTag hnext htoken, ?_, ?_⟩⟩
  · intro name raw next hstep
    obtain ⟨hdata, _⟩ | ⟨hskipped, _⟩ | ⟨flushed, hflush, hnext⟩ := Builder.step_cases hstep
    · cases hdata
    · cases hskipped
    · refine ⟨flushed, hflush, ?_, ?_⟩
      · rw [Builder.map_tag_spine, Builder.map_tag_spine, Builder.openTags_flush hflush]
      · obtain ⟨_, _, _, hstart, _⟩ | ⟨_, hend, rfl⟩ | ⟨haside, _⟩ := hnext
        · cases hstart
        · cases hend
          obtain ⟨hdocument, hinnermost, hstray⟩ := flushed.closedBy_close name
          exact ⟨hdocument, hinnermost, hstray⟩
        · cases haside
  · intro name selfClosing raw next hstep
    obtain ⟨hdata, _⟩ | ⟨hskipped, _⟩ | ⟨flushed, hflush, hnext⟩ := Builder.step_cases hstep
    · cases hdata
    · cases hskipped
    · obtain ⟨_, _, tag, hstart, htag, _⟩ | ⟨_, hend, _⟩ | ⟨haside, _⟩ := hnext
      · cases hstart
        exact ⟨flushed, tag, hflush, htag, fun hclosed => exists_place_of_closed hflush htag hclosed hstep⟩
      · cases hend
      · cases haside

/-- A list whose item is open, behind a void element and one that closes itself: the end tag of the list
closes both, and changes nothing in the tree but that the text becomes a node. -/
theorem states_nested_list :
    ∃ reader next, empty.feed "<Ul><li>a<bR><i/>b".toList = .ok reader ∧
      reader.builder.step (.endTag "ul".toList) "</UL>".toList = .ok next ∧
      reader.builder.spine.map (·.tag.name) = ["ul".toList, "li".toList] ∧ next.spine = [] ∧
      reader.builder.Nested ∧
      ∃ flushed, reader.builder.flush = .ok flushed ∧ next.document = flushed.document ∧
        Grows reader.builder.spine reader.builder.document.children next.document.children := by
  have hread : (do
      let reader ← empty.feed "<Ul><li>a<bR><i/>b".toList
      let next ← reader.builder.step (.endTag "ul".toList) "</UL>".toList
      return (reader.builder.spine.map (·.tag.name), next.spine.length) : Except MarkupError _) =
        .ok (["ul".toList, "li".toList], 0) := by
    decide +kernel
  obtain ⟨reader, hfeed, hread⟩ := bind_eq_ok_iff.1 hread
  obtain ⟨next, hstep, hnames⟩ := bind_eq_ok_iff.1 hread
  obtain ⟨hnames, hlength⟩ := Prod.mk.inj (Except.ok.inj hnames)
  obtain ⟨hcomes, _, hstates⟩ := states_nested
  obtain ⟨hnested, hgrows, _, hend, _⟩ := hstates reader (hcomes _ _ _ hfeed)
  obtain ⟨flushed, hflush, _, hclosed⟩ := hend _ _ _ hstep
  refine ⟨reader, next, hfeed, hstep, hnames, List.length_eq_zero_iff.1 hlength, hnested, flushed, hflush,
    hclosed.document_eq, ?_⟩
  rw [hclosed.document_eq]
  exact hgrows { reader with builder := flushed } (.single (.last hflush))

end Reader

end BareStrings.Markup
