import BareStrings.Proofs.Markup.Place

namespace BareStrings.Markup

open BareStrings.Text

namespace Builder

/-- Where the parts of the tree so far end: at the unfinished text, or else at the place reached. -/
def frontier (builder : Builder) : Position := (builder.pending.map (·.1)).getD builder.position

private theorem frontier_of_none {builder : Builder} (hnone : builder.pending = none) :
    builder.frontier = builder.position := by
  simp [frontier, hnone]

private theorem frontier_of_some {builder : Builder} {start : Position} {raw : List Char}
    (hsome : builder.pending = some (start, raw)) : builder.frontier = start := by
  simp [frontier, hsome]

/-- A builder that has passed over `source` is true to it: unfinished text ends that source, and all
parts stand in it, one behind another and before the unfinished text. -/
structure TrueTo (builder : Builder) (source : List Char) : Prop where
  position_eq : builder.position = Position.start.advance source
  pending_stands : ∀ start raw, builder.pending = some (start, raw) →
    ∃ before, source = before ++ raw ∧ start = Position.start.advance before
  parts_stand : ∀ part ∈ builder.parts, part.StandsIn source
  parts_ascend : Ascending .start builder.frontier (builder.parts.flatMap Part.places)

namespace TrueTo

variable {builder : Builder} {source : List Char}

/-- The builder is true to the empty source before anything is read. -/
theorem empty : TrueTo .empty [] := ⟨rfl, by rintro _ _ ⟨⟩, by rintro _ ⟨⟩, .nil⟩

/-- Nodes of unfinished text stand where the text does. -/
theorem flush (htrue : builder.TrueTo source) {flushed : Builder}
    (hflush : builder.flush = .ok flushed) : flushed.TrueTo source := by
  obtain ⟨_, rfl⟩ | ⟨start, raw, nodes, hpending, hnodes, rfl⟩ := flush_cases hflush
  · exact htrue
  · obtain ⟨before, hsource, hstart⟩ := htrue.pending_stands start raw hpending
    obtain ⟨hascend, hstand⟩ := textNodes_stands hnodes
    have hposition : builder.position = start.advance raw := by
      rw [htrue.position_eq, hsource, hstart, Position.advance_append]
    have hparts : ({ builder.addNodes nodes with pending := none } : Builder).parts =
        builder.parts ++ nodesParts nodes := parts_addNodes builder nodes
    refine ⟨(position_addNodes builder nodes).trans htrue.position_eq, by rintro _ _ ⟨⟩, ?_, ?_⟩
    · rw [hparts]
      intro part hpart
      rcases List.mem_append.1 hpart with hold | hnew
      · exact htrue.parts_stand part hold
      · exact hstand source ⟨before, [], by simpa using hsource, hstart⟩ part hnew
    · have hbefore := htrue.parts_ascend
      rw [frontier_of_some hpending] at hbefore
      rw [frontier_of_none rfl, hparts, List.flatMap_append]
      change Ascending .start (builder.addNodes nodes).position _
      rw [position_addNodes, hposition]
      refine hbefore.append hascend ?_ (Position.le_advance start raw)
      rw [hstart]
      exact Position.le_advance .start before

/-- Source that makes no part is passed over, and taken into unfinished text. -/
theorem pass (htrue : builder.TrueTo source) (raw : List Char) :
    (builder.pass raw).TrueTo (source ++ raw) := by
  refine ⟨?_, ?_, ?_, ?_⟩
  · rw [Position.advance_append, ← htrue.position_eq]
    rfl
  · intro start text hpending
    obtain ⟨⟨first, old⟩, hold, heq⟩ := Option.map_eq_some_iff.1 hpending
    cases heq
    obtain ⟨before, hsource, hstart⟩ := htrue.pending_stands _ old hold
    exact ⟨before, by rw [hsource, List.append_assoc], hstart⟩
  · rw [parts_pass]
    exact fun part hpart => (htrue.parts_stand part hpart).extend raw
  · have hbefore := htrue.parts_ascend
    rw [parts_pass]
    cases hpending : builder.pending with
    | none =>
      have hnone : (builder.pass raw).pending = none := by simp [Builder.pass, hpending]
      rw [frontier_of_none hpending] at hbefore
      rw [frontier_of_none hnone]
      exact hbefore.widen (Position.le_advance builder.position raw)
    | some text =>
      have hsome : (builder.pass raw).pending = some (text.1, text.2 ++ raw) := by
        simp [Builder.pass, hpending]
      rw [frontier_of_some hpending] at hbefore
      rwa [frontier_of_some hsome]

/-- A builder stays true to a source where a text begins. -/
theorem beginText (htrue : builder.TrueTo source) : builder.beginText.TrueTo source := by
  refine ⟨(position_beginText builder).trans htrue.position_eq, ?_, ?_, ?_⟩
  · intro start raw hpending
    unfold Builder.beginText at hpending
    split at hpending
    · exact htrue.pending_stands start raw hpending
    · rcases Option.or_eq_some_iff.1 hpending with hold | ⟨_, hnew⟩
      · exact htrue.pending_stands start raw hold
      · cases hnew
        exact ⟨source, (List.append_nil source).symm, htrue.position_eq⟩
  · rw [parts_beginText]
    exact htrue.parts_stand
  · have hfrontier : builder.beginText.frontier = builder.frontier := by
      unfold Builder.beginText frontier
      split
      · rfl
      · cases builder.pending <;> rfl
    rw [parts_beginText, hfrontier]
    exact htrue.parts_ascend

/-- A builder stays true to a source where an element closes. -/
theorem close (htrue : builder.TrueTo source) (name : List Char) :
    (builder.close name).TrueTo source := by
  have hfrontier : (builder.close name).frontier = builder.frontier := by
    rw [frontier, pending_close, position_close, frontier]
  refine ⟨(position_close builder name).trans htrue.position_eq, ?_, ?_, ?_⟩
  · rw [pending_close]
    exact htrue.pending_stands
  · rw [parts_close]
    exact htrue.parts_stand
  · rw [hfrontier, parts_close]
    exact htrue.parts_ascend

/-- A start tag is added at the place reached and passed over. -/
theorem addTag (htrue : builder.TrueTo source) (hnone : builder.pending = none) {raw : List Char}
    (hopen : ∃ c rest, raw = '<' :: c :: rest ∧ c.isAlpha = true) {tag : Tag}
    (htag : Tag.parse raw builder.position = .ok tag) (selfClosing : Bool) :
    ((builder.addTag tag selfClosing).pass raw).TrueTo (source ++ raw) := by
  obtain ⟨hascend, hstand⟩ := Tag.parse_stands hopen htag
  have hparts : ((builder.addTag tag selfClosing).pass raw).parts =
      builder.parts ++ [.startTag tag] := by
    rw [parts_pass, parts_addTag]
  have hpending : ((builder.addTag tag selfClosing).pass raw).pending = none := by
    simp [Builder.pass, pending_addTag, hnone]
  have hposition : ((builder.addTag tag selfClosing).pass raw).position =
      builder.position.advance raw := by
    simp [Builder.pass, position_addTag]
  refine ⟨?_, ?_, ?_, ?_⟩
  · rw [hposition, htrue.position_eq, Position.advance_append]
  · rw [hpending]
    rintro _ _ ⟨⟩
  · rw [hparts]
    intro part hpart
    rcases List.mem_append.1 hpart with hold | hnew
    · exact (htrue.parts_stand part hold).extend raw
    · rw [List.mem_singleton.1 hnew]
      exact hstand _ ⟨source, [], by simp, htrue.position_eq⟩
  · have hbefore := htrue.parts_ascend
    rw [frontier_of_none hnone] at hbefore
    rw [hparts, frontier_of_none hpending, hposition, List.flatMap_append, List.flatMap_singleton]
    refine hbefore.append hascend ?_ (Position.le_advance builder.position raw)
    rw [htrue.position_eq]
    exact Position.le_advance .start source

/-- A passage keeps the builder true to what has been read. -/
theorem step (htrue : builder.TrueTo source) {passage : Passage} (hsound : passage.Sound)
    {next : Builder} (hstep : builder.step passage.token passage.raw = .ok next) :
    next.TrueTo (source ++ passage.raw) := by
  obtain ⟨_, rfl⟩ | ⟨_, rfl⟩ | ⟨flushed, hflush, hnext⟩ := step_cases hstep
  · exact htrue.beginText.pass passage.raw
  · exact htrue.pass passage.raw
  · have hflushed := htrue.flush hflush
    rcases hnext with ⟨name, selfClosing, tag, htoken, htag, rfl⟩ | ⟨name, _, rfl⟩ | ⟨_, rfl⟩
    · exact hflushed.addTag (pending_flush hflush) (hsound.startTag name selfClosing htoken) htag _
    · exact (hflushed.close name).pass passage.raw
    · exact hflushed.pass passage.raw

/-- Taking in passages leaves a builder true to the source with their characters at its end. -/
theorem steps {passages : List Passage} (htrue : builder.TrueTo source)
    (hsound : ∀ passage ∈ passages, passage.Sound) {last : Builder}
    (hsteps : builder.steps passages = .ok last) :
    last.TrueTo (source ++ Passage.rawOf passages) := by
  induction passages generalizing builder source with
  | nil =>
    cases hsteps
    simpa using htrue
  | cons passage passages ih =>
    rw [steps_cons, bind_eq_ok_iff] at hsteps
    obtain ⟨next, hstep, hsteps⟩ := hsteps
    have hnext := htrue.step (hsound passage List.mem_cons_self) hstep
    have hlast := ih hnext (fun later hlater => hsound later (List.mem_cons_of_mem _ hlater)) hsteps
    rwa [Passage.rawOf_cons, ← List.append_assoc]

end TrueTo

end Builder

namespace Reader

/-- A reader is true to a source when its tree is true to all that it has read of it. -/
def TrueTo (reader : Reader) (source : List Char) : Prop :=
  ∃ read, source = read ++ reader.unread ∧ reader.builder.TrueTo read

private theorem TrueTo.run {final : Bool} {reader next : Reader} {source chunk : List Char}
    (htrue : reader.TrueTo source)
    (hrun : run final reader.builder reader.mode (reader.unread ++ chunk) = .ok next) :
    next.TrueTo (source ++ chunk) := by
  obtain ⟨read, hsource, hbuilder⟩ := htrue
  obtain ⟨passages, hreads, _, hsteps⟩ := run_eq_ok_iff.1 hrun
  refine ⟨read ++ Passage.rawOf passages, ?_, hbuilder.steps hreads.sound hsteps⟩
  rw [hsource, List.append_assoc, hreads.text_eq, List.append_assoc]

/-- A reader that is fed chunks stays true to the source that they have in common. -/
theorem TrueTo.feeds {chunks : List (List Char)} {reader next : Reader} {source : List Char}
    (htrue : reader.TrueTo source) (hfeeds : chunks.foldlM feed reader = .ok next) :
    next.TrueTo (source ++ chunks.flatten) := by
  induction chunks generalizing reader source with
  | nil =>
    cases hfeeds
    simpa using htrue
  | cons chunk chunks ih =>
    rw [List.foldlM_cons, bind_eq_ok_iff] at hfeeds
    obtain ⟨middle, hfeed, hfeeds⟩ := hfeeds
    rw [List.flatten_cons, ← List.append_assoc]
    exact ih (htrue.run hfeed) hfeeds

/-- A tree made from any chunks is true to their concatenation: each part stands there where its
places say, and all places follow one another strictly in document order. -/
theorem places_true {chunks : List (List Char)} {reader : Reader} {builder : Builder}
    (hfeeds : chunks.foldlM feed .empty = .ok reader) (hfinish : reader.finish = .ok builder) :
    builder.document.position = .start ∧
      (∀ part ∈ builder.document.parts, part.StandsIn chunks.flatten) ∧
      (builder.document.parts.flatMap Part.places).Pairwise (· < ·) := by
  have hempty : empty.TrueTo [] := ⟨[], rfl, .empty⟩
  rw [finish, bind_eq_ok_iff] at hfinish
  obtain ⟨last, hrun, hflush⟩ := hfinish
  have hlast : last.TrueTo ([] ++ chunks.flatten ++ []) :=
    (hempty.feeds hfeeds).run (by simpa using hrun)
  obtain ⟨read, hsource, hbuilder⟩ := hlast
  have htrue := hbuilder.flush hflush
  have hflatten : chunks.flatten = read ++ last.unread := by simpa using hsource
  refine ⟨rfl, fun part hpart => ?_, htrue.parts_ascend.pairwise⟩
  rw [hflatten]
  exact (htrue.parts_stand part hpart).extend last.unread

/-- Chunks that end inside a value and inside a character reference. -/
theorem places_true_cut_source :
    let chunks := ["<p\n t='1".toList, "'>a &am".toList, "p;\n b\x7b\x7b x \x7d\x7d</p>".toList]
    ∃ reader builder, chunks.foldlM feed .empty = .ok reader ∧ reader.finish = .ok builder ∧
      builder.document.parts =
        [.startTag ⟨"p".toList, ⟨1, 0⟩, [.plain "t".toList (some ⟨"1".toList, ⟨2, 3⟩⟩) ⟨2, 1⟩]⟩,
         .text "a &\n b".toList ⟨2, 7⟩, .interpolation (some (.dynamic "x".toList)) ⟨3, 2⟩] ∧
      (∀ part ∈ builder.document.parts, part.StandsIn chunks.flatten) ∧
      (builder.document.parts.flatMap Part.places).Pairwise (· < ·) := by
  intro chunks
  have hparts : (chunks.foldlM feed .empty >>= finish).toOption.map (·.document.parts) =
      some [.startTag ⟨"p".toList, ⟨1, 0⟩, [.plain "t".toList (some ⟨"1".toList, ⟨2, 3⟩⟩) ⟨2, 1⟩]⟩,
        .text "a &\n b".toList ⟨2, 7⟩, .interpolation (some (.dynamic "x".toList)) ⟨3, 2⟩] := by
    decide +kernel
  cases hread : chunks.foldlM feed .empty >>= finish with
  | error error =>
    rw [hread] at hparts
    cases hparts
  | ok builder =>
    rw [hread] at hparts
    obtain ⟨reader, hfeeds, hfinish⟩ := bind_eq_ok_iff.1 hread
    obtain ⟨_, hstand, hascend⟩ := places_true hfeeds hfinish
    exact ⟨reader, builder, hfeeds, hfinish, Option.some.inj hparts, hstand, hascend⟩

end Reader

end BareStrings.Markup
