import BareStrings.Proofs.Expression.Classify
import BareStrings.Proofs.Text.Trim

namespace BareStrings

open BareStrings.Text

/-- The text of an expression as it stands in the template, without what encloses it. -/
def Expression.text : Expression → List Char
  | .literal _ raw => raw
  | .dynamic source => source

namespace Expression

/-- How many parentheses are open, and the state among the quotes, after one more character. A parenthesis
cannot be closed where none is open. -/
def nextDepth? (place : Nat × QuoteState) (c : Char) : Option (Nat × QuoteState) :=
  match place with
  | (depth, .outside) =>
    if c = '(' then some (depth + 1, .outside)
    else if c = ')' then
      match depth with
      | 0 => none
      | depth + 1 => some (depth, .outside)
    else some (depth, QuoteState.outside.next c)
  | (depth, state) => some (depth, state.next c)

/-- The same after a whole text. -/
def depthAfter? (place : Nat × QuoteState) (text : List Char) : Option (Nat × QuoteState) :=
  text.foldlM nextDepth? place

/-- Outside of quotes no parenthesis is closed before it is opened, and at the end all of them are closed
and so are the quotes. -/
def Balanced (text : List Char) : Prop := depthAfter? (0, .outside) text = some (0, .outside)

instance (text : List Char) : Decidable (Balanced text) := inferInstanceAs (Decidable (_ = _))

variable {depth : Nat} {state : QuoteState} {text : List Char}

private theorem depthAfter?_append (place : Nat × QuoteState) (front rest : List Char) :
    depthAfter? place (front ++ rest) = (depthAfter? place front).bind (depthAfter? · rest) :=
  List.foldlM_append

/-- A parenthesis around a text stays open while the text is read. -/
theorem nextDepth?_succ {after : Nat} {next : QuoteState} {c : Char}
    (hnext : nextDepth? (depth, state) c = some (after, next)) :
    nextDepth? (depth + 1, state) c = some (after + 1, next) := by
  cases state with
  | outside =>
    unfold nextDepth? at hnext ⊢
    simp only at hnext ⊢
    split_ifs at hnext ⊢ with hopening hclosing
    · cases hnext
      rfl
    · cases depth <;> cases hnext
      rfl
    · cases hnext
      rfl
  | inside quote =>
    cases hnext
    rfl
  | escaped quote =>
    cases hnext
    rfl

private theorem depthAfter?_succ {after : Nat} {final : QuoteState}
    (hafter : depthAfter? (depth, state) text = some (after, final)) :
    depthAfter? (depth + 1, state) text = some (after + 1, final) := by
  induction text generalizing depth state with
  | nil =>
    cases hafter
    rfl
  | cons c rest ih =>
    obtain ⟨⟨between, next⟩, hnext, hrest⟩ := Option.bind_eq_some_iff.1 hafter
    exact Option.bind_eq_some_iff.2 ⟨_, nextDepth?_succ hnext, ih hrest⟩

private theorem Balanced.enclose (hbalanced : Balanced text) : Balanced ('(' :: text ++ [')']) := by
  have hinside : depthAfter? (1, .outside) text = some (1, .outside) := depthAfter?_succ hbalanced
  change depthAfter? (1, .outside) (text ++ [')']) = some (0, .outside)
  rw [depthAfter?_append, hinside]
  rfl

/-- Blanks outside of quotes change no depth. -/
private theorem depthAfter?_blanks (depth : Nat) (hblank : ∀ c ∈ text, isBlank c = true) :
    depthAfter? (depth, .outside) text = some (depth, .outside) := by
  have hsigns : ∀ sign ∈ ['(', ')', '\'', '"', '\x60'], isBlank sign = false := by
    simp only [List.forall_mem_cons]
    exact ⟨rfl, rfl, rfl, rfl, rfl, List.forall_mem_nil _⟩
  induction text with
  | nil => rfl
  | cons c rest ih =>
    obtain ⟨hc, hrest⟩ := List.forall_mem_cons.1 hblank
    have hother : ∀ sign ∈ ['(', ')', '\'', '"', '\x60'], c ≠ sign := by
      rintro sign hsign rfl
      rw [hsigns c hsign] at hc
      cases hc
    have hnext : nextDepth? (depth, .outside) c = some (depth, .outside) := by
      simp only [List.forall_mem_cons] at hother
      simp [nextDepth?, QuoteState.next, hother]
    exact Option.bind_eq_some_iff.2 ⟨_, hnext, ih hrest⟩

private theorem Balanced.between (hbalanced : Balanced text) {before after : List Char}
    (hbefore : ∀ c ∈ before, isBlank c = true) (hafter : ∀ c ∈ after, isBlank c = true) :
    Balanced (before ++ text ++ after) := by
  have hfront := depthAfter?_blanks 0 hbefore
  have hback := depthAfter?_blanks 0 hafter
  rw [Balanced] at hbalanced
  rw [Balanced, depthAfter?_append, depthAfter?_append, hfront, Option.bind_some, hbalanced, Option.bind_some,
    hback]

/-- Whether the first parenthesis closes at the end is told character by character. -/
private theorem closesAtEnd_cons (depth : Nat) (state : QuoteState) (c : Char) (rest : List Char) :
    closesAtEnd depth state (c :: rest) =
      match nextDepth? (depth, state) c with
      | none => rest.isEmpty
      | some (after, next) => closesAtEnd after next rest := by
  rw [closesAtEnd.eq_def]
  cases state with
  | outside =>
    by_cases hopening : c = '('
    · simp [nextDepth?, hopening]
    by_cases hclosing : c = ')'
    · cases depth <;> simp [nextDepth?, hclosing]
    · simp [nextDepth?, hopening, hclosing]
  | inside quote => simp [nextDepth?]
  | escaped quote => simp [nextDepth?]

/-- Only a parenthesis that closes more than has been opened ends the reading. -/
theorem nextDepth?_eq_none {c : Char} (hnext : nextDepth? (depth, state) c = none) :
    c = ')' ∧ depth = 0 ∧ state = .outside := by
  cases state with
  | outside =>
    unfold nextDepth? at hnext
    simp only at hnext
    split_ifs at hnext with hopening hclosing
    cases depth with
    | zero => exact ⟨hclosing, rfl, rfl⟩
    | succ depth => cases hnext
  | inside quote => cases hnext
  | escaped quote => cases hnext

/-- A parenthesis closes at the end of a text if nothing before the end closes it. -/
theorem closesAtEnd_iff : closesAtEnd depth state text = true ↔
    ∃ inside, text = inside ++ [')'] ∧ depthAfter? (depth, state) inside = some (0, .outside) := by
  induction text generalizing depth state with
  | nil => simp [closesAtEnd]
  | cons c rest ih =>
    rw [closesAtEnd_cons]
    cases hnext : nextDepth? (depth, state) c with
    | none =>
      obtain ⟨rfl, rfl, rfl⟩ := nextDepth?_eq_none hnext
      constructor
      · intro hempty
        exact ⟨[], by rw [List.isEmpty_iff.1 hempty]; rfl, rfl⟩
      · rintro ⟨inside, htext, hinside⟩
        cases inside with
        | nil => exact List.isEmpty_iff.2 (List.cons.inj htext).2
        | cons first inside =>
          obtain ⟨rfl, _⟩ := List.cons.inj htext
          cases hinside
    | some place =>
      obtain ⟨after, next⟩ := place
      simp only [ih]
      constructor
      · rintro ⟨inside, rfl, hinside⟩
        exact ⟨c :: inside, rfl, Option.bind_eq_some_iff.2 ⟨_, hnext, hinside⟩⟩
      · rintro ⟨inside, htext, hinside⟩
        cases inside with
        | nil =>
          obtain ⟨rfl, rfl⟩ := List.cons.inj htext
          cases hinside
          cases hnext
        | cons first inside =>
          obtain ⟨rfl, rfl⟩ := List.cons.inj htext
          obtain ⟨_, hfirst, hrest⟩ := Option.bind_eq_some_iff.1 hinside
          rw [hnext] at hfirst
          cases hfirst
          exact ⟨inside, rfl, hrest⟩

/-- A text is in parentheses if they enclose a balanced one. -/
theorem parenthesized?_eq_some_iff {inside : List Char} :
    parenthesized? text = some inside ↔ text = '(' :: inside ++ [')'] ∧ Balanced inside := by
  constructor
  · intro hinside
    unfold parenthesized? at hinside
    split at hinside
    · split_ifs at hinside with hcloses
      obtain ⟨_, rfl, hbalanced⟩ := closesAtEnd_iff.1 hcloses
      rw [List.dropLast_concat, Option.some.injEq] at hinside
      subst hinside
      exact ⟨rfl, hbalanced⟩
    · cases hinside
  · rintro ⟨rfl, hbalanced⟩
    have hcloses : closesAtEnd 0 .outside (inside ++ [')']) = true :=
      closesAtEnd_iff.2 ⟨inside, rfl, hbalanced⟩
    rw [List.cons_append, parenthesized?, if_pos hcloses, List.dropLast_concat]

/-- A text in parentheses, one pair for each gap, with the two sides of the gap inside the pair. The first
gap is the outermost one. -/
def wrapped (text : List Char) : List (List Char × List Char) → List Char
  | [] => text
  | (before, after) :: gaps => '(' :: (before ++ wrapped text gaps ++ after) ++ [')']

/-- There is nothing but blanks on both sides. -/
def IsGap (gap : List Char × List Char) : Prop :=
  (∀ c ∈ gap.1, isBlank c = true) ∧ ∀ c ∈ gap.2, isBlank c = true

private theorem Balanced.wrapped (hbalanced : Balanced text) {gaps : List (List Char × List Char)}
    (hgaps : ∀ gap ∈ gaps, IsGap gap) : Balanced (wrapped text gaps) := by
  induction gaps with
  | nil => exact hbalanced
  | cons gap gaps ih =>
    obtain ⟨⟨hbefore, hafter⟩, hgaps⟩ := List.forall_mem_cons.1 hgaps
    exact ((ih hgaps).between hbefore hafter).enclose

private theorem trim_gap {gap : List Char × List Char} (hgap : IsGap gap) (text : List Char) :
    trim (gap.1 ++ text ++ gap.2) = trim text :=
  trimBy_append hgap.1 hgap.2 text

private theorem unwrap_enclosed (hbalanced : Balanced text) :
    unwrap (trim ('(' :: text ++ [')'])) = unwrap (trim text) := by
  have henclosed : trim ('(' :: text ++ [')']) = '(' :: text ++ [')'] := trimBy_enclosed rfl rfl text
  rw [henclosed]
  exact unwrap_of_some (parenthesized?_eq_some_iff.2 ⟨rfl, hbalanced⟩)

/-- Any layers of parentheses and gaps around a balanced text are taken off. -/
private theorem unwrap_wrapped (hbalanced : Balanced text) {gaps : List (List Char × List Char)}
    (hgaps : ∀ gap ∈ gaps, IsGap gap) : unwrap (trim (wrapped text gaps)) = unwrap (trim text) := by
  induction gaps with
  | nil => rfl
  | cons gap gaps ih =>
    obtain ⟨hgap, hgaps⟩ := List.forall_mem_cons.1 hgaps
    calc unwrap (trim (wrapped text (gap :: gaps)))
      _ = unwrap (trim (gap.1 ++ wrapped text gaps ++ gap.2)) :=
        unwrap_enclosed ((hbalanced.wrapped hgaps).between hgap.1 hgap.2)
      _ = unwrap (trim (wrapped text gaps)) := by rw [trim_gap hgap]
      _ = unwrap (trim text) := ih hgaps

private theorem parenthesized?_unwrap (text : List Char) : parenthesized? (unwrap text) = none := by
  induction text using unwrap.induct with
  | case1 text inner hinner _ ih =>
    rw [unwrap_of_some hinner]
    exact ih
  | case2 text hnone =>
    rw [unwrap_of_none hnone]
    exact hnone

private theorem trim_unwrap (htrim : trim text = text) : trim (unwrap text) = unwrap text := by
  induction text using unwrap.induct with
  | case1 text inner hinner _ ih =>
    rw [unwrap_of_some hinner]
    exact ih (trimBy_trimBy isBlank inner)
  | case2 text hnone =>
    rw [unwrap_of_none hnone]
    exact htrim

/-- Nothing more can be taken off an expression that has been freed of blanks and parentheses. -/
theorem unwrap_trim_unwrap (source : List Char) :
    unwrap (trim (unwrap (trim source))) = unwrap (trim source) := by
  have htrim : trim (trim source) = trim source := trimBy_trimBy isBlank source
  rw [trim_unwrap htrim]
  exact unwrap_of_none (parenthesized?_unwrap _)

private theorem text_of_classify {expression : Expression}
    (hclassify : classify text = .ok (some expression)) : expression.text = text := by
  rcases classify_eq_ok hclassify with ⟨hnone, _⟩ | ⟨value, hliteral⟩ | hdynamic
  · cases hnone
  · cases hliteral
    rfl
  · cases hdynamic
    rfl

/-- Parentheses around a balanced text do not matter, however many they are and whatever blanks stand between
them. What has been read is read again from its text, which has no parentheses left that enclose all of it. -/
theorem parse_wrapped :
    (∀ text, Balanced text → ∀ gaps, (∀ gap ∈ gaps, IsGap gap) → ∀ outer, IsGap outer →
      parse (outer.1 ++ wrapped text gaps ++ outer.2) = parse text) ∧
    ∀ source expression, parse source = .ok (some expression) →
      parse expression.text = .ok (some expression) ∧
        ∀ inside, Balanced inside → expression.text ≠ '(' :: inside ++ [')'] := by
  refine ⟨?_, ?_⟩
  · intro text hbalanced gaps hgaps outer houter
    rw [parse, trim_gap houter, unwrap_wrapped hbalanced hgaps, parse]
  · intro source expression hparse
    have htext : expression.text = unwrap (trim source) := text_of_classify hparse
    rw [htext]
    refine ⟨?_, fun inside hbalanced henclosed => ?_⟩
    · rw [parse, unwrap_trim_unwrap]
      exact hparse
    · have hnone := parenthesized?_unwrap (trim source)
      rw [parenthesized?_eq_some_iff.2 ⟨henclosed, hbalanced⟩] at hnone
      cases hnone

/-- Two groups side by side, the first with a parenthesis and the second with an escaped quote in a string;
and a string in two pairs of parentheses. -/
theorem parse_wrapped_groups :
    let text := "(')') + ('it\\'s)')".toList
    let gaps := [(" ".toList, "\n".toList), ([], "\t".toList)]
    let outer := ("  ".toList, [])
    let source := " ((\n'a)' )) ".toList
    let expression : Expression := .literal (.string (codePoints "a)".toList)) "'a)'".toList
    (Balanced text ∧ (∀ gap ∈ gaps, IsGap gap) ∧ IsGap outer ∧
      parse (outer.1 ++ wrapped text gaps ++ outer.2) = parse text) ∧
    parse source = .ok (some expression) ∧ parse expression.text = .ok (some expression) ∧
      ∀ inside, Balanced inside → expression.text ≠ '(' :: inside ++ [')'] := by
  intro text gaps outer source expression
  obtain ⟨hwrapped, hagain⟩ := parse_wrapped
  have hbalanced : Balanced text := by decide
  have hgaps : ∀ gap ∈ gaps, IsGap gap := by
    simp [gaps, IsGap, isBlank, isBlankCode]
  have houter : IsGap outer := by
    simp [outer, IsGap, isBlank, isBlankCode]
  have hparse : parse source = .ok (some expression) := by decide +kernel
  exact ⟨⟨hbalanced, hgaps, houter, hwrapped text hbalanced gaps hgaps outer houter⟩, hparse,
    hagain source expression hparse⟩

end Expression

end BareStrings
