import BareStrings.Proofs.Regex.Enclosed.Parse
import BareStrings.Proofs.Regex.Start
import BareStrings.Proofs.Rule.Slashed

namespace BareStrings

namespace Rule

open BareStrings.Regex BareStrings.Text

/-- A body and flags that a pattern can have. None of the flags asks for a match at the very start. -/
structure IsWritable (body flags : List CodePoint) : Prop where
  not_empty : body ≠ []
  no_line_feed : CodePoint.ofChar '\n' ∉ body
  known : ∀ flag ∈ flags, flag ∈ Selector.knownFlags ∧ flag ≠ 'y'

namespace Selector

variable {body flags : List CodePoint}

/-- A pattern between slashes compiles to what its body does, anchored as the flags say. -/
private theorem compile_slashed (hbody : body ≠ []) (hline : CodePoint.ofChar '\n' ∉ body)
    (hflags : ∀ flag ∈ flags, flag ∈ knownFlags) :
    compile (slashed body flags) =
      (parse (optionsOf flags) (anchoredBody body flags)).mapError .pattern := by
  have hknown : (flags.find? fun flag => !knownFlags.contains flag) = none := by
    rw [List.find?_eq_none]
    intro flag hflag
    simpa using hflags flag hflag
  have hslash : CodePoint.ofChar '/' ∉ flags := fun hmem => absurd (hflags '/' hmem) (by decide)
  have hfeed : CodePoint.ofChar '\n' ∉ flags := fun hmem => absurd (hflags '\n' hmem) (by decide)
  rw [compile, patternParts?_eq_some_iff.2 ⟨rfl, hbody, hslash, not_mem_slashed (by decide) hline hfeed⟩]
  simp only [hknown]

end Selector

/-- What has been read of a selector. -/
def selected (result : Except SyntaxError (Pattern × Source)) : Except SelectorError Pattern :=
  (result.map Prod.fst).mapError .pattern

namespace IsWritable

variable {body flags : List CodePoint}

private theorem compile_plain (hwritable : IsWritable body flags) :
    Selector.compile (slashed body flags) =
      selected (Scan.readsAll (Selector.optionsOf flags) body) := by
  have hsticky : flags.contains 'y' = false := by
    rw [List.contains_eq_mem, decide_eq_false_iff_not]
    exact fun hy => (hwritable.known 'y' hy).2 rfl
  rw [Selector.compile_slashed hwritable.not_empty hwritable.no_line_feed
    fun flag hflag => (hwritable.known flag hflag).1, Selector.anchoredBody, hsticky,
    if_neg Bool.false_ne_true, Scan.parse_eq]
  rfl

/-- The sticky flag puts the body into a bracket behind the anchor of the beginning. -/
private theorem compile_sticky (hwritable : IsWritable body flags) :
    Selector.compile (slashed body (flags ++ [.ofChar 'y'])) =
      selected (Scan.readsAll (Selector.optionsOf flags) (enclosed body)) := by
  have hsticky : (flags ++ [CodePoint.ofChar 'y']).contains 'y' = true := by simp
  have hoptions : Selector.optionsOf (flags ++ [.ofChar 'y']) = Selector.optionsOf flags := by
    simp [Selector.optionsOf]
  have hflags : ∀ flag ∈ flags ++ [CodePoint.ofChar 'y'], flag ∈ Selector.knownFlags := by
    intro flag hflag
    rcases List.mem_append.1 hflag with hother | hy
    · exact (hwritable.known flag hother).1
    · rw [List.mem_singleton.1 hy]
      decide
  rw [Selector.compile_slashed hwritable.not_empty hwritable.no_line_feed hflags,
    Selector.anchoredBody, if_pos hsticky, hoptions, Scan.parse_eq]
  rfl

end IsWritable

/-- Whether a selector is refused for a fault in its pattern. -/
def IsFaulty (result : Except SelectorError Pattern) : Prop :=
  ∃ cause, result = .error (.pattern cause) ∧ cause.IsFault

/-- Whether a selector is refused for a repetition count. -/
def IsMiscounted (result : Except SelectorError Pattern) : Prop :=
  ∃ cause, result = .error (.pattern cause) ∧ cause.IsCount

/-- Whether a selector is refused for a parenthesis that closes nothing. -/
def IsUnbalanced (result : Except SelectorError Pattern) : Prop :=
  ∃ offset text, result = .error (.pattern (.fault .unbalancedParenthesis offset text))

/-- Whether a body sets options for the whole expression at its beginning. -/
def BeginsWithOptions (body : List CodePoint) : Prop := SetsOptions (Token.ofText 0 body)

section Outcome

variable {dangling : Bool} {sets : Prop} {first second : Except SyntaxError (Pattern × Source)}

private theorem not_isFaulty_of_ok (pattern : Pattern) : ¬IsFaulty (.ok pattern) := by
  rintro ⟨cause, hcause, _⟩
  cases hcause

private theorem isFaulty_iff {cause : SyntaxError} : IsFaulty (.error (.pattern cause)) ↔ cause.IsFault := by
  constructor
  · rintro ⟨other, hother, hfault⟩
    cases hother
    exact hfault
  · exact fun hfault => ⟨cause, rfl, hfault⟩

/-- The two patterns find the same at the start of a subject. -/
theorem search?_of_outcome (houtcome : Scan.Outcome dangling sets first second)
    (hsets : sets → ∀ pattern, selected second ≠ .ok pattern) {plain sticky : Pattern}
    (hplain : selected first = .ok plain) (hsticky : selected second = .ok sticky)
    (subject : List CodePoint) : sticky.search? subject = plain.matchAtStart? subject := by
  cases houtcome with
  | ok =>
    cases hplain
    cases hsticky
    exact search?_anchored isStart_textStart _ _ _ subject
  | same => cases hplain
  | refused => cases hplain
  | unbalanced => cases hplain
  | misplaced hholds => exact absurd hsticky (hsets hholds sticky)

/-- Both are patterns or neither is, up to the exceptions. -/
theorem ok_iff_of_outcome (houtcome : Scan.Outcome dangling sets first second)
    (hsets : sets → ∀ pattern, selected second ≠ .ok pattern) (hbalanced : ¬IsUnbalanced (selected first)) :
    (∃ sticky, selected second = .ok sticky) ↔ (∃ plain, selected first = .ok plain) ∧ ¬sets := by
  constructor
  · rintro ⟨sticky, hsticky⟩
    refine ⟨?_, fun hholds => hsets hholds sticky hsticky⟩
    cases houtcome with
    | ok => exact ⟨_, rfl⟩
    | same => cases hsticky
    | refused => cases hsticky
    | unbalanced => exact absurd ⟨_, _, rfl⟩ hbalanced
    | misplaced hholds => exact absurd hsticky (hsets hholds sticky)
  · rintro ⟨⟨plain, hplain⟩, hnot⟩
    cases houtcome with
    | ok => exact ⟨_, rfl⟩
    | same => cases hplain
    | refused => cases hplain
    | unbalanced => cases hplain
    | misplaced hholds => exact absurd hholds hnot

/-- Both are faulty or neither is, up to the exceptions. -/
theorem isFaulty_iff_of_outcome (houtcome : Scan.Outcome dangling sets first second)
    (hsets : sets → IsFaulty (selected second)) (hbalanced : ¬IsUnbalanced (selected first)) :
    (IsFaulty (selected second) ↔ IsFaulty (selected first) ∨ sets) ∨
      dangling = true ∧ IsFaulty (selected first) ∧ IsMiscounted (selected second) := by
  cases houtcome with
  | ok =>
    refine .inl (iff_of_false (not_isFaulty_of_ok _) ?_)
    exact not_or.2 ⟨not_isFaulty_of_ok _, fun hholds => not_isFaulty_of_ok _ (hsets hholds)⟩
  | same hother =>
    refine .inl ⟨fun hfaulty => absurd (isFaulty_iff.1 hfaulty) hother, ?_⟩
    exact fun heither => heither.elim id hsets
  | refused hfault hother =>
    rcases hother with hfault' | ⟨hdangling, hcount⟩
    · exact .inl (iff_of_true ⟨_, rfl, hfault'⟩ (.inl ⟨_, rfl, hfault⟩))
    · exact .inr ⟨hdangling, ⟨_, rfl, hfault⟩, _, rfl, hcount⟩
  | unbalanced => exact absurd ⟨_, _, rfl⟩ hbalanced
  | misplaced hholds hrefuses => exact .inl (iff_of_true (hsets hholds) (.inr hholds))

end Outcome

private theorem IsWritable.isFaulty_sticky {body flags : List CodePoint} (hwritable : IsWritable body flags)
    (hsets : BeginsWithOptions body) :
    IsFaulty (Selector.compile (slashed body (flags ++ [.ofChar 'y']))) := by
  obtain ⟨error, herror, hfault⟩ := @Scan.refused_enclosed (Selector.optionsOf flags) rfl body hsets
  rw [hwritable.compile_sticky, herror]
  exact ⟨error, rfl, hfault⟩

end Rule

end BareStrings
