import BareStrings.Proofs.Regex.Capture

namespace BareStrings.Regex

open BareStrings.Text

/-- The match that begins at the very start of a subject. -/
def Pattern.matchAtStart? (pattern : Pattern) (subject : List CodePoint) :
    Except MatchError (Option Span) :=
  if pattern.least ≤ subject.length then
    let attempt := pattern.regex.attemptAt (.start subject)
    if attempt.matched then
      if attempt.memory.isOrdered then .ok (some ⟨0, attempt.memory.reached.offset⟩)
      else .error .reversedGroup
    else .ok none
  else .ok none

/-- A condition that holds at the start of every subject and nowhere else. -/
structure Anchor.IsStart (condition : Anchor) : Prop where
  holds_start (subject : List CodePoint) : condition.holds (.start subject) = true
  holds_later (code : CodePoint) (before after : List CodePoint) :
    condition.holds ⟨code :: before, after⟩ = false

/-- The anchor of the beginning of the text holds at the start alone. -/
theorem isStart_textStart : Anchor.textStart.IsStart := ⟨fun _ => rfl, fun _ _ _ => rfl⟩

/-- So does the anchor of a line, if the lines of the text are not told apart. -/
theorem isStart_lineStart : (Anchor.lineStart false).IsStart := ⟨fun _ => rfl, fun _ _ _ => rfl⟩

variable {condition : Anchor}

private theorem run_anchored (condition : Anchor) (items : List Regex) (place : Place) (memory : Memory) :
    ((sequence (.anchor condition :: items)).matcher false .success).run place memory =
      if condition.holds place then ((sequence items).matcher false .success).run place memory
      else .failed memory := by
  by_cases hholds : condition.holds place = true
  · cases items <;> simp [sequence, matcher, Continuation.guardedBy, hholds]
  · cases items <;> simp [sequence, matcher, Continuation.guardedBy, hholds]

/-- At the start of the subject, the condition changes nothing. -/
theorem attemptAt_anchored_start (hstart : condition.IsStart) (items : List Regex)
    (subject : List CodePoint) :
    (sequence (.anchor condition :: items)).attemptAt (.start subject) =
      (sequence items).attemptAt (.start subject) := by
  rw [attemptAt, run_anchored, if_pos (hstart.holds_start subject), attemptAt]

/-- Anywhere else, the condition does not hold. -/
theorem attemptAt_anchored_later (hstart : condition.IsStart) (items : List Regex) (code : CodePoint)
    (before after : List CodePoint) :
    ((sequence (.anchor condition :: items)).attemptAt ⟨code :: before, after⟩).matched = false := by
  rw [attemptAt, run_anchored, if_neg (by simp [hstart.holds_later])]
  rfl

private theorem openingSet?_anchored (condition : Anchor) (items : List Regex) :
    (sequence (.anchor condition :: items)).openingSet? = none := by
  cases items <;> rfl

/-- Only the attempt at the start counts. -/
theorem searchFrom?_anchored (hstart : condition.IsStart) (items : List Regex) (least : Nat)
    (asciiOnly : Bool) (subject : List CodePoint) :
    Pattern.searchFrom? ⟨sequence (.anchor condition :: items), least, asciiOnly⟩ [] subject =
      Pattern.searchFrom?.attemptAt? ⟨sequence (.anchor condition :: items), least, asciiOnly⟩
        (.start subject) := by
  have hlater (code : CodePoint) (before after : List CodePoint) :
      Pattern.searchFrom?.attemptAt? ⟨sequence (.anchor condition :: items), least, asciiOnly⟩
        ⟨code :: before, after⟩ = none := by
    unfold Pattern.searchFrom?.attemptAt?
    simp [attemptAt_anchored_later hstart]
  have hnone (code : CodePoint) (before after : List CodePoint) :
      Pattern.searchFrom? ⟨sequence (.anchor condition :: items), least, asciiOnly⟩ (code :: before)
        after = none := by
    induction after generalizing code before with
    | nil => exact hlater code before []
    | cons next after ih => rw [Pattern.searchFrom?, hlater, ih, Option.none_or]
  cases subject with
  | nil => rfl
  | cons code rest =>
    rw [Pattern.searchFrom?, hnone, Option.or_none]
    rfl

/-- A search behind a condition for the start finds the match there, if there is one. -/
theorem search?_anchored (hstart : condition.IsStart) (items : List Regex) (least : Nat)
    (asciiOnly : Bool) (subject : List CodePoint) :
    Pattern.search? ⟨sequence (.anchor condition :: items), least, asciiOnly⟩ subject =
      Pattern.matchAtStart? ⟨sequence items, least, asciiOnly⟩ subject := by
  have hbegin : Pattern.mayBegin ⟨sequence (.anchor condition :: items), least, asciiOnly⟩
      (.start subject) = decide (least ≤ subject.length) := by
    simp only [Pattern.mayBegin, openingSet?_anchored]
    exact Bool.and_true _
  unfold Pattern.search? Pattern.matchAtStart?
  rw [searchFrom?_anchored hstart, Pattern.searchFrom?.attemptAt?, hbegin]
  simp only [attemptAt_anchored_start hstart]
  by_cases hleast : least ≤ subject.length
  · rw [if_pos (decide_eq_true hleast), if_pos hleast]
    cases ((sequence items).attemptAt (.start subject)).matched <;> rfl
  · rw [if_neg (by simpa using hleast), if_neg hleast]

/-- An expression that notes no groups always has an answer at the start, which is told by the end of its
match alone. -/
theorem Pattern.matchAtStart?_of_not_captures {pattern : Pattern}
    (hfree : pattern.regex.captures = false) (subject : List CodePoint) :
    pattern.matchAtStart? subject =
      .ok (if pattern.least ≤ subject.length then
        (pattern.regex.matchAt? (.start subject)).map fun ending => ⟨0, ending.offset⟩ else none) := by
  have hblank : (pattern.regex.attemptAt (.start subject)).memory.marks = [] :=
    staysBlank_matcher hfree false _ .success (.start subject) (.start (.start subject)) rfl
  have hordered : (pattern.regex.attemptAt (.start subject)).memory.isOrdered = true := by
    rw [Memory.isOrdered, hblank]
    rfl
  unfold matchAtStart? matchAt?
  simp only [hordered, if_true]
  split
  · split <;> rfl
  · rfl

end BareStrings.Regex
