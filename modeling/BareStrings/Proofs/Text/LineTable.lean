import Mathlib.Data.List.DropRight
import BareStrings.Proofs.Text.Position
import BareStrings.Text.LineTable

namespace BareStrings.Text

namespace Position

/-- The place after a text, told at once: by the number of its line feeds, and by what stands behind the
last one. -/
def jump (position : Position) (text : List Char) : Position :=
  if text.count '\n' = 0 then ⟨position.line, position.column + text.length⟩
  else ⟨position.line + text.count '\n', (text.rtakeWhile (· ≠ '\n')).length⟩

/-- Reading character by character leads to the same place. -/
theorem advance_eq_jump (position : Position) (text : List Char) :
    position.advance text = position.jump text := by
  induction text using List.reverseRecOn with
  | nil => rfl
  | append_singleton text c ih =>
    rw [advance_append, ih, advance_cons, advance_nil, next]
    unfold jump
    by_cases hfeed : c = '\n'
    · subst hfeed
      by_cases hnone : text.count '\n' = 0
      · simp [hnone]
      · simp [hnone, Nat.add_assoc]
    · by_cases hnone : text.count '\n' = 0
      · simp [hnone, hfeed, Nat.add_assoc]
      · simp [hnone, hfeed]

end Position

/-- The line starts of two texts are those of the first one, and those of the second one behind it. -/
private theorem lineStartsFrom_append (offset : Nat) (first second : List Char) :
    lineStartsFrom offset (first ++ second) =
      lineStartsFrom offset first ++ lineStartsFrom (offset + first.length) second := by
  induction first generalizing offset with
  | nil => rfl
  | cons c first ih =>
    have hlength : offset + (c :: first).length = offset + 1 + first.length := by
      rw [List.length_cons]
      omega
    simp only [List.cons_append, lineStartsFrom, ih, hlength]
    split <;> rfl

/-- Reading leads into a line whose beginning is found by the number of lines that have been left behind,
and the column counts on from there. -/
theorem exists_lineStart {position : Position} {first offset : Nat}
    (hfirst : first + position.column = offset) (text after : List Char) :
    ∃ start, (first :: lineStartsFrom offset (text ++ after))[(position.advance text).line - position.line]? =
        some start ∧ start + (position.advance text).column = offset + text.length := by
  induction text generalizing position first offset with
  | nil => exact ⟨first, by simp, hfirst⟩
  | cons c text ih =>
    rw [Position.advance_cons, Position.next, List.cons_append, lineStartsFrom, List.length_cons,
      Nat.add_comm text.length, ← Nat.add_assoc]
    by_cases hfeed : c = '\n'
    · simp only [if_pos hfeed]
      obtain ⟨start, hstart, hcolumn⟩ := @ih ⟨position.line + 1, 0⟩ (offset + 1) (offset + 1) rfl
      refine ⟨start, ?_, hcolumn⟩
      -- The line of `position` itself has been left behind, so its beginning is passed over, too.
      have hle := Position.le_advance ⟨position.line + 1, 0⟩ text
      rw [Position.le_iff] at hle
      have hindex : (Position.advance ⟨position.line + 1, 0⟩ text).line - position.line =
          (Position.advance ⟨position.line + 1, 0⟩ text).line - (position.line + 1) + 1 := by
        simp only at hle
        omega
      rw [hindex, List.getElem?_cons_succ]
      exact hstart
    · simp only [if_neg hfeed]
      exact @ih ⟨position.line, position.column + 1⟩ first (offset + 1) (by simp only; omega)

namespace LineTable

/-- The table of a source that is known as a whole. -/
def ofSource (source : List Char) : LineTable := ⟨source, 0 :: lineStartsFrom 0 source⟩

private theorem extend_ofSource (source chunk : List Char) :
    (ofSource source).extend chunk = ofSource (source ++ chunk) := by
  simp only [ofSource, extend, lineStartsFrom_append, Nat.zero_add, List.cons_append]

/-- The chunks in which a source has come leave no trace in its table. -/
theorem foldl_extend (source : List Char) (chunks : List (List Char)) :
    chunks.foldl extend (ofSource source) = ofSource (source ++ chunks.flatten) := by
  induction chunks generalizing source with
  | nil => rw [List.foldl_nil, List.flatten_nil, List.append_nil]
  | cons chunk chunks ih => rw [List.foldl_cons, extend_ofSource, ih, List.flatten_cons, List.append_assoc]

variable (before text after : List Char)

/-- The place behind the front of a source leads back to the length of the front. -/
theorem offset?_advance :
    (ofSource (before ++ after)).offset? (Position.start.advance before) = some before.length := by
  obtain ⟨start, hstart, hcolumn⟩ := @exists_lineStart .start 0 0 rfl before after
  have hline : (ofSource (before ++ after)).starts[(Position.start.advance before).line - 1]? = some start := hstart
  rw [offset?, hline, Option.map_some, hcolumn, Nat.zero_add]

/-- Between the places where a text begins and ends in a source stands the text. -/
theorem slice?_advance :
    (ofSource (before ++ text ++ after)).slice? (Position.start.advance before)
      (Position.start.advance (before ++ text)) = some text := by
  have hfirst := offset?_advance before (text ++ after)
  have hlast := offset?_advance (before ++ text) after
  rw [← List.append_assoc] at hfirst
  rw [slice?, hlast, hfirst]
  simp only [ofSource, Option.bind_eq_bind, Option.bind_some, List.take_left, List.drop_left]
  rfl

end LineTable

end BareStrings.Text
