import BareStrings.Text.Position

namespace BareStrings.Text

namespace Position

/-- Places are ordered by line, and within a line by column. -/
instance : LT Position := ⟨fun a b => a.line < b.line ∨ a.line = b.line ∧ a.column < b.column⟩

instance : LE Position := ⟨fun a b => a.line < b.line ∨ a.line = b.line ∧ a.column ≤ b.column⟩

private theorem lt_iff {a b : Position} :
    a < b ↔ a.line < b.line ∨ a.line = b.line ∧ a.column < b.column := Iff.rfl

/-- Places are ordered by their lines first and by their columns in one line. -/
theorem le_iff {a b : Position} :
    a ≤ b ↔ a.line < b.line ∨ a.line = b.line ∧ a.column ≤ b.column := Iff.rfl

private theorem le_refl (a : Position) : a ≤ a := .inr ⟨rfl, Nat.le_refl _⟩

private theorem le_trans {a b c : Position} (hab : a ≤ b) (hbc : b ≤ c) : a ≤ c := by
  rw [le_iff] at *
  omega

private theorem lt_of_lt_of_le {a b c : Position} (hab : a < b) (hbc : b ≤ c) : a < c := by
  rw [lt_iff] at *
  rw [le_iff] at hbc
  omega

private theorem lt_next (position : Position) (c : Char) : position < position.next c := by
  rw [lt_iff, next]
  split <;> simp

private theorem le_of_lt {a b : Position} (hab : a < b) : a ≤ b := by
  rw [lt_iff] at hab
  rw [le_iff]
  omega

/-- Passing over a text never leads back. -/
theorem le_advance (position : Position) (text : List Char) : position ≤ position.advance text := by
  induction text generalizing position with
  | nil => exact le_refl position
  | cons c text ih => exact le_trans (le_of_lt (lt_next position c)) (ih (position.next c))

/-- Reading anything at all leads to a later place. -/
theorem lt_advance (position : Position) {text : List Char} (htext : text ≠ []) :
    position < position.advance text := by
  cases text with
  | nil => exact absurd rfl htext
  | cons c text => exact lt_of_lt_of_le (lt_next position c) (le_advance (position.next c) text)

/-- Where a place of a text comes to stand when the text follows another one that ends at `origin`. On
the first line it moves to the side, too. -/
def shift (position origin : Position) : Position :=
  if position.line ≤ 1 then ⟨origin.line, origin.column + position.column⟩
  else ⟨origin.line + (position.line - 1), position.column⟩

/-- The first place of a source that stands elsewhere is where the source begins. -/
theorem shift_start (origin : Position) : Position.start.shift origin = origin := rfl

/-- Lines are counted from one on, and passing over a text keeps to that. -/
theorem one_le_line_advance {position : Position} (hline : 1 ≤ position.line) (text : List Char) :
    1 ≤ (position.advance text).line := by
  have hle := le_advance position text
  rw [le_iff] at hle
  omega

/-- A character leads to the same place whether it is passed over before the shift or behind it. -/
theorem next_shift {position : Position} (hline : 1 ≤ position.line) (origin : Position) (c : Char) :
    (position.shift origin).next c = (position.next c).shift origin := by
  unfold next
  split
  · have hbehind : ¬position.line + 1 ≤ 1 := by omega
    simp only [shift, if_neg hbehind, Position.mk.injEq, and_true]
    split
    · simp only
      omega
    · simp only
      omega
  · simp only [shift]
    split <;> rfl

/-- Reading on from a place that has been shifted leads to the shifted place. -/
theorem advance_shift {position : Position} (hline : 1 ≤ position.line) (origin : Position)
    (text : List Char) :
    (position.shift origin).advance text = (position.advance text).shift origin := by
  induction text generalizing position with
  | nil => rfl
  | cons c text ih =>
    rw [advance_cons, advance_cons, next_shift hline]
    exact ih (one_le_line_advance hline [c])

end Position

/-- A text stands in a source at a place: the place is the one reached by reading what precedes the
text. -/
def StandsAt (source text : List Char) (position : Position) : Prop :=
  ∃ before after, source = before ++ text ++ after ∧ position = Position.start.advance before

namespace StandsAt

variable {source text former latter : List Char} {position : Position}

/-- More source behind a text does not move it. -/
theorem extend (hstands : StandsAt source text position) (more : List Char) :
    StandsAt (source ++ more) text position := by
  obtain ⟨before, after, rfl, rfl⟩ := hstands
  exact ⟨before, after ++ more, by simp, rfl⟩

/-- The front of a text stands where the text stands. -/
theorem left (hstands : StandsAt source (former ++ latter) position) :
    StandsAt source former position := by
  obtain ⟨before, after, rfl, rfl⟩ := hstands
  exact ⟨before, latter ++ after, by simp, rfl⟩

/-- The rest of a text stands where its front has led. -/
theorem right (hstands : StandsAt source (former ++ latter) position) :
    StandsAt source latter (position.advance former) := by
  obtain ⟨before, after, rfl, rfl⟩ := hstands
  exact ⟨before ++ former, after, by simp, (Position.advance_append ..).symm⟩

end StandsAt

/-- Places that each come later than the one before, all from `first` on and before `last`. -/
structure Ascending (first last : Position) (places : List Position) : Prop where
  pairwise : places.Pairwise (· < ·)
  le : ∀ place ∈ places, first ≤ place
  lt : ∀ place ∈ places, place < last

namespace Ascending

variable {first middle last : Position} {places more : List Position}

/-- No places at all ascend anywhere. -/
theorem nil : Ascending first last [] := ⟨.nil, by simp, by simp⟩

/-- The place of a text that is not empty lies before the place behind it. -/
theorem singleton (position : Position) {text : List Char} (htext : text ≠ []) :
    Ascending position (position.advance text) [position] := by
  refine ⟨List.pairwise_singleton _ _, ?_, ?_⟩
  · simpa using Position.le_refl position
  · simpa using Position.lt_advance position htext

/-- Places that ascend up to some place, and others that ascend from there on, ascend altogether. -/
theorem append (hfirst : Ascending first middle places) (hmore : Ascending middle last more)
    (hbegin : first ≤ middle) (hend : middle ≤ last) : Ascending first last (places ++ more) := by
  refine ⟨?_, ?_, ?_⟩
  · rw [List.pairwise_append]
    refine ⟨hfirst.pairwise, hmore.pairwise, ?_⟩
    intro a ha b hb
    exact Position.lt_of_lt_of_le (hfirst.lt a ha) (hmore.le b hb)
  · intro place hplace
    rcases List.mem_append.1 hplace with hleft | hright
    · exact hfirst.le place hleft
    · exact Position.le_trans hbegin (hmore.le place hright)
  · intro place hplace
    rcases List.mem_append.1 hplace with hleft | hright
    · exact Position.lt_of_lt_of_le (hfirst.lt place hleft) hend
    · exact hmore.lt place hright

/-- Places that ascend below a bound ascend below a later one. -/
theorem widen (hplaces : Ascending first middle places) (hend : middle ≤ last) :
    Ascending first last places :=
  ⟨hplaces.pairwise, hplaces.le,
    fun place hplace => Position.lt_of_lt_of_le (hplaces.lt place hplace) hend⟩

/-- Places in two stretches of a source, of which the second begins where the first ends. -/
theorem append_advance {text behind : List Char}
    (hfirst : Ascending first (first.advance text) places)
    (hmore : Ascending (first.advance text) ((first.advance text).advance behind) more) :
    Ascending first (first.advance (text ++ behind)) (places ++ more) := by
  rw [Position.advance_append]
  exact hfirst.append hmore (Position.le_advance first text) (Position.le_advance _ behind)

end Ascending

end BareStrings.Text
