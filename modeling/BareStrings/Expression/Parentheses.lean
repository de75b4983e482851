import BareStrings.Text.Blank

namespace BareStrings.Expression

open BareStrings.Text

/-- Where a reader stands among the quotes of an expression. -/
inductive QuoteState where
  | outside
  | inside (quote : Char)
  | escaped (quote : Char)
deriving DecidableEq

/-- The state after one character. -/
def QuoteState.next (state : QuoteState) (c : Char) : QuoteState :=
  match state with
  | .outside => if c = '\'' ∨ c = '"' ∨ c = '\x60' then .inside c else .outside
  | .inside quote => if c = '\\' then .escaped quote else if c = quote then .outside else state
  | .escaped quote => .inside quote

/-- Whether a parenthesis that is open before the text closes at its last character. `inner` counts
the parentheses that have opened since. -/
def closesAtEnd (inner : Nat) (state : QuoteState) : List Char → Bool
  | [] => false
  | c :: rest =>
    if state = .outside ∧ c = '(' then closesAtEnd (inner + 1) .outside rest
    else if state = .outside ∧ c = ')' then
      match inner with
      | 0 => rest.isEmpty
      | inner + 1 => closesAtEnd inner .outside rest
    else closesAtEnd inner (state.next c) rest

/-- The inside of a text whose first parenthesis closes at its last character. -/
def parenthesized? : List Char → Option (List Char)
  | '(' :: rest => if closesAtEnd 0 .outside rest then some rest.dropLast else none
  | _ => none

/-- What stands in parentheses is shorter than the text with them. -/
private theorem length_of_parenthesized {text inner : List Char} (h : parenthesized? text = some inner) :
    inner.length + 1 ≤ text.length := by
  unfold parenthesized? at h
  split at h
  · split at h
    · simp only [Option.some.injEq] at h
      subst h
      simp only [List.length_dropLast, List.length_cons]
      omega
    · cases h
  · cases h

/-- The text without the parentheses that enclose all of it. -/
def unwrap (text : List Char) : List Char :=
  match hinner : parenthesized? text with
  | some inner =>
    have : (trim inner).length < text.length :=
      Nat.lt_of_lt_of_le (Nat.lt_succ_of_le (length_trim_le inner)) (length_of_parenthesized hinner)
    unwrap (trim inner)
  | none => text
termination_by text.length

/-- A pair of parentheses around the whole text is taken off, with the blanks inside of it. -/
theorem unwrap_of_some {text inner : List Char} (h : parenthesized? text = some inner) :
    unwrap text = unwrap (trim inner) := by
  rw [unwrap]
  split
  · rename_i actual hactual
    rw [h] at hactual
    cases hactual
    rfl
  · rename_i hnone
    rw [h] at hnone
    cases hnone

/-- A text that no pair of parentheses encloses is left as it is. -/
theorem unwrap_of_none {text : List Char} (h : parenthesized? text = none) : unwrap text = text := by
  rw [unwrap]
  split
  · rename_i inner hinner
    rw [h] at hinner
    cases hinner
  · rfl

end BareStrings.Expression
