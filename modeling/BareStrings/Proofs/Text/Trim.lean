import BareStrings.Text.Blank
import Mathlib.Data.List.DropRight

namespace BareStrings.Text

section Leaves

variable {α : Type} (outer : α → Bool) (text : List α)

private theorem trimBy_isPrefix : trimBy outer text <+: text.dropWhile outer :=
  List.rdropWhile_prefix outer (text.dropWhile outer)

/-- What trimming leaves stands in the text. -/
theorem trimBy_isInfix : trimBy outer text <:+: text :=
  (trimBy_isPrefix outer text).isInfix.trans (List.dropWhile_suffix outer).isInfix

/-- There is nothing left to trim of what has been trimmed. -/
theorem trimBy_trimBy : trimBy outer (trimBy outer text) = trimBy outer text := by
  have hfront : (trimBy outer text).dropWhile outer = trimBy outer text := by
    rw [List.dropWhile_eq_self_iff]
    intro hsome
    rw [(trimBy_isPrefix outer text).getElem hsome]
    exact List.dropWhile_get_zero_not outer text _
  calc trimBy outer (trimBy outer text)
    _ = ((trimBy outer text).dropWhile outer).rdropWhile outer := rfl
    _ = ((text.dropWhile outer).rdropWhile outer).rdropWhile outer := by rw [hfront]; rfl
    _ = trimBy outer text := List.rdropWhile_idempotent outer _

end Leaves

section Ends

variable {α : Type} {outer : α → Bool}

/-- Trimming takes away nothing but what it is for. -/
theorem mem_trimBy_iff {a : α} (hinner : outer a = false) (text : List α) :
    a ∈ trimBy outer text ↔ a ∈ text := by
  have hdrop : ∀ list : List α, a ∈ list.dropWhile outer ↔ a ∈ list := by
    intro list
    refine ⟨fun hmem => (List.dropWhile_suffix outer).subset hmem, fun hmem => ?_⟩
    rw [← list.takeWhile_append_dropWhile (p := outer), List.mem_append] at hmem
    refine hmem.resolve_left fun htaken => ?_
    rw [List.mem_takeWhile_imp htaken] at hinner
    cases hinner
  rw [trimBy, List.mem_reverse, hdrop, List.mem_reverse, hdrop]

/-- Nothing is left exactly of what has nothing but elements to cut off. -/
theorem trimBy_eq_nil_iff {text : List α} : trimBy outer text = [] ↔ ∀ a ∈ text, outer a = true := by
  constructor
  · intro hnil a ha
    by_contra hinner
    have hleft := (mem_trimBy_iff (eq_false_of_ne_true hinner) text).2 ha
    rw [hnil] at hleft
    cases hleft
  · intro hall
    rw [trimBy, List.dropWhile_eq_nil_iff.2 hall]
    rfl

/-- What is cut off anyway may stand at both ends. -/
theorem trimBy_append {before after : List α} (hbefore : ∀ a ∈ before, outer a = true)
    (hafter : ∀ a ∈ after, outer a = true) (text : List α) :
    trimBy outer (before ++ text ++ after) = trimBy outer text := by
  rw [trimBy, List.append_assoc, List.dropWhile_append_of_pos hbefore, List.dropWhile_append]
  split
  · rename_i hempty
    rw [List.isEmpty_iff] at hempty
    rw [trimBy, hempty, List.dropWhile_eq_nil_iff.2 hafter]
  · rw [List.reverse_append, List.dropWhile_append_of_pos (by simpa using hafter), ← trimBy]

/-- Nothing is cut off a text between two elements that stay. -/
theorem trimBy_enclosed {first last : α} (hfirst : outer first = false) (hlast : outer last = false)
    (inside : List α) : trimBy outer (first :: inside ++ [last]) = first :: inside ++ [last] := by
  have hfront := List.dropWhile_cons_of_neg (l := inside ++ [last]) (ne_true_of_eq_false hfirst)
  have hback := List.dropWhile_cons_of_neg (l := (first :: inside).reverse) (ne_true_of_eq_false hlast)
  rw [trimBy, List.cons_append, hfront, ← List.cons_append, List.reverse_append, List.reverse_singleton,
    List.singleton_append, hback]
  simp

end Ends

end BareStrings.Text
