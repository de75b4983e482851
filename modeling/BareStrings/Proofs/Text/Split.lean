import BareStrings.Text.Split
import Mathlib.Data.List.TakeWhile

namespace BareStrings.Text

section Marker

variable {α : Type} [BEq α] [LawfulBEq α]

/-- A marker at the front of a text is taken off and leaves what is behind it. -/
theorem isPrefixOf?_append (marker after : List α) :
    marker.isPrefixOf? (marker ++ after) = some after := by
  induction marker with
  | nil => rfl
  | cons m marker ih =>
    change (if m == m then marker.isPrefixOf? (marker ++ after) else none) = some after
    rw [if_pos (beq_self_eq_true m), ih]

private theorem isPrefixOf?_eq_none {m c : α} (hne : c ≠ m) (marker rest : List α) :
    (m :: marker).isPrefixOf? (c :: rest) = none := by
  change (if m == c then marker.isPrefixOf? rest else none) = none
  exact if_neg fun heq => hne (eq_of_beq heq).symm

/-- A text without the first element of a marker cannot be cut at the marker. -/
theorem cutAt?_eq_none {m : α} {text : List α} (habsent : m ∉ text) (marker : List α) :
    cutAt? (m :: marker) text = none := by
  induction text with
  | nil => rfl
  | cons c rest ih =>
    rw [List.mem_cons, not_or] at habsent
    rw [cutAt?, isPrefixOf?_eq_none (Ne.symm habsent.1)]
    simp only [ih habsent.2, Option.map_none]

/-- A text is cut at a marker that stands behind elements of which none begins the marker. -/
theorem cutAt?_append {m : α} {before : List α} (habsent : m ∉ before) (marker after : List α) :
    cutAt? (m :: marker) (before ++ (m :: marker ++ after)) = some (before, after) := by
  induction before with
  | nil =>
    rw [List.nil_append, List.cons_append, cutAt?, ← List.cons_append, isPrefixOf?_append]
  | cons c before ih =>
    rw [List.mem_cons, not_or] at habsent
    rw [List.cons_append, cutAt?, isPrefixOf?_eq_none (Ne.symm habsent.1)]
    simp only [ih habsent.2, Option.map_some]

/-- A text that holds a marker is cut, and no later than there. -/
theorem exists_cutAt? (marker others rest : List α) :
    ∃ before after, cutAt? marker (others ++ marker ++ rest) = some (before, after) ∧
      before.length ≤ others.length := by
  induction others with
  | nil =>
    rw [List.nil_append]
    have hfront := isPrefixOf?_append marker rest
    cases htext : marker ++ rest with
    | nil =>
      obtain ⟨rfl, rfl⟩ := List.append_eq_nil_iff.1 htext
      exact ⟨[], [], rfl, Nat.le_refl 0⟩
    | cons c tail =>
      rw [htext] at hfront
      exact ⟨[], rest, by rw [cutAt?, hfront], Nat.le_refl 0⟩
  | cons c others ih =>
    obtain ⟨before, after, hcut, hle⟩ := ih
    rw [List.cons_append, List.cons_append, cutAt?, hcut]
    cases marker.isPrefixOf? (c :: (others ++ marker ++ rest)) with
    | some tail => exact ⟨[], tail, rfl, Nat.zero_le _⟩
    | none => exact ⟨c :: before, after, rfl, Nat.succ_le_succ hle⟩

end Marker

section Boundary

variable {α : Type} {p : α → Bool} {c : α} {text : List α}

/-- The two parts of a text that is cut are as long as the text together. -/
theorem length_takeWhile_add_dropWhile (p : α → Bool) (text : List α) :
    (text.takeWhile p).length + (text.dropWhile p).length = text.length := by
  rw [← List.length_append, List.takeWhile_append_dropWhile]

/-- Dropping as much as is taken leaves what is left. -/
theorem drop_length_takeWhile (p : α → Bool) (text : List α) :
    text.drop (text.takeWhile p).length = text.dropWhile p := calc
  text.drop (text.takeWhile p).length
      = (text.takeWhile p ++ text.dropWhile p).drop (text.takeWhile p).length := by
        rw [List.takeWhile_append_dropWhile]
  _ = text.dropWhile p := List.drop_left

/-- The cut passes over no element that does not satisfy the condition. -/
theorem mem_dropWhile (hmem : c ∈ text) (hc : p c = false) : c ∈ text.dropWhile p := by
  rw [← List.takeWhile_append_dropWhile (p := p) (l := text), List.mem_append] at hmem
  refine hmem.resolve_left fun hinside => ?_
  have htrue := List.mem_takeWhile_imp hinside
  rw [hc] at htrue
  cases htrue

/-- Where something is left of a text, the rest of a longer one is longer by as much. -/
theorem dropWhile_append_of_ne_nil (hne : text.dropWhile p ≠ []) (more : List α) :
    (text ++ more).dropWhile p = text.dropWhile p ++ more := by
  simp [List.dropWhile_append, hne]

/-- Where something is left of a text, no more is taken of a longer one. -/
theorem takeWhile_append_of_ne_nil (hne : text.dropWhile p ≠ []) (more : List α) :
    (text ++ more).takeWhile p = text.takeWhile p := by
  have hlength := length_takeWhile_add_dropWhile p text
  have hpos := List.length_pos_iff.2 hne
  rw [List.takeWhile_append, if_neg (by omega)]

/-- A text that is cut before one of its elements leaves the same rest whatever follows. -/
theorem dropWhile_append_of_mem (hmem : c ∈ text) (hc : p c = false) (more : List α) :
    (text ++ more).dropWhile p = text.dropWhile p ++ more :=
  dropWhile_append_of_ne_nil (List.ne_nil_of_mem (mem_dropWhile hmem hc)) more

/-- A text that is cut before one of its elements is cut there whatever follows. -/
theorem takeWhile_append_of_mem (hmem : c ∈ text) (hc : p c = false) (more : List α) :
    (text ++ more).takeWhile p = text.takeWhile p :=
  takeWhile_append_of_ne_nil (List.ne_nil_of_mem (mem_dropWhile hmem hc)) more

/-- Of a longer text at least as much is taken. -/
theorem takeWhile_prefix_takeWhile_append (p : α → Bool) (text more : List α) :
    text.takeWhile p <+: (text ++ more).takeWhile p := by
  rw [List.takeWhile_append]
  split
  · exact (List.takeWhile_prefix p).trans (List.prefix_append text _)
  · exact List.prefix_rfl

/-- A text is cut where its first part ends, if what follows does not go on in the same way. -/
theorem takeWhile_append_of_head {front : List α} (hfront : ∀ a ∈ front, p a = true) (rest : List α)
    (hrest : ∀ a ∈ rest.head?, p a = false) :
    (front ++ rest).takeWhile p = front ∧ (front ++ rest).dropWhile p = rest := by
  rw [List.takeWhile_append_of_pos hfront, List.dropWhile_append_of_pos hfront]
  cases rest with
  | nil => simp
  | cons a rest => simp [hrest a rfl]

end Boundary

section Joined

variable {α : Type}

/-- What stands in joined pieces stands in the separator or in a piece. -/
theorem mem_joinWith {separator : List α} {pieces : List (List α)} {c : α}
    (hmem : c ∈ joinWith separator pieces) : c ∈ separator ∨ ∃ piece ∈ pieces, c ∈ piece := by
  fun_induction joinWith separator pieces with
  | case1 => cases hmem
  | case2 piece => exact .inr ⟨piece, List.mem_cons_self, hmem⟩
  | case3 piece pieces _ ih =>
    rw [List.mem_append, List.mem_append] at hmem
    obtain (hpiece | hseparator) | hlater := hmem
    · exact .inr ⟨piece, List.mem_cons_self, hpiece⟩
    · exact .inl hseparator
    · exact (ih hlater).imp_right fun ⟨other, hother, hc⟩ => ⟨other, List.mem_cons_of_mem _ hother, hc⟩

private theorem joinWith_cons (separator piece : List α) {pieces : List (List α)} (hne : pieces ≠ []) :
    joinWith separator (piece :: pieces) = piece ++ separator ++ joinWith separator pieces := by
  cases pieces with
  | nil => exact absurd rfl hne
  | cons next pieces => rfl

/-- Behind the first piece, each piece follows a separator. -/
theorem joinWith_eq_flatMap (separator piece : List α) (pieces : List (List α)) :
    joinWith separator (piece :: pieces) = piece ++ pieces.flatMap (separator ++ ·) := by
  induction pieces generalizing piece with
  | nil => exact (List.append_nil piece).symm
  | cons next pieces ih =>
    rw [joinWith_cons separator piece (List.cons_ne_nil next pieces), ih, List.flatMap_cons]
    simp only [List.append_assoc]

/-- The first pieces, joined, begin what all pieces give. -/
theorem joinWith_prefix_append (separator : List α) (front rest : List (List α)) :
    joinWith separator front <+: joinWith separator (front ++ rest) := by
  fun_induction joinWith separator front with
  | case1 => exact List.nil_prefix
  | case2 piece =>
    cases rest with
    | nil => exact List.prefix_rfl
    | cons next rest =>
      rw [List.singleton_append, joinWith_cons separator piece (List.cons_ne_nil next rest), List.append_assoc]
      exact List.prefix_append _ _
  | case3 piece pieces hmore ih =>
    rw [List.cons_append, joinWith_cons separator piece (List.append_ne_nil_of_left_ne_nil hmore rest)]
    exact (List.prefix_append_right_inj _).2 ih

end Joined

section Infix
variable {α : Type} {m c : α} {needle front rest back : List α}

/-- A text that begins with an element which a front does not have is no part of it and does not reach into
it. -/
theorem infix_of_infix_append_left (habsent : m ∉ front) (hheld : m :: needle <:+: front ++ rest) :
    m :: needle <:+: rest := by
  induction front with
  | nil => exact hheld
  | cons c front ih =>
    rw [List.mem_cons, not_or] at habsent
    rw [List.cons_append, List.infix_cons_iff, List.cons_prefix_cons] at hheld
    exact ih habsent.2 (hheld.resolve_left fun hstart => habsent.1 hstart.1)

/-- What ends in an element that the back does not hold stands before the back. -/
theorem infix_of_infix_append_right (habsent : m ∉ back) (hheld : needle ++ [m] <:+: rest ++ back) :
    needle ++ [m] <:+: rest := by
  rw [← List.reverse_infix, List.reverse_append, List.reverse_append, List.reverse_singleton,
    List.singleton_append] at hheld
  rw [← List.reverse_infix, List.reverse_append, List.reverse_singleton, List.singleton_append]
  exact infix_of_infix_append_left (fun hmem => habsent (List.mem_reverse.1 hmem)) hheld

private theorem prefix_of_prefix_append_cons (habsent : c ∉ needle)
    (hbegins : needle <+: front ++ c :: rest) : needle <+: front := by
  obtain hshort | ⟨more, rfl⟩ := List.prefix_or_prefix_of_prefix hbegins (List.prefix_append front (c :: rest))
  · exact hshort
  · cases more with
    | nil => exact (List.append_nil front).symm ▸ List.prefix_rfl
    | cons d more =>
      rw [List.prefix_append_right_inj, List.cons_prefix_cons] at hbegins
      exact absurd (List.mem_append_right front (hbegins.1 ▸ List.mem_cons_self)) habsent

/-- A text without the separator does not reach across it. -/
theorem infix_append_cons_iff (habsent : c ∉ needle) :
    needle <:+: front ++ c :: rest ↔ needle <:+: front ∨ needle <:+: rest := by
  constructor
  · intro hheld
    induction front with
    | nil =>
      rw [List.nil_append, List.infix_cons_iff] at hheld
      exact hheld.imp_left fun hstart =>
        have hshort : needle <+: [] := prefix_of_prefix_append_cons habsent hstart
        hshort.isInfix
    | cons d front ih =>
      rw [List.cons_append, List.infix_cons_iff] at hheld
      obtain hstart | hlater := hheld
      · have hshort : needle <+: d :: front := prefix_of_prefix_append_cons habsent hstart
        exact .inl hshort.isInfix
      · exact (ih hlater).imp_left fun hfront => hfront.trans (List.suffix_cons d front).isInfix
  · rintro (hfront | hrest)
    · exact hfront.trans (List.prefix_append _ _).isInfix
    · exact hrest.trans ((List.suffix_cons _ _).trans (List.suffix_append _ _)).isInfix

/-- Joined pieces hold a text without the separator where one of them does. -/
theorem infix_joinWith_iff (habsent : c ∉ needle) (hne : needle ≠ []) (pieces : List (List α)) :
    needle <:+: joinWith [c] pieces ↔ ∃ piece ∈ pieces, needle <:+: piece := by
  fun_induction joinWith [c] pieces with
  | case1 => simpa using hne
  | case2 piece => simp
  | case3 piece pieces _ ih =>
    rw [List.append_assoc, List.singleton_append, infix_append_cons_iff habsent, ih]
    simp only [List.mem_cons, exists_eq_or_imp]
end Infix

section Pieces

variable {α : Type} [DecidableEq α] {separator : α} {piece : List α}

private theorem splitOn_of_not_mem (hpiece : separator ∉ piece) : splitOn separator piece = [piece] := by
  induction piece with
  | nil => rfl
  | cons c piece ih =>
    rw [List.mem_cons, not_or] at hpiece
    rw [splitOn, if_neg (Ne.symm hpiece.1), ih hpiece.2]

private theorem splitOn_append (hpiece : separator ∉ piece) (rest : List α) :
    splitOn separator (piece ++ separator :: rest) = piece :: splitOn separator rest := by
  induction piece with
  | nil => rw [List.nil_append, splitOn, if_pos rfl]
  | cons c piece ih =>
    rw [List.mem_cons, not_or] at hpiece
    rw [List.cons_append, splitOn, if_neg (Ne.symm hpiece.1), ih hpiece.2]

/-- Pieces with a separator in front of each but the first are told apart. -/
theorem splitOn_flatMap (hpiece : separator ∉ piece) {pieces : List (List α)}
    (hpieces : ∀ piece ∈ pieces, separator ∉ piece) :
    splitOn separator (piece ++ pieces.flatMap (separator :: ·)) = piece :: pieces := by
  induction pieces generalizing piece with
  | nil => rw [List.flatMap_nil, List.append_nil, splitOn_of_not_mem hpiece]
  | cons next pieces ih =>
    obtain ⟨hnext, hpieces⟩ := List.forall_mem_cons.1 hpieces
    rw [List.flatMap_cons, List.cons_append, splitOn_append hpiece, ih hnext hpieces]

/-- Joined pieces are told apart again as far as they do not hold the separator. -/
theorem splitOn_joinWith_append {separator : α} {front : List (List α)}
    (hfront : ∀ piece ∈ front, separator ∉ piece) {rest : List (List α)} (hrest : rest ≠ []) :
    splitOn separator (joinWith [separator] (front ++ rest)) =
      front ++ splitOn separator (joinWith [separator] rest) := by
  induction front with
  | nil => rfl
  | cons piece front ih =>
    obtain ⟨hpiece, hfront⟩ := List.forall_mem_cons.1 hfront
    have hmore := List.append_ne_nil_of_right_ne_nil front hrest
    rw [List.cons_append, joinWith_cons [separator] piece hmore, List.append_assoc, List.singleton_append,
      splitOn_append hpiece, ih hfront, List.cons_append]

end Pieces

end BareStrings.Text
