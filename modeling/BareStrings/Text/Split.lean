namespace BareStrings.Text

/-- The pieces between the separators. There is always one piece more than there are separators. -/
def splitOn {α : Type} [DecidableEq α] (separator : α) : List α → List (List α)
  | [] => [[]]
  | c :: rest =>
    if c = separator then [] :: splitOn separator rest
    else match splitOn separator rest with
      | [] => [[c]]
      | piece :: pieces => (c :: piece) :: pieces

/-- The pieces with a separator between each two. -/
def joinWith {α : Type} (separator : List α) : List (List α) → List α
  | [] => []
  | [piece] => piece
  | piece :: pieces => piece ++ separator ++ joinWith separator pieces

/-- What precedes the first occurrence of a marker and what follows it. -/
def cutAt? {α : Type} [BEq α] (marker : List α) : List α → Option (List α × List α)
  | [] => if marker.isEmpty then some ([], []) else none
  | c :: rest =>
    match marker.isPrefixOf? (c :: rest) with
    | some after => some ([], after)
    | none => (cutAt? marker rest).map fun (before, after) => (c :: before, after)

/-- What stands behind a marker makes up the text again with the marker in front. -/
private theorem isPrefixOf?_eq_some {α : Type} [BEq α] [LawfulBEq α] {marker text after : List α}
    (h : marker.isPrefixOf? text = some after) : text = marker ++ after := by
  induction marker generalizing text with
  | nil =>
    cases h
    rfl
  | cons m marker ih =>
    cases text with
    | nil => cases h
    | cons c text =>
      change (if m == c then marker.isPrefixOf? text else none) = some after at h
      split at h
      · rename_i heq
        rw [eq_of_beq heq, ih h, List.cons_append]
      · cases h

/-- Nothing is lost by a cut: the text is the part before the marker, the marker and the rest. -/
theorem cutAt?_eq_some {α : Type} [BEq α] [LawfulBEq α] {marker text before after : List α}
    (h : cutAt? marker text = some (before, after)) : text = before ++ marker ++ after := by
  induction text generalizing before after with
  | nil =>
    simp only [cutAt?] at h
    split at h
    · rename_i hempty
      simp only [Option.some.injEq, Prod.mk.injEq] at h
      obtain ⟨rfl, rfl⟩ := h
      simpa using hempty
    · cases h
  | cons c rest ih =>
    simp only [cutAt?] at h
    split at h
    · rename_i tail htail
      simp only [Option.some.injEq, Prod.mk.injEq] at h
      obtain ⟨rfl, rfl⟩ := h
      simpa using isPrefixOf?_eq_some htail
    · obtain ⟨⟨inner, tail⟩, hcut, heq⟩ := Option.map_eq_some_iff.1 h
      simp only [Prod.mk.injEq] at heq
      obtain ⟨rfl, rfl⟩ := heq
      rw [ih hcut]
      simp

end BareStrings.Text
