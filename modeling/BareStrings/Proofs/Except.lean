import Mathlib.Data.List.Forall2

namespace BareStrings

section Steps

variable {α β ε : Type}

/-- Two steps give a result exactly if the first one does and the second one goes on from there. -/
theorem bind_eq_ok_iff {x : Except ε α} {f : α → Except ε β} {y : β} :
    x >>= f = .ok y ↔ ∃ a, x = .ok a ∧ f a = .ok y := by
  cases x <;> simp [bind, Except.bind]

/-- Two steps fail with the error of the first one, or with that of the second one behind it. -/
theorem bind_eq_error_iff {x : Except ε α} {f : α → Except ε β} {error : ε} :
    x >>= f = .error error ↔ x = .error error ∨ ∃ a, x = .ok a ∧ f a = .error error := by
  cases x <;> simp [bind, Except.bind]

/-- What has been found out about a result, if there is one, shows that there is one. -/
theorem exists_of_toOption_map {x : Except ε α} {f : α → β} {y : β}
    (hfound : x.toOption.map f = some y) : ∃ a, x = .ok a ∧ f a = y := by
  cases x with
  | error error => cases hfound
  | ok a => exact ⟨a, rfl, Option.some.inj hfound⟩

/-- A result that is found, as one that may be missing, is the result. -/
theorem map_some_eq_ok {result : Except ε α} {found : α}
    (hresult : result.map some = .ok (some found)) : result = .ok found := by
  cases result with
  | error => cases hresult
  | ok => rw [Option.some.inj (Except.ok.inj hresult)]

/-- Changing a result changes nothing about whether there is one. -/
theorem map_eq_error_iff {result : Except ε α} {f : α → β} :
    (∃ error, result.map f = .error error) ↔ ∃ error, result = .error error := by
  cases result <;> simp [Except.map]

end Steps

section Items

variable {α β ε : Type}

/-- A list is read if each of its items is. -/
theorem exists_mapM {read : α → Except ε β} {items : List α}
    (hitems : ∀ item ∈ items, ∃ found, read item = .ok found) :
    ∃ found, items.mapM read = .ok found := by
  induction items with
  | nil => exact ⟨[], rfl⟩
  | cons item items ih =>
    obtain ⟨⟨first, hfirst⟩, hlater⟩ := List.forall_mem_cons.1 hitems
    obtain ⟨later, hlater⟩ := ih hlater
    exact ⟨first :: later, by rw [List.mapM_cons, hfirst, hlater]; rfl⟩

/-- What is read of items is read of each in turn. -/
theorem forall₂_of_mapM {f : α → Except ε β} {items : List α} {found : List β}
    (hmap : items.mapM f = .ok found) :
    List.Forall₂ (fun item value => item ∈ items ∧ f item = .ok value) items found := by
  induction items generalizing found with
  | nil =>
    cases hmap
    exact .nil
  | cons item items ih =>
    rw [List.mapM_cons, bind_eq_ok_iff] at hmap
    obtain ⟨first, hfirst, hmap⟩ := hmap
    obtain ⟨later, hlater, hmap⟩ := bind_eq_ok_iff.1 hmap
    cases hmap
    refine .cons ⟨List.mem_cons_self, hfirst⟩ ((ih hlater).imp ?_)
    exact fun _ _ hvalue => ⟨List.mem_cons_of_mem _ hvalue.1, hvalue.2⟩

/-- Of two lists that belong together item by item, each item of the second one has its partner in the first
one. -/
private theorem exists_mem_of_forall₂ {R : α → β → Prop} {items : List α} {found : List β}
    (hitems : List.Forall₂ R items found) {value : β} (hmem : value ∈ found) :
    ∃ item ∈ items, R item value := by
  induction hitems with
  | nil => cases hmem
  | cons hfirst _ ih =>
    rcases List.mem_cons.1 hmem with rfl | hmem
    · exact ⟨_, List.mem_cons_self, hfirst⟩
    · obtain ⟨item, hitem, hvalue⟩ := ih hmem
      exact ⟨item, List.mem_cons_of_mem _ hitem, hvalue⟩

/-- Everything that has been read of a list has been read of some item. -/
theorem exists_of_mem_mapM {read : α → Except ε β} {items : List α} {found : List β}
    (hread : items.mapM read = .ok found) {value : β} (hmem : value ∈ found) :
    ∃ item ∈ items, read item = .ok value := by
  obtain ⟨item, hitem, _, hvalue⟩ := exists_mem_of_forall₂ (forall₂_of_mapM hread) hmem
  exact ⟨item, hitem, hvalue⟩

/-- Every item has its part in what is read. -/
theorem exists_mem_mapM {read : α → Except ε β} {items : List α} {found : List β}
    (hread : items.mapM read = .ok found) {item : α} (hmem : item ∈ items) :
    ∃ value ∈ found, read item = .ok value := by
  have hfound : List.Forall₂ (fun value item => item ∈ items ∧ read item = .ok value) found items :=
    (forall₂_of_mapM hread).flip
  obtain ⟨value, hvalue, _, hitem⟩ := exists_mem_of_forall₂ hfound hmem
  exact ⟨value, hvalue, hitem⟩

/-- A list is refused with the error of one of its items. -/
theorem exists_of_mapM_eq_error {f : α → Except ε β} {elements : List α} {error : ε}
    (herror : elements.mapM f = .error error) : ∃ element ∈ elements, f element = .error error := by
  induction elements with
  | nil => cases herror
  | cons element elements ih =>
    rw [List.mapM_cons, bind_eq_error_iff] at herror
    obtain hfirst | ⟨_, _, herror⟩ := herror
    · exact ⟨element, List.mem_cons_self, hfirst⟩
    · obtain hlater | ⟨_, _, hnever⟩ := bind_eq_error_iff.1 herror
      · obtain ⟨later, hmem, hlater⟩ := ih hlater
        exact ⟨later, List.mem_cons_of_mem _ hmem, hlater⟩
      · cases hnever

/-- A list has no result exactly if one of its items has none. -/
theorem mapM_eq_none_iff {f : α → Option β} {items : List α} :
    items.mapM f = none ↔ ∃ item ∈ items, f item = none := by
  induction items with
  | nil => simp
  | cons item items ih =>
    rw [List.mapM_cons]
    simp only [List.mem_cons, exists_eq_or_imp, ← ih]
    cases f item with
    | none => simp
    | some found => cases items.mapM f <;> simp

end Items

end BareStrings
