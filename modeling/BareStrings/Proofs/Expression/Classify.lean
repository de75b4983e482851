import BareStrings.Expression.Basic

namespace BareStrings.Expression

open BareStrings.Number BareStrings.Text

/-- The kinds of texts with what each is taken for. A string comes before a number and a number before a
word. -/
inductive Classified (text : List Char) : Except ExpressionError (Option Expression) → Prop where
  | nothing (hempty : text = []) : Classified text (.ok none)
  | string {body : List Char} {codes : List CodePoint} (hbody : stringBody? text = some body)
      (hcodes : decodeBody body = .ok codes) : Classified text (.ok (some (.literal (.string codes) text)))
  | badEscape {body : List Char} {cause : CodePointError} (hbody : stringBody? text = some body)
      (hcause : decodeBody body = .error cause) : Classified text (.error (.escape cause))
  | number {numeral : Numeral} {value : Binary64} (hbody : stringBody? text = none)
      (hnumeral : numeral? text = some numeral) (hvalue : numeral.value? = some value) :
      Classified text (.ok (some (.literal (.number value) text)))
  | tooLarge {numeral : Numeral} (hbody : stringBody? text = none) (hnumeral : numeral? text = some numeral)
      (hvalue : numeral.value? = none) : Classified text (.error .numberTooLarge)
  | keyword {value : Constant} (hbody : stringBody? text = none) (hnumeral : numeral? text = none)
      (hkeyword : keyword? text = some value) : Classified text (.ok (some (.literal value text)))
  | dynamic (hsome : text ≠ []) (hbody : stringBody? text = none) (hnumeral : numeral? text = none)
      (hkeyword : keyword? text = none) : Classified text (.ok (some (.dynamic text)))

variable {text : List Char}

/-- Every text is classified as what it is written as. -/
private theorem classified (text : List Char) : Classified text (classify text) := by
  unfold classify
  split
  · rename_i hempty
    exact .nothing (List.isEmpty_iff.1 hempty)
  rename_i hsome
  split
  · rename_i body hbody
    split
    · rename_i codes hcodes
      exact .string hbody hcodes
    · rename_i cause hcause
      exact .badEscape hbody hcause
  rename_i hbody
  split
  · rename_i numeral hnumeral
    split
    · rename_i value hvalue
      exact .number hbody hnumeral hvalue
    · rename_i hvalue
      exact .tooLarge hbody hnumeral hvalue
  rename_i hnumeral
  split
  · rename_i value hkeyword
    exact .keyword hbody hnumeral hkeyword
  · rename_i hkeyword
    exact .dynamic (fun hempty => hsome (List.isEmpty_iff.2 hempty)) hbody hnumeral hkeyword

/-- The kinds exclude one another. -/
theorem Classified.classify_eq {result : Except ExpressionError (Option Expression)}
    (hclassified : Classified text result) : classify text = result := by
  have hnil : stringBody? [] = none ∧ numeral? [] = none ∧ keyword? [] = none := ⟨rfl, rfl, rfl⟩
  cases hclassified <;> cases text <;> simp_all [classify]

/-- Whatever a text is taken for, it is kept as it is written. -/
theorem classify_eq_ok {result : Option Expression} (hclassify : classify text = .ok result) :
    (result = none ∧ text = []) ∨ (∃ value, result = some (.literal value text)) ∨
      result = some (.dynamic text) := by
  have hclassified := classified text
  rw [hclassify] at hclassified
  cases hclassified with
  | nothing hempty => exact .inl ⟨rfl, hempty⟩
  | string _ _ => exact .inr (.inl ⟨_, rfl⟩)
  | number _ _ _ => exact .inr (.inl ⟨_, rfl⟩)
  | keyword _ _ _ => exact .inr (.inl ⟨_, rfl⟩)
  | dynamic _ _ _ _ => exact .inr (.inr rfl)

private theorem keyword?_ne_string (text : List Char) (codes : List CodePoint) :
    keyword? text ≠ some (.string codes) := by
  unfold keyword?
  split
  · simp
  · split
    · simp
    · split <;> simp

/-- Only a text that is a string literal is read as one. -/
theorem classify_eq_string_iff {raw : List Char} {codes : List CodePoint} :
    classify text = .ok (some (.literal (.string codes) raw)) ↔
      raw = text ∧ ∃ body, stringBody? text = some body ∧ decodeBody body = .ok codes := by
  constructor
  · intro hclassify
    have hclassified := classified text
    rw [hclassify] at hclassified
    cases hclassified with
    | string hbody hcodes => exact ⟨rfl, _, hbody, hcodes⟩
    | keyword _ _ hkeyword => exact absurd hkeyword (keyword?_ne_string text codes)
  · rintro ⟨rfl, body, hbody, hcodes⟩
    exact (Classified.string hbody hcodes).classify_eq

/-- A text is refused for an escape, if it is a string, or for its size, if it is a number. -/
theorem classify_eq_error_iff {error : ExpressionError} :
    classify text = .error error ↔
      (∃ body cause, stringBody? text = some body ∧ decodeBody body = .error cause ∧ error = .escape cause) ∨
      (stringBody? text = none ∧ (∃ numeral, numeral? text = some numeral ∧ numeral.value? = none) ∧
        error = .numberTooLarge) := by
  constructor
  · intro hclassify
    have hclassified := classified text
    rw [hclassify] at hclassified
    cases hclassified with
    | badEscape hbody hcause => exact .inl ⟨_, _, hbody, hcause, rfl⟩
    | tooLarge hbody hnumeral hvalue => exact .inr ⟨hbody, ⟨_, hnumeral, hvalue⟩, rfl⟩
  · rintro (⟨body, cause, hbody, hcause, rfl⟩ | ⟨hbody, ⟨numeral, hnumeral, hvalue⟩, rfl⟩)
    · exact (Classified.badEscape hbody hcause).classify_eq
    · exact (Classified.tooLarge hbody hnumeral hvalue).classify_eq

end BareStrings.Expression
