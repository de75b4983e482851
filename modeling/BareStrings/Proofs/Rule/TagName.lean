import BareStrings.Proofs.Text.Ascii
import BareStrings.Proofs.Unicode.Case
import BareStrings.Rule.TagName

namespace BareStrings.Rule.TagName

open BareStrings.Text

variable {c : Char} {rest : List Char}

/-- A letter has a capital letter. -/
theorem isUpper_toUpper_of_isAlpha (hletter : c.isAlpha = true) : c.toUpper.isUpper = true :=
  of_ascii (P := fun c => c.isAlpha = true → c.toUpper.isUpper = true)
    (by decide) (toNat_lt_of_isAlpha hletter) hletter

/-- A name that begins with a capital is not in kebab case. -/
theorem isKebabCase_of_isUpper (hupper : c.isUpper = true) : isKebabCase (c :: rest) = false := by
  simp [isKebabCase, hupper]

private theorem isLower_of_isKebabCase (hletter : c.isAlpha = true)
    (hkebab : isKebabCase (c :: rest) = true) : c.isLower = true := by
  have hcases : (c.isUpper || c.isLower) = true := hletter
  rw [Bool.or_eq_true] at hcases
  refine hcases.resolve_left fun hupper => ?_
  rw [isKebabCase_of_isUpper hupper] at hkebab
  cases hkebab

/-- What is no separator stays when words are joined. -/
theorem joinWords_cons_of_ne (hhyphen : c ≠ '-') (hline : c ≠ '_') :
    joinWords (c :: rest) = c :: joinWords rest := by
  cases rest with
  | nil => rfl
  | cons d rest => simp [joinWords, hhyphen, hline]

/-- A letter in front stays when words are joined. -/
theorem joinWords_cons_of_isAlpha (hletter : c.isAlpha = true) :
    joinWords (c :: rest) = c :: joinWords rest :=
  joinWords_cons_of_ne (ne_of_isAlpha hletter rfl) (ne_of_isAlpha hletter rfl)

/-- The first letter of words with hyphens becomes a capital letter, and the words behind it are joined. -/
theorem pascalCase_cons (hletter : c.isAlpha = true) (hkebab : isKebabCase (c :: rest) = true) :
    pascalCase (c :: rest) = c.toUpper :: joinWords rest := by
  have hpascal : isPascalCase (c :: rest) = false := by
    simp [isPascalCase, isLower_of_isKebabCase hletter hkebab]
  rw [pascalCase, camelCase, hpascal, if_neg Bool.false_ne_true, joinWords_cons_of_isAlpha hletter,
    capitalize, Unicode.upperChar_ascii (toNat_lt_of_isAlpha hletter), List.singleton_append]

/-- The Pascal case of a name in kebab case is not in kebab case. -/
theorem isKebabCase_pascalCase (hletter : c.isAlpha = true) (hkebab : isKebabCase (c :: rest) = true) :
    isKebabCase (pascalCase (c :: rest)) = false := by
  rw [pascalCase_cons hletter hkebab]
  exact isKebabCase_of_isUpper (isUpper_toUpper_of_isAlpha hletter)

/-- A name in words with hyphens changes when it is written with capital letters. -/
theorem pascalCase_ne (hletter : c.isAlpha = true) (hkebab : isKebabCase (c :: rest) = true) :
    pascalCase (c :: rest) ≠ c :: rest := by
  intro hsame
  have hother := isKebabCase_pascalCase hletter hkebab
  rw [hsame, hkebab] at hother
  cases hother

end BareStrings.Rule.TagName
