import BareStrings.Proofs.Expression.StringLiteral
import BareStrings.Proofs.Number.Rounding

namespace BareStrings.Expression

open BareStrings.Number BareStrings.Text

/-- Why a number beyond the code points is none of them. -/
def causeOf (n : Nat) : CodePointError := if n ≤ 0x7FFFFFFF then .beyondCodePoints else .beyondMachineInteger

private theorem ofNumber_eq_error_iff {n : Nat} {cause : CodePointError} :
    CodePoint.ofNumber n = .error cause ↔ 0x10FFFF < n ∧ cause = causeOf n := by
  unfold CodePoint.ofNumber causeOf
  split_ifs <;> grind

variable {digits text rest : List Char} {items : List Item} {cause : CodePointError}

/-- Hexadecimal digits denote less than the power of sixteen for their number. -/
theorem ofDigits_lt (hhex : ∀ d ∈ digits, isHexDigit d = true) : ofDigits 16 digits < 16 ^ digits.length := by
  induction digits using List.reverseRecOn with
  | nil => decide
  | append_singleton front d ih =>
    rw [List.forall_mem_append, List.forall_mem_singleton] at hhex
    obtain ⟨hfront, hd⟩ := hhex
    have hvalue : (digitValue? d).getD 0 < 16 := by
      cases hread : digitValue? d with
      | none => decide
      | some k => simpa [isHexDigit, isDigitOf, hread] using hd
    have hleading := ih hfront
    rw [ofDigits, List.foldl_append, ← ofDigits, List.length_append]
    simp only [List.foldl_cons, List.foldl_nil, List.length_singleton, pow_succ]
    omega

/-- The first number in braces that is beyond the code points. -/
inductive FirstBeyond : List Item → Nat → Prop where
  | here {digits : List Char} {items : List Item} (hbeyond : 0x10FFFF < ofDigits 16 digits) :
      FirstBeyond (.numeral .inBraces digits :: items) (ofDigits 16 digits)
  | later {item : Item} {items : List Item} {n : Nat}
      (hwithin : ∀ digits, item = .numeral .inBraces digits → ofDigits 16 digits ≤ 0x10FFFF)
      (hlater : FirstBeyond items n) : FirstBeyond (item :: items) n

private theorem map_eq_error_iff {α β : Type} {f : α → β} {result : Except CodePointError α} :
    result.map f = .error cause ↔ result = .error cause := by
  cases result <;> simp [Except.map]

/-- Of the items only a number in braces can be without a code point. The digits of the other numerals are
too few. -/
theorem item_codes_eq_error_iff {item : Item} {after : List Char} (hfits : item.Fits after) :
    item.codes = .error cause ↔
      ∃ digits, item = .numeral .inBraces digits ∧ 0x10FFFF < ofDigits 16 digits ∧
        cause = causeOf (ofDigits 16 digits) := by
  cases item with
  | plain c => simp [Item.codes]
  | lineEnd => simp [Item.codes]
  | simple c => simp [Item.codes]
  | numeral form digits =>
    obtain ⟨hhex, hcount⟩ : form.Takes digits := hfits
    have hlimit := ofDigits_lt hhex
    rw [Item.codes, map_eq_error_iff, ofNumber_eq_error_iff]
    cases form with
    | twoDigits =>
      rw [show digits.length = 2 from hcount] at hlimit
      exact iff_of_false (by omega) (by simp)
    | fourDigits =>
      rw [show digits.length = 4 from hcount] at hlimit
      exact iff_of_false (by omega) (by simp)
    | inBraces => simp

private theorem codesOf_cons_eq_error_iff {item : Item} :
    codesOf (item :: items) = .error cause ↔
      item.codes = .error cause ∨ (∀ first, item.codes ≠ .error first) ∧ codesOf items = .error cause := by
  rw [codesOf]
  cases item.codes <;> cases codesOf items <;> simp [bind, Except.bind, pure, Except.pure]

/-- Items denote nothing exactly if one names a number beyond the code points, and the first one is the
cause. -/
private theorem codesOf_eq_error_iff (hscans : Scans text items rest) :
    codesOf items = .error cause ↔ ∃ n, FirstBeyond items n ∧ cause = causeOf n := by
  -- On the run and not on the items alone: only there each of them fits, so that no numeral has more digits
  -- than it may.
  induction hscans with
  | nil text =>
    refine iff_of_false (by simp [codesOf]) ?_
    rintro ⟨n, hfirst, _⟩
    cases hfirst
  | @cons item items after rest hfits hafter ih =>
    rw [codesOf_cons_eq_error_iff, ih]
    constructor
    · rintro (hitem | ⟨hitem, n, hfirst, rfl⟩)
      · obtain ⟨digits, rfl, hbeyond, rfl⟩ := (item_codes_eq_error_iff hfits).1 hitem
        exact ⟨_, .here hbeyond, rfl⟩
      · refine ⟨n, .later (fun digits hbraced => ?_) hfirst, rfl⟩
        by_contra hbeyond
        exact hitem _ ((item_codes_eq_error_iff hfits).2 ⟨digits, hbraced, by omega, rfl⟩)
    · rintro ⟨n, hfirst, rfl⟩
      cases hfirst with
      | here hbeyond => exact .inl ((item_codes_eq_error_iff hfits).2 ⟨_, rfl, hbeyond, rfl⟩)
      | later hwithin hlater =>
        refine .inr ⟨fun first hitem => ?_, n, hlater, rfl⟩
        obtain ⟨digits, hbraced, hbeyond, _⟩ := (item_codes_eq_error_iff hfits).1 hitem
        exact absurd (hwithin digits hbraced) (by omega)

/-- A body is refused exactly for the first of its escapes that names a number beyond the code points. -/
private theorem decodeBody_eq_error_iff {body : List Char} (hclosed : ¬EndsInEscape body) :
    decodeBody body = .error cause ↔ ∃ items n, Scans body items [] ∧ FirstBeyond items n ∧ cause = causeOf n := by
  constructor
  · intro hcause
    obtain ⟨items, hscans⟩ := exists_scans hclosed
    rw [decodeBody_eq_codesOf hscans, codesOf_eq_error_iff hscans] at hcause
    obtain ⟨n, hfirst, rfl⟩ := hcause
    exact ⟨items, n, hscans, hfirst, rfl⟩
  · rintro ⟨items, n, hscans, hfirst, rfl⟩
    rw [decodeBody_eq_codesOf hscans, codesOf_eq_error_iff hscans]
    exact ⟨n, hfirst, rfl⟩

/-- A hexadecimal integer, with its mark in either case. -/
structure IsHexInteger (text digits : List Char) : Prop where
  marked : ∃ mark ∈ ['x', 'X'], text = '0' :: mark :: digits
  ne_nil : digits ≠ []
  isHex : ∀ d ∈ digits, isHexDigit d = true

private theorem numeral?_marked_eq_some_iff {mark : Char} {inner : List Char} (hmark : mark ∈ ['x', 'X']) :
    numeral? ('0' :: mark :: inner) = some (.hexadecimal digits) ↔
      inner = digits ∧ inner ≠ [] ∧ ∀ d ∈ inner, isHexDigit d = true := by
  have hread : numeral? ('0' :: mark :: inner) =
      if inner.isEmpty || !inner.all isHexDigit then none else some (.hexadecimal inner) := by
    rcases List.mem_pair.1 hmark with rfl | rfl <;> rfl
  have hdigits : (inner.isEmpty || !inner.all isHexDigit) = false ↔
      inner ≠ [] ∧ ∀ d ∈ inner, isHexDigit d = true := by
    simp
  rw [hread, ← hdigits]
  cases inner.isEmpty || !inner.all isHexDigit <;> simp

/-- A text is a hexadecimal numeral exactly if it is written as a hexadecimal integer. -/
private theorem numeral?_eq_hexadecimal_iff :
    numeral? text = some (.hexadecimal digits) ↔ IsHexInteger text digits := by
  constructor
  · intro hread
    by_cases hmarked : ∃ mark ∈ ['x', 'X'], ∃ inner, text = '0' :: mark :: inner
    · obtain ⟨mark, hmark, inner, rfl⟩ := hmarked
      obtain ⟨rfl, hsome, hhex⟩ := (numeral?_marked_eq_some_iff hmark).1 hread
      exact ⟨⟨mark, hmark, rfl⟩, hsome, hhex⟩
    · unfold numeral? at hread
      split at hread
      · exact absurd ⟨'x', by simp, _, rfl⟩ hmarked
      · exact absurd ⟨'X', by simp, _, rfl⟩ hmarked
      · obtain ⟨numeral, _, hother⟩ := Option.map_eq_some_iff.1 hread
        cases hother
  · rintro ⟨⟨mark, hmark, rfl⟩, hsome, hhex⟩
    exact (numeral?_marked_eq_some_iff hmark).2 ⟨rfl, hsome, hhex⟩

private theorem IsHexInteger.stringBody?_eq_none (hinteger : IsHexInteger text digits) :
    stringBody? text = none := by
  obtain ⟨mark, _, rfl⟩ := hinteger.marked
  rfl

/-- Only a hexadecimal integer can be too large: a decimal numeral becomes infinite. -/
theorem numeral_tooLarge_iff :
    (∃ numeral, numeral? text = some numeral ∧ numeral.value? = none) ↔
      ∃ digits, IsHexInteger text digits ∧ 2 ^ 1024 - 2 ^ 970 ≤ ofDigits 16 digits := by
  constructor
  · rintro ⟨numeral, hread, hnone⟩
    cases numeral with
    | hexadecimal digits =>
      exact ⟨digits, numeral?_eq_hexadecimal_iff.1 hread, (Binary64.ofNat?_eq_none_iff _).1 hnone⟩
    | decimal numeral => cases hnone
  · rintro ⟨digits, hinteger, hlarge⟩
    exact ⟨.hexadecimal digits, numeral?_eq_hexadecimal_iff.2 hinteger, (Binary64.ofNat?_eq_none_iff _).2 hlarge⟩

/-- Exactly two kinds of expressions are refused once blanks and parentheses around them are gone: strings
in which an escape goes beyond the code points, where the first one from the left decides, and hexadecimal
integers from the first on that is rounded beyond the doubles. All others are nothing at all, a constant or
dynamic. -/
theorem parse_refused (source : List Char) :
    let text := unwrap (trim source)
    (∀ error, parse source = .error error ↔
      (∃ quote ∈ ['\'', '"'], ∃ body items n, text = quote :: body ++ [quote] ∧ IsBody quote body ∧
        Scans body items [] ∧ FirstBeyond items n ∧ error = .escape (causeOf n)) ∨
      (∃ digits, IsHexInteger text digits ∧ 2 ^ 1024 - 2 ^ 970 ≤ ofDigits 16 digits ∧ error = .numberTooLarge)) ∧
    ((∃ error, parse source = .error error) ∨ (parse source = .ok none ∧ text = []) ∨
      (∃ value, parse source = .ok (some (.literal value text))) ∨ parse source = .ok (some (.dynamic text))) := by
  intro text
  refine ⟨fun error => ?_, ?_⟩
  · rw [parse, classify_eq_error_iff, numeral_tooLarge_iff]
    constructor
    · rintro (⟨body, cause, hbody, hcause, rfl⟩ | ⟨_, ⟨digits, hinteger, hlarge⟩, rfl⟩)
      · obtain ⟨quote, hquote, htext, hinside⟩ := stringBody?_eq_some_iff.1 hbody
        obtain ⟨items, n, hscans, hfirst, rfl⟩ := (decodeBody_eq_error_iff hinside.closed).1 hcause
        exact .inl ⟨quote, hquote, body, items, n, htext, hinside, hscans, hfirst, rfl⟩
      · exact .inr ⟨digits, hinteger, hlarge, rfl⟩
    · rintro (⟨quote, hquote, body, items, n, htext, hinside, hscans, hfirst, rfl⟩ | ⟨digits, hinteger, hlarge, rfl⟩)
      · refine .inl ⟨body, causeOf n, stringBody?_eq_some_iff.2 ⟨quote, hquote, htext, hinside⟩, ?_, rfl⟩
        exact (decodeBody_eq_error_iff hinside.closed).2 ⟨items, n, hscans, hfirst, rfl⟩
      · exact .inr ⟨hinteger.stringBody?_eq_none, ⟨digits, hinteger, hlarge⟩, rfl⟩
  · cases hparse : parse source with
    | error error => exact .inl ⟨error, rfl⟩
    | ok result =>
      rcases classify_eq_ok hparse with ⟨rfl, hempty⟩ | ⟨value, rfl⟩ | rfl
      · exact .inr (.inl ⟨rfl, hempty⟩)
      · exact .inr (.inr (.inl ⟨value, rfl⟩))
      · exact .inr (.inr (.inr rfl))

/-- A backslash behind a backslash is not the beginning of an escape. -/
example : parse "'\\\\u\x7b110000\x7d'".toList =
    .ok (some (.literal (.string (codePoints "\\u\x7b110000\x7d".toList)) "'\\\\u\x7b110000\x7d'".toList)) := by
  decide +kernel

end BareStrings.Expression
