import Mathlib.Algebra.Group.Nat.Defs
import Mathlib.Data.List.Forall2
import BareStrings.Proofs.Expression.Classify
import BareStrings.Proofs.Expression.Item
import BareStrings.Proofs.Text.Trim

namespace BareStrings.Expression

open BareStrings.Text

/-- A run of hexadecimal digits, with a number that it denotes. -/
structure IsHexNumeral (digits : List Char) (n : Nat) : Prop where
  isHex : ∀ d ∈ digits, isHexDigit d = true
  value : ofDigits 16 digits = n

/-- One digit more makes a numeral of sixteen times the number, and the digit. -/
private theorem IsHexNumeral.append_digit {digits : List Char} {n k : Nat} (hnumeral : IsHexNumeral digits n)
    (hk : k < 16) : IsHexNumeral (digits ++ [k.digitChar]) (n * 16 + k) := by
  have hvalue : digitValue? k.digitChar = some k := by
    decide +revert
  refine ⟨fun d hd => ?_, ?_⟩
  · rcases List.mem_append.1 hd with hd | hd
    · exact hnumeral.isHex d hd
    · rw [List.mem_singleton.1 hd, isHexDigit, isDigitOf, hvalue]
      simpa using hk
  · rw [ofDigits, List.foldl_append, ← ofDigits, hnumeral.value]
    simp [hvalue]

/-- A number has a numeral of any length that is large enough for it. -/
theorem exists_isHexNumeral {width n : Nat} (hfits : n < 16 ^ width) :
    ∃ digits, digits.length = width ∧ IsHexNumeral digits n := by
  induction width generalizing n with
  | zero =>
    obtain rfl : n = 0 := by simpa using hfits
    exact ⟨[], rfl, by simp, rfl⟩
  | succ width ih =>
    have hleading : n / 16 < 16 ^ width := Nat.div_lt_of_lt_mul (by rwa [← pow_succ'])
    obtain ⟨digits, hlength, hnumeral⟩ := ih hleading
    refine ⟨digits ++ [(n % 16).digitChar], by simp [hlength], ?_⟩
    have hlonger := hnumeral.append_digit (Nat.mod_lt n (Nat.succ_pos 15))
    rwa [Nat.div_add_mod'] at hlonger

/-- The letters and the digit that stand for a control behind a backslash. -/
def letterEscapes : List (Char × Char) :=
  [('n', '\n'), ('t', '\t'), ('r', '\r'), ('b', '\x08'), ('f', '\x0c'), ('v', '\x0b'), ('0', '\x00')]

/-- The characters that do not stand for themselves behind a backslash. -/
def notThemselves : List Char :=
  ['n', 't', 'r', 'b', 'f', 'v', '0', 'x', 'u', '\r', '\n', '\u2028', '\u2029']

/-- The characters that cannot stand by themselves between quotes. -/
def notPlain (quote : Char) : List Char := [quote, '\\', '\r', '\n']

/-- The ways to spell a code point between quotes. A surrogate is no character, so there are only numerals
for it. -/
inductive Spells (quote : Char) : CodePoint → List Char → Prop where
  | plain {c : Char} (hplain : c ∉ notPlain quote) : Spells quote (.ofChar c) [c]
  | twoDigits {code : CodePoint} {digits : List Char} (hnumeral : IsHexNumeral digits code.val)
      (hlength : digits.length = 2) : Spells quote code ('\\' :: 'x' :: digits)
  | fourDigits {code : CodePoint} {digits : List Char} (hnumeral : IsHexNumeral digits code.val)
      (hlength : digits.length = 4) : Spells quote code ('\\' :: 'u' :: digits)
  | inBraces {code : CodePoint} {digits : List Char} (hnumeral : IsHexNumeral digits code.val)
      (hsome : digits ≠ []) : Spells quote code ('\\' :: 'u' :: '{' :: (digits ++ ['}']))
  | letter {c control : Char} (hletter : (c, control) ∈ letterEscapes) :
      Spells quote (.ofChar control) ['\\', c]
  | itself {c : Char} (hitself : c ∉ notThemselves) : Spells quote (.ofChar c) ['\\', c]

variable {quote : Char} {code : CodePoint} {piece : List Char}

/-- Plain characters at the front belong to the body of a literal. -/
private theorem literalBody?_plain {run : List Char} (hplain : ∀ c ∈ run, c ∉ notPlain quote)
    (rest : List Char) : literalBody? quote (run ++ rest) = (literalBody? quote rest).map (run ++ ·) := by
  induction run with
  | nil => simp
  | cons c run ih =>
    obtain ⟨hc, hrun⟩ := List.forall_mem_cons.1 hplain
    simp only [notPlain, List.mem_cons, List.not_mem_nil, or_false, not_or] at hc
    obtain ⟨hquote, hbackslash, hreturn, hfeed⟩ := hc
    rw [List.cons_append, literalBody?.eq_def]
    simp only
    rw [if_neg hquote, if_neg hbackslash, if_neg (by simp [hreturn, hfeed]), ih hrun, Option.map_map]
    rfl

/-- A backslash, what it takes with it, and plain characters behind these. -/
theorem literalBody?_escape (hquote : quote ≠ '\\') (escaped : Char) {run : List Char}
    (hplain : ∀ c ∈ run, c ∉ notPlain quote) (rest : List Char) :
    literalBody? quote ('\\' :: escaped :: run ++ rest) =
      (literalBody? quote rest).map ('\\' :: escaped :: run ++ ·) := by
  rw [List.cons_append, List.cons_append, literalBody?.eq_def]
  simp only [if_neg hquote.symm, if_true]
  rw [literalBody?_plain hplain, Option.map_map]
  rfl

private theorem IsHexNumeral.plain {digits : List Char} {n : Nat} (hnumeral : IsHexNumeral digits n)
    (hquote : quote ∈ ['\'', '"']) : ∀ c ∈ digits, c ∉ notPlain quote := by
  intro c hc
  have hdigit := hnumeral.isHex c hc
  have hother : isHexDigit quote = false := by
    rcases List.mem_pair.1 hquote with rfl | rfl <;> rfl
  simp only [notPlain, List.mem_cons, List.not_mem_nil, or_false, not_or]
  exact ⟨ne_of_isHexDigit hdigit hother, ne_of_isHexDigit hdigit rfl, ne_of_isHexDigit hdigit rfl,
    ne_of_isHexDigit hdigit rfl⟩

/-- Every spelling of a code point belongs to the body of a literal that it stands in. -/
private theorem Spells.literalBody?_append (hspells : Spells quote code piece) (hquote : quote ∈ ['\'', '"'])
    (rest : List Char) : literalBody? quote (piece ++ rest) = (literalBody? quote rest).map (piece ++ ·) := by
  have hother : quote ≠ '\\' := ne_of_mem_of_not_mem hquote (by decide)
  cases hspells with
  | plain hplain => exact literalBody?_plain (by simpa using hplain) rest
  | twoDigits hnumeral _ => exact literalBody?_escape hother 'x' (hnumeral.plain hquote) rest
  | fourDigits hnumeral _ => exact literalBody?_escape hother 'u' (hnumeral.plain hquote) rest
  | @inBraces _ digits hnumeral _ =>
    obtain ⟨hopening, hclosing⟩ : '{' ∉ notPlain quote ∧ '}' ∉ notPlain quote := by
      rcases List.mem_pair.1 hquote with rfl | rfl <;> simp [notPlain]
    refine literalBody?_escape hother 'u' ?_ rest
    rw [List.forall_mem_cons, List.forall_mem_append, List.forall_mem_singleton]
    exact ⟨hopening, hnumeral.plain hquote, hclosing⟩
  | letter _ => exact literalBody?_escape hother _ (by simp) rest
  | itself _ => exact literalBody?_escape hother _ (by simp) rest

/-- Spellings one after another are the body of a literal. -/
theorem literalBody?_spelled (hquote : quote ∈ ['\'', '"']) {codes : List CodePoint}
    {pieces : List (List Char)} (hspelled : List.Forall₂ (Spells quote) codes pieces) :
    literalBody? quote (pieces.flatten ++ [quote]) = some pieces.flatten := by
  induction hspelled with
  | nil => simp [literalBody?]
  | cons hspells _ ih =>
    rw [List.flatten_cons, List.append_assoc, hspells.literalBody?_append hquote, ih]
    rfl

private theorem simpleEscape_letter {c control : Char} (hletter : (c, control) ∈ letterEscapes) :
    simpleEscape c = [.ofChar control] ∧ c ∉ ['x', 'u', '\r'] := by
  have htable : ∀ entry ∈ letterEscapes,
      simpleEscape entry.1 = [.ofChar entry.2] ∧ entry.1 ∉ ['x', 'u', '\r'] := by
    decide
  exact htable _ hletter

private theorem simpleEscape_itself {c : Char} (hitself : c ∉ notThemselves) :
    simpleEscape c = [.ofChar c] ∧ c ∉ ['x', 'u', '\r'] := by
  simp only [notThemselves, List.mem_cons, List.not_mem_nil, or_false, not_or] at hitself
  simp [simpleEscape, hitself]

private theorem IsHexNumeral.codes {digits : List Char} (hnumeral : IsHexNumeral digits code.val)
    (form : NumeralForm) : (Item.numeral form digits).codes = .ok [code] := by
  have hnumber : CodePoint.ofNumber (ofDigits 16 digits) = .ok code := by
    rw [hnumeral.value]
    exact dif_pos code.isLt
  rw [Item.codes, hnumber]
  rfl

/-- A character behind a backslash that begins nothing longer is an item, whatever follows. -/
theorem simple_fits_any {c : Char} (hc : c ∉ ['x', 'u', '\r']) (rest : List Char) :
    (Item.simple c).Fits rest := by
  simp only [List.mem_cons, List.not_mem_nil, or_false, not_or] at hc
  obtain ⟨hx, hu, hreturn⟩ := hc
  exact simple_fits (by simp [hx, hu]) fun hbegins => hreturn (List.cons_prefix_cons.1 hbegins).1.symm

/-- A spelling is an item for its code point, whatever stands behind it. -/
theorem Spells.exists_item (hspells : Spells quote code piece) (rest : List Char) :
    ∃ item : Item, item.spelled = piece ∧ item.Fits rest ∧ item.codes = .ok [code] := by
  cases hspells with
  | @plain c hplain => exact ⟨.plain c, rfl, fun hc => hplain (by simp [hc, notPlain]), rfl⟩
  | twoDigits hnumeral hlength =>
    exact ⟨.numeral .twoDigits _, rfl, ⟨hnumeral.isHex, hlength⟩, hnumeral.codes _⟩
  | fourDigits hnumeral hlength =>
    exact ⟨.numeral .fourDigits _, rfl, ⟨hnumeral.isHex, hlength⟩, hnumeral.codes _⟩
  | inBraces hnumeral hsome =>
    exact ⟨.numeral .inBraces _, rfl, ⟨hnumeral.isHex, hsome⟩, hnumeral.codes _⟩
  | @letter c _ hletter =>
    obtain ⟨hsimple, hc⟩ := simpleEscape_letter hletter
    exact ⟨.simple c, rfl, simple_fits_any hc rest, congrArg Except.ok hsimple⟩
  | @itself c hitself =>
    obtain ⟨hsimple, hc⟩ := simpleEscape_itself hitself
    exact ⟨.simple c, rfl, simple_fits_any hc rest, congrArg Except.ok hsimple⟩

private theorem Spells.decodeBody_append (hspells : Spells quote code piece) (rest : List Char) :
    decodeBody (piece ++ rest) = (code :: ·) <$> decodeBody rest := by
  obtain ⟨item, rfl, hfits, hcodes⟩ := hspells.exists_item rest
  rw [decodeBody_item hfits, hcodes]
  cases decodeBody rest <;> rfl

private theorem decodeBody_spelled {codes : List CodePoint} {pieces : List (List Char)}
    (hspelled : List.Forall₂ (Spells quote) codes pieces) : decodeBody pieces.flatten = .ok codes := by
  induction hspelled with
  | nil => rw [List.flatten_nil, decodeBody]
  | cons hspells _ ih =>
    rw [List.flatten_cons, hspells.decodeBody_append, ih]
    rfl

/-- The inside of a literal: quotes of its kind and line ends are in it only as far as backslashes take them
along, and there is no such backslash left for the closing quote. -/
structure IsBody (quote : Char) (body : List Char) : Prop where
  escaped : ∀ before c behind, body = before ++ c :: behind → c ∈ [quote, '\r', '\n'] → EndsInEscape before
  closed : ¬EndsInEscape body

private theorem isBody_nil : IsBody quote [] :=
  ⟨fun before c behind hsplit => by simp at hsplit, by decide⟩

/-- A plain character in front of a body makes a body. -/
private theorem IsBody.cons {body : List Char} (hbody : IsBody quote body) {c : Char}
    (hplain : c ∉ notPlain quote) : IsBody quote (c :: body) := by
  simp only [notPlain, List.mem_cons, List.not_mem_nil, or_false, not_or] at hplain
  obtain ⟨hquote, hbackslash, hreturn, hfeed⟩ := hplain
  refine ⟨fun before d behind hsplit hd => ?_, ?_⟩
  · cases before with
    | nil =>
      obtain ⟨rfl, _⟩ := List.cons.inj hsplit
      simp [hquote, hreturn, hfeed] at hd
    | cons first before =>
      obtain ⟨rfl, htail⟩ := List.cons.inj hsplit
      exact (endsInEscape_cons hbackslash before).2 (hbody.escaped before d behind htail hd)
  · rw [endsInEscape_cons hbackslash]
    exact hbody.closed

/-- An escaped character in front of a body makes a body again, also if it is the quote. -/
theorem IsBody.escape {body : List Char} (hbody : IsBody quote body) (hquote : quote ≠ '\\')
    (escaped : Char) : IsBody quote ('\\' :: escaped :: body) := by
  refine ⟨fun before d behind hsplit hd => ?_, ?_⟩
  · match before with
    | [] =>
      obtain ⟨rfl, _⟩ := List.cons.inj hsplit
      simp [hquote.symm] at hd
    | [first] =>
      obtain ⟨rfl, _⟩ := List.cons.inj hsplit
      rfl
    | first :: second :: before =>
      obtain ⟨hfirst, htail⟩ := List.cons.inj hsplit
      obtain ⟨hsecond, htail⟩ := List.cons.inj htail
      rw [← hfirst, ← hsecond, endsInEscape_escape]
      exact hbody.escaped before d behind htail hd
  · rw [endsInEscape_escape]
    exact hbody.closed

/-- Insides one after another are an inside, and it can be divided wherever no backslash is left open. -/
theorem isBody_append {front behind : List Char} (hfront : ¬EndsInEscape front) :
    IsBody quote (front ++ behind) ↔ IsBody quote front ∧ IsBody quote behind := by
  constructor
  · intro hbody
    refine ⟨⟨fun before c after hsplit hc => ?_, hfront⟩, ⟨fun before c after hsplit hc => ?_, ?_⟩⟩
    · exact hbody.escaped before c (after ++ behind) (by simp [hsplit]) hc
    · rw [← endsInEscape_append hfront]
      exact hbody.escaped (front ++ before) c after (by simp [hsplit]) hc
    · rw [← endsInEscape_append hfront]
      exact hbody.closed
  · rintro ⟨hbefore, hafter⟩
    refine ⟨fun before c after hsplit hc => ?_, ?_⟩
    · rcases List.append_eq_append_iff.1 hsplit with ⟨inner, rfl, hinner⟩ | ⟨inner, rfl, hinner⟩
      · rw [endsInEscape_append hfront]
        exact hafter.escaped inner c after hinner hc
      · cases inner with
        | nil => exact absurd (hafter.escaped [] c after hinner.symm hc) (by decide)
        | cons d inner =>
          obtain ⟨rfl, _⟩ := List.cons.inj hinner
          exact hbefore.escaped before c inner rfl hc
    · rw [endsInEscape_append hfront]
      exact hafter.closed

private theorem IsBody.uncons {c : Char} {body : List Char} (hbody : IsBody quote (c :: body))
    (hc : c ≠ '\\') : c ∉ notPlain quote ∧ IsBody quote body := by
  have hopen : ¬EndsInEscape [c] := (endsInEscape_cons hc []).not.2 (by decide)
  refine ⟨fun hmem => ?_, ((isBody_append hopen).1 hbody).2⟩
  have hends : c ∈ [quote, '\r', '\n'] := by
    simpa [notPlain, hc] using hmem
  exact absurd (hbody.escaped [] c body rfl hends) (by decide)

private theorem IsBody.unescape {escaped : Char} {body : List Char}
    (hbody : IsBody quote ('\\' :: escaped :: body)) : IsBody quote body := by
  have hopen : ¬EndsInEscape ['\\', escaped] := (endsInEscape_escape escaped []).not.2 (by decide)
  exact ((isBody_append hopen).1 hbody).2

/-- An inside is taken in up to the quote behind it. -/
theorem IsBody.literalBody?_eq (hquote : quote ≠ '\\') :
    ∀ {body : List Char}, IsBody quote body → literalBody? quote (body ++ [quote]) = some body
  | [], _ => by simp [literalBody?]
  | [c], hbody => by
    have hc : c ≠ '\\' := by
      rintro rfl
      exact hbody.closed rfl
    have hplain := (hbody.uncons hc).1
    rw [literalBody?_plain (by simpa using hplain)]
    simp [literalBody?]
  | c :: d :: body, hbody => by
    by_cases hc : c = '\\'
    · subst hc
      have hescape := literalBody?_escape hquote d (List.forall_mem_nil (· ∉ notPlain quote)) (body ++ [quote])
      rw [hbody.unescape.literalBody?_eq hquote] at hescape
      exact hescape
    · obtain ⟨hplain, hrest⟩ := hbody.uncons hc
      have hread := literalBody?_plain (List.forall_mem_singleton.2 hplain) (d :: body ++ [quote])
      rw [hrest.literalBody?_eq hquote] at hread
      exact hread

/-- What is read up to the closing quote is a body, and the quote ends the text. -/
private theorem literalBody?_eq_some {text body : List Char} (hquote : quote ≠ '\\')
    (hread : literalBody? quote text = some body) : text = body ++ [quote] ∧ IsBody quote body := by
  fun_induction literalBody? quote text generalizing body with
  | case1 => cases hread
  | case2 rest hempty =>
    cases hread
    rw [List.isEmpty_iff.1 hempty]
    exact ⟨rfl, isBody_nil⟩
  | case3 => cases hread
  | case4 => cases hread
  | case5 escaped rest _ ih =>
    obtain ⟨inner, hinner, rfl⟩ := Option.map_eq_some_iff.1 hread
    obtain ⟨rfl, hbody⟩ := ih hinner
    exact ⟨rfl, hbody.escape hquote escaped⟩
  | case6 => cases hread
  | case7 c rest hother hbackslash hline ih =>
    obtain ⟨inner, hinner, rfl⟩ := Option.map_eq_some_iff.1 hread
    obtain ⟨rfl, hbody⟩ := ih hinner
    exact ⟨rfl, hbody.cons (by simpa [notPlain, hother, hbackslash] using hline)⟩

private theorem trim_quoted (hquote : quote ∈ ['\'', '"']) (body : List Char) :
    trim (quote :: body ++ [quote]) = quote :: body ++ [quote] := by
  have hmark : isBlank quote = false := by
    rcases List.mem_pair.1 hquote with rfl | rfl <;> rfl
  exact trimBy_enclosed hmark hmark body

private theorem unwrap_quoted (hquote : quote ∈ ['\'', '"']) (rest : List Char) :
    unwrap (quote :: rest) = quote :: rest := by
  have hother : quote ≠ '(' := ne_of_mem_of_not_mem hquote (by decide)
  have hnone : parenthesized? (quote :: rest) = none := by
    unfold parenthesized?
    split
    · rename_i hopening
      exact absurd (List.cons.inj hopening).1 hother
    · rfl
  exact unwrap_of_none hnone

private theorem stringBody?_quoted (hquote : quote ∈ ['\'', '"']) (rest : List Char) :
    stringBody? (quote :: rest) = literalBody? quote rest := by
  rcases List.mem_pair.1 hquote with rfl | rfl <;> rfl

private theorem stringBody?_eq_some {text body : List Char} (hread : stringBody? text = some body) :
    ∃ quote ∈ ['\'', '"'], text = quote :: body ++ [quote] ∧ IsBody quote body := by
  unfold stringBody? at hread
  split at hread
  · obtain ⟨rfl, hbody⟩ := literalBody?_eq_some (by decide) hread
    exact ⟨_, by simp, rfl, hbody⟩
  · obtain ⟨rfl, hbody⟩ := literalBody?_eq_some (by decide) hread
    exact ⟨_, by simp, rfl, hbody⟩
  · cases hread

/-- A literal is a body between two quotes of the same kind, and nothing else is one. -/
theorem stringBody?_eq_some_iff {text body : List Char} :
    stringBody? text = some body ↔ ∃ quote ∈ ['\'', '"'], text = quote :: body ++ [quote] ∧ IsBody quote body := by
  refine ⟨stringBody?_eq_some, ?_⟩
  rintro ⟨quote, hquote, rfl, hbody⟩
  have hother : quote ≠ '\\' := ne_of_mem_of_not_mem hquote (by decide)
  rw [List.cons_append, stringBody?_quoted hquote, hbody.literalBody?_eq hother]

/-- Between two quotes, a text is the body of a literal exactly if no quote or line end in it ends it
before. -/
theorem stringBody?_enclosed {body inner : List Char} (hquote : quote ∈ ['\'', '"']) :
    stringBody? (quote :: body ++ [quote]) = some inner ↔ inner = body ∧ IsBody quote body := by
  rw [stringBody?_eq_some_iff]
  constructor
  · rintro ⟨other, _, htext, hbody⟩
    obtain ⟨rfl, hrest⟩ := List.cons.inj htext
    obtain rfl := List.append_cancel_right hrest
    exact ⟨rfl, hbody⟩
  · rintro ⟨rfl, hbody⟩
    exact ⟨quote, hquote, rfl, hbody⟩

/-- Quotes keep blanks and parentheses from being taken off. -/
theorem parse_enclosed (hquote : quote ∈ ['\'', '"']) (body : List Char) :
    parse (quote :: body ++ [quote]) = classify (quote :: body ++ [quote]) := by
  rw [parse, trim_quoted hquote, List.cons_append, unwrap_quoted hquote]

/-- A text in quotes is a string if it is the inside of a literal and all of its escapes have a meaning. -/
theorem parse_eq_string_iff {body raw : List Char} {codes : List CodePoint} (hquote : quote ∈ ['\'', '"']) :
    parse (quote :: body ++ [quote]) = .ok (some (.literal (.string codes) raw)) ↔
      raw = quote :: body ++ [quote] ∧ IsBody quote body ∧ decodeBody body = .ok codes := by
  rw [parse_enclosed hquote, classify_eq_string_iff]
  simp only [stringBody?_enclosed hquote, and_assoc, exists_eq_left]

private theorem parse_spelled (hquote : quote ∈ ['\'', '"']) {codes : List CodePoint}
    {pieces : List (List Char)} (hspelled : List.Forall₂ (Spells quote) codes pieces) :
    parse (quote :: pieces.flatten ++ [quote]) =
      .ok (some (.literal (.string codes) (quote :: pieces.flatten ++ [quote]))) := by
  have hother : quote ≠ '\\' := ne_of_mem_of_not_mem hquote (by decide)
  have hbody := (literalBody?_eq_some hother (literalBody?_spelled hquote hspelled)).2
  exact (parse_eq_string_iff hquote).2 ⟨rfl, hbody, decodeBody_spelled hspelled⟩

/-- A string in quotes is read back, in whatever ways its code points are spelled: by themselves, by
numerals of any length that is large enough, by letters or behind a backslash. What is read as a string is
in quotes that nothing in between has ended. -/
theorem parse_string :
    (∀ quote ∈ ['\'', '"'], ∀ codes pieces, List.Forall₂ (Spells quote) codes pieces →
      parse (quote :: pieces.flatten ++ [quote]) =
        .ok (some (.literal (.string codes) (quote :: pieces.flatten ++ [quote])))) ∧
    (∀ (code : CodePoint) (width : Nat), code.val < 16 ^ width →
      ∃ digits, digits.length = width ∧ IsHexNumeral digits code.val) ∧
    ∀ source codes raw, parse source = .ok (some (.literal (.string codes) raw)) →
      ∃ quote ∈ ['\'', '"'], ∃ body, raw = quote :: body ++ [quote] ∧ IsBody quote body := by
  refine ⟨?_, fun _ _ => exists_isHexNumeral, ?_⟩
  · intro quote hquote codes pieces hspelled
    exact parse_spelled hquote hspelled
  · intro source codes raw hparse
    obtain ⟨rfl, body, hbody, _⟩ := classify_eq_string_iff.1 hparse
    obtain ⟨quote, hquote, hraw, hclosed⟩ := stringBody?_eq_some hbody
    exact ⟨quote, hquote, body, hraw, hclosed⟩

/-- An `A`, an accented letter, half a surrogate pair, a face, a line end and a quote, each spelled in another way. -/
theorem parse_string_all_spellings :
    let codes : List CodePoint := [0x41, 0xE9, 0xD83D, 0x1F600, 0x0A, 0x27]
    let pieces : List (List Char) :=
      ["A", "\\xe9", "\\uD83d", "\\u\x7b0001f600\x7d", "\\n", "\\'"].map String.toList
    let source : List Char := "'A\\xe9\\uD83d\\u\x7b0001f600\x7d\\n\\''".toList
    List.Forall₂ (Spells '\'') codes pieces ∧
      parse source = .ok (some (.literal (.string codes) source)) ∧
      (∃ digits, digits.length = 8 ∧ IsHexNumeral digits 0x1F600) ∧
      ∃ quote ∈ ['\'', '"'], ∃ body, source = quote :: body ++ [quote] ∧ IsBody quote body := by
  intro codes pieces source
  obtain ⟨hparse, hnumeral, hquoted⟩ := parse_string
  have hspelled : List.Forall₂ (Spells '\'') codes pieces := by
    have hface : Spells '\'' 0x1F600 ('\\' :: 'u' :: '\x7b' :: ("0001f600".toList ++ ['\x7d'])) :=
      .inBraces ⟨List.all_eq_true.1 rfl, rfl⟩ (by decide)
    exact .cons (.plain (c := 'A') (by decide)) (.cons (.twoDigits ⟨List.all_eq_true.1 rfl, rfl⟩ rfl)
      (.cons (.fourDigits ⟨List.all_eq_true.1 rfl, rfl⟩ rfl) (.cons hface (.cons (.letter List.mem_cons_self)
        (.cons (.itself (c := '\'') (by decide)) .nil)))))
  have hread := hparse '\'' (by decide) codes pieces hspelled
  exact ⟨hspelled, hread, hnumeral 0x1F600 8 (by decide), hquoted _ codes _ hread⟩

end BareStrings.Expression
