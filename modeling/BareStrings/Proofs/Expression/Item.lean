import BareStrings.Expression.StringLiteral
import BareStrings.Proofs.Text.Split
import Mathlib.Data.List.Induction
import Mathlib.Data.List.TakeWhile

namespace BareStrings.Expression

open BareStrings.Text

/-- The ways to write a numeral behind a backslash. -/
inductive NumeralForm where
  | twoDigits
  | fourDigits
  | inBraces

/-- What stands behind the backslash. -/
def NumeralForm.spelled : NumeralForm → List Char → List Char
  | .twoDigits, digits => 'x' :: digits
  | .fourDigits, digits => 'u' :: digits
  | .inBraces, digits => 'u' :: '{' :: (digits ++ ['}'])

/-- The digits that can be in a numeral. Braces hold any number of them, but not none. -/
structure NumeralForm.Takes (form : NumeralForm) (digits : List Char) : Prop where
  isHex : ∀ d ∈ digits, isHexDigit d = true
  count : match form with
    | .twoDigits => digits.length = 2
    | .fourDigits => digits.length = 4
    | .inBraces => digits ≠ []

variable {form : NumeralForm} {digits text rest : List Char}

/-- A hexadecimal digit is no character that is none. -/
theorem ne_of_isHexDigit {c d : Char} (hdigit : isHexDigit c = true) (hother : isHexDigit d = false) :
    c ≠ d := by
  rintro rfl
  rw [hdigit] at hother
  cases hother

private theorem hexDigits?_append {count : Nat} (hhex : ∀ d ∈ digits, isHexDigit d = true)
    (hlength : digits.length = count) (rest : List Char) :
    hexDigits? count (digits ++ rest) = some (digits, rest) := by
  subst hlength
  rw [hexDigits?, List.take_left, List.drop_left]
  exact if_pos ⟨rfl, List.all_eq_true.2 hhex⟩

/-- Digits in braces are a numeric escape, whatever follows them. -/
private theorem numericEscape?_inBraces (hhex : ∀ d ∈ digits, isHexDigit d = true)
    (hsome : digits ≠ []) (rest : List Char) :
    numericEscape? ('u' :: '{' :: (digits ++ ['}'] ++ rest)) = some (digits, rest) := by
  have hclosing : ∀ c ∈ ('}' :: rest).head?, isHexDigit c = false := by
    rintro c hc
    cases hc
    rfl
  obtain ⟨htake, hdrop⟩ := takeWhile_append_of_head hhex ('}' :: rest) hclosing
  have hbraced : bracedDigits? ('{' :: (digits ++ '}' :: rest)) = some (digits, rest) := by
    rw [bracedDigits?, hdrop, htake]
    exact if_neg (by simpa using hsome)
  rw [List.append_assoc, List.singleton_append, numericEscape?, hbraced, Option.some_or]

/-- Digits do not begin with a brace, so they are read four at a time. -/
theorem numericEscape?_fourDigits (hhex : ∀ d ∈ digits, isHexDigit d = true)
    (hlength : digits.length = 4) (rest : List Char) :
    numericEscape? ('u' :: (digits ++ rest)) = some (digits, rest) := by
  obtain ⟨d, more, rfl⟩ := List.exists_cons_of_length_eq_add_one hlength
  have hd : d ≠ '{' := ne_of_isHexDigit (hhex d List.mem_cons_self) rfl
  have hunbraced : bracedDigits? (d :: more ++ rest) = none := by
    unfold bracedDigits?
    split
    · rename_i text hbrace
      exact absurd (List.cons.inj hbrace).1 hd
    · rfl
  rw [numericEscape?, hunbraced, Option.none_or, hexDigits?_append hhex hlength]

private theorem hexDigits?_eq_some {count : Nat} (hread : hexDigits? count text = some (digits, rest)) :
    text = digits ++ rest ∧ digits.length = count ∧ ∀ d ∈ digits, isHexDigit d = true := by
  unfold hexDigits? at hread
  simp only at hread
  split at hread
  · rename_i hdigits
    cases hread
    exact ⟨(List.take_append_drop count text).symm, hdigits.1, List.all_eq_true.1 hdigits.2⟩
  · cases hread

/-- What is read in braces are hexadecimal digits, at least one of them. -/
private theorem bracedDigits?_eq_some (hread : bracedDigits? text = some (digits, rest)) :
    text = '{' :: (digits ++ ['}'] ++ rest) ∧ digits ≠ [] ∧ ∀ d ∈ digits, isHexDigit d = true := by
  unfold bracedDigits? at hread
  split at hread
  · rename_i inside
    split at hread
    · rename_i behind hclosing
      simp only at hread
      split at hread
      · cases hread
      · rename_i hsome
        cases hread
        have hsplit := List.takeWhile_append_dropWhile (p := isHexDigit) (l := inside)
        rw [hclosing] at hsplit
        refine ⟨by rw [List.append_assoc, List.singleton_append, hsplit], ?_, fun d hd => List.mem_takeWhile_imp hd⟩
        rwa [List.isEmpty_iff] at hsome
    · cases hread
  · cases hread

/-- A numeral is read where one of the three forms stands. No text holds two of them at its front. -/
theorem numericEscape?_eq_some_iff :
    numericEscape? text = some (digits, rest) ↔
      ∃ form : NumeralForm, form.Takes digits ∧ text = form.spelled digits ++ rest := by
  constructor
  · intro hread
    unfold numericEscape? at hread
    split at hread
    · rcases Option.or_eq_some_iff.1 hread with hbraced | ⟨_, hfour⟩
      · obtain ⟨rfl, hsome, hhex⟩ := bracedDigits?_eq_some hbraced
        exact ⟨.inBraces, ⟨hhex, hsome⟩, rfl⟩
      · obtain ⟨rfl, hlength, hhex⟩ := hexDigits?_eq_some hfour
        exact ⟨.fourDigits, ⟨hhex, hlength⟩, rfl⟩
    · obtain ⟨rfl, hlength, hhex⟩ := hexDigits?_eq_some hread
      exact ⟨.twoDigits, ⟨hhex, hlength⟩, rfl⟩
    · cases hread
  · rintro ⟨form, ⟨hhex, hcount⟩, rfl⟩
    cases form with
    | twoDigits => exact hexDigits?_append hhex hcount rest
    | fourDigits => exact numericEscape?_fourDigits hhex hcount rest
    | inBraces => exact numericEscape?_inBraces hhex hcount rest

/-- There is no numeric escape exactly if no form of one is spelled at the front. -/
private theorem numericEscape?_eq_none_iff :
    numericEscape? text = none ↔
      ∀ (form : NumeralForm) (digits : List Char), form.Takes digits → ¬form.spelled digits <+: text := by
  constructor
  · rintro hnone form digits htakes ⟨rest, rfl⟩
    rw [numericEscape?_eq_some_iff.2 ⟨form, htakes, rfl⟩] at hnone
    cases hnone
  · intro hfree
    rw [Option.eq_none_iff_forall_ne_some]
    rintro ⟨digits, rest⟩ hread
    obtain ⟨form, htakes, rfl⟩ := numericEscape?_eq_some_iff.1 hread
    exact hfree form digits htakes (List.prefix_append _ _)

private theorem NumeralForm.Takes.no_backslash (htakes : form.Takes digits) : '\\' ∉ form.spelled digits := by
  have hdigits : '\\' ∉ digits := fun hmem => ne_of_isHexDigit (htakes.isHex _ hmem) rfl rfl
  cases form <;> simp [NumeralForm.spelled, hdigits]

/-- What is read at once between the quotes. -/
inductive Item where
  /-- a character that stands for itself -/
  | plain (c : Char)
  | numeral (form : NumeralForm) (digits : List Char)
  /-- the two characters of a line end behind a backslash -/
  | lineEnd
  /-- one character behind a backslash -/
  | simple (c : Char)

namespace Item

def spelled : Item → List Char
  | plain c => [c]
  | numeral form digits => '\\' :: form.spelled digits
  | lineEnd => ['\\', '\r', '\n']
  | simple c => ['\\', c]

/-- An item is what is read in front of a text. A single character behind a backslash is read only if no
longer item begins there. -/
def Fits (after : List Char) : Item → Prop
  | plain c => c ≠ '\\'
  | numeral form digits => form.Takes digits
  | lineEnd => True
  | simple c =>
    (∀ (form : NumeralForm) (digits : List Char), form.Takes digits → ¬form.spelled digits <+: c :: after) ∧
      ¬['\r', '\n'] <+: c :: after

def codes : Item → Except CodePointError (List CodePoint)
  | plain c => .ok [.ofChar c]
  | numeral _ digits => (CodePoint.ofNumber (ofDigits 16 digits)).map ([·])
  | lineEnd => .ok []
  | simple c => .ok (simpleEscape c)

end Item

variable {item : Item} {items : List Item}

/-- A single character behind a backslash is an item, unless it begins a numeral or a line end of two
characters. -/
theorem simple_fits {c : Char} {after : List Char} (hc : c ∉ ['x', 'u'])
    (hline : ¬['\r', '\n'] <+: c :: after) : (Item.simple c).Fits after := by
  refine ⟨fun form digits _ hbegins => hc ?_, hline⟩
  cases form <;> (obtain ⟨rfl, _⟩ := List.cons_prefix_cons.1 hbegins; simp)

/-- An item at the front is read for what it stands for, and what follows it is left. -/
private theorem readItem_item {c : Char} {behind after : List Char} (hfits : item.Fits after)
    (htext : item.spelled = c :: behind) : readItem c (behind ++ after) = (item.codes, after) := by
  cases item with
  | plain c =>
    cases htext
    exact if_neg hfits
  | numeral form digits =>
    cases htext
    have hnumeric : numericEscape? (form.spelled digits ++ after) = some (digits, after) :=
      numericEscape?_eq_some_iff.2 ⟨form, hfits, rfl⟩
    simp only [readItem, if_true, hnumeric, Item.codes]
  | lineEnd =>
    cases htext
    rfl
  | simple c =>
    cases htext
    obtain ⟨hnumeral, hline⟩ := hfits
    have hnone : numericEscape? (c :: after) = none := numericEscape?_eq_none_iff.2 hnumeral
    unfold readItem
    rw [if_pos rfl]
    split
    · rename_i hnumeric
      rw [List.singleton_append, hnone] at hnumeric
      cases hnumeric
    · rename_i hempty
      cases hempty
    · rename_i hreturn
      cases hreturn
      exact absurd (List.prefix_append ['\r', '\n'] _) hline
    · rename_i hother
      cases hother
      rfl

/-- An item at the front is decoded by itself, whatever stands behind it. -/
theorem decodeBody_item {after : List Char} (hfits : item.Fits after) :
    decodeBody (item.spelled ++ after) = do return (← item.codes) ++ (← decodeBody after) := by
  obtain ⟨c, behind, htext⟩ : ∃ c behind, item.spelled = c :: behind := by
    cases item <;> exact ⟨_, _, rfl⟩
  rw [htext, List.cons_append, decodeBody, readItem_item hfits htext]

/-- The items that are read from a text, up to a rest of it. Each fits in front of what follows it, so a run
cannot be cut within what is read at once. -/
inductive Scans : List Char → List Item → List Char → Prop where
  | nil (text : List Char) : Scans text [] text
  | cons {item : Item} {items : List Item} {after rest : List Char} (hfits : item.Fits after)
      (hafter : Scans after items rest) : Scans (item.spelled ++ after) (item :: items) rest

/-- The code points of items one after another. The first that has none decides the error. -/
def codesOf : List Item → Except CodePointError (List CodePoint)
  | [] => .ok []
  | item :: items => do return (← item.codes) ++ (← codesOf items)

variable {front behind : List Char}

private theorem Scans.suffix (hscans : Scans text items rest) : ∃ front, text = front ++ rest := by
  induction hscans with
  | nil => exact ⟨[], rfl⟩
  | @cons item _ _ _ _ _ ih =>
    obtain ⟨front, rfl⟩ := ih
    exact ⟨item.spelled ++ front, by rw [List.append_assoc]⟩

/-- Items at the front are decoded one by one, and then the rest. -/
theorem decodeBody_of_scans (hscans : Scans text items rest) :
    decodeBody text = do return (← codesOf items) ++ (← decodeBody rest) := by
  induction hscans with
  | nil rest =>
    rw [codesOf]
    cases decodeBody rest <;> rfl
  | @cons item items _ rest hfits _ ih =>
    rw [decodeBody_item hfits, ih, codesOf]
    cases item.codes <;> cases codesOf items <;> cases decodeBody rest <;>
      simp [bind, Except.bind, pure, Except.pure]

/-- A body that has been cut into items denotes what they denote. -/
theorem decodeBody_eq_codesOf (hscans : Scans text items []) : decodeBody text = codesOf items := by
  have hnil : decodeBody [] = .ok [] := by rw [decodeBody]
  rw [decodeBody_of_scans hscans, hnil]
  cases codesOf items <;> simp [bind, Except.bind, pure, Except.pure]

/-- A text ends in a backslash that takes along what is behind it: the backslashes at its end are of odd
number, so that not all of them take one another. -/
def EndsInEscape (text : List Char) : Prop := (text.reverse.takeWhile (· == '\\')).length % 2 = 1

instance (text : List Char) : Decidable (EndsInEscape text) := inferInstanceAs (Decidable (_ = _))

/-- A text waits at its end exactly if its last character is a backslash that is not escaped itself. -/
private theorem endsInEscape_append_singleton (text : List Char) (c : Char) :
    EndsInEscape (text ++ [c]) ↔ c = '\\' ∧ ¬EndsInEscape text := by
  rw [EndsInEscape, EndsInEscape, List.reverse_append, List.reverse_singleton, List.singleton_append]
  by_cases hc : c = '\\'
  · rw [List.takeWhile_cons_of_pos (by simpa using hc), List.length_cons]
    simp only [hc, true_and]
    omega
  · rw [List.takeWhile_cons_of_neg (by simpa using hc)]
    simp [hc]

/-- What is in front of a text does not matter for its end, unless it ends in an open escape itself. -/
theorem endsInEscape_append {front : List Char} (hfront : ¬EndsInEscape front) (text : List Char) :
    EndsInEscape (front ++ text) ↔ EndsInEscape text := by
  -- From the end, because the last character and what is before it decide.
  induction text using List.reverseRecOn with
  | nil =>
    rw [List.append_nil]
    exact ⟨fun hends => absurd hends hfront, fun hends => absurd hends (by decide)⟩
  | append_singleton text c ih =>
    rw [← List.append_assoc, endsInEscape_append_singleton, endsInEscape_append_singleton, ih]

/-- A character in front that is no backslash has no part in how a text ends. -/
theorem endsInEscape_cons {c : Char} (hc : c ≠ '\\') (text : List Char) :
    EndsInEscape (c :: text) ↔ EndsInEscape text := by
  have hfront : ¬EndsInEscape ([] ++ [c]) := by
    rw [endsInEscape_append_singleton]
    exact fun hends => hc hends.1
  exact endsInEscape_append hfront text

/-- An escape in front has no part in how a text ends. -/
theorem endsInEscape_escape (escaped : Char) (text : List Char) :
    EndsInEscape ('\\' :: escaped :: text) ↔ EndsInEscape text := by
  have hfront : ¬EndsInEscape (['\\'] ++ [escaped]) := by
    rw [endsInEscape_append_singleton]
    exact fun hends => hends.2 rfl
  exact endsInEscape_append hfront text

private theorem not_endsInEscape_of_not_mem (hfree : '\\' ∉ text) : ¬EndsInEscape text := by
  induction text using List.reverseRecOn with
  | nil => decide
  | append_singleton front c _ =>
    rw [endsInEscape_append_singleton]
    rintro ⟨rfl, _⟩
    simp at hfree

/-- An item leaves no backslash open. -/
theorem Item.not_endsInEscape {after : List Char} (hfits : item.Fits after) : ¬EndsInEscape item.spelled := by
  cases item with
  | plain c => exact not_endsInEscape_of_not_mem (by simpa [Item.spelled] using Ne.symm hfits)
  | numeral form digits =>
    obtain ⟨letter, run, hrun⟩ : ∃ letter run, form.spelled digits = letter :: run := by
      cases form <;> exact ⟨_, _, rfl⟩
    have hfree := NumeralForm.Takes.no_backslash hfits
    rw [hrun, List.mem_cons, not_or] at hfree
    rw [Item.spelled, hrun, endsInEscape_escape]
    exact not_endsInEscape_of_not_mem hfree.2
  | lineEnd => decide
  | simple c =>
    rw [Item.spelled, endsInEscape_escape]
    decide

/-- A text that has been cut into items leaves no backslash waiting at its end. -/
theorem Scans.not_endsInEscape (hscans : Scans text items rest) (htext : text = front ++ rest) :
    ¬EndsInEscape front := by
  induction hscans generalizing front with
  | nil text =>
    rw [List.self_eq_append_left] at htext
    subst htext
    decide
  | @cons item _ _ _ hfits hafter ih =>
    obtain ⟨front, rfl⟩ := hafter.suffix
    rw [← List.append_assoc, List.append_cancel_right_eq] at htext
    rw [← htext, endsInEscape_append (Item.not_endsInEscape hfits)]
    exact ih rfl

/-- Some item stands at the front of every body that waits for nothing at its end. -/
private theorem exists_item {c : Char} (hclosed : ¬EndsInEscape (c :: behind)) :
    ∃ (item : Item) (after : List Char), c :: behind = item.spelled ++ after ∧ item.Fits after := by
  by_cases hc : c = '\\'
  · subst hc
    cases hnumeric : numericEscape? behind with
    | some read =>
      obtain ⟨digits, after⟩ := read
      obtain ⟨form, htakes, rfl⟩ := numericEscape?_eq_some_iff.1 hnumeric
      exact ⟨.numeral form digits, after, rfl, htakes⟩
    | none =>
      by_cases hline : ['\r', '\n'] <+: behind
      · obtain ⟨after, rfl⟩ := hline
        exact ⟨.lineEnd, after, rfl, trivial⟩
      · cases behind with
        | nil => exact absurd (by decide) hclosed
        | cons d after => exact ⟨.simple d, after, rfl, numericEscape?_eq_none_iff.1 hnumeric, hline⟩
  · exact ⟨.plain c, behind, rfl, hc⟩

private theorem Item.length_spelled_pos (item : Item) : 0 < item.spelled.length := by
  cases item <;> exact Nat.succ_pos _

/-- A text is a run of items, unless a backslash at its end is left open. -/
theorem exists_scans (hclosed : ¬EndsInEscape text) : ∃ items, Scans text items [] := by
  induction hlength : text.length using Nat.strongRecOn generalizing text with
  | _ length ih =>
  cases text with
  | nil => exact ⟨[], .nil []⟩
  | cons c behind =>
    obtain ⟨item, after, hsplit, hfits⟩ := exists_item hclosed
    rw [hsplit] at hclosed hlength ⊢
    rw [endsInEscape_append (item.not_endsInEscape hfits)] at hclosed
    rw [List.length_append] at hlength
    have hshorter : after.length < length := by
      have := item.length_spelled_pos
      omega
    obtain ⟨items, hscans⟩ := ih after.length hshorter hclosed rfl
    exact ⟨item :: items, .cons hfits hscans⟩

private theorem prefix_of_prefix_cut {word : List Char} {c : Char} {after : List Char} (hfree : c ∉ word)
    (hbegins : word <+: front ++ c :: after) : word <+: front := by
  rcases List.prefix_or_prefix_of_prefix hbegins (List.prefix_append front _) with hwithin | ⟨tail, rfl⟩
  · exact hwithin
  · rw [List.prefix_append_right_inj] at hbegins
    cases tail with
    | nil => simp
    | cons d tail =>
      obtain ⟨rfl, _⟩ := List.cons_prefix_cons.1 hbegins
      simp at hfree

/-- An item that fits in front of more than a text fits in front of that text and a backslash. -/
private theorem Item.Fits.cut {more : List Char} (hfits : item.Fits (front ++ behind)) :
    item.Fits (front ++ '\\' :: more) := by
  cases item with
  | plain c => exact hfits
  | numeral form digits => exact hfits
  | lineEnd => trivial
  | simple c =>
    obtain ⟨hnumeral, hline⟩ := hfits
    have hkept : ∀ word, '\\' ∉ word → word <+: c :: (front ++ '\\' :: more) → word <+: c :: (front ++ behind) := by
      intro word hfree hbegins
      exact (prefix_of_prefix_cut hfree hbegins).trans (List.prefix_append (c :: front) behind)
    refine ⟨fun form digits htakes hbegins => ?_, fun hbegins => ?_⟩
    · exact hnumeral form digits htakes (hkept _ htakes.no_backslash hbegins)
    · exact hline (hkept _ (by decide) hbegins)

/-- Items are the same in front of a backslash, whatever was behind them before: no numeral and no line end
goes on beyond a backslash. -/
theorem Scans.cut (hscans : Scans text items behind) (htext : text = front ++ behind) (more : List Char) :
    Scans (front ++ '\\' :: more) items ('\\' :: more) := by
  induction hscans generalizing front with
  | nil text =>
    rw [List.self_eq_append_left] at htext
    subst htext
    exact .nil _
  | cons hfits hafter ih =>
    obtain ⟨inner, rfl⟩ := hafter.suffix
    rw [← List.append_assoc, List.append_cancel_right_eq] at htext
    rw [← htext, List.append_assoc]
    exact .cons hfits.cut (ih rfl)

end BareStrings.Expression
