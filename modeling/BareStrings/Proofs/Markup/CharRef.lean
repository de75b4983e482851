import BareStrings.Markup.Lexeme.Basic
import BareStrings.Proofs.Except
import Mathlib.Data.List.TakeWhile

namespace BareStrings.Markup.CharRef

open BareStrings.Text

/-- A text begins like a decimal reference, behind its ampersand, with more digits than are read. -/
def BeginsLong (text : List Char) : Prop :=
  ∃ digits rest, text = '#' :: digits ++ rest ∧ (∀ d ∈ digits, isDigitOf 10 d = true) ∧
    maxDigits < digits.length

/-- A text holds a decimal reference with more digits than are read. -/
def HoldsLong (text : List Char) : Prop :=
  ∃ before behind, text = before ++ '&' :: behind ∧ BeginsLong behind

/-- A reference is refused exactly if it has too many digits. -/
theorem reference?_eq_error_iff {text : List Char} :
    (∃ error, reference? text = .error error) ↔ BeginsLong text := by
  constructor
  · rintro ⟨error, herror⟩
    unfold reference? at herror
    split at herror
    · rename_i x rest
      simp only at herror
      split at herror
      · split at herror
        · rename_i hlong
          exact ⟨_, _, by rw [List.cons_append, List.takeWhile_append_dropWhile],
            fun d hd => List.mem_takeWhile_imp hd, hlong⟩
        · cases herror
      · split at herror <;> cases herror
    · simp only at herror
      split at herror
      · cases herror
      · split at herror <;> cases herror
  · rintro ⟨digits, rest, rfl, hdigits, hlong⟩
    cases digits with
    | nil => cases hlong
    | cons x digits =>
      have hx := hdigits x List.mem_cons_self
      have hmore : (x :: digits).length ≤
          ((x :: (digits ++ rest)).takeWhile fun c => isDigitOf 10 c).length := by
        rw [← List.cons_append, List.takeWhile_append_of_pos hdigits, List.length_append]
        omega
      refine ⟨⟨((x :: (digits ++ rest)).takeWhile fun c => isDigitOf 10 c).length⟩, ?_⟩
      rw [List.cons_append, List.cons_append, reference?]
      simp only [hx, if_true]
      rw [if_pos (by omega)]

private theorem exists_dropSemicolon (text : List Char) :
    ∃ semicolon, text = semicolon ++ dropSemicolon text ∧ '&' ∉ semicolon := by
  unfold dropSemicolon
  split
  · exact ⟨[';'], rfl, by decide⟩
  · exact ⟨[], rfl, List.not_mem_nil⟩

/-- A run of characters and a semicolon behind it hold no ampersand, unless the run does. -/
theorem exists_run_dropSemicolon {p : Char → Bool} (hp : p '&' = false) (text : List Char) :
    ∃ taken, text = taken ++ dropSemicolon (text.dropWhile p) ∧ '&' ∉ taken := by
  obtain ⟨semicolon, hsplit, hclean⟩ := exists_dropSemicolon (text.dropWhile p)
  refine ⟨text.takeWhile p ++ semicolon, ?_, ?_⟩
  · rw [List.append_assoc, ← hsplit, List.takeWhile_append_dropWhile]
  · rw [List.mem_append, not_or]
    refine ⟨fun hmem => ?_, hclean⟩
    have hin := List.mem_takeWhile_imp hmem
    rw [hp] at hin
    cases hin

/-- What a reference takes in holds no other one. -/
theorem ampersand_not_mem_reference {text replacement after : List Char}
    (href : reference? text = .ok (some (replacement, after))) :
    ∃ taken, text = taken ++ after ∧ '&' ∉ taken := by
  unfold reference? at href
  split at href
  · rename_i x rest
    simp only at href
    split at href
    · split at href
      · cases href
      · simp only [Except.ok.injEq, Option.some.injEq, Prod.mk.injEq] at href
        obtain ⟨_, rfl⟩ := href
        obtain ⟨taken, hsplit, hclean⟩ :=
          exists_run_dropSemicolon (p := fun c => isDigitOf 10 c) (by decide) (x :: rest)
        exact ⟨'#' :: taken, by rw [List.cons_append, ← hsplit], by simpa using hclean⟩
    · split at href
      · rename_i hhex
        simp only [Except.ok.injEq, Option.some.injEq, Prod.mk.injEq] at href
        obtain ⟨_, rfl⟩ := href
        obtain ⟨taken, hsplit, hclean⟩ := exists_run_dropSemicolon (p := isHexDigit) (by decide) rest
        refine ⟨'#' :: x :: taken, by rw [List.cons_append, List.cons_append, ← hsplit], ?_⟩
        rcases hhex.1 with rfl | rfl <;> simpa using hclean
      · cases href
  · simp only at href
    have hname : '&' ∉ (text.take maxNameLength).takeWhile isNameChar :=
      fun hmem => absurd (List.mem_takeWhile_imp hmem) (by decide)
    have hwhole : text = (text.take maxNameLength).takeWhile isNameChar ++
        text.drop ((text.take maxNameLength).takeWhile isNameChar).length :=
      (List.prefix_iff_eq_append.1
        ((List.takeWhile_prefix _).trans (List.take_prefix maxNameLength text))).symm
    split at href
    · cases href
    · split at href
      · rename_i behind hafter
        simp only [Except.ok.injEq, Option.some.injEq, Prod.mk.injEq] at href
        obtain ⟨_, rfl⟩ := href
        refine ⟨(text.take maxNameLength).takeWhile isNameChar ++ [';'], ?_, by simpa using hname⟩
        rw [List.append_assoc, List.singleton_append, ← hafter, ← hwhole]
      · simp only [Except.ok.injEq, Option.some.injEq, Prod.mk.injEq] at href
        obtain ⟨_, rfl⟩ := href
        exact ⟨_, hwhole, hname⟩

/-- The empty text holds no reference that is too long. -/
theorem not_holdsLong_nil : ¬HoldsLong [] := by
  rintro ⟨before, _, hsplit, _⟩
  cases before <;> cases hsplit

private theorem HoldsLong.append {text : List Char} (hlong : HoldsLong text) (former latter : List Char) :
    HoldsLong (former ++ text ++ latter) := by
  obtain ⟨before, behind, rfl, digits, rest, rfl, hdigits, hmany⟩ := hlong
  exact ⟨former ++ before, '#' :: digits ++ (rest ++ latter), by simp, digits, rest ++ latter, rfl,
    hdigits, hmany⟩

/-- A text with a piece of itself that holds too long a reference holds one. -/
theorem HoldsLong.of_isInfix {piece text : List Char} (hlong : HoldsLong piece) (hpiece : piece <:+: text) :
    HoldsLong text := by
  obtain ⟨former, latter, rfl⟩ := hpiece
  exact hlong.append former latter

/-- What stands before the first ampersand has no part in whether a reference is too long. -/
theorem holdsLong_append_iff {taken : List Char} (hclean : '&' ∉ taken) (after : List Char) :
    HoldsLong (taken ++ after) ↔ HoldsLong after := by
  constructor
  · rintro ⟨before, behind, hsplit, hbegins⟩
    rcases List.append_eq_append_iff.1 hsplit with ⟨more, _, hafter⟩ | ⟨more, htaken, hrest⟩
    · exact ⟨more, behind, hafter, hbegins⟩
    · cases more with
      | nil => exact ⟨[], behind, by simpa using hrest.symm, hbegins⟩
      | cons c more =>
        obtain ⟨rfl, _⟩ := List.cons.inj hrest
        exact absurd (by simp [htaken]) hclean
  · intro hlong
    simpa using hlong.append taken []

/-- A reference that is too long begins at an ampersand or stands behind it. -/
private theorem holdsLong_ampersand_iff (text : List Char) :
    HoldsLong ('&' :: text) ↔ BeginsLong text ∨ HoldsLong text := by
  constructor
  · rintro ⟨before, behind, hsplit, hbegins⟩
    cases before with
    | nil =>
      obtain ⟨_, rfl⟩ := List.cons.inj hsplit
      exact .inl hbegins
    | cons c before =>
      obtain ⟨_, rfl⟩ := List.cons.inj hsplit
      exact .inr ⟨before, behind, rfl, hbegins⟩
  · rintro (hbegins | hlong)
    · exact ⟨[], text, rfl, hbegins⟩
    · simpa using hlong.append ['&'] []

/-- A text is refused exactly if it holds a decimal reference with too many digits. -/
theorem decode_eq_error_iff (text : List Char) :
    (∃ error, decode text = .error error) ↔ HoldsLong text := by
  fun_induction decode text with
  | case1 =>
    constructor
    · rintro ⟨_, herror⟩
      cases herror
    · exact fun hlong => absurd hlong not_holdsLong_nil
  | case2 rest error href =>
    rw [holdsLong_ampersand_iff, ← reference?_eq_error_iff]
    exact ⟨fun _ => .inl ⟨error, href⟩, fun _ => ⟨error, rfl⟩⟩
  | case3 rest href ih =>
    have hnot : ¬BeginsLong rest := by
      rw [← reference?_eq_error_iff, href]
      rintro ⟨_, herror⟩
      cases herror
    rw [map_eq_error_iff, ih, holdsLong_ampersand_iff, or_iff_right hnot]
  | case4 rest replacement after href hshorter ih =>
    have hnot : ¬BeginsLong rest := by
      rw [← reference?_eq_error_iff, href]
      rintro ⟨_, herror⟩
      cases herror
    obtain ⟨taken, rfl, hclean⟩ := ampersand_not_mem_reference href
    rw [map_eq_error_iff, ih, holdsLong_ampersand_iff, or_iff_right hnot,
      holdsLong_append_iff hclean]
  | case5 c rest hc ih =>
    have hclean : '&' ∉ [c] := by simpa using Ne.symm hc
    rw [map_eq_error_iff, ih, ← List.singleton_append, holdsLong_append_iff hclean]

end BareStrings.Markup.CharRef

namespace BareStrings.Markup

open CharRef (HoldsLong)

/-- Text is refused only for a numeric reference with more digits than are converted. -/
theorem decodeText_eq_error {text : List Char} {error : MarkupError}
    (herror : decodeText text = .error error) :
    ∃ cause, error = .charRef cause ∧ HoldsLong text := by
  unfold decodeText at herror
  cases hdecode : CharRef.decode text with
  | ok value =>
    rw [hdecode] at herror
    cases herror
  | error cause =>
    rw [hdecode] at herror
    cases herror
    exact ⟨cause, rfl, (CharRef.decode_eq_error_iff text).1 ⟨cause, hdecode⟩⟩

/-- Text can be decoded exactly if it holds no decimal reference with too many digits. -/
theorem decodeText_eq_ok_iff {text : List Char} :
    (∃ value, decodeText text = .ok value) ↔ ¬HoldsLong text := by
  rw [← CharRef.decode_eq_error_iff, decodeText]
  cases CharRef.decode text <;> simp [Except.mapError]

/-- A run of text is a lexeme unless it holds such a reference. -/
theorem ofText_eq_ok_iff {text : List Char} {more : Nat} :
    (∃ lexeme, Lexeme.ofText text more = .ok lexeme) ↔ ¬HoldsLong (text.take (more + 1)) := by
  rw [← decodeText_eq_ok_iff, Lexeme.ofText]
  cases decodeText (text.take (more + 1)) <;> simp [Except.map]

end BareStrings.Markup
