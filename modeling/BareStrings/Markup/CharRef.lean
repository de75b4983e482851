import BareStrings.Markup.CharRef.Names
import BareStrings.Text.Numeral

namespace BareStrings.Markup.CharRef

open BareStrings.Text

/-- A decimal reference with more digits than are read. -/
structure TooManyDigits where
  count : Nat
deriving DecidableEq

/-- The most digits of a decimal reference that are read. -/
def maxDigits : Nat := 4300

/-- The wording of the complaint about a reference with too many digits. -/
def TooManyDigits.message (error : TooManyDigits) : String :=
  "Exceeds the limit (" ++ String.ofList (decimal maxDigits) ++
    " digits) for integer string conversion: value has " ++ String.ofList (decimal error.count) ++
    " digits; use sys.set_int_max_str_digits() to increase the limit"

/-- The characters that old pages mean by the numbers 128 to 159, where Unicode has controls. -/
def windowsCharacters : List Nat := [
  0x20AC, 0x81, 0x201A, 0x192, 0x201E, 0x2026, 0x2020, 0x2021, 0x2C6, 0x2030, 0x160, 0x2039, 0x152,
  0x8D, 0x17D, 0x8F, 0x90, 0x2018, 0x2019, 0x201C, 0x201D, 0x2022, 0x2013, 0x2014, 0x2DC, 0x2122,
  0x161, 0x203A, 0x153, 0x9D, 0x17E, 0x178]

/-- Numbers that stand for no character at all: controls and noncharacters. -/
def isDropped (n : Nat) : Bool :=
  (0x01 ≤ n && n ≤ 0x08) || n == 0x0B || (0x0E ≤ n && n ≤ 0x1F) || n == 0x7F ||
    (0xFDD0 ≤ n && n ≤ 0xFDEF) || 0xFFFE ≤ n % 0x10000

/-- The text that a numeric reference stands for. -/
def numbered (n : Nat) : List Char :=
  if n = 0 ∨ (0xD800 ≤ n ∧ n ≤ 0xDFFF) ∨ 0x10FFFF < n then ['\uFFFD']
  else if 0x80 ≤ n ∧ n ≤ 0x9F then [Char.ofNat (windowsCharacters.getD (n - 0x80) n)]
  else if isDropped n then []
  else [Char.ofNat n]

/-- The longest beginning of a name, of two characters at least, that is in the table: the text it
stands for and what is left of the name. -/
def longestNamed? (name : List Char) : Nat → Option (List Char)
  | 0 | 1 => none
  | length + 1 =>
    match named? (name.take (length + 1)) with
    | some text => some (text ++ name.drop (length + 1))
    | none => longestNamed? name length

/-- The text of a reference by name. An unknown name stands for itself, or for the longest known
name that it begins with and the rest. -/
def resolveName (name : List Char) : List Char :=
  match named? name with
  | some text => text
  | none => (longestNamed? name (name.length - 1)).getD ('&' :: name)

/-- A character that a name may hold. -/
def isNameChar (c : Char) : Bool :=
  !(c == '\t' || c == '\n' || c == '\x0C' || c == ' ' || c == '<' || c == '&' || c == '#' ||
    c == ';')

/-- The most characters in a name, its semicolon not counted. -/
def maxNameLength : Nat := 32

/-- The text without one semicolon at its front. -/
def dropSemicolon : List Char → List Char
  | ';' :: rest => rest
  | text => text

/-- Reads the reference whose ampersand has just been passed: what it stands for and the text
behind it. -/
def reference? : List Char → Except TooManyDigits (Option (List Char × List Char))
  | '#' :: x :: rest =>
    let isDecimal (c : Char) := isDigitOf 10 c
    if isDecimal x then
      let digits := (x :: rest).takeWhile isDecimal
      let after := dropSemicolon ((x :: rest).dropWhile isDecimal)
      if maxDigits < digits.length then .error ⟨digits.length⟩
      else .ok (some (numbered (ofDigits 10 digits), after))
    else if (x = 'x' ∨ x = 'X') ∧ (rest.head?.any isHexDigit) then
      .ok (some (numbered (ofDigits 16 (rest.takeWhile isHexDigit)),
        dropSemicolon (rest.dropWhile isHexDigit)))
    else .ok none
  | text =>
    let name := (text.take maxNameLength).takeWhile isNameChar
    let after := text.drop name.length
    if name.isEmpty then .ok none
    else match after with
      | ';' :: rest => .ok (some (resolveName (name ++ [';']), rest))
      | _ => .ok (some (resolveName name, after))

private theorem length_dropSemicolon_le (text : List Char) : (dropSemicolon text).length ≤ text.length := by
  unfold dropSemicolon
  split <;> simp

private theorem length_dropWhile_le {α : Type} (p : α → Bool) (text : List α) :
    (text.dropWhile p).length ≤ text.length :=
  (List.dropWhile_sublist p).length_le

/-- What follows a reference is no longer than what followed its ampersand. -/
theorem length_after_reference_le {text replacement after : List Char}
    (href : reference? text = .ok (some (replacement, after))) : after.length ≤ text.length := by
  unfold reference? at href
  split at href
  · rename_i x rest
    simp only at href
    split at href
    · split at href
      · cases href
      · simp only [Except.ok.injEq, Option.some.injEq, Prod.mk.injEq] at href
        obtain ⟨_, rfl⟩ := href
        have hsemi := length_dropSemicolon_le ((x :: rest).dropWhile fun c => isDigitOf 10 c)
        have hdigits := length_dropWhile_le (fun c => isDigitOf 10 c) (x :: rest)
        simp only [List.length_cons] at hsemi hdigits ⊢
        omega
    · split at href
      · simp only [Except.ok.injEq, Option.some.injEq, Prod.mk.injEq] at href
        obtain ⟨_, rfl⟩ := href
        have hsemi := length_dropSemicolon_le (rest.dropWhile isHexDigit)
        have hdigits := length_dropWhile_le isHexDigit rest
        simp only [List.length_cons]
        omega
      · cases href
  · simp only at href
    split at href
    · cases href
    · split at href
      · rename_i rest hafter
        simp only [Except.ok.injEq, Option.some.injEq, Prod.mk.injEq] at href
        obtain ⟨_, rfl⟩ := href
        have hlength := congrArg List.length hafter
        simp only [List.length_drop, List.length_cons] at hlength
        omega
      · simp only [Except.ok.injEq, Option.some.injEq, Prod.mk.injEq] at href
        obtain ⟨_, rfl⟩ := href
        simp

/-- The text that markup text stands for. -/
def decode : List Char → Except TooManyDigits (List Char)
  | [] => .ok []
  | c :: rest =>
    if c = '&' then
      match href : reference? rest with
      | .error error => .error error
      | .ok none => (decode rest).map ('&' :: ·)
      | .ok (some (replacement, after)) =>
        have : after.length < rest.length + 1 := Nat.lt_succ_of_le (length_after_reference_le href)
        (decode after).map (replacement ++ ·)
    else (decode rest).map (c :: ·)
termination_by text => text.length

end BareStrings.Markup.CharRef
