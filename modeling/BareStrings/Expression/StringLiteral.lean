import BareStrings.Text.CodePoint
import BareStrings.Text.Numeral

namespace BareStrings.Expression

open BareStrings.Text

/-- The source between an opening quote, which has just been passed, and a closing one that ends
the text. A backslash takes any character with it; otherwise the quote and the two line ends of a
keyboard may not occur. -/
def literalBody? (quote : Char) : List Char → Option (List Char)
  | [] => none
  | c :: rest =>
    if c = quote then (if rest.isEmpty then some [] else none)
    else if c = '\\' then
      match rest with
      | [] => none
      | escaped :: rest => (literalBody? quote rest).map fun body => '\\' :: escaped :: body
    else if c = '\r' ∨ c = '\n' then none
    else (literalBody? quote rest).map (c :: ·)

/-- The body of a text that is one string literal in either kind of quotes. -/
def stringBody? : List Char → Option (List Char)
  | '\'' :: rest => literalBody? '\'' rest
  | '"' :: rest => literalBody? '"' rest
  | _ => none

/-- What a backslash and one character denote: a control, nothing before a line end, otherwise the
character itself. -/
def simpleEscape (c : Char) : List CodePoint :=
  if c = 'n' then [0x0A]
  else if c = 't' then [0x09]
  else if c = 'r' then [0x0D]
  else if c = 'b' then [0x08]
  else if c = 'f' then [0x0C]
  else if c = 'v' then [0x0B]
  else if c = '0' then [0x00]
  else if c = '\n' ∨ c = '\r' ∨ c = '\u2028' ∨ c = '\u2029' then []
  else [CodePoint.ofChar c]

/-- Exactly `count` hexadecimal digits at the front of a text, and the rest. -/
def hexDigits? (count : Nat) (text : List Char) : Option (List Char × List Char) :=
  let digits := text.take count
  if digits.length = count ∧ digits.all isHexDigit then some (digits, text.drop count) else none

/-- Hexadecimal digits in braces at the front of a text, and the rest. -/
def bracedDigits? : List Char → Option (List Char × List Char)
  | '{' :: text =>
    match text.dropWhile isHexDigit with
    | '}' :: rest =>
      let digits := text.takeWhile isHexDigit
      if digits.isEmpty then none else some (digits, rest)
    | _ => none
  | _ => none

/-- The digits of a numeric escape whose backslash has been passed, and the rest. -/
def numericEscape? : List Char → Option (List Char × List Char)
  | 'u' :: text => (bracedDigits? text).or (hexDigits? 4 text)
  | 'x' :: text => hexDigits? 2 text
  | _ => none

/-- Digits in braces take something of the text. -/
private theorem length_after_bracedDigits_lt {text digits rest : List Char}
    (h : bracedDigits? text = some (digits, rest)) : rest.length < text.length := by
  unfold bracedDigits? at h
  split at h
  · rename_i text
    split at h
    · rename_i tail htail
      simp only at h
      split at h
      · cases h
      · simp only [Option.some.injEq, Prod.mk.injEq] at h
        obtain ⟨_, rfl⟩ := h
        have hle := (List.dropWhile_sublist isHexDigit (l := text)).length_le
        rw [htail] at hle
        simp only [List.length_cons] at hle ⊢
        omega
    · cases h
  · cases h

private theorem length_after_hexDigits_le {count : Nat} {text digits rest : List Char}
    (h : hexDigits? count text = some (digits, rest)) : rest.length ≤ text.length := by
  unfold hexDigits? at h
  simp only at h
  split at h
  · simp only [Option.some.injEq, Prod.mk.injEq] at h
    obtain ⟨_, rfl⟩ := h
    simp
  · cases h

/-- A numeric escape takes something of the text behind the backslash. -/
private theorem length_after_numericEscape_lt {text digits rest : List Char}
    (h : numericEscape? text = some (digits, rest)) : rest.length < text.length := by
  unfold numericEscape? at h
  split at h
  · rename_i text
    rcases Option.or_eq_some_iff.1 h with hbraced | ⟨_, hhex⟩
    · have := length_after_bracedDigits_lt hbraced
      simp only [List.length_cons]
      omega
    · have := length_after_hexDigits_le hhex
      simp only [List.length_cons]
      omega
  · have := length_after_hexDigits_le h
    simp only [List.length_cons]
    omega
  · cases h

/-- What a character in the body of a string literal denotes together with what follows it, and the
rest. Only a backslash takes more than itself. -/
def readItem (c : Char) (text : List Char) : Except CodePointError (List CodePoint) × List Char :=
  if c = '\\' then
    match numericEscape? text, text with
    | some (digits, rest), _ => ((CodePoint.ofNumber (ofDigits 16 digits)).map ([·]), rest)
    | none, [] => (.ok [CodePoint.ofChar '\\'], [])
    | none, '\r' :: '\n' :: rest => (.ok [], rest)
    | none, c :: rest => (.ok (simpleEscape c), rest)
  else (.ok [CodePoint.ofChar c], text)

/-- Reading an item leaves no more than there was behind its first character. -/
private theorem length_after_readItem_le (c : Char) (text : List Char) :
    (readItem c text).2.length ≤ text.length := by
  unfold readItem
  split
  · split
    · rename_i hnumeric
      exact Nat.le_of_lt (length_after_numericEscape_lt hnumeric)
    · exact Nat.le_refl _
    · simp only [List.length_cons]
      omega
    · exact Nat.le_succ _
  · exact Nat.le_refl _

/-- The code points that the body of a string literal denotes. The first escape that names no code
point decides the error. -/
def decodeBody : List Char → Except CodePointError (List CodePoint)
  | [] => .ok []
  | c :: text => do
    let codes ← (readItem c text).1
    return codes ++ (← decodeBody (readItem c text).2)
termination_by text => text.length
decreasing_by exact Nat.lt_succ_of_le (length_after_readItem_le c text)

end BareStrings.Expression
