namespace BareStrings.Text

/-- The code points that count as blank in markup, attribute values and patterns: the white space
of every script and the information separators, but not the byte order mark. -/
def isBlankCode (code : Nat) : Bool :=
  (0x09 ≤ code && code ≤ 0x0D) || (0x1C ≤ code && code ≤ 0x20) || code == 0x85 || code == 0xA0 ||
    code == 0x1680 || (0x2000 ≤ code && code ≤ 0x200A) || code == 0x2028 || code == 0x2029 ||
    code == 0x202F || code == 0x205F || code == 0x3000

/-- A blank character. -/
def isBlank (c : Char) : Bool := isBlankCode c.toNat

/-- A blank that may stand around a numeral. The information separators may not. -/
def isNumeralBlank (c : Char) : Bool := isBlank c && !('\x1c' ≤ c && c ≤ '\x1f')

/-- Cuts the leading and the trailing elements that satisfy `outer`. -/
def trimBy {α : Type} (outer : α → Bool) (text : List α) : List α :=
  ((text.dropWhile outer).reverse.dropWhile outer).reverse

/-- A text without the blanks at its ends. -/
def trim (text : List Char) : List Char := trimBy isBlank text

/-- Trimming makes no text longer. -/
theorem length_trimBy_le {α : Type} (outer : α → Bool) (text : List α) :
    (trimBy outer text).length ≤ text.length := by
  have hfront := (List.dropWhile_sublist outer (l := text)).length_le
  have hback := (List.dropWhile_sublist outer (l := (text.dropWhile outer).reverse)).length_le
  simp only [trimBy, List.length_reverse] at hback ⊢
  omega

/-- Trimming makes no text longer. -/
theorem length_trim_le (text : List Char) : (trim text).length ≤ text.length :=
  length_trimBy_le isBlank text

end BareStrings.Text
