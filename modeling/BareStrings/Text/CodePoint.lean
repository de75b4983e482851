namespace BareStrings.Text

/-- A Unicode code point, surrogates included. -/
abbrev CodePoint := Fin 0x110000

private theorem Char.toNat_lt_limit (c : Char) : c.toNat < 0x110000 := by
  rcases c.valid with hlow | ⟨_, hhigh⟩
  · exact Nat.lt_trans hlow (by decide)
  · exact hhigh

/-- The code point of a character. -/
def CodePoint.ofChar (c : Char) : CodePoint := ⟨c.toNat, Char.toNat_lt_limit c⟩

/-- The code points of a text. -/
def codePoints (text : List Char) : List CodePoint := text.map CodePoint.ofChar

/-- The code points of a fixed text. -/
def wording (text : String) : List CodePoint := codePoints text.toList

instance : Coe Char CodePoint := ⟨CodePoint.ofChar⟩

/-- The character of a code point. A surrogate has none. -/
def CodePoint.toChar? (code : CodePoint) : Option Char :=
  if hvalid : code.val.isValidChar then some (Char.ofNatAux code.val hvalid) else none

/-- The text that a sequence of code points spells, if it holds no surrogate. -/
def spelledText? (codes : List CodePoint) : Option (List Char) := codes.mapM CodePoint.toChar?

private theorem CodePoint.ofChar_injective {a b : Char} (h : CodePoint.ofChar a = CodePoint.ofChar b) :
    a = b := by
  have hcode : a.toNat = b.toNat := by simpa [CodePoint.ofChar] using h
  exact Char.toNat_inj.mp hcode

@[simp]
theorem CodePoint.ofChar_inj {a b : Char} : CodePoint.ofChar a = CodePoint.ofChar b ↔ a = b :=
  ⟨ofChar_injective, congrArg ofChar⟩

/-- A character is that of its code point. -/
@[simp]
theorem CodePoint.toChar?_ofChar (c : Char) : (CodePoint.ofChar c).toChar? = some c := dif_pos c.valid

/-- A character belongs to one code point. -/
theorem CodePoint.toChar?_eq_some_iff {code : CodePoint} {c : Char} :
    code.toChar? = some c ↔ code = CodePoint.ofChar c := by
  constructor
  · intro hchar
    by_cases hvalid : code.val.isValidChar
    · rw [toChar?, dif_pos hvalid] at hchar
      cases hchar
      rfl
    · rw [toChar?, dif_neg hvalid] at hchar
      cases hchar
  · rintro rfl
    exact toChar?_ofChar c

/-- A text holds the characters whose code points it is made of. -/
@[simp]
theorem mem_codePoints_iff {c : Char} {text : List Char} :
    CodePoint.ofChar c ∈ codePoints text ↔ c ∈ text := by
  simp [codePoints]

/-- A number that is no code point. The second cause is a number too large to be compared with the
code points at all. -/
inductive CodePointError where
  | beyondCodePoints
  | beyondMachineInteger
deriving DecidableEq

/-- The wording of a code point error. -/
def CodePointError.message : CodePointError → String
  | .beyondCodePoints => "chr() arg not in range(0x110000)"
  | .beyondMachineInteger => "Python int too large to convert to C int"

/-- The code point with a number. -/
def CodePoint.ofNumber (n : Nat) : Except CodePointError CodePoint :=
  if h : n < 0x110000 then .ok ⟨n, h⟩
  else if n < 0x80000000 then .error .beyondCodePoints
  else .error .beyondMachineInteger

/-- The blanks and line ends of script source, which whitelisted text is trimmed of. Unlike the
blanks of markup they include the byte order mark and leave out the information separators and the
next-line control. -/
def isScriptBlank (code : CodePoint) : Bool :=
  (0x09 ≤ code.val && code.val ≤ 0x0D) || code.val == 0x20 || code.val == 0xA0 ||
    code.val == 0x1680 || (0x2000 ≤ code.val && code.val ≤ 0x200A) || code.val == 0x2028 ||
    code.val == 0x2029 || code.val == 0x202F || code.val == 0x205F || code.val == 0x3000 ||
    code.val == 0xFEFF

end BareStrings.Text
