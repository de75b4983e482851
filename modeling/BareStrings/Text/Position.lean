namespace BareStrings.Text

/-- A place in a source: lines count from one, columns from zero. -/
structure Position where
  line : Nat
  column : Nat
deriving DecidableEq

/-- Where every source begins. -/
def Position.start : Position := ⟨1, 0⟩

/-- The place after one character. Only a line feed ends a line. -/
def Position.next (position : Position) (c : Char) : Position :=
  if c = '\n' then ⟨position.line + 1, 0⟩ else ⟨position.line, position.column + 1⟩

/-- The place reached after reading a text. -/
def Position.advance (position : Position) (text : List Char) : Position :=
  text.foldl Position.next position

/-- Nothing moves a position. -/
@[simp]
theorem Position.advance_nil (position : Position) : position.advance [] = position := rfl

/-- A text is passed over character by character. -/
@[simp]
theorem Position.advance_cons (position : Position) (c : Char) (text : List Char) :
    position.advance (c :: text) = (position.next c).advance text := rfl

/-- Passing over two texts leads where passing over both at once does. -/
theorem Position.advance_append (position : Position) (first second : List Char) :
    position.advance (first ++ second) = (position.advance first).advance second :=
  List.foldl_append

end BareStrings.Text
