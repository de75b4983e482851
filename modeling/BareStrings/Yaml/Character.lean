namespace BareStrings.Yaml

/-- A character that may stand in a YAML text. -/
def isAllowed (c : Char) : Bool :=
  let code := c.toNat
  code == 0x09 || code == 0x0A || code == 0x0D || (0x20 ≤ code && code ≤ 0x7E) || code == 0x85 ||
    (0xA0 ≤ code && code ≤ 0xFFFD) || 0x10000 ≤ code

/-- A character that ends a line. -/
def isBreak (c : Char) : Bool :=
  c == '\n' || c == '\r' || c == '\x85' || c == '\u2028' || c == '\u2029'

/-- The line end that a scalar keeps for one in the text. Only the separators of lines and
paragraphs keep their form. -/
def keptBreak (c : Char) : Char := if c = '\u2028' ∨ c = '\u2029' then c else '\n'

/-- Whether a token may end before what follows: a blank, a line end or the end of the text. -/
def endsToken : Option Char → Bool
  | none => true
  | some c => c == ' ' || c == '\t' || isBreak c

/-- Whether a comment or a line may end here. -/
def endsLine : Option Char → Bool
  | none => true
  | some c => isBreak c

/-- Whether a text begins with a mark between documents. It counts at the start of a line only. -/
def atMark : List Char → Bool
  | '-' :: '-' :: '-' :: rest => endsToken rest.head?
  | '.' :: '.' :: '.' :: rest => endsToken rest.head?
  | _ => false

/-- A character of the names of anchors, directives and tag handles. -/
def isNameChar (c : Char) : Bool := c.isAlphanum || c == '-' || c == '_'

/-- A character that means something else at the start of a plain scalar. -/
def isIndicator (c : Char) : Bool := "-?:,[]\x7b\x7d#&*!|>'\"%@\x60".toList.contains c

/-- A bracket or comma of a flow collection. -/
def isFlowMark (c : Char) : Bool := ",[]\x7b\x7d".toList.contains c

/-- A text behind the blanks at its head. -/
def skipSpaces (text : List Char) : List Char := text.dropWhile (· == ' ')

/-- A text behind the comment at its head. -/
def skipComment (text : List Char) : List Char :=
  if text.head? = some '#' then text.dropWhile (fun c => !isBreak c) else text

end BareStrings.Yaml
