import BareStrings.Yaml.Scalar.Gap

namespace BareStrings.Yaml

/-- Whether a character and the one behind it can begin a plain scalar. -/
def startsPlain (inFlow : Bool) (c : Char) (next : Option Char) : Bool :=
  (!isIndicator c && !endsToken (some c)) ||
    (!endsToken next && (c == '-' || (!inFlow && (c == '?' || c == ':'))))

/-- Whether a visible character ends a plain scalar. -/
def endsPlain (inFlow : Bool) (c : Char) (next : Option Char) : Bool :=
  endsToken (some c) || (c == ':' && (endsToken next || (inFlow && next.any isFlowMark))) ||
    (inFlow && (c == '?' || isFlowMark c))

/-- The column behind a character that is no line end. The byte order mark takes up none. -/
def nextColumn (column : Nat) (c : Char) : Nat := if c = '\uFEFF' then column else column + 1

/-- A plain scalar that has been read: its text, whether the blanks behind it go over a line end,
and what follows the blanks. -/
structure PlainScalar where
  text : List Char
  crossesLine : Bool
  rest : List Char

/-- Reads on in a plain scalar. Outside flow collections its lines must begin at the column `least`
or behind it. -/
def plainFrom (inFlow : Bool) (least : Nat) : Nat → Gap → List Char → PlainScalar
  | _, gap, [] => ⟨[], gap.crossesLine, []⟩
  | column, gap, c :: rest =>
    if c = ' ' then plainFrom inFlow least (column + 1) (gap.blank c) rest
    else if isBreak c then
      if atMark rest then ⟨[], true, rest⟩
      else plainFrom inFlow least 0 (gap.lineEnd c) rest
    else if (gap ≠ .none && (c == '#' || (!inFlow && column < least))) ||
        endsPlain inFlow c rest.head? then
      ⟨[], gap.crossesLine, c :: rest⟩
    else
      let scalar := plainFrom inFlow least (nextColumn column c) .none rest
      { scalar with text := gap.text ++ c :: scalar.text }

/-- Reads a plain scalar that begins at a column. -/
def plainScalar (inFlow : Bool) (least column : Nat) (text : List Char) : PlainScalar :=
  plainFrom inFlow least column .none text

end BareStrings.Yaml
