import BareStrings.Text.Numeral
import BareStrings.Yaml.Character
import BareStrings.Yaml.Error

namespace BareStrings.Yaml

open BareStrings.Text

/-- What becomes of the line ends at the end of a block scalar. -/
inductive Chomping where
  | strip
  | clip
  | keep
deriving DecidableEq

/-- The indicators behind the sign of a block scalar: chomping, and how far its lines are indented
if that is said. -/
structure BlockHeader where
  chomping : Chomping
  indentation : Option Nat

namespace BlockHeader

/-- The chomping indicator at the head of a text. -/
def chomping? : List Char → Option Chomping
  | '+' :: _ => some .keep
  | '-' :: _ => some .strip
  | _ => none

/-- The indentation indicator at the head of a text. -/
def indentation? (text : List Char) : Option Nat :=
  (text.head?.filter (isDigitOf 10)).map fun c => ofDigits 10 [c]

/-- Reads the indicators, which come in either order, and the rest of their line, which must be
empty or a comment. -/
def read (text : List Char) : Except LoadError (BlockHeader × List Char) := do
  let early := chomping? text
  let text := if early.isSome then text.tail else text
  let indentation := indentation? text
  let text := if indentation.isSome then text.tail else text
  let late := if early.isSome || indentation.isNone then none else chomping? text
  let text := if late.isSome then text.tail else text
  if indentation == some 0 || !(endsLine text.head? || text.head? == some ' ') then throw .malformed
  let rest := skipComment (skipSpaces text)
  if !endsLine rest.head? then throw .malformed
  return (⟨(early <|> late).getD .clip, indentation⟩, rest.tail)

end BlockHeader

/-- The largest number of blanks at the head of the lines up to the first visible character. -/
def leadingColumn (column best : Nat) : List Char → Nat
  | [] => best
  | c :: rest =>
    if isBreak c then leadingColumn 0 best rest
    else if c = ' ' then leadingColumn (column + 1) (max best (column + 1)) rest
    else best

/-- Where the reading of a block scalar stands: in a line, of which is known whether it began with a
visible character, or before one. In the second case `ended` is the line end of the last line with
the same knowledge about it, and `blank` are the line ends of the empty lines since. -/
inductive BlockState where
  | inLine (isVisible : Bool)
  | before (column : Nat) (ended : Option (Char × Bool)) (blank : List Char)

/-- A block scalar that has been read: its lines, the line end of the last one, the line ends of the
empty lines behind it, and what follows. -/
structure BlockScalar where
  text : List Char
  lastBreak : List Char
  blank : List Char
  rest : List Char

/-- What stands between two lines. Folding joins them by a blank, unless one begins with a blank or
empty lines lie between. -/
def betweenLines (folded : Bool) (ended : Option (Char × Bool)) (blank : List Char)
    (isVisible : Bool) : List Char :=
  match ended with
  | none => blank
  | some (lineEnd, wasVisible) =>
    if folded && lineEnd == '\n' && wasVisible && isVisible then
      if blank.isEmpty then [' '] else blank
    else lineEnd :: blank

/-- Reads on in a block scalar whose lines begin at a column. -/
def blockFrom (folded : Bool) (indent : Nat) : BlockState → List Char → BlockScalar
  | .inLine _, [] => ⟨[], [], [], []⟩
  | .before _ ended blank, [] => ⟨[], (ended.map (·.1)).toList, blank, []⟩
  | .inLine isVisible, c :: rest =>
    if isBreak c then blockFrom folded indent (.before 0 (some (keptBreak c, isVisible)) []) rest
    else
      let scalar := blockFrom folded indent (.inLine isVisible) rest
      { scalar with text := c :: scalar.text }
  | .before column ended blank, c :: rest =>
    if isBreak c then blockFrom folded indent (.before 0 ended (blank ++ [keptBreak c])) rest
    else if column < indent ∧ c = ' ' then
      blockFrom folded indent (.before (column + 1) ended blank) rest
    else if column = indent then
      let isVisible := c != ' ' && c != '\t'
      let scalar := blockFrom folded indent (.inLine isVisible) rest
      { scalar with text := betweenLines folded ended blank isVisible ++ c :: scalar.text }
    else ⟨[], (ended.map (·.1)).toList, blank, c :: rest⟩

/-- Reads a block scalar behind its sign. Its lines are indented at least to the column `least`. -/
def blockScalar (folded : Bool) (least : Nat) (text : List Char) :
    Except LoadError (List Char × List Char) := do
  let (header, lines) ← BlockHeader.read text
  let least := max least 1
  let indent := match header.indentation with
    | some extra => least + extra - 1
    | none => max least (leadingColumn 0 0 lines)
  let scalar := blockFrom folded indent (.before 0 none []) lines
  let lastBreak := if header.chomping = .strip then [] else scalar.lastBreak
  let blank := if header.chomping = .keep then scalar.blank else []
  return (scalar.text ++ lastBreak ++ blank, scalar.rest)

end BareStrings.Yaml
