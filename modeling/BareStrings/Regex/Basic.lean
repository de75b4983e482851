import BareStrings.Text.CodePoint

namespace BareStrings

open BareStrings.Text

namespace Regex

/-- How letters are compared: as they are, without regard to case within ASCII, or without regard to
case at all. -/
inductive CaseRule where
  | exact
  | ascii
  | full
deriving DecidableEq

/-- Kinds of character that have a name of their own. -/
inductive Category where
  | digit
  | blank
  | word
deriving DecidableEq

/-- A member of a character set. A category can stand for its complement, and can be confined to
ASCII. -/
inductive SetItem where
  | one (code : CodePoint)
  | range (first last : CodePoint)
  | category (kind : Category) (asciiOnly negated : Bool)
deriving DecidableEq

/-- Conditions on a place in the subject. The start and the end of a line are those of the whole
text, with a line feed behind it left out, or those of every line. -/
inductive Anchor where
  | textStart
  | textEnd
  | lineStart (everyLine : Bool)
  | lineEnd (everyLine : Bool)
  | wordBoundary (asciiOnly : Bool)
  | noWordBoundary (asciiOnly : Bool)
deriving DecidableEq

/-- How a repetition chooses its count: as many as possible, as few as possible, or as many as
possible without ever giving one back. -/
inductive Greed where
  | greedy
  | lazy
  | possessive
deriving DecidableEq

end Regex

open Regex

/-- A regular expression. -/
inductive Regex where
  | empty
  | char (code : CodePoint) (negated : Bool) (rule : CaseRule)
  | any (lineFeeds : Bool)
  | set (items : List SetItem) (negated : Bool) (rule : CaseRule)
  | anchor (condition : Anchor)
  | seq (first second : Regex)
  | alt (first second : Regex)
  | group (index : Option Nat) (body : Regex)
  | repeated (least : Nat) (most : Option Nat) (greed : Greed) (body : Regex)
  | backref (index : Nat) (rule : CaseRule)
  | lookAhead (negated : Bool) (body : Regex)
  /-- A look behind with the least and the greatest length that its body can match. -/
  | lookBehind (negated : Bool) (least most : Nat) (body : Regex)
  | atomic (body : Regex)
  | conditional (index : Nat) (present absent : Regex)

namespace Regex

/-- The one greater than every count that a repetition may name. -/
def countLimit : Nat := 4294967295

/-- Lengths are counted up to a limit. -/
def clampWidth (width : Nat × Nat) : Nat × Nat :=
  (min width.1 (countLimit - 1), min width.2 countLimit)

/-- The least and the greatest length of what an expression can match. `groups` gives the lengths
of groups by their numbers. -/
def width (groups : Nat → Nat × Nat) : Regex → Nat × Nat
  | .empty | .anchor _ | .lookAhead .. | .lookBehind .. => (0, 0)
  | .char .. | .any _ | .set .. => (1, 1)
  | .seq first second =>
    let a := first.width groups
    let b := second.width groups
    clampWidth (a.1 + b.1, a.2 + b.2)
  | .alt first second =>
    let a := first.width groups
    let b := second.width groups
    (min a.1 b.1, max a.2 b.2)
  | .group _ body | .atomic body => body.width groups
  | .repeated least most _ body =>
    let w := body.width groups
    clampWidth (w.1 * least, w.2 * most.getD countLimit)
  | .backref index _ => groups index
  | .conditional _ present absent =>
    let a := present.width groups
    let b := absent.width groups
    (min a.1 b.1, max a.2 b.2)

/-- Whether an expression is a choice between others. -/
def isChoice : Regex → Bool
  | .alt .. => true
  | _ => false

/-- The expressions one after another. -/
def sequence : List Regex → Regex
  | [] => .empty
  | [item] => item
  | item :: items => .seq item (sequence items)

/-- The first of the expressions that matches. A choice that comes last is bracketed, so its ways
are not taken for ways of this one. -/
def firstOf : List Regex → Regex
  | [] => .empty
  | [branch] => if branch.isChoice then .group none branch else branch
  | branch :: branches => .alt branch (firstOf branches)

end Regex

end BareStrings
