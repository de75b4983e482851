import BareStrings.Regex.Letter

namespace BareStrings.Regex

open BareStrings.Text

/-- A place in the subject, with the text before it, nearest first, and after it. -/
structure Place where
  before : List CodePoint
  after : List CodePoint

namespace Place

/-- The start of a subject. -/
def start (subject : List CodePoint) : Place := ⟨[], subject⟩

/-- The number of characters passed. -/
def offset (place : Place) : Nat := place.before.length

/-- The place behind the next character, if that satisfies a condition. -/
def next? (place : Place) (condition : CodePoint → Bool) : Option Place :=
  match place.after with
  | [] => none
  | code :: rest => if condition code then some ⟨code :: place.before, rest⟩ else none

/-- The place a number of characters back. -/
def back? (place : Place) (count : Nat) : Option Place :=
  if count ≤ place.before.length then
    some ⟨place.before.drop count, (place.before.take count).reverse ++ place.after⟩
  else none

/-- The place behind a text, if that comes next under a comparison. -/
def behind? (place : Place) (same : CodePoint → CodePoint → Bool) : List CodePoint → Option Place
  | [] => some place
  | code :: rest =>
    match place.next? (same code) with
    | some place => behind? place same rest
    | none => none

/-- The place and those behind the next characters, for as long as these satisfy a condition and up
to a number of them. -/
def steps (condition : CodePoint → Bool) : (limit : Nat) → Place → List Place
  | 0, place => [place]
  | limit + 1, place =>
    match place.next? condition with
    | some next => place :: steps condition limit next
    | none => [place]

/-- The text between two places. -/
def textTo (first last : Place) : List CodePoint := first.after.take (last.offset - first.offset)

end Place

/-- Whether exactly one side of a place is a word character. An empty subject has neither a word
boundary nor a place without one. -/
def Place.isWordBoundary? (place : Place) (asciiOnly : Bool) : Option Bool :=
  if place.before.isEmpty && place.after.isEmpty then none
  else
    let isWord (code : Option CodePoint) : Bool :=
      code.any fun code => Category.word.holds asciiOnly code.val
    some (isWord place.before.head? != isWord place.after.head?)

/-- Whether a condition on a place holds. -/
def Anchor.holds (place : Place) : Anchor → Bool
  | .textStart => place.before.isEmpty
  | .textEnd => place.after.isEmpty
  | .lineStart everyLine =>
    place.before.isEmpty || everyLine && place.before.head?.all (·.val == 0x0A)
  | .lineEnd everyLine =>
    place.after.isEmpty ||
      if everyLine then place.after.head?.all (·.val == 0x0A)
      else place.after.map Fin.val == [0x0A]
  | .wordBoundary asciiOnly => place.isWordBoundary? asciiOnly == some true
  | .noWordBoundary asciiOnly => place.isWordBoundary? asciiOnly == some false

end BareStrings.Regex
