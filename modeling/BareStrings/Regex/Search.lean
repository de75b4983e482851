import BareStrings.Regex.Match

namespace BareStrings.Regex

open BareStrings.Text

/-- A match, by the offsets of its ends. -/
structure Span where
  first : Nat
  last : Nat
deriving DecidableEq

/-- Why a match cannot be told. -/
inductive MatchError where
  /-- A group ends before it begins. -/
  | reversedGroup
deriving DecidableEq

/-- The wording of a match error. -/
def MatchError.message : MatchError → String
  | .reversedGroup =>
    "The span of capturing group is wrong, please report a bug for the re module."

/-- Whether no group ends before it begins. -/
def Memory.isOrdered (memory : Memory) : Bool := go memory.marks
where
  /-- The same for the marks of groups one after another. -/
  go : List (Option Place) → Bool
    | some first :: some last :: rest => first.offset ≤ last.offset && go rest
    | _ :: _ :: rest => go rest
    | _ => true

/-- The attempt to match at a place. -/
def attemptAt (regex : Regex) (place : Place) : Attempt :=
  (regex.matcher false .success).run place (.start place)

/-- The end of the match that begins at a place. -/
def matchAt? (regex : Regex) (place : Place) : Option Place :=
  let attempt := regex.attemptAt place
  if attempt.matched then some attempt.memory.reached else none

/-- The end of the match that begins at a place and does not end there. -/
def nonemptyMatchAt? (regex : Regex) (place : Place) : Option Place :=
  let moved : Continuation := ⟨.free, fun ending memory =>
    if ending.offset = place.offset then .failed memory else Continuation.success.run ending memory⟩
  let attempt := (regex.matcher false moved).run place (.start place)
  if attempt.matched then some attempt.memory.reached else none

/-- The subject without all matches. Where the first way to match is empty, a longer one at the same
place still counts. -/
def removeFrom (regex : Regex) (before after : List CodePoint) : List CodePoint :=
  match after with
  | [] => []
  | code :: rest =>
    let place : Place := ⟨before, code :: rest⟩
    match (regex.matchAt? place).bind fun _ => regex.nonemptyMatchAt? place with
    | none => code :: removeFrom regex (code :: before) rest
    | some ending =>
      if ending.after.length ≤ rest.length then removeFrom regex ending.before ending.after
      else code :: removeFrom regex (code :: before) rest
termination_by after.length

/-- The subject without all matches of an expression. -/
def removeAll (regex : Regex) (subject : List CodePoint) : List CodePoint :=
  regex.removeFrom [] subject

/-- An expression that is ready to be searched for, with the least length of its matches and the
choice of ASCII made for the whole of it. -/
structure Pattern where
  regex : Regex
  least : Nat
  asciiOnly : Bool

/-- The set that an expression begins with, if its members are the same in both cases. -/
def openingSet? : Regex → Option (List SetItem × Bool)
  | .set items negated rule => if items.any (·.hasCase rule) then none else some (items, negated)
  | .seq first _ => first.openingSet?
  | .group _ body => body.openingSet?
  | _ => none

/-- A member whose category is that of the whole expression, whatever a group says. -/
def SetItem.inWhole (asciiOnly : Bool) : SetItem → SetItem
  | .category kind _ negated => .category kind asciiOnly negated
  | item => item

namespace Pattern

/-- Whether a match may begin at a place: enough of the subject must be left, and the next character
must be in the set that a match begins with. That set is looked at as if it stood outside of all
groups. -/
def mayBegin (pattern : Pattern) (place : Place) : Bool :=
  pattern.least ≤ place.after.length &&
    match pattern.least, pattern.regex.openingSet? with
    | _ + 1, some (items, negated) =>
      place.after.head?.any (setHolds (items.map (·.inWhole pattern.asciiOnly)) negated .exact)
    | _, _ => true

/-- The leftmost attempt that succeeds from a place on, with the place where it began. -/
def searchFrom? (pattern : Pattern) (before : List CodePoint) :
    List CodePoint → Option (Place × Memory)
  | [] => attemptAt? ⟨before, []⟩
  | code :: rest =>
    (attemptAt? ⟨before, code :: rest⟩).or (searchFrom? pattern (code :: before) rest)
where
  /-- The attempt at one place, if it succeeds. -/
  attemptAt? (place : Place) : Option (Place × Memory) :=
    if pattern.mayBegin place then
      let attempt := pattern.regex.attemptAt place
      if attempt.matched then some (place, attempt.memory) else none
    else none

/-- The leftmost match in a subject. -/
def search? (pattern : Pattern) (subject : List CodePoint) : Except MatchError (Option Span) :=
  match pattern.searchFrom? [] subject with
  | none => .ok none
  | some (place, memory) =>
    if memory.isOrdered then .ok (some ⟨place.offset, memory.reached.offset⟩)
    else .error .reversedGroup

/-- Whether an expression matches somewhere in a subject. -/
def occursIn (pattern : Pattern) (subject : List CodePoint) : Except MatchError Bool :=
  (pattern.search? subject).map Option.isSome

end Pattern

end BareStrings.Regex
