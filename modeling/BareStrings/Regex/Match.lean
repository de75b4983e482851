import BareStrings.Regex.Place

namespace BareStrings.Regex

open BareStrings.Text

/-- What an attempt hands on, a failed one too: how far the match has come, and the beginnings and ends
of the groups, those of group `n + 1` at `2 * n` and `2 * n + 1`. How far a failed way had come matters
to possessive repetitions alone, which go on from there. -/
structure Memory where
  reached : Place
  marks : List (Option Place)

namespace Memory

/-- The memory at the beginning of a match. -/
def start (place : Place) : Memory := ⟨place, []⟩

/-- The memory with another place reached. -/
def reaching (memory : Memory) (place : Place) : Memory := { memory with reached := place }

/-- Notes a beginning or an end of a group. -/
def mark (memory : Memory) (index : Nat) (place : Place) : Memory :=
  let marks := memory.marks
  if index < marks.length then { memory with marks := marks.set index (some place) }
  else
    { memory with
      marks := marks ++ List.replicate (index - marks.length) none ++ [some place] }

/-- The memory for the next way after one that failed. `saved` is the memory from before. -/
def afterFailure (failed saved : Memory) (insideRepetition : Bool) : Memory :=
  { failed with
    marks := if insideRepetition then saved.marks else failed.marks.take saved.marks.length }

/-- Beginning and end of a group that has matched. -/
def group? (memory : Memory) (index : Nat) : Option (Place × Place) :=
  match memory.marks[2 * (index - 1)]?, memory.marks[2 * (index - 1) + 1]? with
  | some (some first), some (some last) =>
    if first.offset ≤ last.offset then some (first, last) else none
  | _, _ => none

end Memory

/-- The outcome of an attempt. -/
structure Attempt where
  matched : Bool
  memory : Memory

namespace Attempt

/-- An attempt that failed. -/
def failed (memory : Memory) : Attempt := ⟨false, memory⟩

/-- Another attempt if one failed. -/
def orElse (attempt : Attempt) (next : Memory → Attempt) : Attempt :=
  if attempt.matched then attempt else next attempt.memory

/-- What is done with the memory of an attempt that failed. -/
def whenFailed (attempt : Attempt) (change : Memory → Memory) : Attempt :=
  attempt.orElse fun memory => .failed (change memory)

end Attempt

/-- What is asked first of the next character, where it can be asked without an attempt. -/
inductive Opening where
  | free
  | letter (code : CodePoint)
  | set (holds : CodePoint → Bool)

/-- Whether the next character lets an attempt begin. -/
def Opening.admits (opening : Opening) (place : Place) : Bool :=
  match opening with
  | .free => true
  | .letter code => place.after.head? == some code
  | .set holds => place.after.head?.any holds

/-- What is to be done from a place on. -/
structure Continuation where
  opening : Opening
  run : Place → Memory → Attempt

namespace Continuation

/-- Nothing is left to be done. -/
def success : Continuation := ⟨.free, fun place memory => ⟨true, memory.reaching place⟩⟩

/-- The same without its opening, since something stands before it. -/
def veiled (follow : Continuation) : Continuation := { follow with opening := .free }

/-- An attempt from a place that counts as reached, and whose groups are given back if it fails. -/
def attempt (follow : Continuation) (insideRepetition : Bool) (place : Place) (memory : Memory) :
    Attempt :=
  (follow.run place (memory.reaching place)).whenFailed (·.afterFailure memory insideRepetition)

/-- An attempt as one of several ways, which is not begun if the next character forbids it. -/
def way (follow : Continuation) (insideRepetition : Bool) (place : Place) (memory : Memory) :
    Attempt :=
  if follow.opening.admits place then follow.attempt insideRepetition place memory
  else .failed memory

/-- A condition on the place before what follows. -/
def guardedBy (follow : Continuation) (next? : Place → Memory → Option Place) : Continuation where
  opening := .free
  run place memory :=
    match next? place memory with
    | some next => follow.run next memory
    | none => .failed memory

end Continuation

/-- An expression as a function on what follows it. -/
abbrev Matcher := Continuation → Continuation

/-- Repetition of a form for one character. -/
structure SingleRepetition where
  single : Single
  least : Nat
  most : Option Nat

namespace SingleRepetition

/-- The places behind the possible counts from the least one on, and the memory with what counting
leaves there. Nothing is counted where too little of the subject is left. -/
def places? (rep : SingleRepetition) (place : Place) (memory : Memory) (limit : Nat) :
    Except Memory (List Place × Memory) :=
  if place.after.length < rep.least then .error memory
  else
    let places := place.steps rep.single.holds limit
    let reached := if rep.single.stepwise then places.getLast?.getD place else place
    let memory := memory.reaching reached
    if places.length ≤ rep.least then .error memory else .ok (places.drop rep.least, memory)

/-- The greatest count. -/
def limit (rep : SingleRepetition) (place : Place) : Nat :=
  min (rep.most.getD place.after.length) place.after.length

/-- Tries what follows at places in turn. A place where its first letter does not come next is
passed over. -/
def giveBack (insideRepetition : Bool) (follow : Continuation) : List Place → Memory → Attempt
  | [], memory => .failed memory
  | place :: places, memory =>
    let attempt : Attempt :=
      match follow.opening with
      | .letter _ => follow.way insideRepetition place memory
      | _ => follow.attempt insideRepetition place memory
    attempt.orElse (giveBack insideRepetition follow places)

/-- Tries what follows at places in turn, each one character further than the one before. -/
def goFurther (single : Single) (insideRepetition : Bool) (follow : Continuation) :
    List Place → Memory → Attempt
  | [], memory => .failed memory
  | place :: places, memory =>
    (follow.attempt insideRepetition place memory).orElse fun memory =>
      goFurther single insideRepetition follow places
        (memory.reaching (if single.stepwise then (place.next? single.holds).getD place else place))

/-- As many characters as possible, or fewer if what follows needs them. -/
def greedy (rep : SingleRepetition) (insideRepetition : Bool) (follow : Continuation)
    (place : Place) (memory : Memory) : Attempt :=
  match rep.places? place memory (rep.limit place) with
  | .error memory => .failed memory
  | .ok (places, memory) => giveBack insideRepetition follow places.reverse memory

/-- As few characters as possible, or more if what follows needs it. -/
def lazy (rep : SingleRepetition) (insideRepetition : Bool) (follow : Continuation)
    (place : Place) (memory : Memory) : Attempt :=
  match rep.places? place memory rep.least with
  | .error memory => .failed memory
  | .ok (_, memory) =>
    goFurther rep.single insideRepetition follow
      ((place.steps rep.single.holds (rep.limit place)).drop rep.least) memory

/-- As many characters as possible. -/
def possessive (rep : SingleRepetition) (follow : Continuation) (place : Place) (memory : Memory) :
    Attempt :=
  match rep.places? place memory (rep.limit place) with
  | .error memory => .failed memory
  | .ok (places, memory) =>
    let last := places.getLast?.getD place
    follow.run last (memory.reaching last)

/-- The repetition before what follows. -/
def matcher (rep : SingleRepetition) (greed : Greed) (insideRepetition : Bool) : Matcher :=
  fun follow => ⟨.free,
    match greed with
    | .greedy => rep.greedy insideRepetition follow
    | .lazy => rep.lazy insideRepetition follow
    | .possessive => rep.possessive follow⟩

end SingleRepetition

/-- Repetition of any form. -/
structure Repetition where
  body : Matcher
  least : Nat
  most : Option Nat

namespace Repetition

/-- Whether another repetition may begin at a place. Beyond the least count none begins where the
one before it began, so empty matches do not go on for ever. -/
def mayGoOn (rep : Repetition) (done : Nat) (last : Option Nat) (place : Place) : Bool :=
  rep.most.all (done < ·) && last != some place.offset

/-- As many repetitions as possible, of which `done` are behind. -/
def greedy (rep : Repetition) (follow : Continuation) :
    (fuel done : Nat) → (last : Option Nat) → Place → Memory → Attempt
  | 0, _, _, place, memory => follow.run place memory
  | fuel + 1, done, last, place, memory =>
    let memory := memory.reaching place
    let again (last : Option Nat) : Attempt :=
      (rep.body ⟨.free, greedy rep follow fuel (done + 1) last⟩).run place memory
    if done < rep.least then (again last).whenFailed (·.reaching place)
    else
      let leave (memory : Memory) : Attempt :=
        (follow.run place memory).whenFailed (·.reaching place)
      if rep.mayGoOn done last place then
        (again (some place.offset)).orElse fun failed =>
          leave ((failed.afterFailure memory true).reaching place)
      else leave memory

/-- As few repetitions as possible, of which `done` are behind. -/
def lazy (rep : Repetition) (insideRepetition : Bool) (follow : Continuation) :
    (fuel done : Nat) → (last : Option Nat) → Place → Memory → Attempt
  | 0, _, _, place, memory => follow.run place memory
  | fuel + 1, done, last, place, memory =>
    let again (last : Option Nat) (memory : Memory) : Attempt :=
      ((rep.body ⟨.free, lazy rep insideRepetition follow fuel (done + 1) last⟩).run place
        (memory.reaching place)).whenFailed (·.reaching place)
    if done < rep.least then again last memory
    else
      (follow.attempt insideRepetition place memory).orElse fun memory =>
        if rep.mayGoOn done last place then again (some place.offset) memory
        else .failed (memory.reaching place)

/-- A number of repetitions, each from where the one before it ended. -/
def required (rep : Repetition) : (count : Nat) → Memory → Attempt
  | 0, memory => ⟨true, memory⟩
  | count + 1, memory =>
    let attempt := (rep.body .success).run memory.reached memory
    if attempt.matched then required rep count attempt.memory else attempt

/-- Repetitions for as long as they succeed. The one that fails gives back its groups, but the match
goes on from where it gave up. -/
def unyielding (rep : Repetition) : (fuel done : Nat) → (last : Option Nat) → Memory → Memory
  | 0, _, _, memory => memory
  | fuel + 1, done, last, memory =>
    if rep.mayGoOn done last memory.reached then
      let attempt := (rep.body .success).run memory.reached memory
      if attempt.matched then
        unyielding rep fuel (done + 1) (some memory.reached.offset) attempt.memory
      else attempt.memory.afterFailure memory true
    else memory

/-- As many repetitions as possible, none of which is given back. -/
def possessive (rep : Repetition) (follow : Continuation) (fuel : Nat) (place : Place)
    (memory : Memory) : Attempt :=
  let attempt := rep.required rep.least (memory.reaching place)
  if attempt.matched then
    let memory := rep.unyielding fuel rep.least none attempt.memory
    follow.run memory.reached memory
  else .failed (attempt.memory.reaching place)

/-- A bound on the number of repetitions that can follow one another. -/
def fuel (rep : Repetition) (place : Place) : Nat :=
  let size := place.before.length + place.after.length + 2
  rep.least + size * size

/-- The repetition before what follows. -/
def matcher (rep : Repetition) (greed : Greed) (insideRepetition : Bool) : Matcher :=
  fun follow => ⟨.free, fun place memory =>
    match greed with
    | .greedy => rep.greedy follow (rep.fuel place) 0 none place memory
    | .lazy => rep.lazy insideRepetition follow (rep.fuel place) 0 none place memory
    | .possessive => rep.possessive follow (rep.fuel place) place memory⟩

end Repetition

/-- A form for one character before what follows. -/
def one (opening : Opening) (condition : CodePoint → Bool) : Matcher := fun follow =>
  ⟨opening, fun place memory =>
    match place.next? condition with
    | some next => follow.run next memory
    | none => .failed memory⟩

/-- The opening of a letter. One with case is not looked at beforehand. -/
def letterOpening (letter : CodePoint) (negated : Bool) (rule : CaseRule) : Opening :=
  if !negated && rule == .exact then .letter letter else .free

/-- The opening of a set. One that folds is not looked at beforehand. -/
def setOpening (items : List SetItem) (negated : Bool) (rule : CaseRule) : Opening :=
  if setFolds items rule then .free else .set (setHolds items negated rule)

/-- The matcher of an expression, within the body of a repetition or outside. It backtracks: alternatives
are tried in order, repetitions by their greed, and the first way that lets the rest match is taken. A
way that fails gives back the groups it added, and inside a repetition also those it changed. -/
def matcher (insideRepetition : Bool) : Regex → Matcher
  | .empty => fun follow => follow
  | .char letter negated rule =>
    one (letterOpening letter negated rule) fun code => rule.same letter code != negated
  | .any lineFeeds => one .free fun code => lineFeeds || code.val != 0x0A
  | .set items negated rule => one (setOpening items negated rule) (setHolds items negated rule)
  | .anchor condition => fun follow =>
    follow.guardedBy fun place _ => if condition.holds place then some place else none
  | .seq first second => fun follow =>
    first.matcher insideRepetition (second.matcher insideRepetition follow)
  | .alt first second => fun follow => ⟨.free, fun place memory =>
    ((first.matcher insideRepetition follow.veiled).way insideRepetition place memory).orElse
      (if second.isChoice then (second.matcher insideRepetition follow).run place
        else (second.matcher insideRepetition follow.veiled).way insideRepetition place)⟩
  | .group none body => fun follow => body.matcher insideRepetition follow
  | .group (some index) body => fun follow => ⟨.free, fun place memory =>
    (body.matcher insideRepetition ⟨.free, fun ending memory =>
      follow.run ending (memory.mark (2 * (index - 1) + 1) ending)⟩).run place
        (memory.mark (2 * (index - 1)) place)⟩
  | .repeated least most greed body => fun follow =>
    match body.single? with
    | some single => SingleRepetition.matcher ⟨single, least, most⟩ greed insideRepetition follow
    | none =>
      let inside := greed != .possessive || insideRepetition
      Repetition.matcher ⟨body.matcher inside, least, most⟩ greed insideRepetition follow
  | .backref index rule => fun follow =>
    follow.guardedBy fun place memory =>
      (memory.group? index).bind fun (first, last) =>
        place.behind? rule.sameAgain (first.textTo last)
  | .lookAhead negated body => fun follow => ⟨.free, fun place memory =>
    let attempt := (body.matcher insideRepetition .success).run place (memory.reaching place)
    look negated insideRepetition follow place memory attempt⟩
  | .lookBehind negated least _ body => fun follow => ⟨.free, fun place memory =>
    match place.back? least with
    | some start =>
      let attempt := (body.matcher insideRepetition .success).run start (memory.reaching start)
      look negated insideRepetition follow place memory attempt
    | none => if negated then follow.run place memory else .failed memory⟩
  | .atomic body => fun follow => ⟨.free, fun place memory =>
    let attempt := (body.matcher insideRepetition .success).run place (memory.reaching place)
    if attempt.matched then follow.run attempt.memory.reached attempt.memory
    else .failed (attempt.memory.reaching place)⟩
  | .conditional index present absent => fun follow => ⟨.free, fun place memory =>
    if (memory.group? index).isSome then
      match absent with
      | .empty => (present.matcher insideRepetition follow).run place memory
      | _ => (present.matcher insideRepetition follow.veiled).run place memory
    else (absent.matcher insideRepetition follow).run place memory⟩
where
  /-- What follows a look around, after the attempt at its body. -/
  look (negated insideRepetition : Bool) (follow : Continuation) (place : Place)
      (memory : Memory) (attempt : Attempt) : Attempt :=
    if attempt.matched != negated then
      follow.run place
        (if negated then attempt.memory.afterFailure memory insideRepetition else attempt.memory)
    else .failed attempt.memory

end BareStrings.Regex
