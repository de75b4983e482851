import BareStrings.Regex.Search

namespace BareStrings.Regex

open BareStrings.Text

/-- Whether an expression notes where some part of it has matched. -/
def captures : Regex → Bool
  | .empty | .char .. | .any _ | .set .. | .anchor _ | .backref .. => false
  | .seq first second | .alt first second | .conditional _ first second =>
    first.captures || second.captures
  | .group index body => index.isSome || body.captures
  | .repeated _ _ _ body | .lookAhead _ body | .lookBehind _ _ _ body | .atomic body => body.captures

/-- No group has been noted. -/
def Memory.IsBlank (memory : Memory) : Prop := memory.marks = []

/-- An attempt that hands on no notes of groups, whether it succeeds or fails. -/
def Attempt.IsBlank (attempt : Attempt) : Prop := attempt.memory.IsBlank

/-- What is to be done notes no group of its own. -/
def Continuation.StaysBlank (follow : Continuation) : Prop :=
  ∀ place memory, memory.IsBlank → (follow.run place memory).IsBlank

/-- A matcher that notes no group before what follows it. -/
def StaysBlank (matcher : Matcher) : Prop :=
  ∀ follow : Continuation, follow.StaysBlank → (matcher follow).StaysBlank

/-- Reaching a place notes no group. -/
private theorem Memory.IsBlank.reaching {memory : Memory} (hmemory : memory.IsBlank) (place : Place) :
    (memory.reaching place).IsBlank := hmemory

/-- Behind a failure there is no note of a group, if there was none in either of the memories. -/
private theorem Memory.IsBlank.afterFailure {failed saved : Memory} (hfailed : failed.IsBlank)
    (hsaved : saved.IsBlank) (insideRepetition : Bool) :
    (failed.afterFailure saved insideRepetition).IsBlank := by
  unfold Memory.IsBlank at *
  cases insideRepetition <;> simp [Memory.afterFailure, hfailed, hsaved]

/-- An attempt with another one behind it notes no group if neither does. -/
private theorem Attempt.IsBlank.orElse {attempt : Attempt} (hattempt : attempt.IsBlank)
    {next : Memory → Attempt} (hnext : ∀ memory, memory.IsBlank → (next memory).IsBlank) :
    (attempt.orElse next).IsBlank := by
  unfold Attempt.orElse
  split
  · exact hattempt
  · exact hnext _ hattempt

private theorem Attempt.IsBlank.whenFailed {attempt : Attempt} (hattempt : attempt.IsBlank)
    {change : Memory → Memory} (hchange : ∀ memory, memory.IsBlank → (change memory).IsBlank) :
    (attempt.whenFailed change).IsBlank :=
  hattempt.orElse hchange

namespace Continuation.StaysBlank

variable {follow : Continuation} {place : Place} {memory : Memory}

/-- Where nothing more is to be done, no group is noted. -/
theorem success : Continuation.success.StaysBlank := fun _ _ hmemory => hmemory

private theorem veiled (hfollow : follow.StaysBlank) : follow.veiled.StaysBlank := hfollow

/-- Attempting what follows notes no group if what follows does not. -/
private theorem attempt (hfollow : follow.StaysBlank) (hmemory : memory.IsBlank) (insideRepetition : Bool) :
    (follow.attempt insideRepetition place memory).IsBlank :=
  Attempt.IsBlank.whenFailed (hfollow place _ (hmemory.reaching place)) fun _ hfailed =>
    hfailed.afterFailure hmemory insideRepetition

private theorem way (hfollow : follow.StaysBlank) (hmemory : memory.IsBlank) (insideRepetition : Bool) :
    (follow.way insideRepetition place memory).IsBlank := by
  unfold Continuation.way
  split
  · exact hfollow.attempt hmemory insideRepetition
  · exact hmemory

private theorem guardedBy (hfollow : follow.StaysBlank) (next? : Place → Memory → Option Place) :
    (follow.guardedBy next?).StaysBlank := by
  intro place memory hmemory
  simp only [Continuation.guardedBy]
  split
  · exact hfollow _ _ hmemory
  · exact hmemory

end Continuation.StaysBlank

private theorem staysBlank_one (opening : Opening) (condition : CodePoint → Bool) :
    StaysBlank (one opening condition) := by
  intro follow hfollow place memory hmemory
  simp only [one]
  split
  · exact hfollow _ _ hmemory
  · exact hmemory

namespace SingleRepetition

variable {follow : Continuation} {memory : Memory}

/-- Counting notes nothing, whether there are enough characters or not. -/
theorem isBlank_of_places? (rep : SingleRepetition) (place : Place) (limit : Nat)
    (hmemory : memory.IsBlank) :
    (∀ after, rep.places? place memory limit = .error after → after.IsBlank) ∧
      ∀ places after, rep.places? place memory limit = .ok (places, after) → after.IsBlank := by
  unfold places?
  simp only
  split
  · refine ⟨?_, nofun⟩
    rintro _ ⟨⟩
    exact hmemory
  · split
    · refine ⟨?_, nofun⟩
      rintro _ ⟨⟩
      exact hmemory.reaching _
    · refine ⟨nofun, ?_⟩
      rintro _ _ ⟨⟩
      exact hmemory.reaching _

private theorem isBlank_giveBack (hfollow : follow.StaysBlank) (insideRepetition : Bool)
    (places : List Place) (hmemory : memory.IsBlank) :
    (giveBack insideRepetition follow places memory).IsBlank := by
  induction places generalizing memory with
  | nil => exact hmemory
  | cons place places ih =>
    refine Attempt.IsBlank.orElse ?_ fun later hlater => ih hlater
    split
    · exact hfollow.way hmemory insideRepetition
    · exact hfollow.attempt hmemory insideRepetition

private theorem isBlank_goFurther (single : Single) (hfollow : follow.StaysBlank) (insideRepetition : Bool)
    (places : List Place) (hmemory : memory.IsBlank) :
    (goFurther single insideRepetition follow places memory).IsBlank := by
  induction places generalizing memory with
  | nil => exact hmemory
  | cons place places ih =>
    exact Attempt.IsBlank.orElse (hfollow.attempt hmemory insideRepetition) fun later hlater => ih hlater

/-- Repeating a single item notes no group. -/
private theorem staysBlank_matcher (rep : SingleRepetition) (greed : Greed) (insideRepetition : Bool) :
    StaysBlank (rep.matcher greed insideRepetition) := by
  intro follow hfollow place memory hmemory
  obtain ⟨hshort, henough⟩ := isBlank_of_places? rep place (rep.limit place) hmemory
  cases greed with
  | greedy =>
    simp only [matcher, greedy]
    split
    · rename_i after hfound
      exact hshort after hfound
    · rename_i places after hfound
      exact isBlank_giveBack hfollow insideRepetition _ (henough places after hfound)
  | lazy =>
    obtain ⟨hshort, henough⟩ := isBlank_of_places? rep place rep.least hmemory
    simp only [matcher, lazy]
    split
    · rename_i after hfound
      exact hshort after hfound
    · rename_i places after hfound
      exact isBlank_goFurther rep.single hfollow insideRepetition _ (henough places after hfound)
  | possessive =>
    simp only [matcher, possessive]
    split
    · rename_i after hfound
      exact hshort after hfound
    · rename_i places after hfound
      exact hfollow _ _ ((henough places after hfound).reaching _)

end SingleRepetition

namespace Repetition

variable {rep : Repetition} {follow : Continuation}

/-- Repeating a body as often as it can be notes no group if the body does not. -/
private theorem staysBlank_greedy (hbody : StaysBlank rep.body) (hfollow : follow.StaysBlank)
    (fuel done : Nat)
    (last : Option Nat) : Continuation.StaysBlank ⟨.free, greedy rep follow fuel done last⟩ := by
  induction fuel generalizing done last with
  | zero => exact hfollow
  | succ fuel ih =>
    intro place memory hmemory
    have hagain : ∀ last : Option Nat,
        ((rep.body ⟨.free, greedy rep follow fuel (done + 1) last⟩).run place
          (memory.reaching place)).IsBlank :=
      fun last => hbody _ (ih (done + 1) last) _ _ hmemory
    have hleave : ∀ memory : Memory, memory.IsBlank →
        ((follow.run place memory).whenFailed (·.reaching place)).IsBlank :=
      fun memory hmemory => Attempt.IsBlank.whenFailed (hfollow _ _ hmemory) fun _ hfailed => hfailed
    simp only [greedy]
    split
    · exact (hagain last).whenFailed fun _ hfailed => hfailed
    · split
      · refine (hagain _).orElse fun failed hfailed => hleave _ ?_
        exact hfailed.afterFailure (hmemory.reaching place) true
      · exact hleave _ hmemory

/-- Repeating a body as rarely as it can be notes no group if the body does not. -/
private theorem staysBlank_lazy (hbody : StaysBlank rep.body) (hfollow : follow.StaysBlank)
    (insideRepetition : Bool) (fuel done : Nat) (last : Option Nat) :
    Continuation.StaysBlank ⟨.free, lazy rep insideRepetition follow fuel done last⟩ := by
  induction fuel generalizing done last with
  | zero => exact hfollow
  | succ fuel ih =>
    intro place memory hmemory
    have hagain : ∀ (last : Option Nat) (memory : Memory), memory.IsBlank →
        (((rep.body ⟨.free, lazy rep insideRepetition follow fuel (done + 1) last⟩).run place
          (memory.reaching place)).whenFailed (·.reaching place)).IsBlank :=
      fun last memory hmemory =>
        Attempt.IsBlank.whenFailed (hbody _ (ih (done + 1) last) _ _ (hmemory.reaching place))
          fun _ hfailed => hfailed
    simp only [lazy]
    split
    · exact hagain last memory hmemory
    · refine (hfollow.attempt hmemory insideRepetition).orElse fun later hlater => ?_
      split
      · exact hagain _ later hlater
      · exact hlater

private theorem isBlank_required (hbody : StaysBlank rep.body) (count : Nat) {memory : Memory}
    (hmemory : memory.IsBlank) : (rep.required count memory).IsBlank := by
  induction count generalizing memory with
  | zero => exact hmemory
  | succ count ih =>
    have hattempt := hbody _ .success memory.reached memory hmemory
    simp only [required]
    split
    · exact ih hattempt
    · exact hattempt

/-- Repeating a body without giving back notes no group if the body does not. -/
private theorem isBlank_unyielding (hbody : StaysBlank rep.body) (fuel done : Nat) (last : Option Nat)
    {memory : Memory} (hmemory : memory.IsBlank) : (rep.unyielding fuel done last memory).IsBlank := by
  induction fuel generalizing done last memory with
  | zero => exact hmemory
  | succ fuel ih =>
    have hattempt := hbody _ .success memory.reached memory hmemory
    simp only [unyielding]
    split
    · split
      · exact ih _ _ hattempt
      · exact hattempt.afterFailure hmemory true
    · exact hmemory

/-- Repeating a body, with whatever greed, notes no group if the body does not. -/
private theorem staysBlank_matcher (hbody : StaysBlank rep.body) (greed : Greed) (insideRepetition : Bool) :
    StaysBlank (rep.matcher greed insideRepetition) := by
  intro follow hfollow place memory hmemory
  cases greed with
  | greedy => exact staysBlank_greedy hbody hfollow _ _ _ place memory hmemory
  | lazy => exact staysBlank_lazy hbody hfollow insideRepetition _ _ _ place memory hmemory
  | possessive =>
    have hrequired := isBlank_required hbody rep.least (hmemory.reaching place)
    simp only [matcher, possessive]
    split
    · exact hfollow _ _ (isBlank_unyielding hbody _ _ _ hrequired)
    · exact hrequired

end Repetition

/-- Looking around notes no group if what is looked for does not. -/
private theorem isBlank_look (negated insideRepetition : Bool) {follow : Continuation}
    (hfollow : follow.StaysBlank) (place : Place) {memory : Memory} (hmemory : memory.IsBlank)
    {attempt : Attempt} (hattempt : attempt.IsBlank) :
    (matcher.look negated insideRepetition follow place memory attempt).IsBlank := by
  unfold matcher.look
  split
  · refine hfollow _ _ ?_
    split
    · exact Memory.IsBlank.afterFailure hattempt hmemory insideRepetition
    · exact hattempt
  · exact hattempt

/-- An expression without groups that are noted leaves no notes. -/
theorem staysBlank_matcher {regex : Regex} (hfree : regex.captures = false) (insideRepetition : Bool) :
    StaysBlank (regex.matcher insideRepetition) := by
  induction regex generalizing insideRepetition with
  | empty => exact fun follow hfollow => hfollow
  | char code negated rule => exact staysBlank_one _ _
  | any lineFeeds => exact staysBlank_one _ _
  | set items negated rule => exact staysBlank_one _ _
  | anchor condition => exact fun follow hfollow => hfollow.guardedBy _
  | backref index rule => exact fun follow hfollow => hfollow.guardedBy _
  | seq first second ihFirst ihSecond =>
    simp only [captures, Bool.or_eq_false_iff] at hfree
    exact fun follow hfollow =>
      ihFirst hfree.1 insideRepetition _ (ihSecond hfree.2 insideRepetition _ hfollow)
  | alt first second ihFirst ihSecond =>
    simp only [captures, Bool.or_eq_false_iff] at hfree
    intro follow hfollow place memory hmemory
    have hfirst := ihFirst hfree.1 insideRepetition _ hfollow.veiled
    refine (hfirst.way hmemory insideRepetition).orElse fun later hlater => ?_
    split
    · exact ihSecond hfree.2 insideRepetition _ hfollow place later hlater
    · exact (ihSecond hfree.2 insideRepetition _ hfollow.veiled).way hlater insideRepetition
  | group index body ih =>
    cases index with
    | none =>
      simp only [captures, Option.isSome_none, Bool.false_or] at hfree
      exact ih hfree insideRepetition
    | some index => simp [captures] at hfree
  | repeated least most greed body ih =>
    simp only [captures] at hfree
    intro follow hfollow
    simp only [matcher]
    split
    · exact SingleRepetition.staysBlank_matcher _ greed insideRepetition follow hfollow
    · exact Repetition.staysBlank_matcher (ih hfree _) greed insideRepetition follow hfollow
  | lookAhead negated body ih =>
    simp only [captures] at hfree
    intro follow hfollow place memory hmemory
    exact isBlank_look negated insideRepetition hfollow place hmemory
      (ih hfree insideRepetition _ .success place (memory.reaching place) hmemory)
  | lookBehind negated least most body ih =>
    simp only [captures] at hfree
    intro follow hfollow place memory hmemory
    simp only [matcher]
    split
    · exact isBlank_look negated insideRepetition hfollow place hmemory
        (ih hfree insideRepetition _ .success _ _ (hmemory.reaching _))
    · split
      · exact hfollow _ _ hmemory
      · exact hmemory
  | atomic body ih =>
    simp only [captures] at hfree
    intro follow hfollow place memory hmemory
    have hattempt := ih hfree insideRepetition _ .success place (memory.reaching place) hmemory
    simp only [matcher]
    split
    · exact hfollow _ _ hattempt
    · exact hattempt
  | conditional index present absent ihPresent ihAbsent =>
    simp only [captures, Bool.or_eq_false_iff] at hfree
    intro follow hfollow place memory hmemory
    simp only [matcher]
    split
    · split
      · exact ihPresent hfree.1 insideRepetition _ hfollow place memory hmemory
      · exact ihPresent hfree.1 insideRepetition _ hfollow.veiled place memory hmemory
    · exact ihAbsent hfree.2 insideRepetition _ hfollow place memory hmemory

namespace Pattern

/-- A search with an expression that captures nothing ends without a note of a group. -/
private theorem isBlank_of_searchFrom? {pattern : Pattern} (hfree : pattern.regex.captures = false)
    {before after : List CodePoint} {place : Place} {memory : Memory}
    (hfound : pattern.searchFrom? before after = some (place, memory)) : memory.IsBlank := by
  have hattempt : ∀ start, searchFrom?.attemptAt? pattern start = some (place, memory) →
      memory.IsBlank := by
    intro start hstart
    unfold searchFrom?.attemptAt? at hstart
    split at hstart
    · simp only at hstart
      split at hstart
      · cases hstart
        exact staysBlank_matcher hfree false _ .success place (.start place) rfl
      · cases hstart
    · cases hstart
  induction after generalizing before with
  | nil => exact hattempt _ hfound
  | cons code rest ih =>
    rcases Option.or_eq_some_iff.1 hfound with hhere | ⟨_, hlater⟩
    · exact hattempt _ hhere
    · exact ih hlater

/-- Whether an expression without groups that are noted occurs in a subject can always be told. -/
theorem exists_occursIn {pattern : Pattern} (hfree : pattern.regex.captures = false)
    (subject : List CodePoint) : ∃ occurs, pattern.occursIn subject = .ok occurs := by
  unfold occursIn search?
  split
  · exact ⟨_, rfl⟩
  · rename_i place memory hfound
    have hblank : memory.marks = [] := isBlank_of_searchFrom? hfree hfound
    have hordered : memory.isOrdered = true := by
      rw [Memory.isOrdered, hblank]
      rfl
    rw [if_pos hordered]
    exact ⟨_, rfl⟩

end Pattern

end BareStrings.Regex
