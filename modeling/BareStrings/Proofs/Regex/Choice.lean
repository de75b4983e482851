import BareStrings.Proofs.Regex.Literal
import BareStrings.Regex.Search
import Mathlib.Data.List.Basic

namespace BareStrings.Regex

open BareStrings.Text

/-- The place where an attempt ends, if it succeeds. -/
def Attempt.ending? (attempt : Attempt) : Option Place :=
  if attempt.matched then some attempt.memory.reached else none

/-- What is to be done ends where `ends` says, whatever is remembered, and its opening refuses no place
from which it could succeed. -/
structure Continuation.EndsBy (follow : Continuation) (ends : Place → Option Place) : Prop where
  ending?_run (place : Place) (memory : Memory) : (follow.run place memory).ending? = ends place
  eq_none (place : Place) : follow.opening.admits place = false → ends place = none

/-- From a place on, an expression goes to the places in a list, in that order, until what follows
succeeds. It makes no difference whether a place is in the list once or more often. -/
def Tries (regex : Regex) (ways : Place → List Place) : Prop :=
  ∀ insideRepetition follow ends, follow.EndsBy ends →
    (regex.matcher insideRepetition follow).EndsBy fun place => (ways place).findSome? ends

namespace Attempt

variable {attempt : Attempt}

private theorem ending?_orElse (next : Memory → Attempt) {ending : Option Place}
    (hnext : ∀ memory, (next memory).ending? = ending) :
    (attempt.orElse next).ending? = attempt.ending?.or ending := by
  unfold orElse
  cases hmatched : attempt.matched with
  | true => simp [ending?, hmatched]
  | false => simp [ending?, hmatched, ← hnext attempt.memory]

private theorem ending?_whenFailed (change : Memory → Memory) :
    (attempt.whenFailed change).ending? = attempt.ending? := by
  have hfailed : ∀ memory, (failed (change memory)).ending? = none := fun _ => rfl
  rw [whenFailed, ending?_orElse _ hfailed, Option.or_none]

end Attempt

namespace Continuation.EndsBy

variable {follow : Continuation} {ends : Place → Option Place}

private theorem success : Continuation.success.EndsBy some := ⟨fun _ _ => rfl, nofun⟩

private theorem veiled (hfollow : follow.EndsBy ends) : follow.veiled.EndsBy ends :=
  ⟨hfollow.ending?_run, nofun⟩

private theorem ending?_way (hfollow : follow.EndsBy ends) (insideRepetition : Bool) (place : Place)
    (memory : Memory) : (follow.way insideRepetition place memory).ending? = ends place := by
  unfold way
  split
  · rw [attempt, Attempt.ending?_whenFailed, hfollow.ending?_run]
  · rename_i hopening
    rw [hfollow.eq_none place (by simpa using hopening)]
    rfl

end Continuation.EndsBy

private theorem findSome?_flatMap {α β γ : Type} (items : List α) (parts : α → List β) (f : β → Option γ) :
    (items.flatMap parts).findSome? f = items.findSome? fun item => (parts item).findSome? f := by
  induction items with
  | nil => rfl
  | cons item items ih =>
    rw [List.flatMap_cons, List.findSome?_append, List.findSome?_cons, ih]
    cases (parts item).findSome? f <;> rfl

/-- The empty expression tries the place itself. -/
theorem tries_empty : Tries .empty fun place => [place] := by
  intro insideRepetition follow ends hfollow
  simpa [matcher] using hfollow

private theorem Tries.seq {first second : Regex} {ways later : Place → List Place}
    (hfirst : first.Tries ways) (hsecond : second.Tries later) :
    (Regex.seq first second).Tries fun place => (ways place).flatMap later := by
  intro insideRepetition follow ends hfollow
  simp only [matcher, findSome?_flatMap]
  exact hfirst insideRepetition _ _ (hsecond insideRepetition follow ends hfollow)

/-- A choice tries all ways of the first expression, and then those of the second one. -/
private theorem Tries.alt {first second : Regex} {ways others : Place → List Place}
    (hfirst : first.Tries ways) (hsecond : second.Tries others) :
    (Regex.alt first second).Tries fun place => ways place ++ others place := by
  intro insideRepetition follow ends hfollow
  refine ⟨fun place memory => ?_, nofun⟩
  have hway := (hfirst insideRepetition _ ends hfollow.veiled).ending?_way insideRepetition place memory
  simp only [matcher, List.findSome?_append, ← hway]
  apply Attempt.ending?_orElse
  intro memory
  split
  · exact (hsecond insideRepetition follow ends hfollow).ending?_run place memory
  · exact (hsecond insideRepetition _ ends hfollow.veiled).ending?_way insideRepetition place memory

private theorem Tries.group {body : Regex} {ways : Place → List Place} (hbody : body.Tries ways) :
    (Regex.group none body).Tries ways :=
  hbody

/-- A form that takes one character, behind an opening that refuses no character it takes. -/
theorem endsBy_one {opening : Opening} {condition : CodePoint → Bool}
    (hopening : ∀ place, opening.admits place = false → place.next? condition = none)
    {follow : Continuation} {ends : Place → Option Place} (hfollow : follow.EndsBy ends) :
    (one opening condition follow).EndsBy fun place =>
      (place.next? condition).toList.findSome? ends := by
  refine ⟨fun place memory => ?_, fun place hplace => by rw [hopening place hplace]; rfl⟩
  simp only [one]
  split
  · rename_i next hnext
    simpa [hnext] using hfollow.ending?_run next memory
  · rename_i hnone
    rw [hnone]
    rfl

private theorem Place.next?_eq_none {place : Place} {condition : CodePoint → Bool}
    (hnone : place.after.head?.any condition = false) : place.next? condition = none := by
  unfold next?
  split
  · rfl
  · rename_i code rest hafter
    rw [hafter] at hnone
    rw [if_neg (by simpa using hnone)]

/-- Where case counts, a letter is the same as itself alone. -/
theorem CaseRule.same_exact (letter code : CodePoint) :
    CaseRule.exact.same letter code = (letter == code) := by
  have hsame : CaseRule.exact.same letter code = (code.val == letter.val || false) := rfl
  rw [hsame, Bool.or_false, Bool.eq_iff_iff, beq_iff_eq, beq_iff_eq, Fin.ext_iff, eq_comm]

/-- A literal code point tries the place behind it, if it comes next. -/
private theorem tries_literalCode (letter : CodePoint) :
    (literalCode letter).Tries fun place => (place.next? (letter == ·)).toList := by
  have hsame : (fun code => CaseRule.exact.same letter code != false) =
      (letter == ·) := by
    funext code
    rw [CaseRule.same_exact, Bool.bne_false]
  intro insideRepetition follow ends hfollow
  have hopening : letterOpening letter false .exact = .letter letter := rfl
  simp only [literalCode, matcher, hopening, hsame]
  refine endsBy_one ?_ hfollow
  intro place hplace
  apply Place.next?_eq_none
  rw [Option.any_eq_false]
  intro code hhead
  have hother : code ≠ letter := by
    rintro rfl
    simp [Opening.admits, hhead] at hplace
  simpa using hother.symm

/-- A search that takes each item equal to a given one for the same value finds what that value gives. -/
private theorem findSome?_filterMap_beq {α β γ : Type} [BEq α] [LawfulBEq α] (a : α) (b : β) (items : List α)
    (f : β → Option γ) :
    (items.filterMap fun item => if item == a then some b else none).findSome? f =
      if items.contains a then f b else none := by
  induction items with
  | nil => rfl
  | cons item items ih =>
    by_cases hsame : item = a
    · subst hsame
      simp only [List.filterMap_cons, beq_self_eq_true, if_true, List.findSome?_cons, ih]
      cases hb : f b <;> simp
    · have hother : a ≠ item := Ne.symm hsame
      simpa [hsame, hother] using ih

/-- A set of letters takes the next character if that is one of them, which comes to the same as trying
them one by one. -/
theorem findSome?_next?_contains (letters : List CodePoint) (place : Place)
    (ends : Place → Option Place) :
    (place.next? letters.contains).toList.findSome? ends =
      (letters.filterMap fun letter => place.next? (letter == ·)).findSome? ends := by
  obtain ⟨before, after⟩ := place
  cases after with
  | nil =>
    have hnone : (letters.filterMap fun letter => Place.next? ⟨before, []⟩ (letter == ·)) = [] :=
      List.filterMap_eq_nil_iff.2 fun _ _ => rfl
    rw [hnone]
    rfl
  | cons code rest =>
    simp only [Place.next?, findSome?_filterMap_beq]
    cases letters.contains code <;> simp

/-- A set of single code points holds exactly these. -/
private theorem setHolds_ones (letters : List CodePoint) :
    setHolds (letters.map SetItem.one).eraseDups false .exact = letters.contains := by
  have hfolds : setFolds (letters.map SetItem.one).eraseDups .exact = false := by
    simp [setFolds, SetItem.asksFolding, CaseRule.hasCase]
  funext code
  have hany : (letters.map SetItem.one).eraseDups.any (·.holds code) = letters.contains code := by
    rw [Bool.eq_iff_iff, List.any_eq_true, List.contains_iff_mem]
    simp only [List.mem_eraseDups, List.mem_map]
    constructor
    · rintro ⟨_, ⟨letter, hletter, rfl⟩, hholds⟩
      exact eq_of_beq hholds ▸ hletter
    · exact fun hcode => ⟨_, ⟨code, hcode, rfl⟩, beq_self_eq_true code⟩
  rw [setHolds, hfolds, if_neg (by decide), hany, Bool.bne_false]

/-- The place behind a text, if that comes next. -/
def Place.behindText? (place : Place) (text : List CodePoint) : Option Place :=
  place.behind? (· == ·) text

/-- A text stands at a place if its first code point does and the rest stands behind it. -/
private theorem Place.behindText?_cons (place : Place) (letter : CodePoint) (text : List CodePoint) :
    place.behindText? (letter :: text) =
      (place.next? (letter == ·)).bind (·.behindText? text) := by
  simp only [behindText?, behind?]
  cases place.next? (letter == ·) <;> rfl

private theorem Place.behindText?_append (place : Place) (first second : List CodePoint) :
    place.behindText? (first ++ second) =
      (place.behindText? first).bind (·.behindText? second) := by
  induction first generalizing place with
  | nil => rfl
  | cons letter first ih =>
    rw [List.cons_append, behindText?_cons, behindText?_cons]
    cases place.next? (letter == ·) with
    | none => rfl
    | some next => exact ih next

private theorem Place.behindText?_singleton (place : Place) (letter : CodePoint) :
    place.behindText? [letter] = place.next? (letter == ·) := by
  rw [behindText?_cons]
  cases place.next? (letter == ·) <;> rfl

/-- The place behind a text, by what is left there. -/
theorem Place.behindText?_eq (place : Place) (text : List CodePoint) :
    place.behindText? text =
      if text.isPrefixOf place.after then
        some ⟨text.reverse ++ place.before, place.after.drop text.length⟩
      else none := by
  induction text generalizing place with
  | nil => rfl
  | cons letter text ih =>
    obtain ⟨before, after⟩ := place
    rw [behindText?_cons]
    cases after with
    | nil => rfl
    | cons code rest =>
      by_cases hsame : letter = code
      · simp [next?, hsame, ih]
      · simp [next?, hsame]

/-- A set tries its letters as texts of their own. A letter that comes twice among them is in the set once,
but it leads to the same place both times. -/
theorem tries_set (letters : List CodePoint) :
    (Regex.set (letters.map SetItem.one).eraseDups false .exact).Tries fun place =>
      (letters.map ([·])).filterMap place.behindText? := by
  intro insideRepetition follow ends hfollow
  have hopening : ∀ place,
      (setOpening (letters.map SetItem.one).eraseDups false .exact).admits place = false →
        place.next? letters.contains = none := by
    intro place hplace
    apply Place.next?_eq_none
    rw [← setHolds_ones]
    unfold setOpening at hplace
    split at hplace
    · cases hplace
    · exact hplace
  have hways : ∀ place : Place, (letters.map ([·])).filterMap place.behindText? =
      letters.filterMap fun letter => place.next? (letter == ·) := by
    intro place
    simp only [List.filterMap_map, Function.comp_def, Place.behindText?_singleton]
  simp only [matcher, setHolds_ones, hways, ← findSome?_next?_contains]
  exact endsBy_one hopening hfollow

private theorem Tries.sequence_cons {item : Regex} {items : List Regex} {ways later : Place → List Place}
    (hitem : item.Tries ways) (hitems : (sequence items).Tries later) :
    (sequence (item :: items)).Tries fun place => (ways place).flatMap later := by
  cases items with
  | nil =>
    -- The last item stands alone, with no empty sequence behind it.
    intro insideRepetition follow ends hfollow
    simp only [findSome?_flatMap]
    exact hitem insideRepetition _ _ (hitems insideRepetition follow ends hfollow)
  | cons => exact hitem.seq hitems

/-- A text before some items is taken as it is written, once. -/
theorem Tries.sequence_literals (text : List CodePoint) (items : List Regex) {ways : Place → List Place}
    (hitems : (sequence items).Tries ways) :
    (sequence (literalItems text ++ items)).Tries fun place =>
      (place.behindText? text).toList.flatMap ways := by
  induction text with
  | nil => simpa [literalItems, Place.behindText?, Place.behind?] using hitems
  | cons letter text ih =>
    have hcons := (tries_literalCode letter).sequence_cons ih
    have hways : ∀ place : Place, (place.behindText? (letter :: text)).toList.flatMap ways =
        (place.next? (letter == ·)).toList.flatMap fun next =>
          (next.behindText? text).toList.flatMap ways := by
      intro place
      rw [Place.behindText?_cons]
      cases place.next? (letter == ·) <;> simp
    simp only [hways]
    exact hcons

private theorem tries_text (text : List CodePoint) :
    (sequence (literalItems text)).Tries fun place => (place.behindText? text).toList := by
  simpa using Tries.sequence_literals text [] tries_empty

/-- A choice between texts tries them in order. -/
theorem tries_firstOf {texts : List (List CodePoint)} (hne : texts ≠ []) :
    (firstOf (texts.map fun text => sequence (literalItems text))).Tries fun place =>
      texts.filterMap place.behindText? := by
  induction texts with
  | nil => exact absurd rfl hne
  | cons text texts ih =>
    have htext := tries_text text
    simp only [List.filterMap_eq_flatMap_toList, List.flatMap_cons] at ih ⊢
    cases texts with
    | nil =>
      simp only [List.map_cons, List.map_nil, firstOf, List.flatMap_nil, List.append_nil]
      split
      · exact htext.group
      · exact htext
    | cons next texts => exact htext.alt (ih (by simp))

private theorem beginsWith_literalCode {letter : CodePoint} {text : List CodePoint}
    (hbegins : beginsWith (literalCode letter) (literalItems text) = true) :
    text = letter :: text.tail := by
  cases text with
  | nil => cases hbegins
  | cons other text =>
    have hsame : letter = other := by
      simpa [beginsWith, literalItems, literalCode, sameItem] using hbegins
    rw [hsame, List.tail_cons]

/-- What texts begin with alike is a text, and so is what is left of each. -/
theorem commonItems_literals (text : List CodePoint) (others : List (List CodePoint)) :
    ∃ common, ∃ rests : List (List CodePoint), commonItems (literalItems text) (others.map literalItems) =
        (literalItems common, rests.map literalItems) ∧
      text :: others = rests.map (common ++ ·) := by
  induction text generalizing others with
  | nil => exact ⟨[], [] :: others, rfl, by simp⟩
  | cons letter text ih =>
    rw [show literalItems (letter :: text) = literalCode letter :: literalItems text from rfl, commonItems]
    split
    · rename_i hall
      have hothers : ∀ other ∈ others, other = letter :: other.tail := by
        intro other hother
        exact beginsWith_literalCode (List.all_eq_true.1 hall _ (List.mem_map_of_mem hother))
      obtain ⟨common, rests, hcommon, hrests⟩ := ih (others.map List.tail)
      have htails : (others.map literalItems).map List.tail =
          (others.map List.tail).map literalItems := by
        simp [literalItems, Function.comp_def]
      refine ⟨letter :: common, rests, by rw [htails, hcommon]; rfl, ?_⟩
      have hconsed : (others.map List.tail).map (letter :: ·) = others := by
        rw [List.map_map]
        exact (List.map_congr_left fun other hother => (hothers other hother).symm).trans
          (List.map_id others)
      calc (letter :: text) :: others
        _ = (text :: others.map List.tail).map (letter :: ·) := by rw [List.map_cons, hconsed]
        _ = rests.map (letter :: common ++ ·) := by simp [hrests]
    · exact ⟨[], (letter :: text) :: others, rfl, by simp⟩

/-- Texts whose branches are all members of a set have one letter each. -/
theorem setMembers?_literals {rests : List (List CodePoint)} {members : List (List SetItem)}
    (hmembers : (rests.map literalItems).mapM setMembers? = some members) :
    ∃ letters : List CodePoint, rests = letters.map ([·]) ∧
      members.flatten = letters.map SetItem.one := by
  induction rests generalizing members with
  | nil =>
    cases hmembers
    exact ⟨[], rfl, rfl⟩
  | cons text rests ih =>
    rw [List.map_cons, List.mapM_cons, Option.bind_eq_bind, Option.bind_eq_some_iff] at hmembers
    obtain ⟨first, hfirst, hmembers⟩ := hmembers
    rw [Option.bind_eq_bind, Option.bind_eq_some_iff] at hmembers
    obtain ⟨later, hlater, hmembers⟩ := hmembers
    obtain rfl := Option.some.inj hmembers
    obtain ⟨letters, rfl, hflat⟩ := ih hlater
    match text with
    | [] => cases hfirst
    | [letter] =>
      cases hfirst
      exact ⟨letter :: letters, rfl, by simp [hflat]⟩
    | _ :: _ :: _ => cases hfirst

/-- The branches of texts, joined in front and as sets, try the texts in order. -/
theorem tries_joinBranches {texts : List (List CodePoint)} (hne : texts ≠ []) :
    (sequence (joinBranches .exact (texts.map literalItems))).Tries fun place =>
      texts.filterMap place.behindText? := by
  match texts with
  | [] => exact absurd rfl hne
  | [text] =>
    have htext := tries_text text
    simpa [joinBranches, List.filterMap_eq_flatMap_toList] using htext
  | text :: next :: others =>
    obtain ⟨common, rests, hcommon, hrests⟩ := commonItems_literals text (next :: others)
    have hways : ∀ place : Place, (text :: next :: others).filterMap place.behindText? =
        (place.behindText? common).toList.flatMap fun behind =>
          rests.filterMap behind.behindText? := by
      intro place
      rw [hrests, List.filterMap_map]
      cases hbehind : place.behindText? common <;>
        simp [Place.behindText?_append, hbehind]
    have hleft : rests ≠ [] := by
      rintro rfl
      cases hrests
    rw [List.map_cons] at hcommon
    simp only [List.map_cons, joinBranches, hcommon, hways]
    split
    · rename_i members hmembers
      obtain ⟨letters, rfl, hflat⟩ := setMembers?_literals hmembers
      have hset := tries_set letters
      rw [← hflat] at hset
      exact Tries.sequence_literals common [_] hset
    · have hchoice := tries_firstOf hleft
      rw [List.map_map]
      exact Tries.sequence_literals common [_] hchoice

/-- An expression matches at the first way that it tries. -/
theorem Tries.matchAt?_eq {regex : Regex} {ways : Place → List Place} (hregex : regex.Tries ways)
    (place : Place) : regex.matchAt? place = (ways place).findSome? some :=
  (hregex false _ _ .success).ending?_run place _

/-- A match that may not end where it begins is the first way that leads away from there. -/
theorem Tries.nonemptyMatchAt?_eq {regex : Regex} {ways : Place → List Place}
    (hregex : regex.Tries ways) (place : Place) :
    regex.nonemptyMatchAt? place = (ways place).find? (·.offset != place.offset) := by
  let moved : Continuation := ⟨.free, fun ending memory =>
    if ending.offset = place.offset then .failed memory else Continuation.success.run ending memory⟩
  have hmoved : moved.EndsBy (Option.guard (·.offset != place.offset)) := by
    refine ⟨fun ending memory => ?_, nofun⟩
    by_cases hsame : ending.offset = place.offset
    · simp [moved, Option.guard, hsame, Attempt.ending?, Attempt.failed]
    · simp [moved, Option.guard, hsame, Attempt.ending?, Continuation.success, Memory.reaching]
  rw [List.find?_eq_findSome?_guard]
  exact (hregex false moved _ hmoved).ending?_run place _

/-- Where the first way is empty a later one still counts, so the first way that leads away decides
alone. -/
theorem Tries.bind_nonemptyMatchAt?_eq {regex : Regex} {ways : Place → List Place}
    (hregex : regex.Tries ways) (place : Place) :
    ((regex.matchAt? place).bind fun _ => regex.nonemptyMatchAt? place) =
      (ways place).find? (·.offset != place.offset) := by
  rw [hregex.matchAt?_eq, hregex.nonemptyMatchAt?_eq]
  cases ways place <;> rfl

end BareStrings.Regex
