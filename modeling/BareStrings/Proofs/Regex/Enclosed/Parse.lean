import BareStrings.Proofs.Regex.Enclosed.Step

namespace BareStrings.Regex

open BareStrings.Text
open ParseState (Within Grown IsOpen IsFresh)
open Source (Encloses IsLost)

private theorem clampWidth_lt (width : Nat × Nat) : (clampWidth width).1 < countLimit :=
  Nat.lt_of_le_of_lt (Nat.min_le_right width.1 (countLimit - 1)) (by decide)

/-- No least width reaches the limit, unless that of some group does. -/
theorem width_lt {groups : Nat → Nat × Nat} (hgroups : ∀ index, (groups index).1 < countLimit)
    (regex : Regex) : (regex.width groups).1 < countLimit := by
  induction regex with
  | empty | anchor | lookAhead | lookBehind | char | any | set => simp only [width]; decide
  | seq | repeated => exact clampWidth_lt _
  | alt first second hfirst hsecond => exact Nat.lt_of_le_of_lt (Nat.min_le_left _ _) hfirst
  | group index body ih => exact ih
  | atomic body ih => exact ih
  | backref index rule => exact hgroups index
  | conditional index present absent hpresent habsent =>
    exact Nat.lt_of_le_of_lt (Nat.min_le_left _ _) hpresent

/-- The least width of a group that is narrow stays below the limit. -/
private theorem Groups.Narrow.width_lt {groups : Groups} (hnarrow : groups.Narrow) (index : Nat) :
    (groups.width index).1 < countLimit := by
  cases index with
  | zero => exact Nat.succ_pos 4294967294
  | succ index =>
    rw [Groups.width]
    cases hknown : groups.widths[index]? with
    | none => decide
    | some known =>
      cases known with
      | none => decide
      | some width => exact hnarrow _ (List.mem_of_getElem? hknown) width rfl

private theorem narrow_set {groups : Groups} (hnarrow : groups.Narrow) (index : Nat) {width : Nat × Nat}
    (hwidth : width.1 < countLimit) :
    Groups.Narrow { groups with widths := groups.widths.set index (some width) } := by
  intro known hknown other hother
  rcases List.mem_or_eq_of_mem_set hknown with hold | rfl
  · exact hnarrow known hold other hother
  · obtain rfl := Option.mem_some_iff.1 hother
    exact hwidth

namespace ParseState

variable {base : Flags} {inner outer : ParseState}

/-- What stands around an open group, once that is left. -/
def leave (state : ParseState) (opened : OpenGroup) (outer : List OpenGroup) : ParseState :=
  { state with
    flags := opened.flags, branches := opened.branches, pieces := opened.pieces, openGroups := outer }

/-- The states stay together when both readings leave a group. -/
private theorem Within.leave (hwithin : Within base inner outer) {opened same : OpenGroup}
    {groups others : List OpenGroup} (hopen : inner.openGroups = opened :: groups)
    (halike : opened.Alike same) (hnested : Nested base groups others) :
    Within base (inner.leave opened groups) (outer.leave same others) where
  flags_eq := halike.flags.symm
  branches_eq := halike.branches.symm
  pieces_eq := halike.pieces.symm
  groups_eq := hwithin.groups_eq
  asked_eq := hwithin.asked_eq
  nested := hnested
  bottom := by
    rw [← hwithin.bottom, hopen]
    exact List.getLast?_cons_cons.symm
  narrow := hwithin.narrow

private theorem Within.items_eq (hwithin : Within base inner outer) : outer.items = inner.items := by
  rw [items, items, branchItems, branchItems, hwithin.flags_eq, hwithin.branches_eq, hwithin.pieces_eq]

private theorem Within.body_eq (hwithin : Within base inner outer) : outer.body = inner.body := by
  rw [body, body, hwithin.items_eq]

/-- What closing a group adds depends on the kind of the group alone. -/
private theorem close_eq (state : ParseState) (opened : OpenGroup) (outer : List OpenGroup) :
    Scan.close state opened outer =
      let body := state.body
      let width := body.width state.groups.width
      let around := state.leave opened outer
      match opened.kind with
      | .bracket => around.pushPiece (.bracket state.items)
      | .flagged => around.push (.group none body)
      | .capture index =>
        let widths := state.groups.widths.set (index - 1) (some width)
        ParseState.push { around with groups := { state.groups with widths } } (.group (some index) body)
      | .lookAhead negated => around.push (.lookAhead negated body)
      | .lookBehind negated outerStart =>
        ParseState.push { around with groups := { state.groups with lookBehindStart := outerStart } }
          (.lookBehind negated width.1 width.2 body)
      | .atomic => around.push (.atomic body)
      | .conditional index =>
        match state.branches with
        | present :: _ =>
          around.push (.conditional index (sequence present) (sequence state.branchItems))
        | [] => around.push (.conditional index (sequence state.branchItems) .empty) := rfl

/-- A group that both readings close keeps their states together. -/
private theorem Within.grown_close (hwithin : Within base inner outer) {opened same : OpenGroup}
    {groups others : List OpenGroup} (hopen : inner.openGroups = opened :: groups)
    (halike : opened.Alike same) (hnested : Nested base groups others) :
    Grown base (Scan.close inner opened groups) (Scan.close outer same others) := by
  have hleft := hwithin.leave hopen halike hnested
  have hwidth : (inner.body.width inner.groups.width).1 < countLimit :=
    width_lt hwithin.narrow.width_lt inner.body
  have hbranch : outer.branchItems = inner.branchItems := by
    rw [branchItems, branchItems, hwithin.pieces_eq]
  simp only [close_eq, ← halike.kind, hwithin.body_eq, hwithin.groups_eq, hwithin.items_eq, hbranch,
    hwithin.branches_eq]
  cases opened.kind with
  | bracket => exact hleft.grown_pushPiece _
  | flagged => exact hleft.grown_push _
  | capture index => exact (hleft.withGroups (narrow_set hwithin.narrow _ hwidth)).grown_push _
  | lookAhead negated => exact hleft.grown_push _
  | lookBehind negated outerStart =>
    refine Within.grown_push (hleft.withGroups ?_) _
    exact hwithin.narrow
  | atomic => exact hleft.grown_push _
  | conditional index =>
    cases inner.branches with
    | nil => exact hleft.grown_push _
    | cons present rest => exact hleft.grown_push _

private theorem Within.grown_branch (hwithin : Within base inner outer) :
    Grown base (Scan.branch inner) (Scan.branch outer) := by
  obtain ⟨hflags, hbranches, hpieces, hgroups, hasked, hnested, hbottom, hnarrow⟩ := hwithin
  have hended : (Scan.branch outer).branches = (Scan.branch inner).branches := by
    simp only [Scan.branch, branchItems, hpieces, hbranches]
  exact ⟨⟨hflags, hended, rfl, hgroups, hasked, hnested, hbottom, hnarrow⟩,
    fun hfresh => absurd hfresh.2.1 (List.cons_ne_nil _ _)⟩

/-- The bracket is no conditional. -/
theorem Within.isFull_eq (hwithin : Within base inner outer) : outer.isFull = inner.isFull := by
  obtain ⟨flags, branches, pieces, openGroups, groups, asked⟩ := inner
  obtain ⟨flags', branches', pieces', openGroups', groups', asked'⟩ := outer
  obtain rfl : branches' = branches := hwithin.branches_eq
  have hnested : Nested base openGroups openGroups' := hwithin.nested
  cases hnested with
  | outermost => rfl
  | @inside opened same _ _ halike =>
    obtain ⟨kind, _, _, _, _⟩ := opened
    obtain ⟨kind', _, _, _, _⟩ := same
    obtain rfl : kind = kind' := halike.kind
    cases kind <;> cases branches' <;> rfl

end ParseState

namespace Scan

variable {base : Flags} {inner outer state : ParseState} {dangling : Bool} {limit : Nat}

/-- Reads up to the end of the source, or finds that there is more. -/
def reads (state : ParseState) (fuel : Nat) : Scan Pattern := steps state fuel >>= finish

/-- How an expression goes on at a token. -/
def readsAt (state : ParseState) (fuel : Nat) : Option Token → Scan Pattern
  | none => finish state
  | some token =>
    if token.isPlain '|' then
      if state.isFull then fail .tooManyBranches 0 else next >>= fun _ => reads (branch state) fuel
    else if token.isPlain ')' then
      match state.openGroups with
      | [] => finish state
      | opened :: outer => next >>= fun _ => reads (close state opened outer) fuel
    else next >>= fun _ => step state token >>= fun state => reads state fuel

/-- An expression is read token by token. -/
private theorem reads_succ (state : ParseState) (fuel : Nat) :
    reads state (fuel + 1) = peek >>= readsAt state fuel := by
  rw [reads, steps, bind_assoc]
  congr 1
  funext token
  cases token with
  | none => exact pure_bind state finish
  | some token =>
    simp only [readsAt]
    by_cases hbar : token.isPlain '|' = true
    · rw [if_pos hbar, if_pos hbar, ite_bind, bind_assoc]
      rfl
    rw [if_neg hbar, if_neg hbar]
    by_cases hclosing : token.isPlain ')' = true
    · rw [if_pos hclosing, if_pos hclosing]
      cases state.openGroups with
      | nil => exact pure_bind state finish
      | cons opened outer => exact bind_assoc _ _ _
    · rw [if_neg hclosing, if_neg hclosing]
      simp only [bind_assoc]
      rfl

/-- At the end of a text, no group may be open. -/
theorem refuses_finish (hopen : state.IsOpen) : Refuses (finish state) := by
  unfold finish
  cases hgroups : state.openGroups with
  | nil => exact absurd hgroups hopen
  | cons opened outer => exact refuses_failAt _ _

/-- A lost reading ends with a refusal. -/
theorem staysLost_reads (hopen : state.IsOpen) (fuel : Nat) :
    StaysLost dangling (fun _ => False) (reads state fuel) := by
  induction fuel generalizing state with
  | zero =>
    refine StaysLost.of_refuses ?_
    rw [reads, steps, pure_bind]
    exact refuses_finish hopen
  | succ fuel ih =>
    rw [reads_succ]
    refine StaysLost.peek.bind fun token htoken => ?_
    cases token with
    | none => exact StaysLost.of_refuses (refuses_finish hopen)
    | some token =>
      refine StaysLost.ite (StaysLost.ite (StaysLost.fail _ _) ?_) ?_
      · exact StaysLost.next.bind fun _ _ => ih hopen
      rw [if_neg (Bool.eq_false_iff.1 (htoken.1 token rfl))]
      refine StaysLost.next.bind fun _ _ => ?_
      exact (staysLost_step hopen token).bind fun state hstate => ih hstate

/-- How a closed state is finished where the source has ended. -/
def finished (state : ParseState) : Scan Pattern :=
  match state.asked.find? fun (index, _) => state.groups.count ≤ index with
  | some (index, offset) => failAt offset (.invalidGroup index)
  | none => do
    checkUse state.flags state.body
    return ⟨state.body, (state.body.width state.groups.width).1, state.flags.ascii⟩

private theorem finish_eq (hclosed : state.openGroups = []) (hascii : state.flags.ascii = false) :
    finish state = peek >>= fun token =>
      if token.isSome then fail .unbalancedParenthesis 0 else finished state := by
  have hkinds : (state.flags.ascii && state.flags.unicode) = false := by rw [hascii, Bool.false_and]
  simp only [finish, hclosed, hkinds, Bool.false_eq_true, if_false]
  rfl

/-- The expression of a text that has been read, behind a condition for the very start. -/
theorem items_close_enclosing (state : ParseState) (base : Flags) :
    (close state (enclosing base) []).items = .anchor .textStart :: state.items := by
  simp [close, enclosing, ParseState.items, ParseState.pushPiece, ParseState.branchItems, joinBranches,
    Piece.items]

private theorem sequence_cons_cons (first second : Regex) (items : List Regex) :
    sequence (first :: second :: items) = .seq first (sequence (second :: items)) := rfl

private theorem defect?_anchored (condition : Anchor) (items : List Regex) (unrepeated : Bool) :
    (sequence (.anchor condition :: items)).defect? unrepeated =
      (sequence items).defect? unrepeated := by
  cases items with
  | nil => rfl
  | cons item items =>
    rw [sequence_cons_cons, defect?, defect?, Option.none_or]

private theorem looksTooFarBehind_anchored (condition : Anchor) (items : List Regex) :
    (sequence (.anchor condition :: items)).looksTooFarBehind = (sequence items).looksTooFarBehind := by
  cases items with
  | nil => rfl
  | cons item items =>
    rw [sequence_cons_cons, looksTooFarBehind, looksTooFarBehind, Bool.false_or]

/-- A condition in front of everything else changes no width that is below the limit. -/
theorem width_anchored (condition : Anchor) {items : List Regex} {groups : Nat → Nat × Nat}
    (hwidth : ((sequence items).width groups).1 < countLimit) :
    ((sequence (.anchor condition :: items)).width groups).1 = ((sequence items).width groups).1 := by
  cases items with
  | nil => rfl
  | cons item items =>
    rw [sequence_cons_cons, width, width]
    simp only [clampWidth, Nat.zero_add]
    exact Nat.min_eq_left (Nat.le_sub_one_of_lt hwidth)

private theorem isSome_find?_eq {first second : List (Nat × Nat)}
    (hkeys : second.map Prod.fst = first.map Prod.fst) (condition : Nat → Bool) :
    (second.find? fun pair => condition pair.1).isSome =
      (first.find? fun pair => condition pair.1).isSome := by
  have hany (pairs : List (Nat × Nat)) : (pairs.find? fun pair => condition pair.1).isSome =
      (pairs.map Prod.fst).any condition := by
    rw [Bool.eq_iff_iff, List.find?_isSome, List.any_map, List.any_eq_true]
    rfl
  rw [hany, hany, hkeys]

/-- What comes of reading an expression alone, and behind the condition for the very start, inside of the
bracket. The expressions differ by that condition alone, and faults are faults for both, but for two
cases: a parenthesis that closes nothing in the text may close the bracket, and options for the whole
expression may stand in front of everything else, but not in the bracket. -/
inductive Outcome (dangling : Bool) (sets : Prop) :
    Except SyntaxError (Pattern × Source) → Except SyntaxError (Pattern × Source) → Prop
  | ok {items : List Regex} {least : Nat} {asciiOnly : Bool} {rest rest' : Source} :
    Outcome dangling sets (.ok (⟨sequence items, least, asciiOnly⟩, rest))
      (.ok (⟨sequence (.anchor .textStart :: items), least, asciiOnly⟩, rest'))
  | same {error : SyntaxError} (hother : ¬error.IsFault) :
    Outcome dangling sets (.error error) (.error error)
  | refused {error other : SyntaxError} (hfault : error.IsFault)
    (hother : other.IsFault ∨ dangling = true ∧ other.IsCount) :
    Outcome dangling sets (.error error) (.error other)
  | unbalanced {offset : Option Nat} {text : List CodePoint} {result : Except SyntaxError (Pattern × Source)} :
    Outcome dangling sets (.error (.fault .unbalancedParenthesis offset text)) result
  | misplaced {result other : Except SyntaxError (Pattern × Source)} (hsets : sets)
    (hrefuses : RefusesOptions other) : Outcome dangling sets result other

private theorem Outcome.imp {sets other : Prop} {first second : Except SyntaxError (Pattern × Source)}
    (houtcome : Outcome dangling sets first second) (himp : sets → other) :
    Outcome dangling other first second := by
  cases houtcome with
  | ok => exact .ok
  | same hother => exact .same hother
  | refused hfault hother => exact .refused hfault hother
  | unbalanced => exact .unbalanced
  | misplaced hsets hrefuses => exact .misplaced (himp hsets) hrefuses

private theorem Outcome.of_lost {sets : Prop} {error : SyntaxError}
    {result : Except SyntaxError (Pattern × Source)} (hfault : error.IsFault)
    (hgoes : GoesOnLost dangling (fun _ => False) result) :
    Outcome dangling sets (.error error) result := by
  cases result with
  | error other => exact .refused hfault hgoes
  | ok result => exact hgoes.1.elim

/-- Whether what has been read can be used is the same for both readings. -/
private theorem outcome_checkUse (flags : Flags) {items : List Regex} {least least' : Nat} (asciiOnly : Bool)
    (hleast : least' = least) (source source' : Source) (sets : Prop) :
    Outcome dangling sets
      ((checkUse flags (sequence items) >>= fun _ =>
        Pure.pure (⟨sequence items, least, asciiOnly⟩ : Pattern)) source)
      ((checkUse flags (sequence (.anchor .textStart :: items)) >>= fun _ =>
        Pure.pure (⟨sequence (.anchor .textStart :: items), least', asciiOnly⟩ : Pattern)) source') := by
  subst hleast
  have hdefect := defect?_anchored .textStart items flags.unrepeated
  have hlooks := looksTooFarBehind_anchored .textStart items
  cases hfound : (sequence items).defect? flags.unrepeated with
  | some fault =>
    have hinner : checkUse flags (sequence items) source = .error (.fault fault none source.text) := by
      simp only [checkUse, hfound]
    have houter : checkUse flags (sequence (.anchor .textStart :: items)) source' =
        .error (.fault fault none source'.text) := by
      simp only [checkUse, hdefect, hfound]
    rw [bind_of_error hinner, bind_of_error houter]
    exact .refused trivial (.inl trivial)
  | none =>
    by_cases hfar : (sequence items).looksTooFarBehind = true
    · have hinner : checkUse flags (sequence items) source = .error .lookBehindTooLong := by
        simp only [checkUse, hfound, hfar, if_true]
      have houter : checkUse flags (sequence (.anchor .textStart :: items)) source' =
          .error .lookBehindTooLong := by
        simp only [checkUse, hdefect, hfound, hlooks, hfar, if_true]
      rw [bind_of_error hinner, bind_of_error houter]
      exact .same not_false
    · have hinner : checkUse flags (sequence items) source = .ok ((), source) := by
        simp only [checkUse, hfound, hfar]
        rfl
      have houter : checkUse flags (sequence (.anchor .textStart :: items)) source' =
          .ok ((), source') := by
        simp only [checkUse, hdefect, hfound, hlooks, hfar]
        rfl
      rw [bind_of_ok hinner, bind_of_ok houter]
      exact .ok

/-- At the bottom, the bracket is closed, and both expressions are finished. -/
theorem outcome_finished (hwithin : Within base inner outer) (hbottom : inner.openGroups = [])
    (source source' : Source) (sets : Prop) :
    Outcome dangling sets (finished inner source)
      (finished (close outer (enclosing base) []) source') := by
  have hflags : (close outer (enclosing base) []).flags = inner.flags :=
    (hwithin.flags_eq_base hbottom).symm
  have hgroups : (close outer (enclosing base) []).groups = inner.groups := hwithin.groups_eq
  have hbody : (close outer (enclosing base) []).body =
      sequence (.anchor .textStart :: inner.items) := by
    rw [ParseState.body, items_close_enclosing, hwithin.items_eq]
  have hkeys : (close outer (enclosing base) []).asked.map Prod.fst = inner.asked.map Prod.fst :=
    hwithin.asked_eq
  have hsome := isSome_find?_eq hkeys fun index => inner.groups.count ≤ index
  have hleast := width_anchored .textStart (width_lt hwithin.narrow.width_lt inner.body)
  unfold finished
  rw [hflags, hgroups, hbody]
  cases hinner : inner.asked.find? fun (index, _) => inner.groups.count ≤ index with
  | some asked =>
    rw [hinner] at hsome
    obtain ⟨other, hother⟩ := Option.isSome_iff_exists.1 hsome
    rw [hother]
    exact .refused trivial (.inl trivial)
  | none =>
    rw [hinner] at hsome
    have houter := Option.isSome_eq_false_iff.1 hsome
    rw [Option.isNone_iff_eq_none.1 houter]
    exact outcome_checkUse inner.flags inner.flags.ascii hleast source source' sets

private theorem reads_nil (state : ParseState) (fuel : Nat) {source : Source} (hended : source.tokens = []) :
    reads state fuel source = finish state source := by
  cases fuel with
  | zero => rfl
  | succ fuel =>
    rw [reads_succ, peek_bind_apply, hended]
    rfl

private theorem finish_nil (hclosed : state.openGroups = []) (hascii : state.flags.ascii = false)
    {source : Source} (hended : source.tokens = []) : finish state source = finished state source := by
  rw [finish_eq hclosed hascii, peek_bind_apply, hended]
  rfl

private theorem openGroups_close (state : ParseState) (opened : OpenGroup) (outer : List OpenGroup) :
    (close state opened outer).openGroups = outer := by
  rw [ParseState.close_eq]
  cases opened.kind with
  | conditional => cases state.branches <;> rfl
  | _ => rfl

/-- An expression goes on at the parenthesis behind the text, where the text has ended. -/
theorem outcome_ended (hwithin : Within base inner outer) (hascii : base.ascii = false)
    {source : Source} (hended : source.tokens = []) {text : List CodePoint} {token : Token}
    (hclosing : token.isPlain ')' = true) (fuel : Nat) (sets : Prop) :
    Outcome dangling sets (finish inner source) (reads outer (fuel + 1) ⟨text, [token], false⟩) := by
  have hbar : token.isPlain '|' = false := isPlain_of_isPlain hclosing (by decide)
  rw [reads_succ, peek_bind_apply]
  simp only [List.head?_cons, readsAt, hbar, hclosing, if_true]
  have hnested := hwithin.nested
  generalize hinner : inner.openGroups = groups at hnested
  generalize houter : outer.openGroups = others at hnested
  cases hnested with
  | outermost =>
    have hflags : inner.flags.ascii = false := by rw [hwithin.flags_eq_base hinner, hascii]
    have hclosed : finish (close outer (enclosing base) []) ⟨text, [], false⟩ =
        finished (close outer (enclosing base) []) ⟨text, [], false⟩ := finish_nil rfl hascii rfl
    simp only [Bool.false_eq_true, if_false]
    rw [bind_of_ok (Regex.next_cons text token []), reads_nil _ _ rfl, hclosed,
      finish_nil hinner hflags hended]
    exact outcome_finished hwithin hinner _ _ sets
  | @inside opened same groups others halike hlater =>
    have hopen : inner.IsOpen := fun hempty => absurd (hinner.symm.trans hempty) (List.cons_ne_nil _ _)
    have hopen' : (close outer same others).IsOpen := by
      change (close outer same others).openGroups ≠ []
      rw [openGroups_close]
      exact hlater.ne_nil
    obtain ⟨error, herror, hfault⟩ := refuses_finish hopen source
    obtain ⟨error', herror', hfault'⟩ := refuses_finish hopen' ⟨text, [], false⟩
    simp only [Bool.false_eq_true, if_false]
    rw [bind_of_ok (Regex.next_cons text token []), reads_nil _ _ rfl, herror, herror']
    exact .refused hfault (.inl hfault')

/-- Readings that agree on what comes first come to outcomes that belong together. -/
private theorem Outcome.bind {α : Type} {related : α → α → Prop} {holds : α → Prop} {first second : Scan α}
    {source source' : Source} {sets : Prop}
    (hagree : Agree dangling related holds limit (first source) (second source'))
    {next other : α → Scan Pattern}
    (hnext : ∀ a b rest rest', first source = .ok (a, rest) → related a b →
      Encloses dangling limit rest rest' → Outcome dangling sets (next a rest) (other b rest'))
    (hlost : ∀ b, holds b → StaysLost dangling (fun _ => False) (other b)) :
    Outcome dangling sets ((first >>= next) source) ((second >>= other) source') := by
  revert hagree
  generalize hfirst : first source = firstResult
  generalize hsecond : second source' = secondResult
  intro hagree
  cases hagree with
  | ok hvalues hrest =>
    rw [bind_of_ok hfirst, bind_of_ok hsecond]
    exact hnext _ _ _ _ hfirst hvalues hrest
  | same hother =>
    rw [bind_of_error hfirst, bind_of_error hsecond]
    exact .same hother
  | lost hfault hgoes =>
    rw [bind_of_error hfirst]
    refine .of_lost hfault ?_
    cases secondResult with
    | error error =>
      rw [bind_of_error hsecond]
      exact hgoes
    | ok result =>
      rw [bind_of_ok hsecond]
      exact hlost _ hgoes.1 _ hgoes.2

/-- How an expression goes on behind a token, if it comes out right from there on. -/
theorem outcome_of_compares {first second : Scan ParseState} {source source' : Source}
    {tokens : List Token}
    (hcompares : Compares base dangling limit inner outer tokens (first source) (second source'))
    (hwithin : Within base inner outer) {fuel fuel' : Nat}
    (hlater : ∀ a b rest rest', Within base a b → Encloses dangling limit rest rest' →
      Outcome dangling (a.IsFresh ∧ SetsOptions rest.tokens) (reads a fuel rest)
        (reads b fuel' rest')) :
    Outcome dangling (inner.IsFresh ∧ SetsOptions tokens)
      ((first >>= fun state => reads state fuel) source)
      ((second >>= fun state => reads state fuel') source') := by
  revert hcompares
  generalize hfirst : first source = firstResult
  generalize hsecond : second source' = secondResult
  intro hcompares
  cases hcompares with
  | agree hagree =>
    rw [← hfirst, ← hsecond] at hagree
    refine Outcome.bind hagree ?_ fun state hstate => staysLost_reads hstate fuel'
    rintro a b rest rest' _ ⟨hab, hgrown⟩ hrest
    exact (hlater a b rest rest' hab hrest).imp fun hsets => absurd hsets.1 hgrown
  | comment hagree hsets =>
    rw [← hfirst, ← hsecond] at hagree
    refine Outcome.bind hagree ?_ fun state hstate => staysLost_reads hstate fuel'
    rintro _ _ rest rest' hresult ⟨rfl, rfl⟩ hrest
    refine (hlater _ _ rest rest' hwithin hrest).imp fun hfresh => ⟨hfresh.1, ?_⟩
    exact hsets _ rest (hfirst.symm.trans hresult) hfresh.2
  | misplaced hfresh hsets hrefuses =>
    obtain ⟨offset, text, rfl⟩ := hrefuses
    rw [bind_of_error hsecond]
    exact .misplaced ⟨hfresh, hsets⟩ ⟨offset, text, rfl⟩
  | @dropped rest _ hopen hrest hgoes =>
    obtain ⟨error, herror, hfault⟩ := refuses_finish hopen rest
    rw [bind_of_ok hfirst, reads_nil _ _ hrest, herror]
    refine .of_lost hfault ?_
    cases secondResult with
    | error error =>
      rw [bind_of_error hsecond]
      exact hgoes
    | ok result =>
      rw [bind_of_ok hsecond]
      exact staysLost_reads hgoes.1 fuel' _ hgoes.2

/-- At the end of the text the outer reading closes the bracket, and both come to their outcome. -/
private theorem outcome_nil (hwithin : Within base inner outer) (hascii : base.ascii = false)
    {source source' : Source} (hsources : Encloses dangling limit source source')
    (hended : source.tokens = []) (fuel fuel' : Nat) (sets : Prop) :
    Outcome dangling sets (reads inner fuel source) (reads outer (fuel' + 1) source') := by
  obtain ⟨text, tokens, waits⟩ := source
  obtain ⟨text', others, waits'⟩ := source'
  obtain ⟨_, hclosed, rfl, rfl, hwaits⟩ := hsources
  dsimp only at hended hclosed
  subst hended
  cases hclosed with
  | @last token hcode hescaped =>
    obtain rfl : waits = false := Bool.eq_false_iff.2 fun htrue => hwaits htrue rfl
    have hclosing : token.isPlain ')' = true := by
      rw [Token.isPlain, hescaped, hcode]
      rfl
    rw [reads_nil _ _ rfl]
    exact outcome_ended hwithin hascii rfl hclosing fuel' sets

/-- A parenthesis that closes nothing is in the way of everything else. -/
theorem finish_cons (hclosed : state.openGroups = []) (hascii : state.flags.ascii = false)
    (text : List CodePoint) (token : Token) (tokens : List Token) (waits : Bool) :
    finish state ⟨text, token :: tokens, waits⟩ =
      .error (.fault .unbalancedParenthesis (some token.offset) text) := by
  rw [finish_eq hclosed hascii, peek_bind_apply]
  rfl

/-- An expression is read alike from states that belong together, to the end of the text. -/
theorem outcome_reads (hverbose : base.verbose = false) (hascii : base.ascii = false)
    (hwithin : Within base inner outer) {source source' : Source}
    (hsources : Encloses dangling limit source source') {fuel fuel' : Nat} (hfuel : limit ≤ fuel)
    (hfuel' : limit < fuel') :
    Outcome dangling (inner.IsFresh ∧ SetsOptions source.tokens) (reads inner fuel source)
      (reads outer fuel' source') := by
  induction fuel generalizing limit inner outer source source' fuel' with
  | zero =>
    obtain ⟨fuel', rfl⟩ := Nat.exists_eq_add_one_of_ne_zero (Nat.ne_zero_of_lt hfuel')
    have hended : source.tokens = [] :=
      List.eq_nil_of_length_eq_zero (Nat.le_zero.1 (Nat.le_trans hsources.bound hfuel))
    exact outcome_nil hwithin hascii hsources hended 0 fuel' _
  | succ fuel ih =>
    obtain ⟨fuel', rfl⟩ := Nat.exists_eq_add_one_of_ne_zero (Nat.ne_zero_of_lt hfuel')
    have hclosed := hsources.closed
    obtain ⟨text, tokens, waits⟩ := source
    obtain ⟨text', others, waits'⟩ := source'
    obtain rfl : waits = dangling := hsources.dangling_inner
    obtain rfl : waits' = false := hsources.dangling_outer
    dsimp only at hclosed
    cases hclosed with
    | last => exact outcome_nil hwithin hascii hsources rfl (fuel + 1) fuel' _
    | @cons token same tokens others halike hlater =>
      have hbound : tokens.length + 1 ≤ limit := hsources.bound
      have hfewer : tokens.length ≤ fuel := by omega
      have hfewer' : tokens.length < fuel' := by omega
      have hnext := @Agree.next_cons text text' token same tokens others waits hlater
      have hgrown {a b : ParseState} (hab : Grown base a b) (sets : Prop) :
          Outcome waits sets ((next >>= fun _ => reads a fuel) ⟨text, token :: tokens, waits⟩)
            ((next >>= fun _ => reads b fuel') ⟨text', same :: others, false⟩) := by
        refine Outcome.bind hnext ?_ fun _ _ => staysLost_reads hab.1.isOpen fuel'
        intro _ _ rest rest' _ _ hrest
        exact (ih hab.1 hrest hfewer hfewer').imp fun hsets => absurd hsets.1 hab.2
      rw [reads_succ, reads_succ, peek_bind_apply, peek_bind_apply]
      simp only [List.head?_cons, readsAt, ← halike.isPlain, hwithin.isFull_eq]
      by_cases hbar : token.isPlain '|' = true
      · rw [if_pos hbar, if_pos hbar]
        by_cases hfull : inner.isFull = true
        · rw [if_pos hfull, if_pos hfull]
          exact .refused trivial (.inl trivial)
        · rw [if_neg hfull, if_neg hfull]
          exact hgrown hwithin.grown_branch _
      rw [if_neg hbar, if_neg hbar]
      by_cases hclosing : token.isPlain ')' = true
      · rw [if_pos hclosing, if_pos hclosing]
        have hnested := hwithin.nested
        generalize hinner : inner.openGroups = groups at hnested
        generalize houter : outer.openGroups = others' at hnested
        cases hnested with
        | outermost =>
          have hflags : inner.flags.ascii = false := by rw [hwithin.flags_eq_base hinner, hascii]
          dsimp only
          rw [finish_cons hinner hflags]
          exact .unbalanced
        | inside halike hdeeper => exact hgrown (hwithin.grown_close hinner halike hdeeper) _
      · rw [if_neg hclosing, if_neg hclosing]
        refine Outcome.bind hnext ?_ fun _ _ =>
          (staysLost_step hwithin.isOpen same).bind fun state hstate => staysLost_reads hstate fuel'
        intro _ _ rest rest' hresult hvalues hrest
        have htokens : token :: tokens = token :: rest.tokens := by
          have hsplit := tokens_of_next hresult
          rwa [hvalues.1] at hsplit
        rw [htokens]
        refine outcome_of_compares (compares_step hwithin hverbose hrest halike) hwithin ?_
        exact fun a b rest rest' hab hrest => ih hab hrest hfewer hfewer'

end Scan

private theorem endsDangling_cons {code : CodePoint} (hcode : code ≠ '\\') (text : List CodePoint) :
    endsDangling (code :: text) = endsDangling text := by
  have hlast : (code == CodePoint.ofChar '\\') = false := beq_eq_false_iff_ne.2 hcode
  unfold endsDangling
  rw [List.reverse_cons, List.takeWhile_append]
  by_cases hall : (text.reverse.takeWhile (· == CodePoint.ofChar '\\')).length = text.reverse.length
  · rw [if_pos hall, List.length_append, hall]
    simp [hlast]
  · rw [if_neg hall]

/-- An escaped code point has no part in how a text ends. -/
private theorem endsDangling_escaped (code : CodePoint) (text : List CodePoint) :
    endsDangling (.ofChar '\\' :: code :: text) = endsDangling text := by
  unfold endsDangling
  rw [List.reverse_cons, List.reverse_cons, List.append_assoc, List.takeWhile_append]
  by_cases hall : (text.reverse.takeWhile (· == CodePoint.ofChar '\\')).length = text.reverse.length
  · rw [if_pos hall, List.length_append, hall]
    by_cases hcode : code = '\\'
    · subst hcode
      simp
    · simp [hcode]
  · rw [if_neg hall]

private theorem endsDangling_closed (text : List CodePoint) :
    endsDangling (text ++ [.ofChar ')']) = false := by
  simp [endsDangling]

/-- A parenthesis behind a text is one more token, escaped if the text ends in a lone backslash. -/
theorem closedBy_ofText (text : List CodePoint) (offset other : Nat) :
    ClosedBy (endsDangling text) (Token.ofText offset text)
      (Token.ofText other (text ++ [.ofChar ')'])) := by
  fun_induction Token.ofText offset text generalizing other with
  | case1 offset => exact .last rfl rfl
  | case2 offset => exact .last rfl rfl
  | case3 offset code hcode =>
    rw [endsDangling_cons hcode, List.singleton_append, ofText_cons hcode]
    exact .cons ⟨rfl, rfl⟩ (.last rfl rfl)
  | case4 offset next rest ih =>
    rw [endsDangling_escaped, List.cons_append, List.cons_append, ofText_escaped]
    exact .cons ⟨rfl, rfl⟩ (ih (other + 2))
  | case5 offset code next rest hcode ih =>
    rw [endsDangling_cons hcode, List.cons_append, ofText_cons hcode]
    exact .cons ⟨rfl, rfl⟩ (ih (other + 1))

/-- A text in a bracket behind the condition for the very start of the subject. -/
def enclosed (text : List CodePoint) : List CodePoint := wording "\\A(?:" ++ text ++ [.ofChar ')']

namespace Scan

/-- The state behind the condition and the opening of the bracket. -/
def enclosedState (flags : Flags) : ParseState := { flags, openGroups := [enclosing flags] }

private theorem isOpen_enclosedState (flags : Flags) : (enclosedState flags).IsOpen := List.cons_ne_nil _ _

private theorem within_enclosedState (flags : Flags) : Within flags { flags } (enclosedState flags) where
  flags_eq := rfl
  branches_eq := rfl
  pieces_eq := rfl
  groups_eq := rfl
  asked_eq := rfl
  nested := .outermost
  bottom := rfl
  narrow := fun _ hknown => absurd hknown List.not_mem_nil

/-- Reads a text as an expression under some options. -/
def readsAll (flags : Flags) (text : List CodePoint) : Except SyntaxError (Pattern × Source) :=
  (checkDangling >>= fun _ => reads { flags } text.length) (Source.ofText text)

/-- What is parsed is the expression of a reading of the whole text. -/
theorem parse_eq (flags : Flags) (text : List CodePoint) :
    parse flags text = (readsAll flags text).map Prod.fst := rfl

private theorem ofText_enclosed (text : List CodePoint) :
    Source.ofText (enclosed text) = ⟨enclosed text, ⟨0, true, 'A'⟩ :: ⟨2, false, '('⟩ ::
      ⟨3, false, '?'⟩ :: ⟨4, false, ':'⟩ :: Token.ofText 5 (text ++ [.ofChar ')']), false⟩ := by
  have hdangling : endsDangling (enclosed text) = false := endsDangling_closed _
  have hopening : enclosed text = .ofChar '\\' :: .ofChar 'A' :: .ofChar '(' :: .ofChar '?' ::
      .ofChar ':' :: (text ++ [.ofChar ')']) := rfl
  rw [Source.ofText, hdangling, hopening, ofText_escaped, ofText_cons (by decide),
    ofText_cons (by decide), ofText_cons (by decide)]

private theorem reads_cons (state : ParseState) (fuel : Nat) (text : List CodePoint) {token : Token}
    (tokens : List Token) (hbar : token.isPlain '|' = false) (hclosing : token.isPlain ')' = false) :
    reads state (fuel + 1) ⟨text, token :: tokens, false⟩ =
      (step state token >>= fun state => reads state fuel) ⟨text, tokens, false⟩ := by
  rw [reads_succ, peek_bind_apply]
  simp only [List.head?_cons, readsAt, hbar, hclosing, Bool.false_eq_true, if_false]
  exact bind_of_ok (Regex.next_cons text token tokens) _

private theorem marked_cons {mark : Token} (hmark : mark.isPlain '?' = true) (text : List CodePoint)
    (token : Token)
    (tokens : List Token) : Marked ⟨text, mark :: token :: tokens, false⟩ token ⟨text, tokens, false⟩ := by
  have heat : eat '?' ⟨text, mark :: token :: tokens, false⟩ =
      .ok (true, ⟨text, token :: tokens, false⟩) := by
    rw [eat_eq, peek_bind_apply]
    simp only [List.head?_cons, Option.any_some, hmark, if_true]
    exact bind_of_ok (Regex.next_cons text _ _) _
  exact marked_of_next heat (Regex.next_cons text _ tokens)

private theorem step_opening {state : ParseState} (hverbose : state.flags.verbose = false) {token : Token}
    (htoken : token.isPlain '(' = true) : step state token = group state token.offset := by
  obtain ⟨offset, escaped, code⟩ := token
  obtain ⟨hescaped, hcode⟩ := Bool.and_eq_true_iff.1 htoken
  obtain rfl : escaped = false := by simpa using hescaped
  obtain rfl : code = '(' := beq_iff_eq.1 hcode
  simp only [step, CodePoint.toChar?_ofChar, sign, hverbose]
  rfl

/-- Letters of options are refused in a group, if they are options for the whole expression. -/
theorem refused_group_letters (hopen : state.IsOpen) {mark closing letter : Token}
    {letters : List Token} (hmark : mark.isPlain '?' = true)
    (hletters : ∀ token ∈ letter :: letters, token.IsFlag)
    (hclosing : closing.isPlain ')' = true) (offset : Nat) (text : List CodePoint) (rest : List Token) :
    ∃ error, group state offset ⟨text, mark :: letter :: (letters ++ closing :: rest), false⟩ =
      .error error ∧ error.IsFault := by
  obtain ⟨hflag, hlater⟩ := List.forall_mem_cons.1 hletters
  have hbegins : beginsFlags letter = true := Bool.or_eq_true_iff.2 (.inr hflag)
  have hminus : letter.isPlain '-' = false := isPlain_of_flag hflag (by decide)
  obtain ⟨first, hfirst⟩ := flagLetter_of_flag hflag .flagsNotEnded .localeFlag
  have hgiven (fuel : Nat) : flagsGiven letter fuel = flagsOn first fuel := by
    simp only [flagsGiven, hminus, Bool.false_eq_true, if_false, hfirst, pure_bind]
  have hfuel : letters.length < (letters ++ closing :: rest).length + 1 := by
    rw [List.length_append]
    omega
  rw [(marked_cons hmark text letter _).group_eq, groupAt_flags _ _ hbegins, flagGroup_eq,
    get_bind_apply, hgiven]
  rcases flagsOn_letters hlater hclosing text first hfuel with ⟨error, herror, hfault⟩ | ⟨on, hon⟩
  · exact ⟨error, bind_of_error herror _, hfault⟩
  · obtain ⟨at', text', hrefused⟩ := refusesOptions_wholeFlags hopen offset on ⟨text, rest, false⟩
    rw [bind_of_ok hon]
    exact ⟨_, hrefused, trivial⟩

/-- A comment changes nothing. -/
theorem group_comment (state : ParseState) {mark sharp closing : Token} {inside rest : List Token}
    (hmark : mark.isPlain '?' = true) (hsharp : sharp.isPlain '#' = true)
    (hinside : ∀ token ∈ inside, token.isPlain ')' = false) (hclosing : closing.isPlain ')' = true)
    (offset : Nat) (text : List CodePoint) :
    group state offset ⟨text, mark :: sharp :: (inside ++ closing :: rest), false⟩ =
      .ok (state, ⟨text, rest, false⟩) := by
  have hfuel : inside.length < (inside ++ closing :: rest).length + 1 := by
    rw [List.length_append]
    omega
  rw [(marked_cons hmark text sharp _).group_eq, groupAt_comment _ _ hsharp,
    bind_of_ok (comment_inside hinside hclosing text offset hfuel)]
  rfl

/-- Inside of a group, a text is refused that sets options for the whole expression at its beginning. -/
theorem refused_of_setsOptions (hopen : state.IsOpen) (hverbose : state.flags.verbose = false)
    {tokens : List Token} (hsets : SetsOptions tokens) (text : List CodePoint) {fuel : Nat}
    (hfuel : tokens.length ≤ fuel) :
    ∃ error, reads state fuel ⟨text, tokens, false⟩ = .error error ∧ error.IsFault := by
  induction hsets generalizing fuel with
  | @letters opening mark closing letters rest hopening hmark hne hletters hclosing =>
    obtain ⟨letter, letters, rfl⟩ := List.exists_cons_of_ne_nil hne
    obtain ⟨fuel, rfl⟩ := Nat.exists_eq_add_one_of_ne_zero (Nat.ne_zero_of_lt hfuel)
    obtain ⟨error, herror, hfault⟩ :=
      refused_group_letters hopen hmark hletters hclosing opening.offset text rest
    rw [reads_cons _ _ _ _ (isPlain_of_isPlain hopening (by decide))
      (isPlain_of_isPlain hopening (by decide)), step_opening hverbose hopening]
    exact ⟨error, bind_of_error herror _, hfault⟩
  | @comment opening mark sharp closing inside rest hopening hmark hsharp hinside hclosing hrest ih =>
    obtain ⟨fuel, rfl⟩ := Nat.exists_eq_add_one_of_ne_zero (Nat.ne_zero_of_lt hfuel)
    have hfewer : rest.length ≤ fuel := by
      rw [List.length_cons, List.length_cons, List.length_cons, List.length_append,
        List.length_cons] at hfuel
      omega
    rw [reads_cons _ _ _ _ (isPlain_of_isPlain hopening (by decide))
      (isPlain_of_isPlain hopening (by decide)), step_opening hverbose hopening,
      bind_of_ok (group_comment state hmark hsharp hinside hclosing opening.offset text)]
    exact ih hfewer

/-- The condition and the opening of the bracket are read before the text. -/
theorem readsAll_enclosed {flags : Flags} (hverbose : flags.verbose = false) (text : List CodePoint) :
    readsAll flags (enclosed text) = reads (enclosedState flags) (text.length + 4)
      ⟨enclosed text, Token.ofText 5 (text ++ [.ofChar ')']), false⟩ := by
  have hlength : (enclosed text).length = text.length + 4 + 1 + 1 := by
    have hopening : (wording "\\A(?:").length = 5 := rfl
    simp only [enclosed, List.length_append, hopening, List.length_singleton]
    omega
  have hanchor : step { flags } ⟨0, true, 'A'⟩ =
      pure (ParseState.push { flags } (.anchor .textStart)) := rfl
  have hbracket (state : ParseState) (tokens : List Token) :
      group state 2 ⟨enclosed text, ⟨3, false, '?'⟩ :: ⟨4, false, ':'⟩ :: tokens, false⟩ =
        .ok (state.enter .bracket 2 state.flags, ⟨enclosed text, tokens, false⟩) := by
    rw [(marked_cons rfl (enclosed text) _ tokens).group_eq]
    rfl
  have hchecked (source : Source) (hsource : source.dangling = false) :
      checkDangling source = .ok ((), source) := by
    rw [checkDangling, hsource, Bool.and_false]
    rfl
  rw [readsAll, ofText_enclosed, bind_of_ok (hchecked _ rfl), hlength]
  rw [reads_cons _ _ _ _ rfl rfl, hanchor]
  rw [pure_bind, reads_cons _ _ _ _ rfl rfl, step_opening hverbose rfl, bind_of_ok (hbracket _ _)]
  rfl

/-- A text that sets options for the whole expression is refused inside of the bracket. -/
theorem refused_enclosed {flags : Flags} (hverbose : flags.verbose = false) {text : List CodePoint}
    (hsets : SetsOptions (Token.ofText 0 text)) :
    ∃ error, readsAll flags (enclosed text) = .error error ∧ error.IsFault := by
  have hclosed := closedBy_ofText text 0 5
  have hbound := length_ofText_le 5 (text ++ [.ofChar ')'])
  rw [List.length_append, List.length_singleton] at hbound
  have hfuel : (Token.ofText 5 (text ++ [.ofChar ')'])).length ≤ text.length + 4 := by omega
  rw [readsAll_enclosed hverbose]
  exact refused_of_setsOptions (isOpen_enclosedState flags) hverbose (hsets.closed hclosed) _ hfuel

/-- An expression comes out alike, read alone and inside of the bracket. -/
theorem outcome_enclosed {flags : Flags} (hverbose : flags.verbose = false) (hascii : flags.ascii = false)
    (text : List CodePoint) :
    Outcome (endsDangling text) (SetsOptions (Token.ofText 0 text)) (readsAll flags text)
      (readsAll flags (enclosed text)) := by
  have hclosed := closedBy_ofText text 0 5
  have hbound := length_ofText_le 0 text
  rw [readsAll_enclosed hverbose]
  by_cases hlone : Token.ofText 0 text = [] ∧ endsDangling text = true
  · obtain ⟨hempty, hdangling⟩ := hlone
    have hinner : ∃ error, readsAll flags text = .error error ∧ error.IsFault := by
      refine ⟨.fault .danglingEscape (some (text.length - 1)) text, bind_of_error ?_ _, trivial⟩
      simp only [checkDangling, Source.ofText, hempty, hdangling]
      rfl
    obtain ⟨error, herror, hfault⟩ := hinner
    rw [hempty, hdangling] at hclosed
    rw [herror, hdangling]
    refine .of_lost hfault (staysLost_reads (isOpen_enclosedState flags) _ _ ⟨rfl, ?_, ?_⟩)
    rotate_left
    · exact fun hfalse => absurd hfalse.symm Bool.false_ne_true
    generalize Token.ofText 5 (text ++ [.ofChar ')']) = others at hclosed
    cases hclosed with
    | last hcode hescaped =>
      intro token htoken
      obtain rfl := List.mem_singleton.1 htoken
      simp [Token.isPlain, hescaped]
  · have hinner : readsAll flags text = reads { flags } text.length (Source.ofText text) := by
      refine bind_of_ok (if_neg fun hboth => hlone ?_) _
      obtain ⟨hempty, hdangling⟩ := Bool.and_eq_true_iff.1 hboth
      exact ⟨List.isEmpty_iff.1 hempty, hdangling⟩
    have hsources : Encloses (endsDangling text) text.length (Source.ofText text)
        ⟨enclosed text, Token.ofText 5 (text ++ [.ofChar ')']), false⟩ :=
      ⟨hbound, hclosed, rfl, rfl, fun hdangling hempty => hlone ⟨hempty, hdangling⟩⟩
    rw [hinner]
    refine (outcome_reads hverbose hascii (within_enclosedState flags) hsources (Nat.le_refl _) ?_).imp
      fun hsets => hsets.2
    omega

end Scan

end BareStrings.Regex
