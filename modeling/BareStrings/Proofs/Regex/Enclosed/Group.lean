import BareStrings.Proofs.Regex.Enclosed.Flags

namespace BareStrings.Regex

open BareStrings.Text

/-- The same open group, wherever it was opened. -/
structure OpenGroup.Alike (first second : OpenGroup) : Prop where
  kind : first.kind = second.kind
  flags : first.flags = second.flags
  branches : first.branches = second.branches
  pieces : first.pieces = second.pieces

/-- The bracket around a text that is to match at the very start, as it stands behind the condition for
that. -/
def enclosing (base : Flags) : OpenGroup := ⟨.bracket, 2, base, [], [.item (.anchor .textStart)]⟩

/-- Open groups, and the same inside of the bracket. -/
inductive Nested (base : Flags) : List OpenGroup → List OpenGroup → Prop
  | outermost : Nested base [] [enclosing base]
  | inside {first second : OpenGroup} {groups others : List OpenGroup} (halike : first.Alike second)
    (hlater : Nested base groups others) : Nested base (first :: groups) (second :: others)

/-- Inside the bracket some group is always open. -/
theorem Nested.ne_nil {base : Flags} {groups others : List OpenGroup}
    (hnested : Nested base groups others) : others ≠ [] := by
  cases hnested <;> exact List.cons_ne_nil _ _

/-- Whether every group that is known is narrow enough for its least width to be counted in full. -/
def Groups.Narrow (groups : Groups) : Prop :=
  ∀ known ∈ groups.widths, ∀ width ∈ known, width.1 < countLimit

namespace ParseState

/-- A state of a reading of a text alone, and one of a reading inside of the bracket. Behind everything else,
`base` are the options at the bottom. -/
structure Within (base : Flags) (inner outer : ParseState) : Prop where
  flags_eq : outer.flags = inner.flags
  branches_eq : outer.branches = inner.branches
  pieces_eq : outer.pieces = inner.pieces
  groups_eq : outer.groups = inner.groups
  asked_eq : outer.asked.map Prod.fst = inner.asked.map Prod.fst
  nested : Nested base inner.openGroups outer.openGroups
  bottom : (inner.flags :: inner.openGroups.map OpenGroup.flags).getLast? = some base
  narrow : inner.groups.Narrow

/-- Whether nothing has been read but comments and options. Options for the whole expression may be set
only there, and so never inside of the bracket. -/
def IsFresh (state : ParseState) : Prop :=
  state.openGroups = [] ∧ state.branches = [] ∧ state.pieces = []

/-- The states belong together, and something has been read. -/
def Grown (base : Flags) (inner outer : ParseState) : Prop := Within base inner outer ∧ ¬inner.IsFresh

/-- Some group is open. -/
def IsOpen (state : ParseState) : Prop := state.openGroups ≠ []

variable {base : Flags} {inner outer : ParseState}

/-- The reading inside the bracket has a group open. -/
theorem Within.isOpen (hwithin : Within base inner outer) : outer.IsOpen := hwithin.nested.ne_nil

/-- A piece that both readings add keeps their states together. -/
theorem Within.grown_pushPiece (hwithin : Within base inner outer) (piece : Piece) :
    Grown base (inner.pushPiece piece) (outer.pushPiece piece) := by
  obtain ⟨hflags, hbranches, hpieces, hgroups, hasked, hnested, hbottom, hnarrow⟩ := hwithin
  have hpushed : (outer.pushPiece piece).pieces = (inner.pushPiece piece).pieces := by
    rw [pushPiece, pushPiece, hpieces]
  exact ⟨⟨hflags, hbranches, hpushed, hgroups, hasked, hnested, hbottom, hnarrow⟩,
    fun hfresh => absurd hfresh.2.2 (List.cons_ne_nil _ _)⟩

/-- An expression that both readings add keeps their states together. -/
theorem Within.grown_push (hwithin : Within base inner outer) (item : Regex) :
    Grown base (inner.push item) (outer.push item) := hwithin.grown_pushPiece (.item item)

/-- A group that both readings open keeps their states together. -/
theorem Within.grown_enter (hwithin : Within base inner outer) (kind : GroupKind) (offset other : Nat)
    (flags : Flags) : Grown base (inner.enter kind offset flags) (outer.enter kind other flags) := by
  obtain ⟨hflags, hbranches, hpieces, hgroups, hasked, hnested, hbottom, hnarrow⟩ := hwithin
  have hopened : OpenGroup.Alike ⟨kind, offset, inner.flags, inner.branches, inner.pieces⟩
      ⟨kind, other, outer.flags, outer.branches, outer.pieces⟩ :=
    ⟨rfl, hflags.symm, hbranches.symm, hpieces.symm⟩
  refine ⟨⟨rfl, rfl, rfl, hgroups, hasked, .inside hopened hnested, ?_, hnarrow⟩,
    fun hfresh => absurd hfresh.1 (List.cons_ne_nil _ _)⟩
  rw [← hbottom]
  exact List.getLast?_cons_cons

/-- States stay together with any groups that are narrow enough. -/
theorem Within.withGroups (hwithin : Within base inner outer) {groups : Groups} (hnarrow : groups.Narrow) :
    Within base { inner with groups } { outer with groups } :=
  { hwithin with groups_eq := rfl, narrow := hnarrow }

/-- At the bottom, the options are those of the whole expression. -/
theorem Within.flags_eq_base (hwithin : Within base inner outer) (hbottom : inner.openGroups = []) :
    inner.flags = base := by
  have hlast := hwithin.bottom
  rw [hbottom] at hlast
  exact Option.some.inj hlast

end ParseState

open ParseState (Within Grown IsOpen IsFresh)

namespace Scan

variable {base : Flags} {inner outer state : ParseState} {dangling : Bool} {limit : Nat}

/-- Two readings that agree on states. -/
abbrev AgreesOnStates (base : Flags) (dangling : Bool) (limit : Nat) (first second : Scan ParseState) :
    Prop :=
  Agrees dangling (Grown base) IsOpen limit first second

/-- The readings agree on repeating the latest item. -/
private theorem agrees_repeatLatest (hwithin : Within base inner outer) (offset other least : Nat)
    (most : Option Nat) :
    AgreesOnStates base dangling limit (repeatLatest inner offset least most)
      (repeatLatest outer other least most) := by
  unfold repeatLatest
  rw [hwithin.pieces_eq]
  cases hpieces : inner.pieces with
  | nil => exact Agrees.failAt _ _ _
  | cons piece pieces =>
    refine Agrees.ite (fun _ => Agrees.failAt _ _ _) fun _ => ?_
    refine Agrees.ite (fun _ => Agrees.failAt _ _ _) fun _ => ?_
    refine steady_greed.agrees.bind ?_ fun greed _ => StaysLost.pure hwithin.isOpen
    rintro greed _ rfl
    exact Agrees.pure ⟨{ hwithin with pieces_eq := rfl },
      fun hfresh => absurd hfresh.2.2 (List.cons_ne_nil _ _)⟩

private theorem staysLost_repeatLatest (hopen : state.IsOpen) (offset least : Nat) (most : Option Nat) :
    StaysLost dangling IsOpen (repeatLatest state offset least most) := by
  unfold repeatLatest
  cases state.pieces with
  | nil => exact StaysLost.failAt _ _
  | cons piece pieces =>
    refine StaysLost.ite (StaysLost.failAt _ _) ?_
    refine StaysLost.ite (StaysLost.failAt _ _) ?_
    exact (@steady_greed dangling 0).lost.bind fun greed _ => StaysLost.pure hopen

/-- The readings agree on a repetition sign, wherever it stands. -/
theorem agrees_repetition (hwithin : Within base inner outer) (sign : Char) (offset other : Nat) :
    AgreesOnStates base dangling limit (repetition inner sign offset) (repetition outer sign other) := by
  refine Agrees.ite (fun _ => agrees_repeatLatest hwithin _ _ _ _) fun _ => ?_
  refine Agrees.ite (fun _ => agrees_repeatLatest hwithin _ _ _ _) fun _ => ?_
  refine Agrees.ite (fun _ => agrees_repeatLatest hwithin _ _ _ _) fun _ => ?_
  refine steady_bracedCounts?.agrees.bind ?_ ?_
  · rintro counts _ rfl
    cases counts with
    | none =>
      simp only [hwithin.flags_eq]
      exact Agrees.pure (hwithin.grown_push _)
    | some counts => exact agrees_repeatLatest hwithin _ _ _ _
  · intro counts _
    cases counts with
    | none => exact StaysLost.pure hwithin.isOpen
    | some counts => exact staysLost_repeatLatest hwithin.isOpen _ _ _

/-- A lost reading stays lost at a repetition sign. -/
theorem staysLost_repetition (hopen : state.IsOpen) (sign : Char) (offset : Nat) :
    StaysLost dangling IsOpen (repetition state sign offset) := by
  refine StaysLost.ite (staysLost_repeatLatest hopen _ _ _) ?_
  refine StaysLost.ite (staysLost_repeatLatest hopen _ _ _) ?_
  refine StaysLost.ite (staysLost_repeatLatest hopen _ _ _) ?_
  refine (@steady_bracedCounts? dangling 0).lost.bind fun counts _ => ?_
  cases counts with
  | none => exact StaysLost.pure hopen
  | some counts => exact staysLost_repeatLatest hopen _ _ _

/-- The options that a group turns on, with the character behind them. -/
def flagsGiven (token : Token) (fuel : Nat) : Scan (Flags × Char) :=
  if token.isPlain '-' then return ({}, '-')
  else do
    let first ← flagLetter (some token) .flagsNotEnded .localeFlag
    flagsOn first fuel

/-- The options that a group turns off. -/
def flagsUndone (ending : Char) (fuel : Nat) : Scan Flags :=
  if ending = '-' then do
    let token ← next
    let first ← flagLetter token .missingFlag .kindFlagOff
    flagsOff first fuel
  else return {}

/-- Options for the whole expression. -/
def wholeFlags (state : ParseState) (offset : Nat) (on : Flags) : Scan ParseState :=
  if state.openGroups.isEmpty && state.branches.isEmpty && state.pieces.isEmpty then
    return { state with flags := joinFlags state.flags on }
  else failAt offset .misplacedFlags

/-- Options for what stands in the group. -/
def groupFlags (state : ParseState) (offset fuel : Nat) (on : Flags) (ending : Char) : Scan ParseState :=
  if on.unrepeated then fail .wholeFlagOn 1
  else do
    let off ← flagsUndone ending fuel
    if off.unrepeated then fail .wholeFlagOff 1
    else if flagsOverlap on off then fail .flagOnAndOff 1
    else return state.enter .flagged offset (changeFlags state.flags on off)

/-- A group of options reads what it turns on, and then sets it for the whole expression or for a group. -/
theorem flagGroup_eq (state : ParseState) (offset : Nat) (token : Token) :
    flagGroup state offset token = get >>= fun source =>
      flagsGiven token (source.tokens.length + 1) >>= fun given =>
        if given.2 = ')' then wholeFlags state offset given.1
        else groupFlags state offset (source.tokens.length + 1) given.1 given.2 := by
  unfold flagGroup flagsGiven wholeFlags groupFlags flagsUndone
  simp only [ite_bind, bind_assoc, pure_bind]

private theorem steady_flagsGiven {token same : Token} (halike : token.Alike same) {first second : Nat}
    (hfirst : limit < first) (hsecond : limit < second) :
    Steady dangling limit (flagsGiven token first) (flagsGiven same second) := by
  unfold flagsGiven
  rw [← halike.isPlain]
  refine Steady.ite (Steady.pure _) ?_
  exact (steady_flagLetter halike _ _).bind fun first => steady_flagsOn first hfirst hsecond

private theorem staysLost_flagsUndone (ending : Char) (fuel : Nat) :
    StaysLost dangling (fun _ => True) (flagsUndone ending fuel) := by
  refine StaysLost.ite ?_ (StaysLost.pure trivial)
  refine StaysLost.next.bind fun token _ => ?_
  exact (staysLost_flagLetter token _ _).bind fun first _ => staysLost_flagsOff first fuel

private theorem steady_flagsUndone (ending : Char) {first second : Nat} (hfirst : limit < first)
    (hsecond : limit < second) :
    Steady dangling limit (flagsUndone ending first) (flagsUndone ending second) := by
  refine Steady.ite ?_ (Steady.pure _)
  refine Steady.next_bind ((refuses_flagLetter _ _).bind _) ?_ ?_
  · intro token same halike smaller hsmaller
    exact (steady_flagLetter halike _ _).bind fun flags =>
      steady_flagsOff flags (by omega) (by omega)
  · intro token
    exact (staysLost_flagLetter token _ _).bind fun flags _ => staysLost_flagsOff flags second

private theorem staysLost_wholeFlags (hopen : state.IsOpen) (offset : Nat) (on : Flags) :
    StaysLost dangling IsOpen (wholeFlags state offset on) :=
  StaysLost.ite (StaysLost.pure hopen) (StaysLost.failAt _ _)

private theorem staysLost_groupFlags (state : ParseState) (offset fuel : Nat) (on : Flags) (ending : Char) :
    StaysLost dangling IsOpen (groupFlags state offset fuel on ending) := by
  refine StaysLost.ite (StaysLost.fail _ _) ?_
  refine (staysLost_flagsUndone ending fuel).bind fun off _ => ?_
  refine StaysLost.ite (StaysLost.fail _ _) ?_
  refine StaysLost.ite (StaysLost.fail _ _) ?_
  exact StaysLost.pure (List.cons_ne_nil _ _)

/-- A lost reading stays lost in a group of options. -/
theorem staysLost_flagGroup (hopen : state.IsOpen) (offset : Nat) (token : Token) :
    StaysLost dangling IsOpen (flagGroup state offset token) := by
  rw [flagGroup_eq]
  refine StaysLost.get.bind fun source _ => ?_
  have hgiven := (@steady_flagsGiven dangling 0 token token ⟨rfl, rfl⟩ _ _ Nat.one_pos
    (Nat.succ_pos source.tokens.length)).lost
  refine hgiven.bind fun given _ => ?_
  exact StaysLost.ite (staysLost_wholeFlags hopen _ _) (staysLost_groupFlags state _ _ _ _)

/-- The readings agree on options for a group, each with fuel for all of its tokens. -/
private theorem agrees_groupFlags (hwithin : Within base inner outer) (offset other : Nat)
    {first second : Nat} (hfirst : limit < first) (hsecond : limit < second) (on : Flags) (ending : Char) :
    AgreesOnStates base dangling limit (groupFlags inner offset first on ending)
      (groupFlags outer other second on ending) := by
  refine Agrees.ite (fun _ => Agrees.fail _ _ _ _) fun _ => ?_
  refine (steady_flagsUndone ending hfirst hsecond).agrees.bind ?_ ?_
  · rintro off _ rfl
    refine Agrees.ite (fun _ => Agrees.fail _ _ _ _) fun _ => ?_
    refine Agrees.ite (fun _ => Agrees.fail _ _ _ _) fun _ => ?_
    rw [hwithin.flags_eq]
    exact Agrees.pure (hwithin.grown_enter _ _ _ _)
  · intro off _
    refine StaysLost.ite (StaysLost.fail _ _) ?_
    refine StaysLost.ite (StaysLost.fail _ _) ?_
    exact StaysLost.pure (List.cons_ne_nil _ _)

private theorem refuses_wholeFlags (hstate : ¬state.IsFresh) (offset : Nat) (on : Flags) :
    Refuses (wholeFlags state offset on) := by
  have hnot : (state.openGroups.isEmpty && state.branches.isEmpty && state.pieces.isEmpty) = false := by
    rw [Bool.eq_false_iff]
    intro hempty
    simp only [Bool.and_eq_true, List.isEmpty_iff] at hempty
    exact hstate ⟨hempty.1.1, hempty.1.2, hempty.2⟩
  rw [wholeFlags, hnot]
  exact refuses_failAt _ _

/-- A refusal of options for the whole expression where they may not be set. -/
def RefusesOptions {α : Type} (result : Except SyntaxError α) : Prop :=
  ∃ offset text, result = .error (.fault .misplacedFlags offset text)

/-- Options for the whole expression are misplaced inside of the bracket, even at its beginning. -/
theorem refusesOptions_wholeFlags (hopen : state.IsOpen) (offset : Nat) (on : Flags) (source : Source) :
    RefusesOptions (wholeFlags state offset on source) := by
  have hnot : state.openGroups.isEmpty = false := List.isEmpty_eq_false_iff.2 hopen
  unfold wholeFlags
  simp only [hnot, Bool.false_and, Bool.false_eq_true, if_false]
  exact ⟨_, _, rfl⟩

/-- Tokens of which the first ones are letters of options, up to a closing parenthesis. -/
def BeginsWithLetters (tokens : List Token) : Prop :=
  ∃ letters closing rest, tokens = letters ++ closing :: rest ∧ letters ≠ [] ∧
    (∀ letter ∈ letters, letter.IsFlag) ∧
    closing.isPlain ')' = true

/-- Options for the whole expression are letters up to a closing parenthesis. -/
private theorem beginsWithLetters_of_flagsGiven {token : Token} {fuel : Nat} {source rest : Source}
    {on : Flags} (hresult : flagsGiven token fuel source = .ok ((on, ')'), rest)) :
    BeginsWithLetters (token :: source.tokens) := by
  unfold flagsGiven at hresult
  by_cases hminus : token.isPlain '-' = true
  · rw [if_pos hminus] at hresult
    cases hresult
  rw [if_neg hminus] at hresult
  obtain ⟨first, between, hletter, hon⟩ := exists_of_bind_eq_ok hresult
  obtain ⟨rfl, letter, hsome, hflag⟩ := flagLetter_eq_ok hletter
  obtain rfl := Option.some.inj hsome
  obtain ⟨letters, closing, hsplit, hclosing, hletters⟩ := exists_letters hon
  refine ⟨token :: letters, closing, rest.tokens, by rw [hsplit]; rfl, List.cons_ne_nil _ _,
    List.forall_mem_cons.2 ⟨hflag, hletters⟩, hclosing⟩

/-- Groups with options agree, unless they set options for the whole expression where only the inner
reading may do so. -/
theorem agree_flagGroup (hwithin : Within base inner outer) {source source' : Source}
    (hsources : Source.Encloses dangling limit source source') {token same : Token}
    (halike : token.Alike same) (offset other : Nat) :
    Agree dangling (Grown base) IsOpen limit (flagGroup inner offset token source)
        (flagGroup outer other same source') ∨
      inner.IsFresh ∧ BeginsWithLetters (token :: source.tokens) ∧
        RefusesOptions (flagGroup outer other same source') := by
  have hlength : source'.tokens.length = source.tokens.length + 1 := hsources.closed.length_eq
  have hinner : source.tokens.length < source.tokens.length + 1 := Nat.lt_succ_self _
  have houter : source.tokens.length < source'.tokens.length + 1 := by omega
  have hgiven := (steady_flagsGiven halike hinner houter).agrees source source' hsources.tight
  rw [flagGroup_eq, flagGroup_eq, get_bind_apply, get_bind_apply]
  refine (hgiven.bind_or ?_ ?_).imp_left fun hagree => hagree.mono hsources.bound
  · rintro ⟨on, ending⟩ _ between between' hfirst hsecond rfl hrest
    by_cases hending : ending = ')'
    · subst hending
      rw [bind_of_ok hsecond]
      simp only [if_true]
      by_cases hfresh : inner.IsFresh
      · exact .inr ⟨hfresh, beginsWithLetters_of_flagsGiven hfirst,
          refusesOptions_wholeFlags hwithin.isOpen other on between'⟩
      · refine .inl (Agrees.of_refuses ?_ ?_ _ _ hrest)
        · exact refuses_wholeFlags hfresh offset on
        · exact refuses_wholeFlags (fun hother => hwithin.isOpen hother.1) other on
    · simp only [hending, if_false]
      exact .inl (agrees_groupFlags hwithin offset other hinner houter on ending _ _ hrest)
  · intro given rest _ _ hlost
    exact StaysLost.ite (staysLost_wholeFlags hwithin.isOpen _ _)
      (staysLost_groupFlags outer _ _ _ _) rest hlost

end Scan

end BareStrings.Regex
