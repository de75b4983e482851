import BareStrings.Proofs.Regex.Enclosed.Group

namespace BareStrings.Regex

open BareStrings.Text BareStrings.Unicode
open ParseState (Within Grown IsOpen IsFresh)

namespace Scan

variable {base : Flags} {inner outer state : ParseState} {dangling : Bool} {limit : Nat}

/-- A group is opened, and what is known of the groups changes alike. -/
theorem grown_enter_withGroups (hwithin : Within base inner outer) {groups : Groups}
    (hnarrow : groups.Narrow) (kind : GroupKind) (offset other : Nat) :
    Grown base (ParseState.enter { inner with groups } kind offset inner.flags)
      (ParseState.enter { outer with groups } kind other outer.flags) := by
  have hflags : ParseState.enter { outer with groups } kind other outer.flags =
      ParseState.enter { outer with groups } kind other inner.flags := by
    rw [hwithin.flags_eq]
  rw [hflags]
  exact (hwithin.withGroups hnarrow).grown_enter kind offset other inner.flags

private theorem agrees_enter (hwithin : Within base inner outer) (kind : GroupKind) (offset other : Nat) :
    AgreesOnStates base dangling limit (pure (inner.enter kind offset inner.flags))
      (pure (outer.enter kind other outer.flags)) := by
  rw [hwithin.flags_eq]
  exact Agrees.pure (hwithin.grown_enter kind offset other inner.flags)

/-- The groups that are known once another one has been opened. -/
def groupsWith (groups : Groups) (names : List (List Char × Nat)) : Groups :=
  { groups with names, widths := groups.widths ++ [none] }

/-- A group that is still open has no width yet. -/
theorem narrow_groupsWith {groups : Groups} (hnarrow : groups.Narrow) (names : List (List Char × Nat)) :
    (groupsWith groups names).Narrow := by
  intro known hknown width hwidth
  rcases List.mem_append.1 hknown with hold | hnew
  · exact hnarrow known hold width hwidth
  · rw [List.mem_singleton.1 hnew] at hwidth
    cases hwidth

/-- The state in which a group that captures has just been opened. -/
def captured (state : ParseState) (offset : Nat) (names : List (List Char × Nat)) : ParseState :=
  ParseState.enter { state with groups := groupsWith state.groups names }
    (.capture state.groups.count) offset state.flags

/-- A group that captures gets the next number, and its name unless that is taken. -/
private theorem captureGroup_eq (state : ParseState) (offset : Nat) (name : Option (List Char)) :
    captureGroup state offset name =
      match name with
      | none => return captured state offset state.groups.names
      | some name =>
        match state.groups.names.lookup name with
        | some earlier =>
          fail (.redefinedGroup name state.groups.count earlier) (name.length + 1)
        | none => return captured state offset (state.groups.names ++ [(name, state.groups.count)]) := by
  unfold captureGroup
  cases name with
  | none => rfl
  | some name =>
    dsimp only
    cases state.groups.names.lookup name <;> rfl

private theorem grown_captured (hwithin : Within base inner outer) (offset other : Nat)
    (names : List (List Char × Nat)) :
    Grown base (captured inner offset names) (captured outer other names) := by
  unfold captured
  rw [hwithin.groups_eq]
  exact grown_enter_withGroups hwithin (narrow_groupsWith hwithin.narrow names) _ _ _

/-- The readings agree on opening a group that captures. -/
private theorem agrees_captureGroup (hwithin : Within base inner outer) (offset other : Nat)
    (name : Option (List Char)) :
    AgreesOnStates base dangling limit (captureGroup inner offset name)
      (captureGroup outer other name) := by
  rw [captureGroup_eq, captureGroup_eq, hwithin.groups_eq]
  cases name with
  | none => exact Agrees.pure (grown_captured hwithin offset other _)
  | some name =>
    dsimp only
    cases inner.groups.names.lookup name with
    | none => exact Agrees.pure (grown_captured hwithin offset other _)
    | some earlier => exact Agrees.fail _ _ _ _

private theorem staysLost_captureGroup (state : ParseState) (offset : Nat) (name : Option (List Char)) :
    StaysLost dangling IsOpen (captureGroup state offset name) := by
  rw [captureGroup_eq]
  cases name with
  | none => exact StaysLost.pure (List.cons_ne_nil _ _)
  | some name =>
    dsimp only
    cases state.groups.names.lookup name with
    | none => exact StaysLost.pure (List.cons_ne_nil _ _)
    | some earlier => exact StaysLost.fail _ _

/-- What becomes of a reference whose name has been read. -/
def referTo (state : ParseState) (name : List CodePoint) : Scan ParseState :=
  match identifier? name with
  | none => fail (.badGroupName name) (name.length + 1)
  | some text =>
    match state.groups.names.lookup text with
    | none => fail (.unknownGroup text) (name.length + 1)
    | some index =>
      if !state.groups.isClosed index then fail .openGroup (name.length + 1)
      else do
        checkLookBehind state.groups index
        return state.push (.backref index state.flags.caseRule)

private theorem namedBackref_eq (state : ParseState) :
    namedBackref state = groupName ')' >>= referTo state := rfl

/-- The readings agree on a reference to a named group. -/
private theorem agrees_referTo (hwithin : Within base inner outer) (name : List CodePoint) :
    AgreesOnStates base dangling limit (referTo inner name) (referTo outer name) := by
  unfold referTo
  rw [hwithin.groups_eq, hwithin.flags_eq]
  cases identifier? name with
  | none => exact Agrees.fail _ _ _ _
  | some text =>
    dsimp only
    cases inner.groups.names.lookup text with
    | none => exact Agrees.fail _ _ _ _
    | some index =>
      refine Agrees.ite (fun _ => Agrees.fail _ _ _ _) fun _ => ?_
      refine (steady_checkLookBehind _ _).agrees.bind ?_ fun _ _ => StaysLost.pure hwithin.isOpen
      rintro _ _ rfl
      exact Agrees.pure (hwithin.grown_push _)

/-- A lost reading stays lost at a reference to a named group. -/
private theorem staysLost_referTo (hopen : state.IsOpen) (name : List CodePoint) :
    StaysLost dangling IsOpen (referTo state name) := by
  unfold referTo
  cases identifier? name with
  | none => exact StaysLost.fail _ _
  | some text =>
    dsimp only
    cases state.groups.names.lookup text with
    | none => exact StaysLost.fail _ _
    | some index =>
      refine StaysLost.ite (StaysLost.fail _ _) ?_
      exact (@steady_checkLookBehind dangling 0 _ _).lost.bind fun _ _ => StaysLost.pure hopen

/-- How a group of the forms that a letter begins goes on behind its name. -/
def captureNamed (state : ParseState) (offset : Nat) (name : List CodePoint) : Scan ParseState :=
  match identifier? name with
  | none => fail (.badGroupName name) (name.length + 1)
  | some text => captureGroup state offset (some text)

/-- A form that is not known, of which everything before a token has been read. -/
def unknownForm {α : Type} (front : List CodePoint) : Option Token → Scan α
  | none => fail .unexpectedEnd 0
  | some token => fail (.unknownExtension (front ++ token.source)) (token.source.length + front.length)

/-- A form of group that is not known is refused. -/
private theorem refuses_unknownForm {α : Type} (front : List CodePoint) (token : Option Token) :
    Refuses (unknownForm front token : Scan α) := by
  cases token with
  | none => exact refuses_fail _ _
  | some token => exact refuses_fail _ _

/-- How a group of the forms that a letter begins goes on if it gets no name: a reference, or nothing that
is known. -/
def unnamed (state : ParseState) : Scan ParseState :=
  eat '=' >>= fun refers => if refers then namedBackref state else next >>= unknownForm (wording "?P")

private theorem extension_eq (state : ParseState) (offset : Nat) :
    extension state offset = eat '<' >>= fun named =>
      if named then groupName '>' >>= captureNamed state offset else unnamed state := by
  unfold extension unnamed
  congr 1

private theorem agrees_captureNamed (hwithin : Within base inner outer) (offset other : Nat)
    (name : List CodePoint) :
    AgreesOnStates base dangling limit (captureNamed inner offset name)
      (captureNamed outer other name) := by
  unfold captureNamed
  cases identifier? name with
  | none => exact Agrees.fail _ _ _ _
  | some text => exact agrees_captureGroup hwithin offset other (some text)

private theorem staysLost_captureNamed (state : ParseState) (offset : Nat) (name : List CodePoint) :
    StaysLost dangling IsOpen (captureNamed state offset name) := by
  unfold captureNamed
  cases identifier? name with
  | none => exact StaysLost.fail _ _
  | some text => exact staysLost_captureGroup state offset _

private theorem agrees_namedBackref (hwithin : Within base inner outer) :
    AgreesOnStates base dangling limit (namedBackref inner) (namedBackref outer) := by
  rw [namedBackref_eq, namedBackref_eq]
  refine (steady_groupName ')').agrees.bind ?_ fun name _ => staysLost_referTo hwithin.isOpen name
  rintro name _ rfl
  exact agrees_referTo hwithin name

private theorem staysLost_namedBackref (hopen : state.IsOpen) :
    StaysLost dangling IsOpen (namedBackref state) :=
  (@steady_groupName dangling 0 ')').lost.bind fun name _ => staysLost_referTo hopen name

/-- The readings agree on a reference by name. -/
private theorem agrees_unnamed (hwithin : Within base inner outer) :
    AgreesOnStates base dangling limit (unnamed inner) (unnamed outer) := by
  have hform : ∀ token : Option Token, StaysLost dangling IsOpen
      (unknownForm (wording "?P") token : Scan ParseState) :=
    fun token => StaysLost.of_refuses (refuses_unknownForm _ token)
  refine (steady_eat (by decide)).agrees.bind ?_ ?_
  · rintro refers _ rfl
    cases refers with
    | true => exact agrees_namedBackref hwithin
    | false =>
      refine Agrees.next_bind (refuses_unknownForm _ none) ?_ fun token => hform (some token)
      intro token same _ _ _
      exact Agrees.of_refuses (refuses_unknownForm _ _) (refuses_unknownForm _ _)
  · intro refers _
    exact StaysLost.ite (staysLost_namedBackref hwithin.isOpen)
      (StaysLost.next.bind fun token _ => hform token)

private theorem staysLost_unnamed (hopen : state.IsOpen) : StaysLost dangling IsOpen (unnamed state) := by
  refine (staysLost_eat '=').bind fun refers _ => StaysLost.ite (staysLost_namedBackref hopen) ?_
  exact StaysLost.next.bind fun token _ => StaysLost.of_refuses (refuses_unknownForm _ token)

private theorem staysLost_extension (hopen : state.IsOpen) (offset : Nat) :
    StaysLost dangling IsOpen (extension state offset) := by
  rw [extension_eq]
  refine (staysLost_eat '<').bind fun named _ => StaysLost.ite ?_ (staysLost_unnamed hopen)
  exact (@steady_groupName dangling 0 '>').lost.bind fun name _ =>
    staysLost_captureNamed state offset name

/-- The readings agree on the groups that begin with the letter for names. -/
private theorem agrees_extension (hwithin : Within base inner outer) (offset other : Nat) :
    AgreesOnStates base dangling limit (extension inner offset) (extension outer other) := by
  rw [extension_eq, extension_eq]
  refine (steady_eat (by decide)).agrees.bind ?_ ?_
  · rintro named _ rfl
    cases named with
    | true =>
      refine (steady_groupName '>').agrees.bind ?_ fun name _ => staysLost_captureNamed outer other name
      rintro name _ rfl
      exact agrees_captureNamed hwithin offset other name
    | false => exact agrees_unnamed hwithin
  · intro named _
    refine StaysLost.ite ?_ (staysLost_unnamed hwithin.isOpen)
    exact (@steady_groupName dangling 0 '>').lost.bind fun name _ =>
      staysLost_captureNamed outer other name

/-- How a look behind goes on at a token. -/
def lookBehindAt (state : ParseState) (offset : Nat) (token : Option Token) : Scan ParseState :=
  match token.filter fun token => token.isPlain '=' || token.isPlain '!' with
  | some token =>
    return ParseState.enter
      { state with groups :=
          { state.groups with
            lookBehindStart := state.groups.lookBehindStart.or (some state.groups.count) } }
      (.lookBehind (token.isPlain '!') state.groups.lookBehindStart) offset state.flags
  | none => unknownForm (wording "?<") token

/-- A look-behind is told by the token behind the angle bracket. -/
private theorem lookBehindGroup_eq (state : ParseState) (offset : Nat) :
    lookBehindGroup state offset = next >>= lookBehindAt state offset := by
  unfold lookBehindGroup
  congr 1
  funext token
  cases token with
  | none => rfl
  | some token =>
    by_cases hmark : (token.isPlain '=' || token.isPlain '!') = true
    · simp only [lookBehindAt, Option.filter_some, hmark, if_true]
    · simp only [lookBehindAt, Option.filter_some, hmark]
      rfl

private theorem staysLost_lookBehindAt (state : ParseState) (offset : Nat) (token : Option Token) :
    StaysLost dangling IsOpen (lookBehindAt state offset token) := by
  unfold lookBehindAt
  split
  · exact StaysLost.pure (List.cons_ne_nil _ _)
  · exact StaysLost.of_refuses (refuses_unknownForm _ _)

private theorem staysLost_lookBehindGroup (state : ParseState) (offset : Nat) :
    StaysLost dangling IsOpen (lookBehindGroup state offset) := by
  rw [lookBehindGroup_eq]
  exact StaysLost.next.bind fun token _ => staysLost_lookBehindAt state offset token

/-- The readings agree on a look-behind. -/
private theorem agrees_lookBehindGroup (hwithin : Within base inner outer) (offset other : Nat) :
    AgreesOnStates base dangling limit (lookBehindGroup inner offset) (lookBehindGroup outer other) := by
  rw [lookBehindGroup_eq, lookBehindGroup_eq]
  refine Agrees.next_bind (refuses_unknownForm (wording "?<") none) ?_ fun token =>
    staysLost_lookBehindAt outer other (some token)
  intro token same halike smaller _
  by_cases hmark : (token.isPlain '=' || token.isPlain '!') = true
  · simp only [lookBehindAt, Option.filter_some, ← halike.isPlain, hmark, if_true]
    rw [hwithin.groups_eq]
    refine Agrees.pure (grown_enter_withGroups hwithin ?_ _ _ _)
    exact hwithin.narrow
  · simp only [lookBehindAt, Option.filter_some, ← halike.isPlain, hmark]
    exact Agrees.of_refuses (refuses_unknownForm _ _) (refuses_unknownForm _ _)

private theorem steady_askedNumber (name : List CodePoint) :
    Steady dangling limit (askedNumber name) (askedNumber name) := by
  unfold askedNumber
  cases (spelledText? name).bind fun text => (Number.Integer.ofText 10 text).toOption with
  | none => exact Steady.fail _ _
  | some value =>
    refine Steady.ite (Steady.fail _ _) (Steady.ite (Steady.fail _ _) ?_)
    exact Steady.ite (Steady.fail _ _) (Steady.pure _)

/-- The groups that conditionals ask for, with one more of them. -/
def askedWith (state : ParseState) (back index : Nat) : Scan (Nat × List (Nat × Nat)) :=
  if (state.asked.lookup index).isSome then return (index, state.asked)
  else here >>= fun offset => return (index, state.asked ++ [(index, offset - back)])

/-- The group that a conditional asks for, and those that all of them ask for. -/
def askedGroup (state : ParseState) (name : List CodePoint) : Scan (Nat × List (Nat × Nat)) :=
  match identifier? name with
  | some text =>
    match state.groups.names.lookup text with
    | some index => return (index, state.asked)
    | none => fail (.unknownGroup text) (name.length + 1)
  | none => askedNumber name >>= askedWith state (name.length + 1)

/-- Opens the conditional that asks for a group. -/
def conditionalOn (state : ParseState) (offset : Nat) (asked : Nat × List (Nat × Nat)) :
    Scan ParseState := do
  checkLookBehind state.groups asked.1
  return ParseState.enter { state with asked := asked.2 } (.conditional asked.1) offset state.flags

/-- A conditional group reads the group that it asks for first. -/
private theorem conditionalGroup_eq (state : ParseState) (offset : Nat) :
    conditionalGroup state offset = groupName ')' >>= fun name =>
      askedGroup state name >>= conditionalOn state offset := by
  unfold conditionalGroup
  congr 1
  funext name
  unfold askedGroup askedWith conditionalOn
  cases identifier? name with
  | some text =>
    dsimp only
    cases state.groups.names.lookup text <;> rfl
  | none => simp only [ite_bind, bind_assoc, pure_bind]

/-- The same group is asked for, and the same ones altogether. -/
def SameAsked (first second : Nat × List (Nat × Nat)) : Prop :=
  second.1 = first.1 ∧ second.2.map Prod.fst = first.2.map Prod.fst

/-- Whether a group has been asked for depends on the numbers alone. -/
private theorem isSome_lookup_eq {first second : List (Nat × Nat)}
    (hkeys : second.map Prod.fst = first.map Prod.fst) (index : Nat) :
    (second.lookup index).isSome = (first.lookup index).isSome := by
  have hsome : ∀ pairs : List (Nat × Nat),
      (pairs.lookup index).isSome = (pairs.map Prod.fst).contains index := by
    intro pairs
    induction pairs with
    | nil => rfl
    | cons pair pairs ih =>
      rw [List.lookup_cons, List.map_cons, List.contains_cons, ← ih]
      cases index == pair.1 <;> rfl
  rw [hsome, hsome, hkeys]

private theorem agrees_askedWith (hwithin : Within base inner outer) (back index : Nat) :
    Agrees dangling SameAsked (fun _ => True) limit (askedWith inner back index)
      (askedWith outer back index) := by
  unfold askedWith
  rw [isSome_lookup_eq hwithin.asked_eq]
  refine Agrees.ite (fun _ => Agrees.pure ⟨rfl, hwithin.asked_eq⟩) fun _ => ?_
  intro source source' hsources
  refine .ok ⟨rfl, ?_⟩ hsources
  rw [List.map_append, List.map_append, hwithin.asked_eq]
  rfl

private theorem staysLost_askedWith (state : ParseState) (back index : Nat) :
    StaysLost dangling (fun _ => True) (askedWith state back index) :=
  StaysLost.ite (StaysLost.pure trivial) fun _ hlost => ⟨trivial, hlost⟩

/-- The readings agree on the group that a condition asks for. -/
private theorem agrees_askedGroup (hwithin : Within base inner outer) (name : List CodePoint) :
    Agrees dangling SameAsked (fun _ => True) limit (askedGroup inner name) (askedGroup outer name) := by
  unfold askedGroup
  rw [hwithin.groups_eq]
  cases identifier? name with
  | some text =>
    dsimp only
    cases inner.groups.names.lookup text with
    | some index => exact Agrees.pure ⟨rfl, hwithin.asked_eq⟩
    | none => exact Agrees.fail _ _ _ _
  | none =>
    refine (steady_askedNumber name).agrees.bind ?_ fun index _ => staysLost_askedWith outer _ index
    rintro index _ rfl
    exact agrees_askedWith hwithin _ index

/-- A lost reading stays lost at the group that a condition asks for. -/
private theorem staysLost_askedGroup (state : ParseState) (name : List CodePoint) :
    StaysLost dangling (fun _ => True) (askedGroup state name) := by
  unfold askedGroup
  cases identifier? name with
  | some text =>
    dsimp only
    cases state.groups.names.lookup text with
    | some index => exact StaysLost.pure trivial
    | none => exact StaysLost.fail _ _
  | none =>
    exact (@steady_askedNumber dangling 0 name).lost.bind fun index _ =>
      staysLost_askedWith state _ index

private theorem staysLost_conditionalOn (state : ParseState) (offset : Nat) (asked : Nat × List (Nat × Nat)) :
    StaysLost dangling IsOpen (conditionalOn state offset asked) :=
  (@steady_checkLookBehind dangling 0 _ _).lost.bind fun _ _ => StaysLost.pure (List.cons_ne_nil _ _)

/-- The readings agree on a conditional group, wherever it was asked for. -/
private theorem agrees_conditionalOn (hwithin : Within base inner outer) (offset other : Nat)
    {asked same : Nat × List (Nat × Nat)} (hasked : SameAsked asked same) :
    AgreesOnStates base dangling limit (conditionalOn inner offset asked)
      (conditionalOn outer other same) := by
  obtain ⟨hindex, hkeys⟩ := hasked
  have hother : Within base { inner with asked := asked.2 } { outer with asked := same.2 } := by
    obtain ⟨hflags, hbranches, hpieces, hgroups, _, hnested, hbottom, hnarrow⟩ := hwithin
    exact ⟨hflags, hbranches, hpieces, hgroups, hkeys, hnested, hbottom, hnarrow⟩
  unfold conditionalOn
  rw [hindex, congrArg (checkLookBehind · asked.1) hwithin.groups_eq]
  refine (steady_checkLookBehind _ _).agrees.bind ?_ fun _ _ => StaysLost.pure (List.cons_ne_nil _ _)
  rintro _ _ rfl
  exact agrees_enter hother _ _ _

/-- The readings agree on a conditional group. -/
private theorem agrees_conditionalGroup (hwithin : Within base inner outer) (offset other : Nat) :
    AgreesOnStates base dangling limit (conditionalGroup inner offset)
      (conditionalGroup outer other) := by
  rw [conditionalGroup_eq, conditionalGroup_eq]
  refine (steady_groupName ')').agrees.bind ?_ ?_
  · rintro name _ rfl
    refine (agrees_askedGroup hwithin name).bind ?_ fun asked _ =>
      staysLost_conditionalOn outer other asked
    exact fun asked same hasked => agrees_conditionalOn hwithin offset other hasked
  · intro name _
    exact (staysLost_askedGroup outer name).bind fun asked _ =>
      staysLost_conditionalOn outer other asked

private theorem staysLost_conditionalGroup (state : ParseState) (offset : Nat) :
    StaysLost dangling IsOpen (conditionalGroup state offset) := by
  rw [conditionalGroup_eq]
  refine (@steady_groupName dangling 0 ')').lost.bind fun name _ => ?_
  exact (staysLost_askedGroup state name).bind fun asked _ => staysLost_conditionalOn state offset asked

/-- Whether options begin at a token. -/
def beginsFlags (token : Token) : Bool :=
  token.isPlain '-' || token.isPlain 'L' || (token.plain?.bind flag?).isSome

/-- How a group goes on at the token behind its mark. -/
def groupAt (state : ParseState) (offset : Nat) : Option Token → Scan ParseState
  | none => fail .unexpectedEnd 0
  | some token =>
    if token.isPlain 'P' then extension state offset
    else if token.isPlain ':' then return state.enter .bracket offset state.flags
    else if token.isPlain '#' then do
      comment offset ((← get).tokens.length + 1)
      return state
    else if token.isPlain '=' then return state.enter (.lookAhead false) offset state.flags
    else if token.isPlain '!' then return state.enter (.lookAhead true) offset state.flags
    else if token.isPlain '<' then lookBehindGroup state offset
    else if token.isPlain '(' then conditionalGroup state offset
    else if token.isPlain '>' then return state.enter .atomic offset state.flags
    else if beginsFlags token then flagGroup state offset token
    else unknownForm (wording "?") (some token)

private theorem group_eq (state : ParseState) (offset : Nat) :
    group state offset = eat '?' >>= fun marked =>
      if !marked then captureGroup state offset none else next >>= groupAt state offset := by
  unfold group
  congr 1

private theorem staysLost_enter (state : ParseState) (kind : GroupKind) (offset : Nat) (flags : Flags) :
    StaysLost dangling IsOpen (pure (state.enter kind offset flags) : Scan ParseState) :=
  StaysLost.pure (List.cons_ne_nil _ _)

/-- A lost reading stays lost at every form of group. -/
private theorem staysLost_groupAt (hopen : state.IsOpen) (offset : Nat) (token : Option Token) :
    StaysLost dangling IsOpen (groupAt state offset token) := by
  cases token with
  | none => exact StaysLost.fail _ _
  | some token =>
    refine StaysLost.ite (staysLost_extension hopen offset) ?_
    refine StaysLost.ite (staysLost_enter state _ _ _) ?_
    refine StaysLost.ite ?_ ?_
    · refine StaysLost.get.bind fun source _ => ?_
      exact (staysLost_comment offset _).bind fun _ _ => StaysLost.pure hopen
    refine StaysLost.ite (staysLost_enter state _ _ _) ?_
    refine StaysLost.ite (staysLost_enter state _ _ _) ?_
    refine StaysLost.ite (staysLost_lookBehindGroup state offset) ?_
    refine StaysLost.ite (staysLost_conditionalGroup state offset) ?_
    refine StaysLost.ite (staysLost_enter state _ _ _) ?_
    refine StaysLost.ite (staysLost_flagGroup hopen offset token) ?_
    exact StaysLost.of_refuses (refuses_unknownForm _ _)

private theorem staysLost_group (hopen : state.IsOpen) (offset : Nat) :
    StaysLost dangling IsOpen (group state offset) := by
  rw [group_eq]
  refine (staysLost_eat '?').bind fun marked _ => ?_
  refine StaysLost.ite (staysLost_captureGroup state offset none) ?_
  exact StaysLost.next.bind fun token _ => staysLost_groupAt hopen offset token

/-- Groups agree at a token that begins neither a comment nor options. -/
theorem beginsFlags_of_alike {token same : Token} (halike : token.Alike same) :
    beginsFlags same = beginsFlags token := by
  rw [beginsFlags, beginsFlags, halike.isPlain, halike.isPlain, halike.plain?]

/-- The readings agree on every form of group but comments and options. -/
private theorem agrees_groupAt (hwithin : Within base inner outer) {token same : Token}
    (halike : token.Alike same)
    (hcomment : ¬token.isPlain '#' = true) (hoptions : ¬beginsFlags token = true) (offset other : Nat) :
    AgreesOnStates base dangling limit (groupAt inner offset (some token))
      (groupAt outer other (some same)) := by
  simp only [groupAt, ← halike.isPlain, beginsFlags_of_alike halike]
  refine Agrees.ite (fun _ => agrees_extension hwithin offset other) fun _ => ?_
  refine Agrees.ite (fun _ => agrees_enter hwithin _ _ _) fun _ => ?_
  refine Agrees.ite (fun htoken => absurd htoken hcomment) fun _ => ?_
  refine Agrees.ite (fun _ => agrees_enter hwithin _ _ _) fun _ => ?_
  refine Agrees.ite (fun _ => agrees_enter hwithin _ _ _) fun _ => ?_
  refine Agrees.ite (fun _ => agrees_lookBehindGroup hwithin offset other) fun _ => ?_
  refine Agrees.ite (fun _ => agrees_conditionalGroup hwithin offset other) fun _ => ?_
  refine Agrees.ite (fun _ => agrees_enter hwithin _ _ _) fun _ => ?_
  refine Agrees.ite (fun htoken => absurd htoken hoptions) fun _ => ?_
  exact Agrees.of_refuses (refuses_unknownForm _ _) (refuses_unknownForm _ _)

/-- A character that has been taken stood in front of what is left. -/
private theorem eat_eq_ok {c : Char} {source rest : Source} (hresult : eat c source = .ok (true, rest)) :
    ∃ token, token.isPlain c = true ∧ source.tokens = token :: rest.tokens := by
  rw [eat_eq, peek_bind_apply] at hresult
  by_cases htoken : source.tokens.head?.any (·.isPlain c) = true
  · rw [if_pos htoken] at hresult
    obtain ⟨token, between, hnext, hbehind⟩ := exists_of_bind_eq_ok hresult
    cases hbehind
    have htokens := tokens_of_next hnext
    rw [head?_of_next hnext] at htoken
    cases token with
    | none => cases htoken
    | some token => exact ⟨token, htoken, htokens⟩
  · rw [if_neg htoken] at hresult
    cases hresult

/-- What stands behind the parenthesis of a group, once the mark and the token behind it have been
taken. -/
structure Marked (source : Source) (token : Token) (rest : Source) : Prop where
  tokens_eq : ∃ mark : Token, mark.isPlain '?' = true ∧ source.tokens = mark :: token :: rest.tokens
  group_eq : ∀ state offset, group state offset source = groupAt state offset (some token) rest

/-- What follows a question mark and one token more is what is left behind both. -/
theorem marked_of_next {source between rest : Source} {token : Token}
    (hmark : eat '?' source = .ok (true, between)) (hnext : next between = .ok (some token, rest)) :
    Marked source token rest := by
  obtain ⟨mark, hplain, htokens⟩ := eat_eq_ok hmark
  refine ⟨⟨mark, hplain, by rw [htokens, tokens_of_next hnext]; rfl⟩, fun state offset => ?_⟩
  rw [Scan.group_eq, bind_of_ok hmark]
  exact bind_of_ok hnext _

/-- Groups agree, or they begin a comment or options. -/
theorem agree_group_or (hwithin : Within base inner outer) {source source' : Source}
    (hsources : Source.Encloses dangling limit source source') (offset other : Nat) :
    Agree dangling (Grown base) IsOpen limit (group inner offset source) (group outer other source') ∨
      ∃ token same rest rest', Marked source token rest ∧ Marked source' same rest' ∧
        token.Alike same ∧ Source.Encloses dangling limit rest rest' ∧
        (token.isPlain '#' = true ∨ beginsFlags token = true) := by
  have hlater : ∀ marked : Bool, StaysLost dangling IsOpen
      (if !marked then captureGroup outer other none else Scan.next >>= groupAt outer other) :=
    fun marked => StaysLost.ite (staysLost_captureGroup outer other none)
      (StaysLost.next.bind fun token _ => staysLost_groupAt hwithin.isOpen other token)
  rw [group_eq, group_eq]
  refine (((steady_eat (by decide)).agrees source source' hsources).bind_or ?_
    fun marked rest _ _ hlost => hlater marked rest hlost)
  rintro marked _ between between' hinner houter rfl hbetween
  cases marked with
  | false => exact .inl (agrees_captureGroup hwithin offset other none _ _ hbetween)
  | true =>
    refine Agree.next_bind_or hbetween (refuses_fail _ _) ?_ fun token =>
      staysLost_groupAt hwithin.isOpen other (some token)
    intro token same rest rest' hnext hnext' halike hless hrest
    by_cases hspecial : token.isPlain '#' = true ∨ beginsFlags token = true
    · exact .inr ⟨token, same, rest, rest', marked_of_next hinner hnext, marked_of_next houter hnext',
        halike, hrest.mono (Nat.le_of_lt hless), hspecial⟩
    · have hplain := not_or.1 hspecial
      exact .inl (agrees_groupAt hwithin halike hplain.1 hplain.2 offset other _ _ hrest)

/-- How two readings compare that take a token and what belongs to it, from states that belong
together. -/
inductive Compares (base : Flags) (dangling : Bool) (limit : Nat) (inner outer : ParseState)
    (tokens : List Token) : Except SyntaxError (ParseState × Source) →
    Except SyntaxError (ParseState × Source) → Prop
  /-- They agree, and something has been read. -/
  | agree {first second : Except SyntaxError (ParseState × Source)}
    (hagree : Agree dangling (Grown base) IsOpen limit first second) :
    Compares base dangling limit inner outer tokens first second
  /-- They pass over a comment. -/
  | comment {first second : Except SyntaxError (ParseState × Source)}
    (hagree : Agree dangling (fun a b => a = inner ∧ b = outer) IsOpen limit first second)
    (hsets : ∀ state rest, first = .ok (state, rest) → SetsOptions rest.tokens → SetsOptions tokens) :
    Compares base dangling limit inner outer tokens first second
  /-- They come to options for the whole expression, which only the inner one takes. -/
  | misplaced {first second : Except SyntaxError (ParseState × Source)} (hfresh : inner.IsFresh)
    (hsets : SetsOptions tokens) (hrefuses : RefusesOptions second) :
    Compares base dangling limit inner outer tokens first second
  /-- They drop the rest of the text, and the outer one drops the parenthesis with it. -/
  | dropped {rest : Source} {second : Except SyntaxError (ParseState × Source)} (hopen : inner.IsOpen)
    (hrest : rest.tokens = []) (hgoes : GoesOnLost dangling IsOpen second) :
    Compares base dangling limit inner outer tokens (.ok (inner, rest)) second

/-- A group that begins with a number sign is a comment. -/
theorem groupAt_comment (state : ParseState) (offset : Nat) {token : Token}
    (htoken : token.isPlain '#' = true) (source : Source) :
    groupAt state offset (some token) source =
      (comment offset (source.tokens.length + 1) >>= fun _ => Pure.pure state) source := by
  have h : token.isPlain 'P' = false := isPlain_of_isPlain htoken (by decide)
  have h' : token.isPlain ':' = false := isPlain_of_isPlain htoken (by decide)
  simp only [groupAt, h, h', htoken, if_true]
  rfl

/-- None of the other characters that tell a group apart begins options. -/
theorem isPlain_of_beginsFlags {token : Token} (htoken : beginsFlags token = true) {c : Char}
    (hminus : '-' ≠ c) (hlocale : 'L' ≠ c) (hflag : flag? c = none) : token.isPlain c = false := by
  rw [beginsFlags, Bool.or_eq_true, Bool.or_eq_true] at htoken
  rcases htoken with (hfirst | hfirst) | hletter
  · exact isPlain_of_isPlain hfirst hminus
  · exact isPlain_of_isPlain hfirst hlocale
  · exact isPlain_of_flag hletter hflag

/-- A group that begins with options is read as one. -/
theorem groupAt_flags (state : ParseState) (offset : Nat) {token : Token}
    (htoken : beginsFlags token = true) :
    groupAt state offset (some token) = flagGroup state offset token := by
  have hplain {c : Char} (hminus : '-' ≠ c) (hlocale : 'L' ≠ c) (hflag : flag? c = none) :
      token.isPlain c = false := isPlain_of_beginsFlags htoken hminus hlocale hflag
  simp only [groupAt, htoken, if_true, @hplain 'P' (by decide) (by decide) (by decide),
    @hplain ':' (by decide) (by decide) (by decide), @hplain '#' (by decide) (by decide) (by decide),
    @hplain '=' (by decide) (by decide) (by decide), @hplain '!' (by decide) (by decide) (by decide),
    @hplain '<' (by decide) (by decide) (by decide), @hplain '(' (by decide) (by decide) (by decide),
    @hplain '>' (by decide) (by decide) (by decide)]
  rfl

/-- Both readings pass over a comment, which may stand in front of options. -/
theorem compares_comment {source source' rest rest' : Source} {token same opening : Token}
    (hmarked : Marked source token rest) (hmarked' : Marked source' same rest')
    (halike : token.Alike same) (hrest : Source.Encloses dangling limit rest rest')
    (hopening : opening.isPlain '(' = true) (hcomment : token.isPlain '#' = true) (hopen : outer.IsOpen)
    (offset other : Nat) :
    Compares base dangling limit inner outer (opening :: source.tokens) (group inner offset source)
      (group outer other source') := by
  have hsame : same.isPlain '#' = true := (halike.isPlain '#').symm.trans hcomment
  have hlength : rest'.tokens.length = rest.tokens.length + 1 := hrest.closed.length_eq
  have hinner : rest.tokens.length < rest.tokens.length + 1 := Nat.lt_succ_self _
  have houter : rest.tokens.length < rest'.tokens.length + 1 := by omega
  rw [hmarked.group_eq, hmarked'.group_eq, groupAt_comment _ _ hcomment, groupAt_comment _ _ hsame]
  refine .comment ?_ ?_
  · have hagree := (@steady_comment dangling _ offset other _ _ hinner houter).agrees _ _ hrest.tight
    refine (hagree.bind ?_ fun _ _ => StaysLost.pure hopen).mono hrest.bound
    exact fun _ _ _ => Agrees.pure ⟨rfl, rfl⟩
  · intro state behind hresult hsets
    obtain ⟨_, between, hpassed, hbehind⟩ := exists_of_bind_eq_ok hresult
    cases hbehind
    obtain ⟨mark, hmark, htokens⟩ := hmarked.tokens_eq
    obtain ⟨inside, closing, hsplit, hclosing, hinside⟩ := exists_inside hpassed
    rw [htokens, hsplit]
    exact .comment hopening hmark hcomment hinside hclosing hsets

/-- The readings compare at a group, unless it is a comment or options. -/
private theorem compares_group (hwithin : Within base inner outer) {source source' : Source}
    (hsources : Source.Encloses dangling limit source source') {opening : Token}
    (hopening : opening.isPlain '(' = true) (offset other : Nat) :
    Compares base dangling limit inner outer (opening :: source.tokens) (group inner offset source)
      (group outer other source') := by
  rcases agree_group_or hwithin hsources offset other with hagree |
    ⟨token, same, rest, rest', hmarked, hmarked', halike, hrest, hcomment | hoptions⟩
  · exact .agree hagree
  · exact compares_comment hmarked hmarked' halike hrest hopening hcomment hwithin.isOpen offset other
  · have hsame : beginsFlags same = true := (beginsFlags_of_alike halike).trans hoptions
    rw [hmarked.group_eq, hmarked'.group_eq, groupAt_flags _ _ hoptions, groupAt_flags _ _ hsame]
    rcases agree_flagGroup hwithin hrest halike offset other with hagree |
      ⟨hfresh, ⟨letters, closing, behind, hsplit, hne, hletters, hclosing⟩, hrefuses⟩
    · exact .agree hagree
    · obtain ⟨mark, hmark, htokens⟩ := hmarked.tokens_eq
      refine .misplaced hfresh ?_ hrefuses
      rw [htokens, hsplit]
      exact .letters hopening hmark hne hletters hclosing

/-- How the rest of a line goes on at a token. -/
def lineAt (fuel : Nat) : Option Token → Scan Unit
  | none => return ()
  | some token => if token.isPlain '\n' then return () else restOfLine.dropLine fuel

private theorem dropLine_succ (fuel : Nat) : restOfLine.dropLine (fuel + 1) = next >>= lineAt fuel := by
  rw [restOfLine.dropLine]
  congr 1

private theorem staysLost_dropLine (fuel : Nat) :
    StaysLost dangling (fun _ => True) (restOfLine.dropLine fuel) := by
  induction fuel with
  | zero => exact StaysLost.pure trivial
  | succ fuel ih =>
    rw [dropLine_succ]
    refine StaysLost.next.bind fun token _ => ?_
    cases token with
    | none => exact StaysLost.pure trivial
    | some token => exact StaysLost.ite (StaysLost.pure trivial) ih

private theorem restOfLine_eq : restOfLine = get >>= fun source =>
    restOfLine.dropLine (source.tokens.length + 1) := by
  unfold restOfLine
  congr 1
  funext source
  exact bind_pure_unit

private theorem staysLost_restOfLine : StaysLost dangling (fun _ => True) restOfLine := by
  rw [restOfLine_eq]
  exact StaysLost.get.bind fun source _ => staysLost_dropLine _

/-- A line ends in the text for both readings, or the rest of the text is dropped, and the parenthesis
with it. -/
theorem agree_dropLine_or {first second : Nat} (hfirst : limit < first) (hsecond : limit < second)
    {source source' : Source} (hsources : Source.Encloses dangling limit source source') :
    Agree dangling Eq (fun _ => True) limit (restOfLine.dropLine first source)
        (restOfLine.dropLine second source') ∨
      (∃ rest, restOfLine.dropLine first source = .ok ((), rest) ∧ rest.tokens = []) ∧
        GoesOnLost dangling (fun _ => True) (restOfLine.dropLine second source') := by
  induction first generalizing limit second source source' with
  | zero => exact absurd hfirst (Nat.not_lt_zero limit)
  | succ first ih =>
    obtain ⟨second, rfl⟩ := Nat.exists_eq_add_one_of_ne_zero (Nat.ne_zero_of_lt hsecond)
    obtain ⟨text, tokens, waits⟩ := source
    obtain ⟨text', others, waits'⟩ := source'
    obtain ⟨hbound, hclosed, rfl, rfl, _⟩ := hsources
    dsimp only at hclosed hbound
    rw [dropLine_succ, dropLine_succ]
    cases hclosed with
    | last hcode hescaped =>
      refine .inr ⟨⟨_, rfl, rfl⟩, ?_⟩
      rw [bind_of_ok (Regex.next_cons text' _ [])]
      refine StaysLost.ite (StaysLost.pure trivial) (staysLost_dropLine second) _ ?_
      exact ⟨rfl, List.forall_mem_nil _, fun _ => rfl⟩
    | @cons token same tokens others halike hlater =>
      refine ((Agree.next_cons hlater).bind_or ?_ ?_).imp_left fun hagree =>
        hagree.mono (Nat.le_of_lt hbound)
      · rintro _ _ rest rest' hinner houter ⟨rfl, rfl⟩ hrest
        rw [bind_of_ok hinner, bind_of_ok houter, lineAt, lineAt, ← halike.isPlain]
        by_cases hline : token.isPlain '\n' = true
        · simp only [hline, if_true]
          exact .inl (.ok rfl hrest)
        · have hfewer : tokens.length < first := by
            have hless : tokens.length + 1 ≤ limit := hbound
            omega
          have hfewer' : tokens.length < second := by
            have hless : tokens.length + 1 ≤ limit := hbound
            omega
          rw [if_neg hline, if_neg hline]
          exact ih hfewer hfewer' hrest
      · rintro _ rest _ ⟨rfl, _⟩ hlost
        exact StaysLost.ite (StaysLost.pure trivial) (staysLost_dropLine second) rest hlost

/-- A lost reading stays lost at every sign. -/
private theorem staysLost_sign (hopen : state.IsOpen) (c : Char) (offset : Nat) :
    StaysLost dangling IsOpen (sign state c offset) := by
  have hpush (item : Regex) : StaysLost dangling IsOpen (pure (state.push item) : Scan ParseState) :=
    StaysLost.pure hopen
  refine StaysLost.ite (StaysLost.pure hopen) ?_
  refine StaysLost.ite ?_ ?_
  · exact staysLost_restOfLine.bind fun _ _ => StaysLost.pure hopen
  refine StaysLost.ite ?_ ?_
  · exact (@steady_charSet dangling 0 _ 0 _).lost.bind fun item _ => hpush item
  refine StaysLost.ite (staysLost_repetition hopen _ _) ?_
  refine StaysLost.ite (hpush _) ?_
  refine StaysLost.ite (staysLost_group hopen _) ?_
  exact StaysLost.ite (hpush _) (StaysLost.ite (hpush _) (hpush _))

/-- A lost reading stays lost at every token. -/
theorem staysLost_step (hopen : state.IsOpen) (token : Token) :
    StaysLost dangling IsOpen (step state token) := by
  refine StaysLost.ite ?_ ?_
  · exact (@steady_escapedCode dangling 0 _ _ _).lost.bind fun item _ => StaysLost.pure hopen
  · cases token.code.toChar? with
    | some c => exact staysLost_sign hopen c _
    | none => exact StaysLost.pure hopen

/-- A verbose reading stands in some group, since it is not verbose at the bottom. -/
theorem isOpen_of_verbose (hwithin : Within base inner outer) (hbase : base.verbose = false)
    (hverbose : inner.flags.verbose = true) : inner.IsOpen := by
  intro hempty
  rw [hwithin.flags_eq_base hempty, hbase] at hverbose
  cases hverbose

/-- Both readings pass over the rest of a line that is a comment. -/
private theorem compares_restOfLine (hwithin : Within base inner outer) (hopen : inner.IsOpen)
    {source source' : Source} (hsources : Source.Encloses dangling limit source source')
    (tokens : List Token) :
    Compares base dangling limit inner outer tokens ((restOfLine >>= fun _ => Pure.pure inner) source)
      ((restOfLine >>= fun _ => Pure.pure outer) source') := by
  have hlength : source'.tokens.length = source.tokens.length + 1 := hsources.closed.length_eq
  have hfuel : source.tokens.length < source'.tokens.length + 1 := by omega
  rw [restOfLine_eq, bind_assoc, get_bind_apply, bind_assoc, get_bind_apply]
  rcases agree_dropLine_or (Nat.lt_succ_self _) hfuel hsources.tight with
    hagree | ⟨⟨rest, hdropped, hrest⟩, hlost⟩
  · refine .agree ((hagree.bind ?_ fun _ _ => StaysLost.pure hwithin.isOpen).mono hsources.bound)
    exact fun _ _ _ => Agrees.pure ⟨hwithin, fun hfresh => hopen hfresh.1⟩
  · rw [bind_of_ok hdropped]
    refine .dropped hopen hrest ?_
    cases hresult : restOfLine.dropLine (source'.tokens.length + 1) source' with
    | error error =>
      rw [bind_of_error hresult]
      rw [hresult] at hlost
      exact hlost
    | ok result =>
      rw [bind_of_ok hresult]
      rw [hresult] at hlost
      exact ⟨hwithin.isOpen, hlost.2⟩

private theorem agrees_push (hwithin : Within base inner outer) (item : Regex) :
    AgreesOnStates base dangling limit (pure (inner.push item)) (pure (outer.push item)) :=
  Agrees.pure (hwithin.grown_push item)

/-- Both readings add what they read alike. -/
theorem agrees_bind_push (hwithin : Within base inner outer) {first second : Scan Regex}
    (hscans : Steady dangling limit first second) :
    AgreesOnStates base dangling limit (first >>= fun item => Pure.pure (inner.push item))
      (second >>= fun item => Pure.pure (outer.push item)) := by
  refine hscans.agrees.bind ?_ fun item _ => StaysLost.pure hwithin.isOpen
  rintro item _ rfl
  exact agrees_push hwithin item

/-- What a character without a backslash adds to the states of both readings. -/
theorem compares_sign (hwithin : Within base inner outer) (hbase : base.verbose = false)
    {source source' : Source} (hsources : Source.Encloses dangling limit source source')
    {token : Token} {c : Char} (hplain : token.isPlain c = true) (offset other : Nat) :
    Compares base dangling limit inner outer (token :: source.tokens) (sign inner c offset source)
      (sign outer c other source') := by
  simp only [sign, hwithin.flags_eq]
  by_cases hblank : (inner.flags.verbose && isIgnored c) = true
  · have hopen := isOpen_of_verbose hwithin hbase (Bool.and_eq_true_iff.1 hblank).1
    rw [if_pos hblank, if_pos hblank]
    exact .agree (.ok ⟨hwithin, fun hfresh => hopen hfresh.1⟩ hsources)
  rw [if_neg hblank, if_neg hblank]
  by_cases hsharp : (inner.flags.verbose && c == '#') = true
  · have hopen := isOpen_of_verbose hwithin hbase (Bool.and_eq_true_iff.1 hsharp).1
    rw [if_pos hsharp, if_pos hsharp]
    exact compares_restOfLine hwithin hopen hsources _
  rw [if_neg hsharp, if_neg hsharp]
  by_cases hset : c = '['
  · rw [if_pos hset, if_pos hset]
    exact .agree (agrees_bind_push hwithin (steady_charSet _ _ _) _ _ hsources)
  rw [if_neg hset, if_neg hset]
  by_cases hsign : c = '?' ∨ c = '*' ∨ c = '+' ∨ c = '\x7b'
  · rw [if_pos hsign, if_pos hsign]
    exact .agree (agrees_repetition hwithin _ _ _ _ _ hsources)
  rw [if_neg hsign, if_neg hsign]
  by_cases hany : c = '.'
  · rw [if_pos hany, if_pos hany]
    exact .agree (agrees_push hwithin _ _ _ hsources)
  rw [if_neg hany, if_neg hany]
  by_cases hopening : c = '('
  · rw [if_pos hopening, if_pos hopening]
    exact compares_group hwithin hsources (hopening ▸ hplain) _ _
  rw [if_neg hopening, if_neg hopening]
  refine .agree (Agrees.ite (fun _ => agrees_push hwithin _) (fun _ => ?_) _ _ hsources)
  exact Agrees.ite (fun _ => agrees_push hwithin _) fun _ => agrees_push hwithin _

/-- What a token adds to the states of both readings. -/
theorem compares_step (hwithin : Within base inner outer) (hbase : base.verbose = false)
    {source source' : Source} (hsources : Source.Encloses dangling limit source source')
    {token same : Token} (halike : token.Alike same) :
    Compares base dangling limit inner outer (token :: source.tokens) (step inner token source)
      (step outer same source') := by
  simp only [step, ← halike.1, ← halike.2, hwithin.flags_eq, hwithin.groups_eq]
  by_cases hescaped : token.escaped = true
  · rw [if_pos hescaped, if_pos hescaped]
    exact .agree (agrees_bind_push hwithin (steady_escapedCode _ _ _) _ _ hsources)
  rw [if_neg hescaped, if_neg hescaped]
  cases hchar : token.code.toChar? with
  | some c =>
    have hplain : token.plain? = some c := by rw [Token.plain?, if_neg hescaped, hchar]
    exact compares_sign hwithin hbase hsources (Token.plain?_eq_some_iff.1 hplain) _ _
  | none => exact .agree (agrees_push hwithin _ _ _ hsources)

end Scan

end BareStrings.Regex
