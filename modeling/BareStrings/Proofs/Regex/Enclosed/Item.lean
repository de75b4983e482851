import BareStrings.Proofs.Regex.Enclosed.Scan

namespace BareStrings.Regex.Scan

open BareStrings.Text

variable {dangling : Bool} {limit : Nat}

private theorem steady_hexEscape (letter : Char) (count : Nat) :
    Steady dangling limit (hexEscape letter count) (hexEscape letter count) := by
  refine (steady_run (by decide) count).bind fun digits => ?_
  refine Steady.ite (Steady.fail _ _) ?_
  split
  · exact Steady.pure _
  · exact Steady.fail _ _

private theorem steady_octalEscape (digits : List Char) :
    Steady dangling limit (octalEscape digits) (octalEscape digits) := by
  refine Steady.ite (Steady.fail _ _) ?_
  split
  · exact Steady.pure _
  · exact Steady.fail _ _

private theorem steady_nameEscape : Steady dangling limit nameEscape nameEscape := by
  refine steady_characterName.bind fun name => ?_
  split
  · exact Steady.fail _ _
  · split
    · exact Steady.pure _
    · exact Steady.fail _ _

/-- Both readings take the same escape of a number. -/
private theorem steady_numberEscape? {c : Char} {number : Scan CodePoint}
    (hnumber : numberEscape? c = some number) : Steady dangling limit number number := by
  unfold numberEscape? at hnumber
  by_cases hx : c = 'x'
  · rw [if_pos hx] at hnumber
    cases hnumber
    exact steady_hexEscape c 2
  rw [if_neg hx] at hnumber
  by_cases hu : c = 'u'
  · rw [if_pos hu] at hnumber
    cases hnumber
    exact steady_hexEscape c 4
  rw [if_neg hu] at hnumber
  by_cases hlong : c = 'U'
  · rw [if_pos hlong] at hnumber
    cases hnumber
    exact steady_hexEscape c 8
  rw [if_neg hlong] at hnumber
  by_cases hname : c = 'N'
  · rw [if_pos hname] at hnumber
    cases hnumber
    exact steady_nameEscape
  · rw [if_neg hname] at hnumber
    cases hnumber

/-- Whether a reference may stand in a look-behind is the same for both readings. -/
theorem steady_checkLookBehind (groups : Groups) (index : Nat) :
    Steady dangling limit (checkLookBehind groups index) (checkLookBehind groups index) := by
  unfold checkLookBehind
  split
  · exact Steady.pure ()
  · exact Steady.ite (Steady.fail _ _) (Steady.ite (Steady.fail _ _) (Steady.pure ()))

private theorem steady_groupEscape (flags : Flags) (groups : Groups) (digits : List Char) :
    Steady dangling limit (groupEscape flags groups digits) (groupEscape flags groups digits) := by
  refine Steady.ite (Steady.fail _ _) (Steady.ite (Steady.fail _ _) ?_)
  exact (steady_checkLookBehind groups _).bind fun _ => Steady.pure _

private theorem steady_digitEscape (flags : Flags) (groups : Groups) (first : Char) :
    Steady dangling limit (digitEscape flags groups first) (digitEscape flags groups first) := by
  refine (steady_run (by decide) 1).bind fun digits => ?_
  split
  · refine Steady.ite ?_ (steady_groupEscape flags groups _)
    refine (steady_run (by decide) 1).bind fun more => ?_
    split
    · exact (steady_octalEscape _).bind fun _ => Steady.pure _
    · exact steady_groupEscape flags groups _
  · exact steady_groupEscape flags groups _

/-- Both readings take the same escape of a letter. -/
private theorem steady_escape (flags : Flags) (groups : Groups) (c : Char) :
    Steady dangling limit (escape flags groups c) (escape flags groups c) := by
  unfold escape
  split
  · exact Steady.pure _
  · exact Steady.pure _
  · exact Steady.pure _
  · rename_i number hnumber _ _ _
    exact (steady_numberEscape? hnumber).bind fun _ => Steady.pure _
  · refine Steady.ite ?_ (Steady.ite (steady_digitEscape flags groups c) ?_)
    · refine (steady_run (by decide) 2).bind fun _ => ?_
      exact (steady_octalEscape _).bind fun _ => Steady.pure _
    · exact Steady.ite (Steady.fail _ _) (Steady.pure _)

/-- Both readings take the same escape behind a backslash. -/
theorem steady_escapedCode (flags : Flags) (groups : Groups) (code : CodePoint) :
    Steady dangling limit (escapedCode flags groups code) (escapedCode flags groups code) := by
  unfold escapedCode
  split
  · exact steady_escape flags groups _
  · exact Steady.pure _

/-- Both readings take the same escape in a set. -/
private theorem steady_setEscape (flags : Flags) (c : Char) :
    Steady dangling limit (setEscape flags c) (setEscape flags c) := by
  unfold setEscape
  cases control? c with
  | some code => exact Steady.pure _
  | none =>
    cases category? flags c with
    | some item => exact Steady.pure _
    | none =>
      cases hnumber : numberEscape? c with
      | some number => exact (steady_numberEscape? hnumber).bind fun _ => Steady.pure _
      | none =>
        apply Steady.ite
        · exact Steady.pure _
        apply Steady.ite
        · refine (steady_run (by decide) 2).bind fun _ => ?_
          exact (steady_octalEscape _).bind fun _ => Steady.pure _
        apply Steady.ite
        · exact Steady.fail _ _
        · exact Steady.pure _

private theorem steady_setEscapedCode (flags : Flags) (code : CodePoint) :
    Steady dangling limit (setEscapedCode flags code) (setEscapedCode flags code) := by
  unfold setEscapedCode
  split
  · exact steady_setEscape flags _
  · exact Steady.pure _

private theorem steady_setMember (flags : Flags) {token same : Token} (halike : token.Alike same) :
    Steady dangling limit (setMember flags token) (setMember flags same) := by
  unfold setMember
  rw [← halike.1, ← halike.2]
  exact Steady.ite (steady_setEscapedCode flags _) (Steady.pure _)

private theorem steady_setRange {first last same other : Token} (hfirst : first.Alike same)
    (hlast : last.Alike other) (low high : SetItem) :
    Steady dangling limit (setRange first last low high) (setRange same other low high) := by
  unfold setRange
  rw [← hfirst.source, ← hlast.source]
  dsimp only
  split
  · exact Steady.ite (Steady.fail _ _) (Steady.pure _)
  · exact Steady.fail _ _

private theorem staysLost_setMember (flags : Flags) (token : Token) :
    StaysLost dangling (fun _ => True) (setMember flags token) :=
  (@steady_setMember dangling 0 flags token token ⟨rfl, rfl⟩).lost

private theorem staysLost_setRange (first last : Token) (low high : SetItem) :
    StaysLost dangling (fun _ => True) (setRange first last low high) :=
  (@steady_setRange dangling 0 first last first last ⟨rfl, rfl⟩ ⟨rfl, rfl⟩ low high).lost

/-- How a set goes on behind a member and a hyphen. -/
def setBehindHyphen (flags : Flags) (offset : Nat) (found : List SetItem) (fuel : Nat) (token : Token)
    (low : SetItem) : Option Token → Scan (List SetItem)
  | none => failAt offset .unterminatedSet
  | some last =>
    if last.isPlain ']' then return (.one (CodePoint.ofChar '-') :: low :: found).reverse
    else do
      let high ← setMember flags last
      setItems flags offset ((← setRange token last low high) :: found) fuel

/-- How a set goes on at a member, or at its end. -/
def setAt (flags : Flags) (offset : Nat) (found : List SetItem) (fuel : Nat) :
    Option Token → Scan (List SetItem)
  | none => failAt offset .unterminatedSet
  | some token =>
    if token.isPlain ']' && !found.isEmpty then return found.reverse
    else do
      let low ← setMember flags token
      if ← eat '-' then next >>= setBehindHyphen flags offset found fuel token low
      else setItems flags offset (low :: found) fuel

private theorem setItems_succ (flags : Flags) (offset : Nat) (found : List SetItem) (fuel : Nat) :
    setItems flags offset found (fuel + 1) = next >>= setAt flags offset found fuel := by
  rw [setItems]
  congr 1

private theorem staysLost_setBehindHyphen {flags : Flags} {offset fuel : Nat}
    (hlater : ∀ found, StaysLost dangling (fun _ => True) (setItems flags offset found fuel))
    (found : List SetItem) (token : Token) (low : SetItem) (last : Option Token) :
    StaysLost dangling (fun _ => True) (setBehindHyphen flags offset found fuel token low last) := by
  cases last with
  | none => exact StaysLost.failAt offset _
  | some last =>
    refine StaysLost.ite (StaysLost.pure trivial) ?_
    refine (staysLost_setMember flags last).bind fun high _ => ?_
    exact (staysLost_setRange token last low high).bind fun _ _ => hlater _

/-- A lost reading stays lost at a token in a set, if it does so behind the token. -/
private theorem staysLost_setAt {flags : Flags} {offset fuel : Nat}
    (hlater : ∀ found, StaysLost dangling (fun _ => True) (setItems flags offset found fuel))
    (found : List SetItem) (token : Option Token) :
    StaysLost dangling (fun _ => True) (setAt flags offset found fuel token) := by
  cases token with
  | none => exact StaysLost.failAt offset _
  | some token =>
    refine StaysLost.ite (StaysLost.pure trivial) ?_
    refine (staysLost_setMember flags token).bind fun low _ => ?_
    refine (staysLost_eat '-').bind fun taken _ => StaysLost.ite ?_ (hlater _)
    exact StaysLost.next.bind fun last _ => staysLost_setBehindHyphen hlater found token low last

private theorem staysLost_setItems (flags : Flags) (offset : Nat) (found : List SetItem) (fuel : Nat) :
    StaysLost dangling (fun _ => True) (setItems flags offset found fuel) := by
  induction fuel generalizing found with
  | zero => exact StaysLost.failAt offset _
  | succ fuel ih =>
    rw [setItems_succ]
    exact StaysLost.next.bind fun token _ => staysLost_setAt ih found token

/-- A set goes up to the same bracket, or the text ends before there is one. -/
theorem steady_setItems (flags : Flags) (offset other : Nat) (found : List SetItem)
    {first second : Nat} (hfirst : limit < first) (hsecond : limit < second) :
    Steady dangling limit (setItems flags offset found first) (setItems flags other found second) := by
  induction first generalizing found limit second with
  | zero => exact absurd hfirst (Nat.not_lt_zero limit)
  | succ first ih =>
    obtain ⟨second, rfl⟩ := Nat.exists_eq_add_one_of_ne_zero (Nat.ne_zero_of_lt hsecond)
    have hlost (found : List SetItem) : StaysLost dangling (fun _ => True)
        (setItems flags other found second) := staysLost_setItems flags other found second
    rw [setItems_succ, setItems_succ]
    refine Steady.next_bind (refuses_failAt offset _) ?_ (staysLost_setAt hlost found)
    intro token same halike smaller hsmaller
    simp only [setAt, ← halike.isPlain]
    refine Steady.ite (Steady.pure _) ?_
    refine (steady_setMember flags halike).bind fun low => ?_
    refine (steady_eat (by decide)).bind fun taken => Steady.ite ?_ (ih _ (by omega) (by omega))
    refine Steady.next_bind (refuses_failAt offset _) ?_
      (staysLost_setBehindHyphen hlost found same low)
    intro last another hlast least hleast
    simp only [setBehindHyphen, ← hlast.isPlain]
    refine Steady.ite (Steady.pure _) ?_
    refine (steady_setMember flags hlast).bind fun high => ?_
    exact (steady_setRange halike hlast low high).bind fun range => ih _ (by omega) (by omega)

/-- The form of a set with some members. A set of one character is that character. -/
def setOf (flags : Flags) (negated : Bool) (items : List SetItem) : Scan Regex :=
  match items.eraseDups with
  | [.one code] => return flags.char code negated
  | items => return .set items negated flags.caseRule

private theorem charSet_eq (flags : Flags) (offset : Nat) :
    charSet flags offset = eat '^' >>= fun negated => get >>= fun source =>
      setItems flags offset [] (source.tokens.length + 1) >>= setOf flags negated := rfl

private theorem steady_setOf (flags : Flags) (negated : Bool) (items : List SetItem) :
    Steady dangling limit (setOf flags negated items) (setOf flags negated items) := by
  unfold setOf
  split <;> exact Steady.pure _

/-- Both readings take the same set of characters, wherever it stands. -/
theorem steady_charSet (flags : Flags) (offset other : Nat) :
    Steady dangling limit (charSet flags offset) (charSet flags other) := by
  rw [charSet_eq, charSet_eq]
  refine (steady_eat (by decide)).bind fun negated => ?_
  have hset : ∀ limit first second, limit < first → limit < second →
      Steady dangling limit (setItems flags offset [] first >>= setOf flags negated)
        (setItems flags other [] second >>= setOf flags negated) :=
    fun limit _ _ hfirst hsecond =>
      (steady_setItems flags offset other [] hfirst hsecond).bind (steady_setOf flags negated)
  exact Steady.of_fuel hset

/-- Both readings take the same count, or refuse it alike. -/
private theorem agrees_count (digits : List Char) (holds : Nat → Prop) :
    Agrees dangling Eq holds limit (count digits) (count digits) := by
  intro inner outer hsources
  unfold count
  by_cases hlong : Number.digitLimit < digits.length
  · rw [if_pos hlong, if_pos hlong]
    exact .same id
  rw [if_neg hlong, if_neg hlong]
  by_cases hlarge : countLimit ≤ ofDigits 10 digits
  · simp only [if_pos hlarge]
    exact .same id
  · simp only [if_neg hlarge]
    exact .ok rfl hsources

/-- A count may be refused in a lost reading only where there was something left to read. -/
private theorem staysLost_count (digits : List Char) : StaysLost true (fun _ => True) (count digits) := by
  intro source hlost
  unfold count
  by_cases hlong : Number.digitLimit < digits.length
  · rw [if_pos hlong]
    exact .inr ⟨rfl, trivial⟩
  rw [if_neg hlong]
  by_cases hlarge : countLimit ≤ ofDigits 10 digits
  · simp only [if_pos hlarge]
    exact .inr ⟨rfl, trivial⟩
  · simp only [if_neg hlarge]
    exact ⟨trivial, hlost⟩

private theorem agrees_runAll {condition : Char → Bool} (hcondition : condition ')' = false) :
    Agrees dangling Eq (fun _ => dangling = true) limit (runAll condition) (runAll condition) :=
  Agrees.get_bind fun inner outer _ hlength =>
    agrees_run hcondition (.inr ⟨Nat.le_refl _, by omega⟩)

private theorem staysLost_runAll (condition : Char → Bool) :
    StaysLost dangling (fun chars => dangling = false → chars = []) (runAll condition) :=
  StaysLost.get.bind fun source _ => staysLost_run condition source.tokens.length

/-- The lower count, which may be left out. -/
def lowCount (digits : List Char) : Scan Nat := if digits.isEmpty then pure 0 else count digits

/-- The digits of the upper count, which are those of the lower one if there is no comma. -/
def highDigits (least : List Char) (comma : Bool) : Scan (List Char) :=
  if comma then runAll isAsciiDigit else pure least

/-- The counts whose digits have been read, with the braces around them. -/
def countsOf (start : Source) (least most : List Char) : Scan (Option (Nat × Option Nat)) := do
  let low ← lowCount least
  if most.isEmpty then return some (low, none)
  else
    let high ← count most
    if high < low then failAt start.offset .reversedCounts else return some (low, some high)

/-- The digits of both counts, and whether the closing brace stands behind them. -/
def digitsOfCounts : Scan (List Char × List Char × Bool) := do
  let least ← runAll isAsciiDigit
  let comma ← eat ','
  let most ← highDigits least comma
  let closed ← eat '\x7d'
  return (least, most, closed)

/-- What an opening brace begins whose digits have been read. -/
def countsBehind (start : Source) (digits : List Char × List Char × Bool) :
    Scan (Option (Nat × Option Nat)) :=
  if !digits.2.2 then do
    MonadStateOf.set start
    return none
  else countsOf start digits.1 digits.2.1

/-- A choice between two readings is a choice between them with what follows. -/
theorem ite_bind {α β : Type} {condition : Prop} [Decidable condition] (first second : Scan α)
    (next : α → Scan β) :
    (if condition then first else second) >>= next =
      if condition then first >>= next else second >>= next := by
  by_cases hcondition : condition
  · rw [if_pos hcondition, if_pos hcondition]
  · rw [if_neg hcondition, if_neg hcondition]

private theorem bracedCounts?_eq : bracedCounts? = get >>= fun start => peek >>= fun token =>
    if token.any (·.isPlain '\x7d') then return none
    else digitsOfCounts >>= countsBehind start := by
  unfold bracedCounts? digitsOfCounts countsBehind countsOf lowCount highDigits
  simp only [ite_bind, bind_assoc, pure_bind]
  congr 1
  funext start
  congr 1
  funext token
  cases token <;> rfl

/-- A reading that only takes tokens which close no group. -/
def PassesBy {α : Type} (scan : Scan α) : Prop :=
  ∀ source a rest, scan source = .ok (a, rest) →
    ∃ front, source.tokens = front ++ rest.tokens ∧ ∀ token ∈ front, token.isPlain ')' = false

private theorem PassesBy.pure {α : Type} (a : α) : PassesBy (pure a : Scan α) := by
  rintro source _ _ ⟨⟩
  exact ⟨[], rfl, List.forall_mem_nil _⟩

private theorem PassesBy.bind {α β : Type} {scan : Scan α} {next : α → Scan β} (hscan : PassesBy scan)
    (hnext : ∀ a, PassesBy (next a)) : PassesBy (scan >>= next) := by
  intro source b rest hresult
  obtain ⟨a, between, hfirst, hsecond⟩ := exists_of_bind_eq_ok hresult
  obtain ⟨front, hfront, hpassed⟩ := hscan source a between hfirst
  obtain ⟨later, hlater, hbehind⟩ := hnext a between b rest hsecond
  refine ⟨front ++ later, by rw [hfront, hlater, List.append_assoc], ?_⟩
  intro token htoken
  exact (List.mem_append.1 htoken).elim (hpassed token) (hbehind token)

/-- The next token stands in front of what is left behind it. -/
theorem tokens_of_next {source rest : Source} {token : Option Token}
    (hnext : next source = .ok (token, rest)) : source.tokens = token.toList ++ rest.tokens := by
  obtain ⟨text, tokens, waits⟩ := source
  cases tokens with
  | nil =>
    cases hnext
    rfl
  | cons first later =>
    simp only [next, checkDangling] at hnext
    split at hnext
    · cases hnext
    · cases hnext
      rfl

/-- The next token is the first one that is left. -/
theorem head?_of_next {source rest : Source} {token : Option Token}
    (hnext : next source = .ok (token, rest)) : source.tokens.head? = token := by
  obtain ⟨text, tokens, waits⟩ := source
  cases tokens with
  | nil =>
    cases hnext
    rfl
  | cons first later =>
    simp only [next, checkDangling] at hnext
    split at hnext
    · cases hnext
    · cases hnext
      rfl

/-- The next token is passed by if it closes no group. -/
theorem exists_passed {α : Type} {later : Scan α} (hlater : PassesBy later) {source rest : Source} {a : α}
    (hresult : (next >>= fun _ => later) source = .ok (a, rest))
    (hopen : ∀ first ∈ source.tokens.head?, first.isPlain ')' = false) :
    ∃ front, source.tokens = front ++ rest.tokens ∧ ∀ first ∈ front, first.isPlain ')' = false := by
  obtain ⟨token, between, hnext, hbehind⟩ := exists_of_bind_eq_ok hresult
  have htokens := tokens_of_next hnext
  obtain ⟨front, hfront, hpassed⟩ := hlater between a rest hbehind
  refine ⟨token.toList ++ front, by rw [htokens, hfront, List.append_assoc], fun first hfirst => ?_⟩
  rcases List.mem_append.1 hfirst with htoken | hlast
  · refine hopen first ?_
    rw [htokens, Option.mem_toList.1 htoken]
    rfl
  · exact hpassed first hlast

/-- A token that is one character is no other one. -/
theorem isPlain_of_isPlain {token : Token} {c d : Char} (htoken : token.isPlain c = true) (hne : c ≠ d) :
    token.isPlain d = false := by
  obtain ⟨_, hchar⟩ := Bool.and_eq_true_iff.1 htoken
  simp [Token.isPlain, beq_iff_eq.1 hchar, hne]

/-- Taking a character other than the parenthesis closes no group. -/
private theorem passesBy_eat {c : Char} (hc : c ≠ ')') : PassesBy (eat c) := by
  rw [eat_eq]
  intro source taken rest hresult
  rw [peek_bind_apply] at hresult
  by_cases htoken : source.tokens.head?.any (·.isPlain c) = true
  · rw [if_pos htoken] at hresult
    refine exists_passed (PassesBy.pure true) hresult fun first hfirst => ?_
    rw [Option.mem_def.1 hfirst] at htoken
    exact isPlain_of_isPlain htoken hc
  · rw [if_neg htoken] at hresult
    exact PassesBy.pure false source taken rest hresult

/-- Taking a run of characters other than the parenthesis closes no group. -/
private theorem passesBy_run {condition : Char → Bool} (hcondition : condition ')' = false) (count : Nat) :
    PassesBy (run condition count) := by
  induction count with
  | zero => exact PassesBy.pure []
  | succ count ih =>
    rw [run_succ]
    intro source chars rest hresult
    rw [peek_bind_apply] at hresult
    cases htaken : source.tokens.head?.bind fun token => token.plain?.filter condition with
    | none =>
      rw [htaken] at hresult
      exact PassesBy.pure [] source chars rest hresult
    | some c =>
      rw [htaken] at hresult
      obtain ⟨token, htoken, hplain⟩ := Option.bind_eq_some_iff.1 htaken
      refine exists_passed (ih.bind fun _ => PassesBy.pure _) hresult fun first hfirst => ?_
      obtain rfl := Option.some.inj (htoken.symm.trans hfirst)
      cases hclosing : token.isPlain ')' with
      | false => rfl
      | true =>
        have hcode : token.code = ')' := beq_iff_eq.1 (Bool.and_eq_true_iff.1 hclosing).2
        cases (Token.plain?_filter_of_code_eq hcode hcondition).symm.trans hplain

private theorem passesBy_runAll {condition : Char → Bool} (hcondition : condition ')' = false) :
    PassesBy (runAll condition) :=
  fun source => passesBy_run hcondition source.tokens.length source

private theorem passesBy_digitsOfCounts : PassesBy digitsOfCounts := by
  refine (passesBy_runAll (by decide)).bind fun least => ?_
  refine (passesBy_eat (by decide)).bind fun comma => ?_
  have hmost : PassesBy (highDigits least comma) := by
    cases comma with
    | false => exact PassesBy.pure least
    | true => exact passesBy_runAll (by decide)
  exact hmost.bind fun most => (passesBy_eat (by decide)).bind fun closed => PassesBy.pure _

private theorem agrees_lowCount (digits : List Char) (holds : Nat → Prop) :
    Agrees dangling Eq holds limit (lowCount digits) (lowCount digits) := by
  exact Agrees.ite (fun _ => Agrees.pure rfl) fun _ => agrees_count digits holds

/-- Both readings refuse the same counts. -/
theorem agrees_countsOf (start other : Source) (least most : List Char) :
    Agrees dangling Eq (fun _ => True) limit (countsOf start least most)
      (countsOf other least most) := by
  refine (agrees_lowCount least fun _ => False).bind ?_ fun _ hnot => hnot.elim
  rintro low _ rfl
  by_cases hmost : most.isEmpty = true
  · rw [if_pos hmost, if_pos hmost]
    exact Agrees.pure rfl
  rw [if_neg hmost, if_neg hmost]
  refine (agrees_count most fun _ => False).bind ?_ fun _ hnot => hnot.elim
  rintro high _ rfl
  by_cases hless : high < low
  · rw [if_pos hless, if_pos hless]
    exact Agrees.failAt _ _ _
  · rw [if_neg hless, if_neg hless]
    exact Agrees.pure rfl

private theorem staysLost_countsOf (start : Source) (least most : List Char) :
    StaysLost true (fun _ => True) (countsOf start least most) := by
  have hlow : StaysLost true (fun _ => True) (lowCount least) :=
    StaysLost.ite (StaysLost.pure trivial) (staysLost_count least)
  refine hlow.bind fun low _ => StaysLost.ite (StaysLost.pure trivial) ?_
  refine (staysLost_count most).bind fun high _ => ?_
  exact StaysLost.ite (StaysLost.failAt _ _) (StaysLost.pure trivial)

private theorem agrees_highDigits (least : List Char) (comma : Bool) :
    Agrees dangling Eq (fun _ => dangling = true) limit (highDigits least comma)
      (highDigits least comma) := by
  cases comma with
  | false => exact Agrees.pure rfl
  | true => exact agrees_runAll (by decide)

private theorem steady_highDigits (least : List Char) (comma : Bool) :
    Steady dangling limit (highDigits least comma) (highDigits least comma) :=
  ⟨(agrees_highDigits least comma).imp fun _ _ => trivial,
    StaysLost.ite ((staysLost_runAll isAsciiDigit).imp fun _ _ => trivial) (StaysLost.pure trivial)⟩

/-- Only a lone backslash at the end of the text can end the digits of the counts early. -/
theorem agrees_digitsOfCounts :
    Agrees dangling Eq (fun _ => dangling = true) limit digitsOfCounts digitsOfCounts := by
  cases dangling with
  | true =>
    have hsteady : Steady true limit digitsOfCounts digitsOfCounts := by
      have hall : Steady true limit (runAll isAsciiDigit) (runAll isAsciiDigit) :=
        ⟨(agrees_runAll (by decide)).imp fun _ _ => trivial,
          (staysLost_runAll isAsciiDigit).imp fun _ _ => trivial⟩
      refine hall.bind fun least => (steady_eat (by decide)).bind fun comma => ?_
      refine (steady_highDigits least comma).bind fun most => ?_
      exact (steady_eat (by decide)).bind fun closed => Steady.pure _
    exact hsteady.agrees.imp fun _ _ => rfl
  | false =>
    refine (agrees_runAll (by decide)).bind ?_ fun _ hnot => absurd hnot Bool.false_ne_true
    rintro least _ rfl
    refine (agrees_eat (by decide)).bind ?_ fun _ hnot => absurd hnot Bool.false_ne_true
    rintro comma _ rfl
    refine (agrees_highDigits least comma).bind ?_ fun _ hnot => absurd hnot Bool.false_ne_true
    rintro most _ rfl
    refine (agrees_eat (by decide)).bind ?_ fun _ hnot => absurd hnot Bool.false_ne_true
    rintro closed _ rfl
    exact Agrees.pure rfl

private theorem staysLost_digitsOfCounts :
    StaysLost dangling (fun digits => dangling = false → digits.2.2 = false) digitsOfCounts := by
  refine (staysLost_runAll isAsciiDigit).bind fun least _ => ?_
  refine (staysLost_eat ',').bind fun comma _ => ?_
  have hmost : StaysLost dangling (fun _ => True) (highDigits least comma) :=
    StaysLost.ite ((staysLost_runAll isAsciiDigit).imp fun _ _ => trivial) (StaysLost.pure trivial)
  refine hmost.bind fun most _ => ?_
  exact (staysLost_eat '\x7d').bind fun closed hclosed => StaysLost.pure hclosed

/-- Behind its digits, a lost reading goes on as lost, or from the beginning of them again. -/
theorem staysLost_countsBehind {start : Source} (hstart : start.IsLost dangling)
    {digits : List Char × List Char × Bool} (hdigits : dangling = false → digits.2.2 = false) :
    StaysLost dangling (fun _ => True) (countsBehind start digits) := by
  obtain ⟨least, most, closed⟩ := digits
  cases closed with
  | false => exact fun _ _ => ⟨trivial, hstart⟩
  | true =>
    -- Where nothing is left to read, there is no closing brace.
    cases dangling with
    | false => exact absurd (hdigits rfl).symm Bool.false_ne_true
    | true => exact staysLost_countsOf start least most

/-- Both readings read the same counts, or take the brace for a character like others. -/
theorem agree_counts {inner outer : Source} (hsources : Source.Encloses dangling limit inner outer) :
    Agree dangling Eq (fun _ => True) limit ((digitsOfCounts >>= countsBehind inner) inner)
      ((digitsOfCounts >>= countsBehind outer) outer) := by
  refine ((agrees_digitsOfCounts inner outer hsources).bind_or ?_ ?_).resolve_right not_false
  · rintro digits _ between _ _ _ rfl hrest
    obtain ⟨least, most, closed⟩ := digits
    cases closed with
    | false => exact .inl (.ok rfl hsources)
    | true => exact .inl (agrees_countsOf inner outer least most _ _ hrest)
  · intro digits rest hdigits hwaits hlost
    obtain ⟨front, hfront, hpassed⟩ := passesBy_digitsOfCounts outer digits rest hdigits
    have hnot : dangling ≠ false := fun hfalse =>
      absurd (hfalse.symm.trans hwaits) Bool.false_ne_true
    have houter : outer.IsLost dangling := by
      refine ⟨hsources.dangling_outer, fun token htoken => ?_, fun hfalse => absurd hfalse hnot⟩
      rw [hfront] at htoken
      exact (List.mem_append.1 htoken).elim (hpassed token) (hlost.no_closing token)
    exact staysLost_countsBehind houter (fun hfalse => absurd hfalse hnot) rest hlost

/-- Both readings find the same counts in braces. -/
theorem steady_bracedCounts? : Steady dangling limit bracedCounts? bracedCounts? := by
  rw [bracedCounts?_eq]
  constructor
  · intro inner outer hsources
    have hsame : outer.tokens.head?.any (·.isPlain '\x7d') = inner.tokens.head?.any (·.isPlain '\x7d') :=
      hsources.closed.head?_any (by decide)
    rw [get_bind_apply, get_bind_apply, peek_bind_apply, peek_bind_apply, hsame]
    by_cases hbrace : inner.tokens.head?.any (·.isPlain '\x7d') = true
    · rw [if_pos hbrace, if_pos hbrace]
      exact .ok rfl hsources
    · rw [if_neg hbrace, if_neg hbrace]
      exact agree_counts hsources
  · refine StaysLost.get.bind fun start hstart => StaysLost.peek.bind fun token _ => ?_
    refine StaysLost.ite (StaysLost.pure trivial) ?_
    exact staysLost_digitsOfCounts.bind fun digits hdigits => staysLost_countsBehind hstart hdigits

/-- Both readings find the same greed of a repetition. -/
theorem steady_greed : Steady dangling limit greed greed := by
  refine (steady_eat (by decide)).bind fun lazy => Steady.ite (Steady.pure _) ?_
  refine (steady_eat (by decide)).bind fun possessive => ?_
  exact Steady.ite (Steady.pure _) (Steady.pure _)

end BareStrings.Regex.Scan
