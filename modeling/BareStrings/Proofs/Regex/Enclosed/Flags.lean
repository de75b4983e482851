import BareStrings.Proofs.Regex.Enclosed.Item

namespace BareStrings.Regex

open BareStrings.Text BareStrings.Unicode

/-- Whether a token is the letter of an option. -/
def Token.IsFlag (token : Token) : Prop := (token.plain?.bind Scan.flag?).isSome = true

private theorem Token.Alike.isFlag_iff {first second : Token} (halike : first.Alike second) :
    first.IsFlag ↔ second.IsFlag := by
  rw [Token.IsFlag, Token.IsFlag, halike.plain?]

/-- A text that sets options for the whole expression at its beginning, behind nothing but comments. -/
inductive SetsOptions : List Token → Prop
  | letters {opening mark closing : Token} {letters rest : List Token}
    (hopening : opening.isPlain '(' = true) (hmark : mark.isPlain '?' = true) (hne : letters ≠ [])
    (hletters : ∀ letter ∈ letters, letter.IsFlag)
    (hclosing : closing.isPlain ')' = true) :
    SetsOptions (opening :: mark :: (letters ++ closing :: rest))
  | comment {opening mark sharp closing : Token} {inside rest : List Token}
    (hopening : opening.isPlain '(' = true) (hmark : mark.isPlain '?' = true)
    (hsharp : sharp.isPlain '#' = true) (hinside : ∀ token ∈ inside, token.isPlain ')' = false)
    (hclosing : closing.isPlain ')' = true) (hrest : SetsOptions rest) :
    SetsOptions (opening :: mark :: sharp :: (inside ++ closing :: rest))

/-- A text that sets options at its beginning begins with a parenthesis. -/
theorem SetsOptions.head?_any {tokens : List Token} (hsets : SetsOptions tokens) :
    tokens.head?.any (·.isPlain '(') = true := by
  cases hsets with
  | letters hopening => exact hopening
  | comment hopening => exact hopening

namespace Scan

variable {dangling : Bool} {limit : Nat}

/-- Where a letter of an option is expected, the end of the text is refused. -/
theorem refuses_flagLetter (missing locale : Fault) : Refuses (flagLetter none missing locale) :=
  refuses_fail missing 0

/-- Reading a letter of an option, both readings keep to the same options. -/
theorem steady_flagLetter {token same : Token} (halike : token.Alike same) (missing locale : Fault) :
    Steady dangling limit (flagLetter (some token) missing locale)
      (flagLetter (some same) missing locale) := by
  have hflag : same.plain?.bind flag? = token.plain?.bind flag? := by rw [halike.plain?]
  simp only [flagLetter, hflag, ← halike.isPlain, ← halike.source, ← halike.1, ← halike.2]
  cases token.plain?.bind flag? with
  | some flags => exact Steady.pure _
  | none => exact Steady.ite (Steady.fail _ _) (Steady.ite (Steady.fail _ _) (Steady.fail _ _))

/-- A lost reading finds its way back through no letter of an option. -/
theorem staysLost_flagLetter (token : Option Token) (missing locale : Fault) :
    StaysLost dangling (fun _ => True) (flagLetter token missing locale) := by
  cases token with
  | none => exact StaysLost.of_refuses (refuses_flagLetter missing locale)
  | some token => exact (@steady_flagLetter dangling 0 token token ⟨rfl, rfl⟩ missing locale).lost

/-- The character that ends the letters of options to turn on, if a token is one. -/
def ending? (token : Option Token) : Option Char :=
  (token.bind Token.plain?).filter [')', '-', ':'].contains

/-- How the options to turn on go on at a token. -/
def flagsOnAt (found : Flags) (fuel : Nat) (token : Option Token) : Scan (Flags × Char) :=
  match ending? token with
  | some ending => return (found, ending)
  | none => do
    let more ← flagLetter token .flagsNotEnded .localeFlag
    flagsOn (joinFlags found more) fuel

/-- Options to turn on are read letter by letter, as long as they are compatible. -/
private theorem flagsOn_succ (found : Flags) (fuel : Nat) : flagsOn found (fuel + 1) =
    if found.ascii && found.unicode then fail .incompatibleFlags 0
    else next >>= flagsOnAt found fuel := by
  rw [flagsOn]
  rfl

private theorem staysLost_flagsOnAt {fuel : Nat}
    (hlater : ∀ found, StaysLost dangling (fun _ => True) (flagsOn found fuel)) (found : Flags)
    (token : Option Token) : StaysLost dangling (fun _ => True) (flagsOnAt found fuel token) := by
  unfold flagsOnAt
  split
  · exact StaysLost.pure trivial
  · exact (staysLost_flagLetter token _ _).bind fun more _ => hlater _

private theorem staysLost_flagsOn (found : Flags) (fuel : Nat) :
    StaysLost dangling (fun _ => True) (flagsOn found fuel) := by
  induction fuel generalizing found with
  | zero => exact StaysLost.fail _ _
  | succ fuel ih =>
    rw [flagsOn_succ]
    refine StaysLost.ite (StaysLost.fail _ _) ?_
    exact StaysLost.next.bind fun token _ => staysLost_flagsOnAt ih found token

/-- Both readings turn the same options on, each with fuel for all of its tokens. -/
theorem steady_flagsOn (found : Flags) {first second : Nat} (hfirst : limit < first)
    (hsecond : limit < second) :
    Steady dangling limit (flagsOn found first) (flagsOn found second) := by
  induction first generalizing found limit second with
  | zero => exact absurd hfirst (Nat.not_lt_zero limit)
  | succ first ih =>
    obtain ⟨second, rfl⟩ := Nat.exists_eq_add_one_of_ne_zero (Nat.ne_zero_of_lt hsecond)
    rw [flagsOn_succ, flagsOn_succ]
    refine Steady.ite (Steady.fail _ _) ?_
    refine Steady.next_bind ((refuses_flagLetter _ _).bind _) ?_
      (staysLost_flagsOnAt (fun found => staysLost_flagsOn found second) found)
    intro token same halike smaller hsmaller
    have hends : ending? (some same) = ending? (some token) := by
      simp only [ending?, Option.bind_some, halike.plain?]
    unfold flagsOnAt
    rw [hends]
    cases ending? (some token) with
    | some ending => exact Steady.pure _
    | none => exact (steady_flagLetter halike _ _).bind fun more => ih _ (by omega) (by omega)

/-- How the options to turn off go on at a token. -/
def flagsOffAt (found : Flags) (fuel : Nat) (token : Option Token) : Scan Flags :=
  match token.filter (·.isPlain ':') with
  | some _ => return found
  | none => do
    let more ← flagLetter token .missingColon .kindFlagOff
    flagsOff (joinFlags found more) fuel

private theorem flagsOff_succ (found : Flags) (fuel : Nat) : flagsOff found (fuel + 1) =
    if found.ascii || found.unicode then fail .kindFlagOff 0
    else next >>= flagsOffAt found fuel := by
  rw [flagsOff]
  rfl

private theorem staysLost_flagsOffAt {fuel : Nat}
    (hlater : ∀ found, StaysLost dangling (fun _ => True) (flagsOff found fuel)) (found : Flags)
    (token : Option Token) : StaysLost dangling (fun _ => True) (flagsOffAt found fuel token) := by
  unfold flagsOffAt
  split
  · exact StaysLost.pure trivial
  · exact (staysLost_flagLetter token _ _).bind fun more _ => hlater _

/-- A lost reading stays lost in the options to turn off. -/
theorem staysLost_flagsOff (found : Flags) (fuel : Nat) :
    StaysLost dangling (fun _ => True) (flagsOff found fuel) := by
  induction fuel generalizing found with
  | zero => exact StaysLost.fail _ _
  | succ fuel ih =>
    rw [flagsOff_succ]
    refine StaysLost.ite (StaysLost.fail _ _) ?_
    exact StaysLost.next.bind fun token _ => staysLost_flagsOffAt ih found token

/-- Both readings turn the same options off, each with fuel for all of its tokens. -/
theorem steady_flagsOff (found : Flags) {first second : Nat} (hfirst : limit < first)
    (hsecond : limit < second) :
    Steady dangling limit (flagsOff found first) (flagsOff found second) := by
  induction first generalizing found limit second with
  | zero => exact absurd hfirst (Nat.not_lt_zero limit)
  | succ first ih =>
    obtain ⟨second, rfl⟩ := Nat.exists_eq_add_one_of_ne_zero (Nat.ne_zero_of_lt hsecond)
    rw [flagsOff_succ, flagsOff_succ]
    refine Steady.ite (Steady.fail _ _) ?_
    refine Steady.next_bind ((refuses_flagLetter _ _).bind _) ?_
      (staysLost_flagsOffAt (fun found => staysLost_flagsOff found second) found)
    intro token same halike smaller hsmaller
    by_cases hcolon : token.isPlain ':' = true
    · simp only [flagsOffAt, Option.filter_some, ← halike.isPlain, hcolon, if_true]
      exact Steady.pure _
    · simp only [flagsOffAt, Option.filter_some, ← halike.isPlain, hcolon]
      exact (steady_flagLetter halike _ _).bind fun more => ih _ (by omega) (by omega)

/-- A letter of an option is taken only if there is one, and nothing else is taken with it. -/
theorem flagLetter_eq_ok {token : Option Token} {missing locale : Fault} {source rest : Source}
    {flags : Flags} (hresult : flagLetter token missing locale source = .ok (flags, rest)) :
    rest = source ∧
      ∃ letter, token = some letter ∧ letter.IsFlag := by
  cases token with
  | none => cases hresult
  | some token =>
    simp only [flagLetter] at hresult
    cases hfound : token.plain?.bind flag? with
    | none =>
      rw [hfound] at hresult
      by_cases hlocale : token.isPlain 'L' = true
      · rw [if_pos hlocale] at hresult
        cases hresult
      rw [if_neg hlocale] at hresult
      by_cases hunknown : (!token.escaped && isLetter token.code) = true
      · rw [if_pos hunknown] at hresult
        cases hresult
      · rw [if_neg hunknown] at hresult
        cases hresult
    | some found =>
      rw [hfound] at hresult
      cases hresult
      exact ⟨rfl, token, rfl, Option.isSome_iff_exists.2 ⟨flags, hfound⟩⟩

/-- Options for the whole expression are letters up to a closing parenthesis. -/
theorem exists_letters {found on : Flags} {fuel : Nat} {source rest : Source}
    (hresult : flagsOn found fuel source = .ok ((on, ')'), rest)) :
    ∃ letters closing, source.tokens = letters ++ closing :: rest.tokens ∧
      closing.isPlain ')' = true ∧ ∀ letter ∈ letters, letter.IsFlag := by
  induction fuel generalizing found source with
  | zero => cases hresult
  | succ fuel ih =>
    rw [flagsOn_succ] at hresult
    by_cases hclash : (found.ascii && found.unicode) = true
    · rw [if_pos hclash] at hresult
      cases hresult
    rw [if_neg hclash] at hresult
    obtain ⟨token, between, hnext, hbehind⟩ := exists_of_bind_eq_ok hresult
    have htokens := tokens_of_next hnext
    unfold flagsOnAt at hbehind
    cases hlast : ending? token with
    | some ending =>
      rw [hlast] at hbehind
      cases hbehind
      obtain ⟨last, rfl, hplain⟩ := Option.bind_eq_some_iff.1 (Option.filter_eq_some_iff.1 hlast).1
      exact ⟨[], last, htokens, Token.plain?_eq_some_iff.1 hplain, List.forall_mem_nil _⟩
    | none =>
      rw [hlast] at hbehind
      obtain ⟨more, _, hletter, hrest⟩ := exists_of_bind_eq_ok hbehind
      obtain ⟨rfl, letter, rfl, hflag⟩ := flagLetter_eq_ok hletter
      obtain ⟨letters, closing, hsplit, hclosing, hletters⟩ := ih hrest
      refine ⟨letter :: letters, closing, ?_, hclosing,
        List.forall_mem_cons.2 ⟨hflag, hletters⟩⟩
      rw [htokens, hsplit]
      rfl

/-- A comment goes up to a closing parenthesis. -/
theorem exists_inside {offset fuel : Nat} {source rest : Source}
    (hresult : comment offset fuel source = .ok ((), rest)) :
    ∃ inside closing, source.tokens = inside ++ closing :: rest.tokens ∧
      closing.isPlain ')' = true ∧ ∀ token ∈ inside, token.isPlain ')' = false := by
  induction fuel generalizing source with
  | zero => cases hresult
  | succ fuel ih =>
    rw [comment_succ] at hresult
    obtain ⟨token, between, hnext, hbehind⟩ := exists_of_bind_eq_ok hresult
    have htokens := tokens_of_next hnext
    cases token with
    | none => cases hbehind
    | some token =>
      simp only [commentAt] at hbehind
      by_cases hclosing : token.isPlain ')' = true
      · rw [if_pos hclosing] at hbehind
        cases hbehind
        exact ⟨[], token, htokens, hclosing, List.forall_mem_nil _⟩
      · rw [if_neg hclosing] at hbehind
        obtain ⟨inside, closing, hsplit, hlast, hinside⟩ := ih hbehind
        refine ⟨token :: inside, closing, ?_, hlast,
          List.forall_mem_cons.2 ⟨Bool.eq_false_iff.2 hclosing, hinside⟩⟩
        rw [htokens, hsplit]
        rfl

/-- A letter of an option is no character that names no option. -/
theorem isPlain_of_flag {token : Token} (hflag : token.IsFlag) {c : Char} (hc : flag? c = none) :
    token.isPlain c = false := by
  rw [Bool.eq_false_iff]
  intro hplain
  rw [Token.IsFlag, Token.plain?_eq_some_iff.2 hplain, Option.bind_some, hc] at hflag
  cases hflag

private theorem ending?_of_flag {letter : Token} (hflag : letter.IsFlag) : ending? (some letter) = none := by
  rw [ending?, Option.filter_eq_none_iff]
  intro c hc hends
  have hletter : flag? c = none := by
    simp only [List.contains_eq_mem, List.mem_cons, List.not_mem_nil, or_false, decide_eq_true_eq] at hends
    rcases hends with rfl | rfl | rfl <;> rfl
  have hplain := isPlain_of_flag hflag hletter
  rw [Token.plain?_eq_some_iff.1 hc] at hplain
  cases hplain

private theorem ending?_of_isPlain {closing : Token} (hclosing : closing.isPlain ')' = true) :
    ending? (some closing) = some ')' := by
  rw [ending?, Option.bind_some, Token.plain?_eq_some_iff.2 hclosing]
  rfl

/-- Every letter of an option is read as some options. -/
theorem flagLetter_of_flag {letter : Token} (hflag : letter.IsFlag) (missing locale : Fault) :
    ∃ flags, flagLetter (some letter) missing locale = pure flags := by
  obtain ⟨flags, hflags⟩ := Option.isSome_iff_exists.1 hflag
  refine ⟨flags, ?_⟩
  simp only [flagLetter, hflags]

/-- Letters up to a closing parenthesis are options for the whole expression, unless they are at odds with
each other. -/
theorem flagsOn_letters {letters rest : List Token} {closing : Token}
    (hletters : ∀ letter ∈ letters, letter.IsFlag)
    (hclosing : closing.isPlain ')' = true) (text : List CodePoint) (found : Flags) {fuel : Nat}
    (hfuel : letters.length < fuel) :
    (∃ error, flagsOn found fuel ⟨text, letters ++ closing :: rest, false⟩ = .error error ∧
        error.IsFault) ∨
      ∃ on, flagsOn found fuel ⟨text, letters ++ closing :: rest, false⟩ =
        .ok ((on, ')'), ⟨text, rest, false⟩) := by
  induction letters generalizing found fuel with
  | nil =>
    obtain ⟨fuel, rfl⟩ := Nat.exists_eq_add_one_of_ne_zero (Nat.ne_zero_of_lt hfuel)
    rw [flagsOn_succ]
    by_cases hclash : (found.ascii && found.unicode) = true
    · rw [if_pos hclash]
      exact .inl ⟨_, rfl, trivial⟩
    · refine .inr ⟨found, ?_⟩
      rw [if_neg hclash, List.nil_append, bind_of_ok (Regex.next_cons text closing rest), flagsOnAt,
        ending?_of_isPlain hclosing]
      rfl
  | cons letter letters ih =>
    obtain ⟨fuel, rfl⟩ := Nat.exists_eq_add_one_of_ne_zero (Nat.ne_zero_of_lt hfuel)
    obtain ⟨hflag, hlater⟩ := List.forall_mem_cons.1 hletters
    rw [flagsOn_succ]
    by_cases hclash : (found.ascii && found.unicode) = true
    · rw [if_pos hclash]
      exact .inl ⟨_, rfl, trivial⟩
    · obtain ⟨more, hmore⟩ := flagLetter_of_flag hflag .flagsNotEnded .localeFlag
      rw [if_neg hclash, List.cons_append, bind_of_ok (Regex.next_cons text letter _)]
      simp only [flagsOnAt, ending?_of_flag hflag, hmore, pure_bind]
      exact ih hlater (joinFlags found more) (Nat.lt_of_succ_lt_succ hfuel)

/-- A comment is passed over up to its closing parenthesis. -/
theorem comment_inside {inside rest : List Token} {closing : Token}
    (hinside : ∀ token ∈ inside, token.isPlain ')' = false) (hclosing : closing.isPlain ')' = true)
    (text : List CodePoint) (offset : Nat) {fuel : Nat} (hfuel : inside.length < fuel) :
    comment offset fuel ⟨text, inside ++ closing :: rest, false⟩ = .ok ((), ⟨text, rest, false⟩) := by
  induction inside generalizing fuel with
  | nil =>
    obtain ⟨fuel, rfl⟩ := Nat.exists_eq_add_one_of_ne_zero (Nat.ne_zero_of_lt hfuel)
    rw [comment_succ, List.nil_append, bind_of_ok (Regex.next_cons text closing rest), commentAt,
      if_pos hclosing]
    rfl
  | cons token inside ih =>
    obtain ⟨fuel, rfl⟩ := Nat.exists_eq_add_one_of_ne_zero (Nat.ne_zero_of_lt hfuel)
    obtain ⟨htoken, hlater⟩ := List.forall_mem_cons.1 hinside
    rw [comment_succ, List.cons_append, bind_of_ok (Regex.next_cons text token _), commentAt, htoken]
    exact ih hlater (Nat.lt_of_succ_lt_succ hfuel)

end Scan

/-- Of the tokens in front, none is lost and none is new. -/
theorem ClosedBy.split {dangling : Bool} {front back others : List Token}
    (hclosed : ClosedBy dangling (front ++ back) others) :
    ∃ front' back', others = front' ++ back' ∧ front'.length = front.length ∧
      (∀ same ∈ front', ∃ token ∈ front, token.Alike same) ∧ ClosedBy dangling back back' := by
  induction front generalizing others with
  | nil => exact ⟨[], others, rfl, rfl, List.forall_mem_nil _, hclosed⟩
  | cons token front ih =>
    cases hclosed with
    | @cons _ same _ _ halike hlater =>
      obtain ⟨front', back', rfl, hlength, hfront, hback⟩ := ih hlater
      refine ⟨same :: front', back', rfl, congrArg (· + 1) hlength,
        List.forall_mem_cons.2 ⟨⟨token, List.mem_cons_self, halike⟩, fun other hother => ?_⟩, hback⟩
      obtain ⟨first, hfirst, hsame⟩ := hfront other hother
      exact ⟨first, List.mem_cons_of_mem token hfirst, hsame⟩

/-- A text that sets options does so with a parenthesis behind it as well. -/
theorem SetsOptions.closed {dangling : Bool} {tokens others : List Token} (hsets : SetsOptions tokens)
    (hclosed : ClosedBy dangling tokens others) : SetsOptions others := by
  induction hsets generalizing others with
  | letters hopening hmark hne hletters hclosing =>
    obtain ⟨_, _⟩ | ⟨hopening', _ | ⟨hmark', hlater⟩⟩ := hclosed
    obtain ⟨letters', back, rfl, hlength, halike, _ | ⟨hclosing', _⟩⟩ := hlater.split
    refine .letters (hopening'.isPlain '(' ▸ hopening) (hmark'.isPlain '?' ▸ hmark) ?_ ?_
      (hclosing'.isPlain ')' ▸ hclosing)
    · rintro rfl
      exact hne (List.eq_nil_of_length_eq_zero hlength.symm)
    · intro same hsame
      obtain ⟨letter, hletter, hboth⟩ := halike same hsame
      exact hboth.isFlag_iff.1 (hletters letter hletter)
  | comment hopening hmark hsharp hinside hclosing hrest ih =>
    obtain ⟨_, _⟩ | ⟨hopening', _ | ⟨hmark', _ | ⟨hsharp', hlater⟩⟩⟩ := hclosed
    obtain ⟨inside', back, rfl, _, halike, _ | ⟨hclosing', hbehind⟩⟩ := hlater.split
    refine .comment (hopening'.isPlain '(' ▸ hopening) (hmark'.isPlain '?' ▸ hmark)
      (hsharp'.isPlain '#' ▸ hsharp) ?_ (hclosing'.isPlain ')' ▸ hclosing) (ih hbehind)
    intro same hsame
    obtain ⟨token, htoken, hboth⟩ := halike same hsame
    rw [← hboth.isPlain]
    exact hinside token htoken

end BareStrings.Regex
