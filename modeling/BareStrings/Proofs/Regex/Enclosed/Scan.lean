import BareStrings.Proofs.Regex.Literal

namespace BareStrings.Regex

open BareStrings.Text

/-- The same token, wherever it stands. -/
def Token.Alike (first second : Token) : Prop :=
  first.escaped = second.escaped ∧ first.code = second.code

namespace Token.Alike

variable {first second : Token}

/-- Tokens that are alike are the same plain character. -/
theorem isPlain (halike : first.Alike second) (c : Char) : first.isPlain c = second.isPlain c := by
  rw [Token.isPlain, Token.isPlain, halike.1, halike.2]

/-- Tokens that are alike have the same plain character, if they have one. -/
theorem plain? (halike : first.Alike second) : first.plain? = second.plain? := by
  rw [Token.plain?, Token.plain?, halike.1, halike.2]

/-- Tokens that are alike are written in the same way. -/
theorem source (halike : first.Alike second) : first.source = second.source := by
  rw [Token.source, Token.source, halike.1, halike.2]

end Token.Alike

/-- Whether an error is a fault in the source, at whatever place. -/
def SyntaxError.IsFault : SyntaxError → Prop
  | .fault .. => True
  | .countTooLarge | .countTooLong _ | .clashingKinds | .lookBehindTooLong => False

/-- Whether an error is a repetition count that cannot be used. -/
def SyntaxError.IsCount : SyntaxError → Prop
  | .countTooLarge | .countTooLong _ => True
  | .fault .. | .clashingKinds | .lookBehindTooLong => False

/-- Tokens, and the same with a parenthesis behind them. It is escaped if a backslash at the end of the
text has been waiting for something to escape. -/
inductive ClosedBy (dangling : Bool) : List Token → List Token → Prop
  | last {token : Token} (hcode : token.code = ')') (hescaped : token.escaped = dangling) :
    ClosedBy dangling [] [token]
  | cons {first second : Token} {tokens others : List Token} (halike : first.Alike second)
    (hlater : ClosedBy dangling tokens others) : ClosedBy dangling (first :: tokens) (second :: others)

/-- The plain character of a token is the one that it is. -/
theorem Token.plain?_eq_some_iff {token : Token} {c : Char} :
    token.plain? = some c ↔ token.isPlain c = true := by
  cases hescaped : token.escaped with
  | true => simp [Token.plain?, Token.isPlain, hescaped]
  | false => simp [Token.plain?, Token.isPlain, hescaped, CodePoint.toChar?_eq_some_iff]

private theorem Token.isPlain_of_code_eq {token : Token} (htoken : token.code = ')') {c : Char}
    (hc : c ≠ ')') : token.isPlain c = false := by
  simp [Token.isPlain, htoken, hc.symm]

/-- No condition that leaves the parenthesis out takes a parenthesis. -/
theorem Token.plain?_filter_of_code_eq {token : Token} (htoken : token.code = ')') {condition : Char → Bool}
    (hcondition : condition ')' = false) : token.plain?.filter condition = none := by
  rw [Token.plain?, htoken, CodePoint.toChar?_ofChar]
  split
  · rfl
  · rw [Option.filter_some, hcondition, if_neg Bool.false_ne_true]

/-- The parenthesis is one token more. -/
theorem ClosedBy.length_eq {dangling : Bool} {tokens others : List Token}
    (hclosed : ClosedBy dangling tokens others) : others.length = tokens.length + 1 := by
  induction hclosed with
  | last => rfl
  | cons _ _ ih => rw [List.length_cons, List.length_cons, ih]

/-- Whether a character comes next, other than the parenthesis. -/
theorem ClosedBy.head?_any {dangling : Bool} {tokens others : List Token}
    (hclosed : ClosedBy dangling tokens others) {c : Char} (hc : c ≠ ')') :
    others.head?.any (·.isPlain c) = tokens.head?.any (·.isPlain c) := by
  cases hclosed with
  | last hcode => exact Token.isPlain_of_code_eq hcode hc
  | cons halike => exact (halike.isPlain c).symm

namespace Source

/-- At most a number of tokens are left of a source, and the same of another one, with a parenthesis
behind them. -/
structure Encloses (dangling : Bool) (limit : Nat) (inner outer : Source) : Prop where
  bound : inner.tokens.length ≤ limit
  closed : ClosedBy dangling inner.tokens outer.tokens
  dangling_inner : inner.dangling = dangling
  dangling_outer : outer.dangling = false
  not_empty : dangling = true → inner.tokens ≠ []

/-- What is left of a source when the parenthesis behind the text has been taken for a part of the text:
nothing, or the parenthesis itself if it is escaped. -/
structure IsLost (dangling : Bool) (source : Source) : Prop where
  settled : source.dangling = false
  no_closing : ∀ token ∈ source.tokens, token.isPlain ')' = false
  tokens_eq_nil : dangling = false → source.tokens = []

variable {dangling : Bool} {limit : Nat} {inner outer source : Source}

/-- Sources that are near their ends are so for any greater limit. -/
theorem Encloses.mono (hsources : Encloses dangling limit inner outer) {other : Nat}
    (hle : limit ≤ other) : Encloses dangling other inner outer :=
  { hsources with bound := Nat.le_trans hsources.bound hle }

/-- The tokens that are left are limit enough. -/
theorem Encloses.tight (hsources : Encloses dangling limit inner outer) :
    Encloses dangling inner.tokens.length inner outer :=
  { hsources with bound := Nat.le_refl _ }

private theorem Encloses.bound_tail {text text' : List CodePoint} {token same : Token}
    {tokens others : List Token} {waits waits' : Bool}
    (hsources : Encloses dangling limit ⟨text, token :: tokens, waits⟩ ⟨text', same :: others, waits'⟩) :
    tokens.length ≤ limit :=
  Nat.le_of_succ_le hsources.bound

private theorem IsLost.tail {text : List CodePoint} {token : Token} {tokens : List Token}
    (hlost : IsLost dangling ⟨text, token :: tokens, false⟩) : IsLost dangling ⟨text, tokens, false⟩ where
  settled := rfl
  no_closing := fun other hother => hlost.no_closing other (List.mem_cons_of_mem token hother)
  tokens_eq_nil := fun hnot => absurd (hlost.tokens_eq_nil hnot) (List.cons_ne_nil token tokens)

end Source

open Source (Encloses IsLost)

namespace Scan

variable {α β : Type} {dangling : Bool}

/-- A reading that succeeds goes on with its value and with what it leaves. -/
theorem bind_of_ok {scan : Scan α} {source rest : Source} {a : α}
    (hscan : scan source = .ok (a, rest)) (next : α → Scan β) :
    (scan >>= next) source = next a rest := by
  simp only [bind, StateT.bind, Except.bind, hscan]

/-- A reading that fails is not gone on with. -/
theorem bind_of_error {scan : Scan α} {source : Source} {error : SyntaxError}
    (hscan : scan source = .error error) (next : α → Scan β) :
    (scan >>= next) source = .error error := by
  simp only [bind, StateT.bind, Except.bind, hscan]

/-- Looking at the source changes nothing about it. -/
theorem get_bind_apply (next : Source → Scan α) (source : Source) :
    (get >>= next) source = next source source := rfl

/-- Looking at the next token changes nothing about the source. -/
theorem peek_bind_apply (next : Option Token → Scan α) (source : Source) :
    (peek >>= next) source = next source.tokens.head? source := rfl

/-- Where two readings succeed, each of them does. -/
theorem exists_of_bind_eq_ok {scan : Scan α} {next : α → Scan β} {source rest : Source} {b : β}
    (hresult : (scan >>= next) source = .ok (b, rest)) :
    ∃ a between, scan source = .ok (a, between) ∧ next a between = .ok (b, rest) := by
  cases hscan : scan source with
  | error error =>
    rw [bind_of_error hscan] at hresult
    cases hresult
  | ok result => exact ⟨result.1, result.2, rfl, (bind_of_ok hscan next).symm.trans hresult⟩

/-- A reading that ends with a fault. -/
def Refuses (scan : Scan α) : Prop := ∀ source, ∃ error, scan source = .error error ∧ error.IsFault

/-- A failure refuses every source. -/
theorem refuses_fail (fault : Fault) (back : Nat) : Refuses (fail fault back : Scan α) :=
  fun _ => ⟨_, rfl, trivial⟩

/-- A failure at a fixed place refuses every source. -/
theorem refuses_failAt (offset : Nat) (fault : Fault) : Refuses (failAt offset fault : Scan α) :=
  fun _ => ⟨_, rfl, trivial⟩

/-- Nothing follows a refusal. -/
theorem Refuses.bind {scan : Scan α} (hscan : Refuses scan) (next : α → Scan β) :
    Refuses (scan >>= next) := by
  intro source
  obtain ⟨error, herror, hfault⟩ := hscan source
  exact ⟨error, bind_of_error herror next, hfault⟩

/-- How a lost reading goes on: with a value that satisfies a condition, or with a refusal. Counts can
only be wrong if there was something left to read. -/
def GoesOnLost (dangling : Bool) (holds : α → Prop) : Except SyntaxError (α × Source) → Prop
  | .ok (a, source) => holds a ∧ source.IsLost dangling
  | .error error => error.IsFault ∨ dangling = true ∧ error.IsCount

private theorem GoesOnLost.imp {holds weaker : α → Prop} {result : Except SyntaxError (α × Source)}
    (hgoes : GoesOnLost dangling holds result) (himp : ∀ a, holds a → weaker a) :
    GoesOnLost dangling weaker result := by
  cases result with
  | error error => exact hgoes
  | ok result => exact ⟨himp _ hgoes.1, hgoes.2⟩

/-- A lost reading stays lost. -/
def StaysLost (dangling : Bool) (holds : α → Prop) (scan : Scan α) : Prop :=
  ∀ source, source.IsLost dangling → GoesOnLost dangling holds (scan source)

namespace StaysLost

variable {holds : α → Prop} {also : β → Prop} {scan : Scan α}

/-- A lost reading that ends where it is stays lost. -/
theorem pure {a : α} (ha : holds a) : StaysLost dangling holds (pure a : Scan α) :=
  fun _ hlost => ⟨ha, hlost⟩

/-- A refusal is one way for a lost reading to go on. -/
theorem of_refuses (hrefuses : Refuses scan) : StaysLost dangling holds scan := by
  intro source _
  obtain ⟨error, hscan, hfault⟩ := hrefuses source
  rw [hscan]
  exact .inl hfault

/-- A lost reading may fail. -/
theorem fail (fault : Fault) (back : Nat) : StaysLost dangling holds (fail fault back) :=
  of_refuses (refuses_fail fault back)

/-- A lost reading may fail at a fixed place. -/
theorem failAt (offset : Nat) (fault : Fault) : StaysLost dangling holds (failAt offset fault) :=
  of_refuses (refuses_failAt offset fault)

/-- Lost readings, one after the other, stay lost. -/
theorem bind (hscan : StaysLost dangling holds scan) {next : α → Scan β}
    (hnext : ∀ a, holds a → StaysLost dangling also (next a)) :
    StaysLost dangling also (scan >>= next) := by
  intro source hlost
  have hgoes := hscan source hlost
  cases hresult : scan source with
  | error error =>
    rw [bind_of_error hresult]
    rw [hresult] at hgoes
    exact hgoes
  | ok result =>
    obtain ⟨a, rest⟩ := result
    rw [bind_of_ok hresult]
    rw [hresult] at hgoes
    exact hnext a hgoes.1 rest hgoes.2

/-- A lost reading stays lost with any weaker condition on its value. -/
theorem imp (hscan : StaysLost dangling holds scan) {weaker : α → Prop} (himp : ∀ a, holds a → weaker a) :
    StaysLost dangling weaker scan := by
  exact fun source hlost => (hscan source hlost).imp himp

/-- A lost reading stays lost whichever of two ways it takes. -/
theorem ite {condition : Prop} [Decidable condition] {other : Scan α}
    (hscan : StaysLost dangling holds scan) (hother : StaysLost dangling holds other) :
    StaysLost dangling holds (if condition then scan else other) := by
  by_cases hcondition : condition
  · rwa [if_pos hcondition]
  · rwa [if_neg hcondition]

/-- A lost reading finds a lost source. -/
theorem get : StaysLost dangling (IsLost dangling) (get : Scan Source) := fun _ hlost => ⟨hlost, hlost⟩

/-- A lost reading sees no parenthesis that could close a group. -/
theorem peek : StaysLost dangling
    (fun token => (∀ t ∈ token, t.isPlain ')' = false) ∧ (dangling = false → token = none)) peek := by
  intro source hlost
  refine ⟨⟨fun token htoken => hlost.no_closing token (List.mem_of_mem_head? htoken), fun hnot => ?_⟩,
    hlost⟩
  rw [hlost.tokens_eq_nil hnot]
  rfl

/-- A lost reading finds nothing more, unless a backslash has been waiting at the end. -/
theorem next : StaysLost dangling (fun token => dangling = false → token = none) next := by
  rintro ⟨text, tokens, waits⟩ hlost
  obtain rfl : waits = false := hlost.settled
  cases tokens with
  | nil => exact ⟨fun _ => rfl, hlost⟩
  | cons token tokens =>
    rw [next_cons]
    exact ⟨fun hnot => absurd (hlost.tokens_eq_nil hnot) (List.cons_ne_nil _ _), hlost.tail⟩

end StaysLost

/-- How two readings compare: both go on, with values and sources that belong together; or both refuse
alike, for something other than a fault; or the inner one ends in a fault, and the outer one is lost. The
readings go side by side until the inner one comes to the end of the text. If it asks for more there, it
refuses the text, and the outer one takes the parenthesis for a part of the text. -/
inductive Agree (dangling : Bool) (related : α → α → Prop) (holds : α → Prop) (limit : Nat) :
    Except SyntaxError (α × Source) → Except SyntaxError (α × Source) → Prop
  | ok {a b : α} {inner outer : Source} (hvalues : related a b)
    (hsources : Encloses dangling limit inner outer) :
    Agree dangling related holds limit (.ok (a, inner)) (.ok (b, outer))
  | same {error : SyntaxError} (hother : ¬error.IsFault) :
    Agree dangling related holds limit (.error error) (.error error)
  | lost {error : SyntaxError} {result : Except SyntaxError (α × Source)} (hfault : error.IsFault)
    (hgoes : GoesOnLost dangling holds result) : Agree dangling related holds limit (.error error) result

/-- Two readings that agree wherever they go side by side. -/
def Agrees (dangling : Bool) (related : α → α → Prop) (holds : α → Prop) (limit : Nat)
    (first second : Scan α) : Prop :=
  ∀ inner outer, Encloses dangling limit inner outer →
    Agree dangling related holds limit (first inner) (second outer)

/-- Outcomes that compare do so for any greater limit. -/
theorem Agree.mono {related : α → α → Prop} {holds : α → Prop} {limit other : Nat}
    {first second : Except SyntaxError (α × Source)}
    (hagree : Agree dangling related holds limit first second) (hle : limit ≤ other) :
    Agree dangling related holds other first second := by
  cases hagree with
  | ok hvalues hsources => exact .ok hvalues (hsources.mono hle)
  | same hother => exact .same hother
  | lost hfault hgoes => exact .lost hfault hgoes

private theorem Agree.imp {related : α → α → Prop} {holds weaker : α → Prop} {limit : Nat}
    {first second : Except SyntaxError (α × Source)}
    (hagree : Agree dangling related holds limit first second) (himp : ∀ a, holds a → weaker a) :
    Agree dangling related weaker limit first second := by
  cases hagree with
  | ok hvalues hrest => exact .ok hvalues hrest
  | same hother => exact .same hother
  | lost hfault hgoes => exact .lost hfault (hgoes.imp himp)

section Bind

variable {related : α → α → Prop} {holds : α → Prop} {relatedNext : β → β → Prop} {also : β → Prop}
  {limit smaller : Nat} {first second : Scan α}

/-- What follows two readings that agree agrees as well, or whatever comes of it where both go on. -/
theorem Agree.bind_or {inner outer : Source} {otherwise : Prop}
    (hagree : Agree dangling related holds smaller (first inner) (second outer))
    {next other : α → Scan β}
    (hnext : ∀ a b inner' outer', first inner = .ok (a, inner') → second outer = .ok (b, outer') →
      related a b → Encloses dangling smaller inner' outer' →
      Agree dangling relatedNext also smaller (next a inner') (other b outer') ∨ otherwise)
    (hlost : ∀ b rest, second outer = .ok (b, rest) → holds b → rest.IsLost dangling →
      GoesOnLost dangling also (other b rest)) :
    Agree dangling relatedNext also smaller ((first >>= next) inner) ((second >>= other) outer) ∨
      otherwise := by
  revert hagree
  generalize hfirst : first inner = firstResult
  generalize hsecond : second outer = secondResult
  intro hagree
  cases hagree with
  | ok hvalues hrest =>
    rw [bind_of_ok hfirst, bind_of_ok hsecond]
    exact hnext _ _ _ _ hfirst hsecond hvalues hrest
  | same hother =>
    rw [bind_of_error hfirst, bind_of_error hsecond]
    exact .inl (.same hother)
  | lost hfault hgoes =>
    rw [bind_of_error hfirst]
    refine .inl (.lost hfault ?_)
    cases secondResult with
    | error error =>
      rw [bind_of_error hsecond]
      exact hgoes
    | ok result =>
      rw [bind_of_ok hsecond]
      exact hlost _ _ hsecond hgoes.1 hgoes.2

/-- Readings that follow readings that agree agree as well. -/
theorem Agree.bind {inner outer : Source}
    (hagree : Agree dangling related holds smaller (first inner) (second outer))
    {next other : α → Scan β}
    (hnext : ∀ a b, related a b → Agrees dangling relatedNext also smaller (next a) (other b))
    (hlost : ∀ b, holds b → StaysLost dangling also (other b)) :
    Agree dangling relatedNext also smaller ((first >>= next) inner) ((second >>= other) outer) := by
  refine (hagree.bind_or ?_ ?_).resolve_right not_false
  · exact fun a b inner' outer' _ _ hvalues hrest => .inl (hnext a b hvalues inner' outer' hrest)
  · exact fun b rest _ hb hrest => hlost b hb rest hrest

/-- A token that is left is taken by both readings. If the text ends in a lone backslash behind it, the
inner reading sees that at once. -/
theorem Agree.next_cons {text text' : List CodePoint} {token same : Token} {tokens others : List Token}
    {waits : Bool} (hlater : ClosedBy waits tokens others) :
    Agree waits (fun a b => a = some token ∧ b = some same) (fun b => b = some same ∧ waits = true)
      tokens.length (next ⟨text, token :: tokens, waits⟩) (next ⟨text', same :: others, false⟩) := by
  rw [Regex.next_cons]
  by_cases hends : tokens.isEmpty && waits
  · obtain ⟨hempty, rfl⟩ := Bool.and_eq_true_iff.1 hends
    obtain rfl := List.isEmpty_iff.1 hempty
    have hinner : ∃ error, next ⟨text, [token], true⟩ = .error error ∧ error.IsFault :=
      ⟨_, rfl, trivial⟩
    obtain ⟨error, herror, hfault⟩ := hinner
    rw [herror]
    refine .lost hfault ⟨⟨rfl, rfl⟩, rfl, ?_, fun hfalse => absurd hfalse.symm Bool.false_ne_true⟩
    cases hlater with
    | last hcode hescaped =>
      intro token htoken
      obtain rfl := List.mem_singleton.1 htoken
      simp [Token.isPlain, hescaped]
  · have hchecked : checkDangling ⟨text, tokens, waits⟩ = .ok ((), ⟨text, tokens, waits⟩) :=
      if_neg hends
    have hinner : next ⟨text, token :: tokens, waits⟩ = .ok (some token, ⟨text, tokens, waits⟩) := by
      simp only [next, hchecked, Bind.bind, Except.bind, Pure.pure, Except.pure]
    rw [hinner]
    refine .ok ⟨rfl, rfl⟩ ⟨Nat.le_refl _, hlater, rfl, rfl, ?_⟩
    rintro rfl rfl
    exact hends rfl

/-- Both readings take the next token. At the end of the text, the inner reading finds none, which must be a
fault, and the outer one finds the parenthesis. -/
theorem Agree.next_bind_or {inner outer : Source} {otherwise : Prop}
    (hsources : Encloses dangling limit inner outer) {next other : Option Token → Scan β}
    (hnone : Refuses (next none))
    (hsome : ∀ token same rest rest', Scan.next inner = .ok (some token, rest) →
      Scan.next outer = .ok (some same, rest') → Token.Alike token same →
      rest.tokens.length < limit → Encloses dangling rest.tokens.length rest rest' →
      Agree dangling relatedNext also rest.tokens.length (next (some token) rest)
        (other (some same) rest') ∨ otherwise)
    (hlost : ∀ token, StaysLost dangling also (other (some token))) :
    Agree dangling relatedNext also limit ((Scan.next >>= next) inner) ((Scan.next >>= other) outer) ∨
      otherwise := by
  obtain ⟨text, tokens, waits⟩ := inner
  obtain ⟨text', others, waits'⟩ := outer
  obtain ⟨hbound, hclosed, rfl, rfl, _⟩ := hsources
  dsimp only at hclosed hbound
  cases hclosed with
  | last hcode hescaped =>
    obtain ⟨error, herror, hfault⟩ := hnone ⟨text, [], waits⟩
    have hinner : Scan.next ⟨text, [], waits⟩ = .ok (none, ⟨text, [], waits⟩) := rfl
    rw [bind_of_ok hinner, herror, bind_of_ok (Regex.next_cons text' _ _)]
    exact .inl (.lost hfault (hlost _ _ ⟨rfl, List.forall_mem_nil _, fun _ => rfl⟩))
  | cons halike hlater =>
    refine ((Agree.next_cons hlater).bind_or ?_ ?_).imp_left fun hagree =>
      hagree.mono (Nat.le_of_lt hbound)
    · rintro _ _ rest rest' hinner houter ⟨rfl, rfl⟩ hrest
      have hless := Nat.lt_of_le_of_lt hrest.bound hbound
      exact (hsome _ _ rest rest' hinner houter halike hless hrest.tight).imp_left fun hagree =>
        hagree.mono hrest.bound
    · rintro _ rest _ ⟨rfl, _⟩ hlost'
      exact hlost _ rest hlost'

namespace Agrees

/-- Values that belong together agree. -/
theorem pure {a b : α} (hvalues : related a b) :
    Agrees dangling related holds limit (pure a) (pure b) :=
  fun _ _ hsources => .ok hvalues hsources

/-- Refusals agree. -/
theorem of_refuses (hfirst : Refuses first) (hsecond : Refuses second) :
    Agrees dangling related holds limit first second := by
  intro inner outer _
  obtain ⟨error, hinner, hfault⟩ := hfirst inner
  obtain ⟨other, houter, hother⟩ := hsecond outer
  rw [hinner, houter]
  exact .lost hfault (.inl hother)

/-- Failures agree, for whatever faults. -/
theorem fail (fault other : Fault) (back more : Nat) :
    Agrees dangling related holds limit (fail fault back) (Scan.fail other more) :=
  of_refuses (refuses_fail fault back) (refuses_fail other more)

/-- Failures at fixed places agree, for whatever places. -/
theorem failAt (fault : Fault) (offset other : Nat) :
    Agrees dangling related holds limit (failAt offset fault) (Scan.failAt other fault) :=
  of_refuses (refuses_failAt offset fault) (refuses_failAt other fault)

/-- Readings agree, one after the other, if those behind them agree on values that belong together. -/
theorem bind (hscans : Agrees dangling related holds limit first second) {next other : α → Scan β}
    (hnext : ∀ a b, related a b → Agrees dangling relatedNext also limit (next a) (other b))
    (hlost : ∀ b, holds b → StaysLost dangling also (other b)) :
    Agrees dangling relatedNext also limit (first >>= next) (second >>= other) :=
  fun inner outer hsources => (hscans inner outer hsources).bind hnext hlost

/-- Readings that agree do so with any weaker condition on the value of a lost one. -/
theorem imp (hscans : Agrees dangling related holds limit first second) {weaker : α → Prop}
    (himp : ∀ a, holds a → weaker a) : Agrees dangling related weaker limit first second := by
  exact fun inner outer hsources => (hscans inner outer hsources).imp himp

/-- Readings agree whichever of two ways both of them take. -/
theorem ite {condition : Prop} [Decidable condition] {third fourth : Scan α}
    (hholds : condition → Agrees dangling related holds limit first second)
    (hnot : ¬condition → Agrees dangling related holds limit third fourth) :
    Agrees dangling related holds limit (if condition then first else third)
      (if condition then second else fourth) := by
  by_cases hcondition : condition
  · rw [if_pos hcondition, if_pos hcondition]
    exact hholds hcondition
  · rw [if_neg hcondition, if_neg hcondition]
    exact hnot hcondition

/-- Readings agree if they agree behind the next token, and refuse to end where it is missing. -/
theorem next_bind {next other : Option Token → Scan β} (hnone : Refuses (next none))
    (hsome : ∀ token same, Token.Alike token same → ∀ smaller < limit,
      Agrees dangling relatedNext also smaller (next (some token)) (other (some same)))
    (hlost : ∀ token, StaysLost dangling also (other (some token))) :
    Agrees dangling relatedNext also limit (Scan.next >>= next) (Scan.next >>= other) := by
  intro inner outer hsources
  refine (Agree.next_bind_or hsources hnone ?_ hlost).resolve_right not_false
  intro token same rest rest' _ _ halike hless hrest
  exact .inl (hsome token same halike _ hless rest rest' hrest)

/-- Both readings look at the next token. At the end of the text, the inner reading sees none, and the
outer one sees the parenthesis. -/
theorem peek_bind {next other : Option Token → Scan β}
    (hsome : ∀ text text' token same tokens others, Token.Alike token same →
      ClosedBy dangling tokens others →
      Encloses dangling limit ⟨text, token :: tokens, dangling⟩ ⟨text', same :: others, false⟩ →
      Agree dangling relatedNext also limit (next (some token) ⟨text, token :: tokens, dangling⟩)
        (other (some same) ⟨text', same :: others, false⟩))
    (hends : ∀ token : Token, token.code = ')' →
      Agrees dangling relatedNext also limit (next none) (other (some token))) :
    Agrees dangling relatedNext also limit (peek >>= next) (peek >>= other) := by
  rintro ⟨text, tokens, waits⟩ ⟨text', others, waits'⟩ hsources
  have hclosed := hsources.closed
  obtain rfl : waits = dangling := hsources.dangling_inner
  obtain rfl : waits' = false := hsources.dangling_outer
  cases hclosed with
  | last hcode hescaped => exact hends _ hcode _ _ hsources
  | cons halike hlater => exact hsome text text' _ _ _ _ halike hlater hsources

/-- The number of tokens that are left is a bound for both readings, with one more for the outer one. -/
theorem get_bind {next other : Source → Scan β}
    (hnext : ∀ inner outer, Encloses dangling inner.tokens.length inner outer →
      outer.tokens.length = inner.tokens.length + 1 →
      Agrees dangling relatedNext also inner.tokens.length (next inner) (other outer)) :
    Agrees dangling relatedNext also limit (get >>= next) (get >>= other) := by
  intro inner outer hsources
  have hlength : outer.tokens.length = inner.tokens.length + 1 := hsources.closed.length_eq
  exact (hnext inner outer hsources.tight hlength inner outer hsources.tight).mono hsources.bound

end Agrees

end Bind

/-- Two readings that agree on the same value, and of which the outer one stays lost. -/
structure Steady (dangling : Bool) (limit : Nat) (first second : Scan α) : Prop where
  agrees : Agrees dangling Eq (fun _ => True) limit first second
  lost : StaysLost dangling (fun _ => True) second

variable {limit : Nat}

namespace Steady

variable {first second : Scan α}

/-- Both readings give the same value. -/
theorem pure (a : α) : Steady dangling limit (pure a) (pure a) :=
  ⟨Agrees.pure rfl, StaysLost.pure trivial⟩

private theorem of_refuses (hfirst : Refuses first) (hsecond : Refuses second) :
    Steady dangling limit first second :=
  ⟨Agrees.of_refuses hfirst hsecond, StaysLost.of_refuses hsecond⟩

/-- Both readings may fail. -/
theorem fail (fault : Fault) (back : Nat) :
    Steady dangling limit (fail fault back : Scan α) (Scan.fail fault back) :=
  of_refuses (refuses_fail fault back) (refuses_fail fault back)

/-- Readings are steady whichever of two ways both of them take. -/
theorem ite {condition : Prop} [Decidable condition] {third fourth : Scan α}
    (hholds : Steady dangling limit first second) (hnot : Steady dangling limit third fourth) :
    Steady dangling limit (if condition then first else third)
      (if condition then second else fourth) := by
  by_cases hcondition : condition
  · rwa [if_pos hcondition, if_pos hcondition]
  · rwa [if_neg hcondition, if_neg hcondition]

/-- Steady readings, one after the other, are steady. -/
theorem bind (hscans : Steady dangling limit first second) {next other : α → Scan β}
    (hnext : ∀ a, Steady dangling limit (next a) (other a)) :
    Steady dangling limit (first >>= next) (second >>= other) := by
  refine ⟨hscans.agrees.bind ?_ fun a _ => (hnext a).lost, hscans.lost.bind fun a _ => (hnext a).lost⟩
  rintro a _ rfl
  exact (hnext a).agrees

/-- Readings are steady if they are so behind the next token, and refuse to end where it is missing. -/
theorem next_bind {next other : Option Token → Scan β} (hnone : Refuses (next none))
    (hsome : ∀ token same, Token.Alike token same → ∀ smaller < limit,
      Steady dangling smaller (next (some token)) (other (some same)))
    (hlost : ∀ token, StaysLost dangling (fun _ => True) (other token)) :
    Steady dangling limit (Scan.next >>= next) (Scan.next >>= other) :=
  ⟨Agrees.next_bind hnone (fun token same halike smaller hsmaller =>
    (hsome token same halike smaller hsmaller).agrees) fun token => hlost (some token),
    StaysLost.next.bind fun token _ => hlost token⟩

/-- A reading with as much fuel as there are tokens, and one more. -/
theorem of_fuel {next other : Nat → Scan β}
    (hnext : ∀ limit first second, limit < first → limit < second →
      Steady dangling limit (next first) (other second)) :
    Steady dangling limit (do next ((← get).tokens.length + 1))
      (do other ((← get).tokens.length + 1)) := by
  constructor
  · refine Agrees.get_bind fun inner outer _ hlength => ?_
    exact (hnext _ _ _ (Nat.lt_succ_self _) (by omega)).agrees
  · exact StaysLost.get.bind fun source _ => (hnext 0 1 _ Nat.one_pos (Nat.succ_pos _)).lost

end Steady

/-- Taking a character if it comes next is looking at the next token first. -/
theorem eat_eq (c : Char) : eat c = peek >>= fun token =>
    if token.any (·.isPlain c) then (do let _ ← next; return true) else return false := by
  unfold eat
  congr 1
  funext token
  cases token <;> rfl

/-- A lost reading takes no character, unless a backslash has been waiting at the end. -/
theorem staysLost_eat (c : Char) :
    StaysLost dangling (fun taken => dangling = false → taken = false) (eat c) := by
  rw [eat_eq]
  refine StaysLost.peek.bind fun token hpeek => ?_
  by_cases htoken : token.any (·.isPlain c) = true
  · rw [if_pos htoken]
    refine StaysLost.next.bind fun _ _ => StaysLost.pure fun hnot => ?_
    rw [hpeek.2 hnot] at htoken
    cases htoken
  · rw [if_neg htoken]
    exact StaysLost.pure fun _ => rfl

/-- A character other than the parenthesis is taken by both readings or by neither. -/
theorem agrees_eat {c : Char} (hc : c ≠ ')') :
    Agrees dangling Eq (fun _ => dangling = true) limit (eat c) (eat c) := by
  rw [eat_eq]
  refine Agrees.peek_bind ?_ ?_
  · intro text text' token same tokens others halike hlater hsources
    by_cases htoken : token.isPlain c = true
    · have hsame := halike.isPlain c ▸ htoken
      simp only [Option.any_some, htoken, hsame, if_true]
      exact ((Agree.next_cons hlater).bind (fun _ _ _ => Agrees.pure rfl)
        fun _ hshort => by exact StaysLost.pure hshort.2).mono hsources.bound_tail
    · have hsame := halike.isPlain c ▸ htoken
      simp only [Option.any_some, htoken, hsame]
      exact .ok rfl hsources
  · intro token hcode
    simp only [Option.any_none, Option.any_some, Token.isPlain_of_code_eq hcode hc]
    exact Agrees.pure rfl

/-- A run of characters is read one by one, as long as the next one satisfies the condition. -/
theorem run_succ (condition : Char → Bool) (limit : Nat) : run condition (limit + 1) =
    peek >>= fun token =>
      match token.bind fun token => token.plain?.filter condition with
      | some c => do
        let _ ← next
        return c :: (← run condition limit)
      | none => return [] := by
  rw [run]
  congr 1
  funext token
  cases token <;> rfl

/-- A lost reading finds an empty run, unless a backslash has been waiting at the end. -/
theorem staysLost_run (condition : Char → Bool) (limit : Nat) :
    StaysLost dangling (fun chars => dangling = false → chars = []) (run condition limit) := by
  induction limit with
  | zero => exact StaysLost.pure fun _ => rfl
  | succ limit ih =>
    rw [run_succ]
    refine StaysLost.peek.bind fun token hpeek => ?_
    split
    · rename_i taken htaken
      refine StaysLost.next.bind fun _ _ => ih.bind fun _ _ => StaysLost.pure fun hnot => ?_
      rw [hpeek.2 hnot] at htaken
      cases htaken
    · exact StaysLost.pure fun _ => rfl

/-- A run is empty if the next character does not satisfy the condition. -/
private theorem run_eq_nil {condition : Char → Bool} {source : Source}
    (hends : ∀ token ∈ source.tokens.head?, token.plain?.filter condition = none) (limit : Nat) :
    run condition limit source = .ok ([], source) := by
  cases limit with
  | zero => rfl
  | succ limit =>
    rw [run_succ, peek_bind_apply]
    cases hhead : source.tokens.head? with
    | none => rfl
    | some token =>
      simp only [Option.bind_some, hends token hhead]
      rfl

/-- At the end of the text, neither reading takes anything but the parenthesis. -/
theorem agrees_run_zero {condition : Char → Bool} (hcondition : condition ')' = false)
    (first second : Nat) :
    Agrees dangling Eq (fun _ => dangling = true) 0 (run condition first) (run condition second) := by
  rintro ⟨text, tokens, waits⟩ ⟨text', others, waits'⟩ hsources
  have hbound := hsources.bound
  have hclosed := hsources.closed
  cases hclosed with
  | last hcode hescaped =>
    have hinner : run condition first ⟨text, [], waits⟩ = .ok ([], ⟨text, [], waits⟩) :=
      run_eq_nil (by simp) first
    rw [hinner, run_eq_nil]
    · exact .ok rfl hsources
    · intro token htoken
      obtain rfl := Option.mem_some_iff.1 htoken
      exact Token.plain?_filter_of_code_eq hcode hcondition
  | cons => exact absurd hbound (Nat.not_succ_le_zero _)

/-- Characters that are no parenthesis are taken by both readings: up to the same number of them, or for
as long as there are any. -/
theorem agrees_run {condition : Char → Bool} (hcondition : condition ')' = false) {limit first : Nat}
    {second : Nat} (hfuel : first = second ∨ limit ≤ first ∧ limit ≤ second) :
    Agrees dangling Eq (fun _ => dangling = true) limit (run condition first)
      (run condition second) := by
  induction first generalizing limit second with
  | zero =>
    cases second with
    | zero => exact Agrees.pure rfl
    | succ second =>
      obtain rfl : limit = 0 := by omega
      exact agrees_run_zero hcondition 0 (second + 1)
  | succ first ih =>
    cases second with
    | zero =>
      obtain rfl : limit = 0 := by omega
      exact agrees_run_zero hcondition (first + 1) 0
    | succ second =>
      rw [run_succ, run_succ]
      refine Agrees.peek_bind ?_ ?_
      · intro text text' token same tokens others halike hlater hsources
        simp only [Option.bind_some, ← halike.plain?]
        cases token.plain?.filter condition with
        | some c =>
          have hrest : first = second ∨ tokens.length ≤ first ∧ tokens.length ≤ second := by
            have hbound : tokens.length + 1 ≤ limit := hsources.bound
            omega
          refine ((Agree.next_cons hlater).bind (fun _ _ _ => (ih hrest).bind ?_ ?_) ?_).mono
            hsources.bound_tail
          · rintro chars _ rfl
            exact Agrees.pure rfl
          · exact fun _ hwaits => StaysLost.pure hwaits
          · rintro _ ⟨_, hwaits⟩
            refine StaysLost.bind (staysLost_run condition second) ?_
            exact fun _ _ => StaysLost.pure hwaits
        | none => exact .ok rfl hsources
      · intro token hcode
        simp only [Option.bind_none, Option.bind_some, Token.plain?_filter_of_code_eq hcode hcondition]
        exact Agrees.pure rfl

/-- Both readings take any character but a parenthesis alike. -/
theorem steady_eat {c : Char} (hc : c ≠ ')') : Steady dangling limit (eat c) (eat c) :=
  ⟨(agrees_eat hc).imp fun _ _ => trivial, (staysLost_eat c).imp fun _ _ => trivial⟩

/-- Both readings take the same run of characters that are no parentheses. -/
theorem steady_run {condition : Char → Bool} (hcondition : condition ')' = false) (count : Nat) :
    Steady dangling limit (run condition count) (run condition count) :=
  ⟨(agrees_run hcondition (.inl rfl)).imp fun _ _ => trivial,
    (staysLost_run condition count).imp fun _ _ => trivial⟩

private theorem refuses_ended (closing : Char) (missing : Fault) (found : List CodePoint) :
    Refuses (nameUntil.ended closing missing found) := by
  unfold nameUntil.ended
  by_cases hempty : found.isEmpty = true
  · rw [if_pos hempty]
    exact refuses_fail missing 0
  · rw [if_neg hempty]
    exact refuses_fail _ _

/-- How a name goes on at a token. -/
def nameAt (closing : Char) (missing : Fault) (found : List CodePoint) (fuel : Nat) :
    Option Token → Scan (List CodePoint)
  | none => nameUntil.ended closing missing found
  | some token =>
    if token.isPlain closing then if found.isEmpty then fail missing 1 else return found
    else nameUntil closing missing (found ++ token.source) fuel

private theorem nameUntil_succ (closing : Char) (missing : Fault) (found : List CodePoint) (fuel : Nat) :
    nameUntil closing missing found (fuel + 1) = next >>= nameAt closing missing found fuel := by
  rw [nameUntil]
  congr 1

private theorem staysLost_nameAt {closing : Char} {missing : Fault} {fuel : Nat}
    (hlater : ∀ found, StaysLost dangling (fun _ => True) (nameUntil closing missing found fuel))
    (found : List CodePoint) (token : Option Token) :
    StaysLost dangling (fun _ => True) (nameAt closing missing found fuel token) := by
  cases token with
  | none => exact StaysLost.of_refuses (refuses_ended closing missing found)
  | some token =>
    refine StaysLost.ite (StaysLost.ite ?_ (StaysLost.pure trivial)) (hlater _)
    exact StaysLost.fail missing 1

private theorem staysLost_nameUntil (closing : Char) (missing : Fault) (found : List CodePoint) (fuel : Nat) :
    StaysLost dangling (fun _ => True) (nameUntil closing missing found fuel) := by
  induction fuel generalizing found with
  | zero => exact StaysLost.of_refuses (refuses_ended closing missing found)
  | succ fuel ih =>
    rw [nameUntil_succ]
    exact StaysLost.next.bind fun token _ => staysLost_nameAt ih found token

/-- A name goes up to the same closing character, or the text ends before there is one. -/
theorem steady_nameUntil (closing : Char) (missing : Fault) (found : List CodePoint) {first second : Nat}
    (hfirst : limit < first) (hsecond : limit < second) :
    Steady dangling limit (nameUntil closing missing found first)
      (nameUntil closing missing found second) := by
  induction first generalizing found limit second with
  | zero => exact absurd hfirst (Nat.not_lt_zero limit)
  | succ first ih =>
    obtain ⟨second, rfl⟩ := Nat.exists_eq_add_one_of_ne_zero (Nat.ne_zero_of_lt hsecond)
    rw [nameUntil_succ, nameUntil_succ]
    refine Steady.next_bind (refuses_ended closing missing found) ?_
      (staysLost_nameAt (fun found => staysLost_nameUntil closing missing found second) found)
    intro token same halike smaller hsmaller
    simp only [nameAt, ← halike.isPlain, ← halike.source]
    exact Steady.ite (Steady.ite (Steady.fail missing 1) (Steady.pure found))
      (ih _ (by omega) (by omega))

/-- Both readings take the same name of a group. -/
theorem steady_groupName (closing : Char) :
    Steady dangling limit (groupName closing) (groupName closing) :=
  Steady.of_fuel fun _ _ _ => steady_nameUntil closing _ []

/-- Both readings take the same name of a character. -/
theorem steady_characterName : Steady dangling limit characterName characterName := by
  refine (steady_eat (by decide)).bind fun opened => ?_
  exact Steady.ite (Steady.of_fuel fun _ _ _ => steady_nameUntil _ _ []) (Steady.fail _ _)

/-- How a comment goes on at a token. -/
def commentAt (offset fuel : Nat) : Option Token → Scan Unit
  | none => failAt offset .unterminatedComment
  | some token => if token.isPlain ')' then return () else comment offset fuel

/-- A comment is read token by token. -/
theorem comment_succ (offset fuel : Nat) :
    comment offset (fuel + 1) = next >>= commentAt offset fuel := by
  rw [comment]
  congr 1

private theorem staysLost_commentAt {offset fuel : Nat}
    (hlater : StaysLost dangling (fun _ => True) (comment offset fuel)) (token : Option Token) :
    StaysLost dangling (fun _ => True) (commentAt offset fuel token) := by
  cases token with
  | none => exact StaysLost.failAt offset _
  | some token => exact StaysLost.ite (StaysLost.pure trivial) hlater

/-- A lost reading stays lost in a comment. -/
theorem staysLost_comment (offset fuel : Nat) :
    StaysLost dangling (fun _ => True) (comment offset fuel) := by
  induction fuel with
  | zero => exact StaysLost.failAt offset _
  | succ fuel ih =>
    rw [comment_succ]
    exact StaysLost.next.bind fun token _ => staysLost_commentAt ih token

/-- A comment goes up to the same parenthesis, or the text ends before there is one. -/
theorem steady_comment (offset other : Nat) {first second : Nat} (hfirst : limit < first)
    (hsecond : limit < second) :
    Steady dangling limit (comment offset first) (comment other second) := by
  induction first generalizing limit second with
  | zero => exact absurd hfirst (Nat.not_lt_zero limit)
  | succ first ih =>
    obtain ⟨second, rfl⟩ := Nat.exists_eq_add_one_of_ne_zero (Nat.ne_zero_of_lt hsecond)
    rw [comment_succ, comment_succ]
    refine Steady.next_bind (refuses_failAt offset _) ?_
      (staysLost_commentAt (staysLost_comment other second))
    intro token same halike smaller hsmaller
    simp only [commentAt, ← halike.isPlain]
    exact Steady.ite (Steady.pure ()) (ih (by omega) (by omega))

end Scan

end BareStrings.Regex
