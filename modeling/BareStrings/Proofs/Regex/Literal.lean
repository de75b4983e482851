import BareStrings.Regex.Parse
import BareStrings.Text.Split

namespace BareStrings.Regex

open BareStrings.Text

/-- The form that matches one code point and nothing else. -/
def literalCode (code : CodePoint) : Regex := .char code false .exact

/-- The forms that match a text and nothing else. -/
def literalItems (text : List CodePoint) : List Regex := text.map literalCode

/-- A token that stands for its own code point: one with a meaning of its own is escaped, and any
other is not. -/
def Token.IsLiteral (token : Token) : Prop := token.escaped = isSpecial token.code

private theorem isSpecial_ofChar (c : Char) : isSpecial c = specialChars.contains c := by
  simp [isSpecial]

private theorem Token.IsLiteral.isPlain_eq_false {token : Token} (hliteral : token.IsLiteral) {c : Char}
    (hspecial : specialChars.contains c = true) : token.isPlain c = false := by
  unfold Token.isPlain
  by_cases hcode : token.code = c
  · have hescaped : token.escaped = true := by rw [hliteral, hcode, isSpecial_ofChar, hspecial]
    simp [hescaped]
  · simp [hcode]

/-- A bar that separates branches. -/
def Token.IsBar (token : Token) : Prop := token.escaped = false ∧ token.code = '|'

/-- A character other than a backslash is a token by itself. -/
theorem ofText_cons {code : CodePoint} (hcode : code ≠ '\\') (offset : Nat) (rest : List CodePoint) :
    Token.ofText offset (code :: rest) = ⟨offset, false, code⟩ :: Token.ofText (offset + 1) rest := by
  cases rest with
  | nil => simp [Token.ofText, hcode]
  | cons next rest => rw [Token.ofText, if_neg hcode]

/-- A backslash and the character behind it are one token. -/
theorem ofText_escaped (offset : Nat) (code : CodePoint) (rest : List CodePoint) :
    Token.ofText offset (CodePoint.ofChar '\\' :: code :: rest) =
      ⟨offset, true, code⟩ :: Token.ofText (offset + 2) rest := by
  rw [Token.ofText, if_pos rfl]

/-- An escaped code point is read as one literal token. -/
private theorem ofText_escapeCode (offset : Nat) (code : CodePoint) (rest : List CodePoint) :
    ∃ token behind, Token.ofText offset (escapeCode code ++ rest) = token :: Token.ofText behind rest ∧
      token.code = code ∧ token.IsLiteral := by
  unfold escapeCode
  split
  · rename_i hspecial
    exact ⟨⟨offset, true, code⟩, offset + 2, ofText_escaped offset code rest, rfl, hspecial.symm⟩
  · rename_i hspecial
    have hne : code ≠ '\\' := by
      rintro rfl
      exact hspecial rfl
    have hplain : isSpecial code = false := by simpa using hspecial
    exact ⟨⟨offset, false, code⟩, offset + 1, ofText_cons hne offset rest, rfl, hplain.symm⟩

/-- The tokens of an escaped text are its code points, whatever follows it. -/
theorem ofText_escapeText (text : List CodePoint) (offset : Nat) (rest : List CodePoint) :
    ∃ tokens behind, Token.ofText offset (escapeText text ++ rest) =
        tokens ++ Token.ofText behind rest ∧
      tokens.map (·.code) = text ∧ ∀ token ∈ tokens, token.IsLiteral := by
  induction text generalizing offset with
  | nil => exact ⟨[], offset, rfl, rfl, by simp⟩
  | cons code text ih =>
    obtain ⟨token, middle, hhead, hcode, hliteral⟩ :=
      ofText_escapeCode offset code (escapeText text ++ rest)
    obtain ⟨tokens, behind, htail, hcodes, hliterals⟩ := ih middle
    refine ⟨token :: tokens, behind, ?_, ?_, ?_⟩
    · rw [show escapeText (code :: text) = escapeCode code ++ escapeText text from rfl,
        List.append_assoc, hhead, htail, List.cons_append]
    · simp [hcode, hcodes]
    · simpa using ⟨hliteral, hliterals⟩

/-- An escaped code point leaves a backslash waiting only if one has been waiting for it. -/
private theorem endsDangling_escapeCode (text : List CodePoint) (code : CodePoint) :
    endsDangling (text ++ escapeCode code) = (code == CodePoint.ofChar '\\' && endsDangling text) := by
  unfold escapeCode endsDangling
  by_cases hslash : code = '\\'
  · subst hslash
    rw [if_pos (show isSpecial (CodePoint.ofChar '\\') = true from rfl)]
    simp only [List.reverse_append, List.reverse_cons, List.reverse_nil, List.nil_append,
      List.cons_append, beq_self_eq_true, List.takeWhile_cons, if_true, List.length_cons,
      Bool.true_and]
    rw [Nat.add_assoc, Nat.add_mod_right]
  · have hfirst : (code == CodePoint.ofChar '\\') = false := by simpa using hslash
    split <;> simp [hfirst]

/-- Whether a text with an escaped text behind it ends in a lone backslash is up to the first of
them: an escaped text never leaves its own backslashes unpaired. -/
theorem endsDangling_escapeText {text : List CodePoint} (hdangling : endsDangling text = false)
    (escaped : List CodePoint) : endsDangling (text ++ escapeText escaped) = false := by
  induction escaped generalizing text with
  | nil => simpa [escapeText] using hdangling
  | cons code escaped ih =>
    have hnext : endsDangling (text ++ escapeCode code) = false := by
      rw [endsDangling_escapeCode, hdangling, Bool.and_false]
    simpa [escapeText] using ih hnext

namespace ParseState

/-- What a literal token adds, and what a bar does. -/
def readLiteral (state : ParseState) (token : Token) : ParseState :=
  if token.isPlain '|' then Scan.branch state else state.push (literalCode token.code)

/-- A state outside of all groups under the default options. -/
structure IsPlain (state : ParseState) : Prop where
  flags_eq : state.flags = {}
  openGroups_eq : state.openGroups = []
  groups_eq : state.groups = {}
  asked_eq : state.asked = []

private theorem IsPlain.readLiteral {state : ParseState} (hplain : state.IsPlain) (token : Token) :
    (state.readLiteral token).IsPlain := by
  obtain ⟨hflags, hopen, hgroups, hasked⟩ := hplain
  unfold ParseState.readLiteral
  split <;> exact ⟨hflags, hopen, hgroups, hasked⟩

end ParseState

private theorem escape_special {c : Char} (hspecial : specialChars.contains c = true) (groups : Groups) :
    Scan.escape {} groups c = pure (literalCode c) := by
  simp only [specialChars, List.contains_eq_mem, List.mem_cons, List.not_mem_nil, or_false,
    decide_eq_true_eq] at hspecial
  rcases hspecial with h | h | h | h | h | h | h | h | h | h | h | h | h | h | h | h | h | h | h |
    h | h | h | h | h <;> subst h <;> rfl

private theorem escapedCode_special {code : CodePoint} (hspecial : isSpecial code = true) (groups : Groups) :
    Scan.escapedCode {} groups code = pure (literalCode code) := by
  obtain ⟨c, hchar, hc⟩ := (Option.any_eq_true _ _).1 hspecial
  obtain rfl := CodePoint.toChar?_eq_some_iff.1 hchar
  rw [Scan.escapedCode, hchar]
  exact escape_special hc groups

private theorem sign_plain {state : ParseState} (hflags : state.flags = {}) {c : Char}
    (hplain : specialChars.contains c = false) (offset : Nat) :
    Scan.sign state c offset = pure (state.push (literalCode c)) := by
  simp only [specialChars, List.contains_eq_mem, List.mem_cons, List.not_mem_nil, or_false,
    decide_eq_false_iff_not, not_or] at hplain
  simp only [Scan.sign, hflags, hplain, Bool.false_and, Bool.false_eq_true, if_false, or_self]
  rfl

/-- A token that stands for its own code point is read as that code point. -/
theorem step_literal {state : ParseState} (hplain : state.IsPlain) {token : Token}
    (hliteral : token.IsLiteral) :
    Scan.step state token = pure (state.push (literalCode token.code)) := by
  obtain ⟨hflags, _, hgroups, _⟩ := hplain
  unfold Scan.step
  cases hescaped : token.escaped with
  | true =>
    have hspecial : isSpecial token.code = true := by rw [← hliteral, hescaped]
    simp only [if_true, hflags, hgroups, escapedCode_special hspecial, pure_bind]
  | false =>
    have hnot : isSpecial token.code = false := by rw [← hliteral, hescaped]
    rw [if_neg Bool.false_ne_true]
    split
    · rename_i c hchar
      have hcode := CodePoint.toChar?_eq_some_iff.1 hchar
      rw [hcode, isSpecial_ofChar] at hnot
      rw [sign_plain hflags hnot, hcode]
    · rw [hflags]
      rfl

/-- The next token is the first one that is left. -/
theorem next_cons (text : List CodePoint) (token : Token) (tokens : List Token) :
    Scan.next ⟨text, token :: tokens, false⟩ = .ok (some token, ⟨text, tokens, false⟩) := by
  have hchecked : Scan.checkDangling ⟨text, tokens, false⟩ = .ok ((), ⟨text, tokens, false⟩) := by
    simp [Scan.checkDangling]
  unfold Scan.next
  simp only [hchecked]
  rfl

/-- A reading that only gives a value leaves the source as it is. -/
theorem pure_apply {α : Type} (a : α) (source : Source) : (pure a : Scan α) source = .ok (a, source) :=
  rfl

/-- Literal tokens and bars are read one after another, each in the state that the one before it
left, and then what follows them. -/
theorem steps_append (text : List CodePoint) (tokens rest : List Token) {state : ParseState}
    (hplain : state.IsPlain) (htokens : ∀ token ∈ tokens, token.IsLiteral ∨ token.IsBar)
    (fuel : Nat) :
    Scan.steps state (tokens.length + fuel) ⟨text, tokens ++ rest, false⟩ =
      Scan.steps (tokens.foldl ParseState.readLiteral state) fuel ⟨text, rest, false⟩ := by
  induction tokens generalizing state with
  | nil => rw [List.length_nil, Nat.zero_add, List.nil_append, List.foldl_nil]
  | cons token tokens ih =>
    have hrest := ih (hplain.readLiteral token)
      (fun t ht => htokens t (List.mem_cons_of_mem _ ht))
    have hfuel : (token :: tokens).length + fuel = (tokens.length + fuel) + 1 := by
      rw [List.length_cons]
      omega
    have hnext := next_cons text token (tokens ++ rest)
    rw [hfuel, List.cons_append, List.foldl_cons]
    rcases htokens token List.mem_cons_self with hliteral | ⟨hescaped, hcode⟩
    · have hbar : token.isPlain '|' = false := hliteral.isPlain_eq_false (by decide)
      have hclosing : token.isPlain ')' = false := hliteral.isPlain_eq_false (by decide)
      have hread : state.readLiteral token = state.push (literalCode token.code) := by
        simp [ParseState.readLiteral, hbar]
      rw [hread] at hrest
      simp only [Scan.steps, Scan.peek, bind, StateT.bind, Except.bind, List.head?_cons, hbar,
        hclosing, Bool.false_eq_true, if_false, hnext, step_literal hplain hliteral, pure_apply,
        hread, hrest]
    · have hbar : token.isPlain '|' = true := by simp [Token.isPlain, hescaped, hcode]
      have hfull : state.isFull = false := by simp [ParseState.isFull, hplain.openGroups_eq]
      have hread : state.readLiteral token = Scan.branch state := by
        simp [ParseState.readLiteral, hbar]
      rw [hread] at hrest
      simp only [Scan.steps, Scan.peek, bind, StateT.bind, Except.bind, List.head?_cons, hbar,
        if_true, hfull, Bool.false_eq_true, if_false, hnext, hread, hrest]

/-- Where no token is left the state stays as it is. -/
theorem steps_nil (state : ParseState) (fuel : Nat) (text : List CodePoint) :
    Scan.steps state fuel ⟨text, [], false⟩ = .ok (state, ⟨text, [], false⟩) := by
  cases fuel <;> rfl

private theorem steps_literals (text : List CodePoint) (tokens : List Token) {state : ParseState}
    (hplain : state.IsPlain) (htokens : ∀ token ∈ tokens, token.IsLiteral ∨ token.IsBar)
    {fuel : Nat} (hfuel : tokens.length ≤ fuel) :
    Scan.steps state fuel ⟨text, tokens, false⟩ =
      .ok (tokens.foldl ParseState.readLiteral state, ⟨text, [], false⟩) := by
  obtain ⟨more, rfl⟩ := Nat.exists_eq_add_of_le hfuel
  have hsteps := steps_append text tokens [] hplain htokens more
  rwa [List.append_nil, steps_nil] at hsteps

namespace ParseState

/-- The state with a text behind its latest piece. -/
def pushText (state : ParseState) (text : List CodePoint) : ParseState :=
  { state with pieces := ((literalItems text).map Piece.item).reverse ++ state.pieces }

/-- Reading literal tokens adds the characters that they stand for. -/
theorem foldl_readLiteral {tokens : List Token} {text : List CodePoint}
    (hcodes : tokens.map (·.code) = text) (hliterals : ∀ token ∈ tokens, token.IsLiteral)
    (state : ParseState) : tokens.foldl readLiteral state = state.pushText text := by
  induction tokens generalizing state text with
  | nil =>
    subst hcodes
    rfl
  | cons token tokens ih =>
    subst hcodes
    have hbar : token.isPlain '|' = false :=
      (hliterals token List.mem_cons_self).isPlain_eq_false (by decide)
    have hrest := ih rfl (fun t ht => hliterals t (List.mem_cons_of_mem _ ht))
      (state.push (literalCode token.code))
    simpa [readLiteral, hbar, pushText, literalItems, push, pushPiece] using hrest

/-- The branches so far, the unfinished one last. -/
def allBranches (state : ParseState) : List (List Regex) :=
  (state.branchItems :: state.branches).reverse

private theorem allBranches_pushText {state : ParseState} (hpieces : state.pieces = [])
    (text : List CodePoint) :
    (state.pushText text).allBranches = state.branches.reverse ++ [literalItems text] := by
  have hitems : (((literalItems text).map Piece.item).flatMap Piece.items) = literalItems text := by
    simp [List.flatMap_map, Piece.items]
  simp [allBranches, branchItems, pushText, hpieces, hitems]

private theorem allBranches_branch (state : ParseState) :
    (Scan.branch state).branches.reverse = state.allBranches := rfl

end ParseState

/-- The branches of an expression that matches any of some texts. No text at all leaves one empty
branch. -/
def alternatives : List (List CodePoint) → List (List Regex)
  | [] => [[]]
  | texts => texts.map literalItems

/-- The source of an expression that matches any of some texts. -/
def anyOf (texts : List (List CodePoint)) : List CodePoint :=
  joinWith [CodePoint.ofChar '|'] (texts.map escapeText)

private theorem anyOf_cons_cons (text next : List CodePoint) (texts : List (List CodePoint)) :
    anyOf (text :: next :: texts) = escapeText text ++ CodePoint.ofChar '|' :: anyOf (next :: texts) := by
  simp [anyOf, joinWith]

/-- The tokens between the bars are literal, and reading them all adds one branch for each text. -/
theorem ofText_anyOf (texts : List (List CodePoint)) (offset : Nat) :
    (∀ token ∈ Token.ofText offset (anyOf texts), token.IsLiteral ∨ token.IsBar) ∧
      ∀ state : ParseState, state.pieces = [] →
        ((Token.ofText offset (anyOf texts)).foldl ParseState.readLiteral state).allBranches =
          state.branches.reverse ++ alternatives texts := by
  induction texts generalizing offset with
  | nil =>
    refine ⟨by simp [anyOf, joinWith, Token.ofText], ?_⟩
    intro state hpieces
    exact ParseState.allBranches_pushText hpieces []
  | cons text texts ih =>
    cases texts with
    | nil =>
      obtain ⟨tokens, behind, htokens, hcodes, hliterals⟩ := ofText_escapeText text offset []
      have hall : Token.ofText offset (anyOf [text]) = tokens := by
        simpa [anyOf, joinWith, Token.ofText] using htokens
      rw [hall]
      refine ⟨fun token htoken => .inl (hliterals token htoken), ?_⟩
      intro state hpieces
      rw [ParseState.foldl_readLiteral hcodes hliterals]
      exact ParseState.allBranches_pushText hpieces text
    | cons next texts =>
      obtain ⟨tokens, behind, htokens, hcodes, hliterals⟩ :=
        ofText_escapeText text offset (CodePoint.ofChar '|' :: anyOf (next :: texts))
      obtain ⟨hmore, hbranches⟩ := ih (behind + 1)
      have hall : Token.ofText offset (anyOf (text :: next :: texts)) =
          tokens ++ ⟨behind, false, '|'⟩ :: Token.ofText (behind + 1) (anyOf (next :: texts)) := by
        rw [anyOf_cons_cons, htokens, ofText_cons (by decide)]
      rw [hall]
      constructor
      · intro token htoken
        rcases List.mem_append.1 htoken with hfirst | hlater
        · exact .inl (hliterals token hfirst)
        · rcases List.mem_cons.1 hlater with rfl | hrest
          · exact .inr ⟨rfl, rfl⟩
          · exact hmore token hrest
      · intro state hpieces
        rw [List.foldl_append, ParseState.foldl_readLiteral hcodes hliterals, List.foldl_cons]
        have hbar : (state.pushText text).readLiteral ⟨behind, false, '|'⟩ =
            Scan.branch (state.pushText text) := rfl
        rw [hbar, hbranches _ rfl, ParseState.allBranches_branch,
          ParseState.allBranches_pushText hpieces]
        simp [alternatives]

/-- A choice between escaped texts ends with no backslash waiting. -/
private theorem endsDangling_anyOf (texts : List (List CodePoint)) : endsDangling (anyOf texts) = false := by
  suffices ∀ before : List CodePoint, endsDangling before = false →
      endsDangling (before ++ anyOf texts) = false from this [] rfl
  induction texts with
  | nil =>
    intro before hbefore
    simpa [anyOf, joinWith] using hbefore
  | cons text texts ih =>
    intro before hbefore
    have htext := endsDangling_escapeText hbefore text
    cases texts with
    | nil => simpa [anyOf, joinWith] using htext
    | cons next texts =>
      have hbar : endsDangling (before ++ escapeText text ++ [CodePoint.ofChar '|']) = false := by
        simp [endsDangling]
      rw [anyOf_cons_cons]
      simpa using ih _ hbar

/-- A text has no more tokens than characters. -/
theorem length_ofText_le (offset : Nat) (text : List CodePoint) :
    (Token.ofText offset text).length ≤ text.length := by
  fun_induction Token.ofText offset text with
  | case1 => exact Nat.le_refl 0
  | case2 => exact Nat.zero_le _
  | case3 => exact Nat.le_refl 1
  | case4 offset next rest ih =>
    simp only [List.length_cons]
    omega
  | case5 offset code next rest _ ih =>
    simp only [List.length_cons] at ih ⊢
    omega

/-- Whether an expression is made of characters and sets by sequence, choice and plain brackets. -/
def isFlat : Regex → Bool
  | .empty | .char .. | .set .. => true
  | .seq first second | .alt first second => first.isFlat && second.isFlat
  | .group none body => body.isFlat
  | _ => false

private theorem defect?_of_isFlat {regex : Regex} (hflat : regex.isFlat = true) :
    regex.defect? false = none := by
  fun_induction isFlat regex <;> simp_all [defect?]

private theorem looksTooFarBehind_of_isFlat {regex : Regex} (hflat : regex.isFlat = true) :
    regex.looksTooFarBehind = false := by
  fun_induction isFlat regex <;> simp_all [looksTooFarBehind]

private theorem isFlat_sequence {items : List Regex} (hitems : ∀ item ∈ items, item.isFlat = true) :
    (sequence items).isFlat = true := by
  fun_induction sequence items <;> simp_all [isFlat]

private theorem isFlat_firstOf {branches : List Regex}
    (hbranches : ∀ branch ∈ branches, branch.isFlat = true) : (firstOf branches).isFlat = true := by
  fun_induction firstOf branches <;> simp_all [isFlat]

/-- What branches have in common at their front is flat if they are. -/
private theorem isFlat_commonItems {first : List Regex} {others : List (List Regex)}
    (hfirst : ∀ item ∈ first, item.isFlat = true)
    (hothers : ∀ branch ∈ others, ∀ item ∈ branch, item.isFlat = true) :
    (∀ item ∈ (commonItems first others).1, item.isFlat = true) ∧
      ∀ branch ∈ (commonItems first others).2, ∀ item ∈ branch, item.isFlat = true := by
  induction first generalizing others with
  | nil => simpa [commonItems] using hothers
  | cons item items ih =>
    simp only [commonItems]
    split
    · have htails : ∀ branch ∈ others.map List.tail, ∀ item ∈ branch, item.isFlat = true := by
        intro branch hbranch piece hpiece
        obtain ⟨whole, hwhole, rfl⟩ := List.mem_map.1 hbranch
        exact hothers whole hwhole piece (List.mem_of_mem_tail hpiece)
      obtain ⟨hcommon, hrests⟩ := ih (fun i hi => hfirst i (List.mem_cons_of_mem _ hi)) htails
      refine ⟨?_, hrests⟩
      simpa using ⟨hfirst item List.mem_cons_self, hcommon⟩
    · refine ⟨by simp, ?_⟩
      simpa using ⟨by simpa using hfirst, hothers⟩

/-- Branches that are flat are joined to what is flat. -/
private theorem isFlat_joinBranches (rule : CaseRule) {branches : List (List Regex)}
    (hbranches : ∀ branch ∈ branches, ∀ item ∈ branch, item.isFlat = true) :
    ∀ item ∈ joinBranches rule branches, item.isFlat = true := by
  match branches with
  | [] => simp [joinBranches]
  | [branch] => simpa [joinBranches] using hbranches
  | first :: second :: others =>
    obtain ⟨hcommon, hrests⟩ := isFlat_commonItems (hbranches first List.mem_cons_self)
      (fun branch hbranch => hbranches branch (List.mem_cons_of_mem _ hbranch))
    have hfirst : (firstOf ((commonItems first (second :: others)).2.map sequence)).isFlat = true := by
      apply isFlat_firstOf
      intro branch hbranch
      obtain ⟨items, hitems, rfl⟩ := List.mem_map.1 hbranch
      exact isFlat_sequence (hrests items hitems)
    intro item hitem
    simp only [joinBranches] at hitem
    split at hitem
    · rcases List.mem_append.1 hitem with hleft | hright
      · exact hcommon item hleft
      · rw [List.mem_singleton.1 hright]
        rfl
    · rcases List.mem_append.1 hitem with hleft | hright
      · exact hcommon item hleft
      · rw [List.mem_singleton.1 hright]
        exact hfirst

private theorem isFlat_alternatives (texts : List (List CodePoint)) :
    ∀ branch ∈ alternatives texts, ∀ item ∈ branch, item.isFlat = true := by
  cases texts with
  | nil => simp [alternatives]
  | cons text texts =>
    intro branch hbranch item hitem
    obtain ⟨written, _, rfl⟩ := List.mem_map.1 hbranch
    obtain ⟨c, _, rfl⟩ := List.mem_map.1 hitem
    rfl

/-- A source that is read to its end outside of all groups is accepted, if nothing in it keeps it from being
used. -/
theorem parse_of_steps {text : List CodePoint} {last : ParseState} (hlast : last.IsPlain)
    (hdangling : endsDangling text = false)
    (hsteps : Scan.steps {} text.length ⟨text, Token.ofText 0 text, false⟩ =
      .ok (last, ⟨text, [], false⟩))
    (hdefect : last.body.defect? false = none) (hnear : last.body.looksTooFarBehind = false) :
    parse {} text = .ok ⟨last.body, (last.body.width last.groups.width).1, false⟩ := by
  obtain ⟨hflags, hopen, hgroups, hasked⟩ := hlast
  have hfinish : Scan.finish last ⟨text, [], false⟩ =
      .ok (⟨last.body, (last.body.width last.groups.width).1, false⟩, ⟨text, [], false⟩) := by
    simp [Scan.finish, hopen, hflags, hasked, Scan.peek, Scan.checkUse, hdefect, hnear, bind,
      StateT.bind, Except.bind, pure_apply]
  simp [parse, Source.ofText, hdangling, Scan.checkDangling, bind, StateT.bind, Except.bind,
    hsteps, hfinish, Except.map]

/-- Escaped texts with bars between them are always accepted, whatever the texts hold, and are read
as one branch for each text. -/
theorem parse_anyOf (texts : List (List CodePoint)) :
    ∃ pattern, parse {} (anyOf texts) = .ok pattern ∧
      pattern.regex = sequence (joinBranches .exact (alternatives texts)) := by
  obtain ⟨hliterals, hbranches⟩ := ofText_anyOf texts 0
  have hplain : ({} : ParseState).IsPlain := ⟨rfl, rfl, rfl, rfl⟩
  have hsteps := steps_literals (anyOf texts) _ hplain hliterals (length_ofText_le 0 (anyOf texts))
  have hstate : ∀ tokens : List Token,
      (tokens.foldl ParseState.readLiteral {}).IsPlain := by
    intro tokens
    exact List.foldlRecOn tokens ParseState.readLiteral hplain
      (fun state hstate token _ => hstate.readLiteral token)
  generalize hlast : (Token.ofText 0 (anyOf texts)).foldl ParseState.readLiteral {} = last at hsteps
  have hend : last.IsPlain := hlast ▸ hstate _
  have hitems : last.items = joinBranches .exact (alternatives texts) := by
    have hall := hbranches {} rfl
    rw [hlast] at hall
    rw [ParseState.items, hend.flags_eq]
    exact congrArg _ hall
  have hbody : last.body = sequence (joinBranches .exact (alternatives texts)) := by
    rw [ParseState.body, hitems]
  have hflat : last.body.isFlat = true := by
    rw [hbody]
    exact isFlat_sequence (isFlat_joinBranches .exact (isFlat_alternatives texts))
  exact ⟨_, parse_of_steps hend (endsDangling_anyOf texts) hsteps (defect?_of_isFlat hflat)
    (looksTooFarBehind_of_isFlat hflat), hbody⟩

end BareStrings.Regex
