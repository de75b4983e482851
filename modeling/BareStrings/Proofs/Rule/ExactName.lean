import Mathlib.Algebra.GroupWithZero.Nat
import BareStrings.Proofs.Regex.Choice
import BareStrings.Proofs.Regex.Start
import BareStrings.Rule.Selector

namespace BareStrings

namespace Regex

open BareStrings.Text

private theorem tries_anchor (condition : Anchor) :
    (Regex.anchor condition).Tries fun place => if condition.holds place then [place] else [] := by
  intro insideRepetition follow ends hfollow
  refine ⟨fun place memory => ?_, nofun⟩
  simp only [matcher, Continuation.guardedBy]
  by_cases hholds : condition.holds place = true
  · simp [hholds, hfollow.ending?_run]
  · simp [hholds, Attempt.ending?, Attempt.failed]

private theorem defect?_sequence {items : List Regex} (hitems : ∀ item ∈ items, item.defect? false = none) :
    (sequence items).defect? false = none := by
  fun_induction sequence items <;> simp_all [defect?]

private theorem looksTooFarBehind_sequence {items : List Regex}
    (hitems : ∀ item ∈ items, item.looksTooFarBehind = false) :
    (sequence items).looksTooFarBehind = false := by
  fun_induction sequence items <;> simp_all [looksTooFarBehind]

private theorem captures_sequence {items : List Regex} (hitems : ∀ item ∈ items, item.captures = false) :
    (sequence items).captures = false := by
  fun_induction sequence items <;> simp_all [captures]

/-- The least length of a sequence is at most that of its items together. It is less where it is counted up
to the limit only. -/
theorem width_sequence_le (groups : Nat → Nat × Nat) (items : List Regex) :
    ((sequence items).width groups).1 ≤ (items.map fun item => (item.width groups).1).sum := by
  fun_induction sequence items with
  | case1 => exact Nat.le_refl 0
  | case2 item => simp
  | case3 item items _ ih =>
    simp only [width, clampWidth, List.map_cons, List.sum_cons]
    omega

/-- The items of a line that holds a text and nothing else. -/
def lineItems (text : List CodePoint) : List Regex :=
  .anchor (.lineStart false) :: (literalItems text ++ [.anchor (.lineEnd false)])

private theorem mem_lineItems {text : List CodePoint} {item : Regex} (hitem : item ∈ lineItems text) :
    (∃ condition, item = .anchor condition) ∨ ∃ code, item = literalCode code := by
  simp only [lineItems, literalItems, List.mem_cons, List.mem_append, List.mem_map, List.not_mem_nil,
    or_false] at hitem
  obtain rfl | ⟨code, _, rfl⟩ | rfl := hitem
  · exact .inl ⟨_, rfl⟩
  · exact .inr ⟨code, rfl⟩
  · exact .inl ⟨_, rfl⟩

private theorem width_lineItems_le (groups : Nat → Nat × Nat) (text : List CodePoint) :
    ((sequence (lineItems text)).width groups).1 ≤ text.length := by
  have hsum : ((lineItems text).map fun item => (item.width groups).1).sum = text.length := by
    simp [lineItems, literalItems, literalCode, width, Function.comp_def]
  exact hsum ▸ width_sequence_le groups (lineItems text)

/-- Whether a subject is a text, or a text with one line feed behind it. -/
def IsLine (text subject : List CodePoint) : Prop :=
  subject = text ∨ subject = text ++ [CodePoint.ofChar '\n']

instance (text subject : List CodePoint) : Decidable (IsLine text subject) :=
  inferInstanceAs (Decidable (_ ∨ _))

/-- The anchor of a line's end holds at the end of the text, and before one line feed there. -/
private theorem lineEnd_holds_iff (before after : List CodePoint) :
    (Anchor.lineEnd false).holds ⟨before, after⟩ = true ↔
      after = [] ∨ after = [CodePoint.ofChar '\n'] := by
  have hfeed : after.map Fin.val = [0x0A] ↔ after = [CodePoint.ofChar '\n'] := by
    constructor
    · intro hmap
      obtain ⟨code, rest, rfl, hcode, hrest⟩ := List.map_eq_cons_iff.1 hmap
      rw [List.map_eq_nil_iff.1 hrest, show code = CodePoint.ofChar '\n' from Fin.ext hcode]
    · rintro rfl
      rfl
  simp only [Anchor.holds, Bool.or_eq_true, List.isEmpty_iff, Bool.false_eq_true, if_false,
    beq_iff_eq, hfeed]

/-- A text with the condition for the end of the line behind it matches at the start of a subject that is
this line, and ends where the text does. -/
theorem matchAt?_line (text subject : List CodePoint) :
    ((sequence (literalItems text ++ [.anchor (.lineEnd false)])).matchAt? (.start subject)).map
        Place.offset = if IsLine text subject then some text.length else none := by
  have htries := Tries.sequence_literals text [.anchor (.lineEnd false)] (tries_anchor (.lineEnd false))
  rw [htries.matchAt?_eq, Place.behindText?_eq]
  by_cases hbegins : text <+: subject
  · obtain ⟨rest, rfl⟩ := hbegins
    have hdrop : (text ++ rest).drop text.length = rest := List.drop_left
    have hline : IsLine text (text ++ rest) ↔
        rest = [] ∨ rest = [CodePoint.ofChar '\n'] := by
      simp [IsLine]
    have hbegins : text.isPrefixOf (text ++ rest) = true :=
      List.isPrefixOf_iff_prefix.2 (List.prefix_append _ _)
    simp only [Place.start, hbegins, if_true, hdrop, Option.toList_some, List.flatMap_cons,
      List.flatMap_nil, List.append_nil, lineEnd_holds_iff, hline]
    split
    · simp [Place.offset]
    · rfl
  · have hother : ¬IsLine text subject := by
      rintro (rfl | rfl)
      · exact hbegins List.prefix_rfl
      · exact hbegins (List.prefix_append _ _)
    have hbegins : text.isPrefixOf subject = false := by
      rwa [← Bool.not_eq_true, List.isPrefixOf_iff_prefix]
    simp [Place.start, hbegins, hother]

/-- A search for a line finds its text at the start of the subject, or nothing. -/
theorem search?_line (text : List CodePoint) {least : Nat} (hleast : least ≤ text.length)
    (subject : List CodePoint) :
    Pattern.search? ⟨sequence (lineItems text), least, false⟩ subject =
      .ok (if IsLine text subject then some ⟨0, text.length⟩ else none) := by
  have hfree : (sequence (literalItems text ++ [.anchor (.lineEnd false)])).captures = false := by
    apply captures_sequence
    intro item hitem
    obtain ⟨_, rfl⟩ | ⟨_, rfl⟩ := mem_lineItems (List.mem_cons_of_mem _ hitem) <;> rfl
  have hmatch := matchAt?_line text subject
  rw [lineItems, search?_anchored isStart_lineStart, Pattern.matchAtStart?_of_not_captures hfree]
  by_cases hline : IsLine text subject
  · have hroom : least ≤ subject.length := by
      obtain rfl | rfl := hline
      · exact hleast
      · exact Nat.le_trans hleast (by simp)
    rw [if_pos hline, Option.map_eq_some_iff] at hmatch
    obtain ⟨ending, hending, hoffset⟩ := hmatch
    simp [hroom, hending, hoffset, hline]
  · rw [if_neg hline, Option.map_eq_none_iff] at hmatch
    simp [hmatch, hline]

end Regex

namespace Rule.Selector

open BareStrings.Regex BareStrings.Text

/-- A sign for the start or the end of a line is read as that. -/
theorem step_lineSign {state : ParseState} (hplain : state.IsPlain) (offset : Nat) :
    Scan.step state ⟨offset, false, '^'⟩ = pure (state.push (.anchor (.lineStart false))) ∧
      Scan.step state ⟨offset, false, '$'⟩ = pure (state.push (.anchor (.lineEnd false))) := by
  constructor <;> simp [Scan.step, Scan.sign, hplain.flags_eq]

/-- A token that neither parts branches nor closes a group is read by one step. -/
theorem steps_cons {state next : ParseState} {token : Token} (text : List CodePoint) (tokens : List Token)
    (hbar : token.isPlain '|' = false) (hclosing : token.isPlain ')' = false)
    (hstep : Scan.step state token = pure next) (fuel : Nat) :
    Scan.steps state (fuel + 1) ⟨text, token :: tokens, false⟩ =
      Scan.steps next fuel ⟨text, tokens, false⟩ := by
  simp only [Scan.steps, Scan.peek, bind, StateT.bind, Except.bind, List.head?_cons, hbar, hclosing,
    Bool.false_eq_true, if_false, next_cons, hstep, pure_apply]

/-- What has been read behind the sign for the start of a line, a text, and the sign for the end. -/
def afterLine (text : List CodePoint) : ParseState :=
  ((({} : ParseState).push (.anchor (.lineStart false))).pushText text).push (.anchor (.lineEnd false))

private theorem body_afterLine (text : List CodePoint) :
    (afterLine text).body = sequence (lineItems text) := by
  have hitems : (((literalItems text).map Piece.item).flatMap Piece.items) = literalItems text := by
    simp [List.flatMap_map, Piece.items]
  simp [ParseState.body, ParseState.items, ParseState.branchItems, joinBranches, afterLine,
    ParseState.push, ParseState.pushPiece, ParseState.pushText, lineItems, Piece.items, hitems]

private theorem isPlain_afterLine (text : List CodePoint) : (afterLine text).IsPlain := ⟨rfl, rfl, rfl, rfl⟩

/-- The source of a name is read to its end: the sign for the start, the name as it is written, and the sign
for the end. -/
theorem steps_exactSource (name : List CodePoint) :
    Scan.steps {} (exactSource name).length
        ⟨exactSource name, Token.ofText 0 (exactSource name), false⟩ =
      .ok (afterLine name, ⟨exactSource name, [], false⟩) := by
  obtain ⟨tokens, behind, htokens, hcodes, hliterals⟩ := ofText_escapeText name 1 [.ofChar '$']
  have hall : Token.ofText 0 (exactSource name) =
      ⟨0, false, '^'⟩ :: (tokens ++ [⟨behind, false, '$'⟩]) := by
    rw [exactSource, ofText_cons (by decide), htokens]
    rfl
  have hlength := length_ofText_le 0 (exactSource name)
  rw [hall, List.length_cons, List.length_append, List.length_singleton] at hlength
  obtain ⟨more, hfuel⟩ : ∃ more, (exactSource name).length = tokens.length + (more + 1) + 1 :=
    ⟨(exactSource name).length - (tokens.length + 2), by omega⟩
  have hempty : ({} : ParseState).IsPlain := ⟨rfl, rfl, rfl, rfl⟩
  have hbegun : (({} : ParseState).push (.anchor (.lineStart false))).IsPlain := ⟨rfl, rfl, rfl, rfl⟩
  have hread : ((({} : ParseState).push (.anchor (.lineStart false))).pushText name).IsPlain :=
    ⟨rfl, rfl, rfl, rfl⟩
  rw [hall, hfuel, steps_cons _ _ rfl rfl (step_lineSign hempty 0).1,
    steps_append _ tokens _ hbegun fun token htoken => .inl (hliterals token htoken),
    ParseState.foldl_readLiteral hcodes hliterals,
    steps_cons _ _ rfl rfl (step_lineSign hread behind).2, steps_nil]
  rfl

/-- The expression of a name is accepted, whatever the name holds, and is the line with that text. -/
theorem parse_exactSource (name : List CodePoint) :
    ∃ least, parse {} (exactSource name) = .ok ⟨sequence (lineItems name), least, false⟩ ∧
      least ≤ name.length := by
  have hdangling : endsDangling (exactSource name) = false := by simp [exactSource, endsDangling]
  have hdefect : (afterLine name).body.defect? false = none := by
    rw [body_afterLine]
    apply defect?_sequence
    intro item hitem
    obtain ⟨_, rfl⟩ | ⟨_, rfl⟩ := mem_lineItems hitem <;> rfl
  have hnear : (afterLine name).body.looksTooFarBehind = false := by
    rw [body_afterLine]
    apply looksTooFarBehind_sequence
    intro item hitem
    obtain ⟨_, rfl⟩ | ⟨_, rfl⟩ := mem_lineItems hitem <;> rfl
  have hparse := parse_of_steps (isPlain_afterLine name) hdangling (steps_exactSource name) hdefect hnear
  rw [body_afterLine] at hparse
  exact ⟨_, hparse, width_lineItems_le _ name⟩

private theorem compile_of_name {selector : List CodePoint} (hname : isPattern selector = false) :
    compile selector = (parse {} (exactSource selector)).mapError .pattern := by
  have hnone : patternParts? selector = none := by simpa [isPattern] using hname
  rw [compile, hnone]

/-- A selector that is not written as a pattern always compiles. Its search finds the selector in itself, and
before a line feed that ends the subject, and in no other subject. The match is always the whole selector,
from the start of the subject on. -/
theorem search?_of_name {selector : List CodePoint} (hname : isPattern selector = false) :
    ∃ pattern, compile selector = .ok pattern ∧ ∀ subject, pattern.search? subject =
      .ok (if subject = selector ∨ subject = selector ++ [CodePoint.ofChar '\n']
        then some ⟨0, selector.length⟩ else none) := by
  obtain ⟨least, hparse, hleast⟩ := parse_exactSource selector
  refine ⟨⟨sequence (lineItems selector), least, false⟩, ?_, search?_line selector hleast⟩
  rw [compile_of_name hname, hparse]
  rfl

/-- A text of signs that almost is a pattern. It has a blank and a line feed in it. -/
theorem search?_of_name_signs :
    let selector := wording "/a-b /(\\\n/i"
    isPattern selector = false ∧ ∃ pattern, compile selector = .ok pattern ∧
      pattern.search? selector = .ok (some ⟨0, 11⟩) ∧
      pattern.search? (selector ++ wording "\n") = .ok (some ⟨0, 11⟩) ∧
      pattern.search? (selector ++ wording "\n\n") = .ok none ∧
      pattern.search? (wording "/a-b /(\\\n/I") = .ok none := by
  intro selector
  have hname : isPattern selector = false := by decide
  obtain ⟨pattern, hcompile, hsearch⟩ := search?_of_name hname
  refine ⟨hname, pattern, hcompile, ?_, ?_, ?_, ?_⟩ <;> rw [hsearch] <;> decide

/-- A name is found in more than itself: it is found before a line feed. -/
theorem name_found_before_line_feed :
    ¬∀ selector, isPattern selector = false → ∃ pattern, compile selector = .ok pattern ∧
      ∀ subject, (∃ span, pattern.search? subject = .ok (some span)) ↔ subject = selector := by
  intro hclaim
  have hname : isPattern (wording "input") = false := by decide
  obtain ⟨pattern, hcompile, hfound⟩ := hclaim _ hname
  obtain ⟨least, hparse, hleast⟩ := parse_exactSource (wording "input")
  rw [compile_of_name hname, hparse] at hcompile
  obtain rfl := Except.ok.inj hcompile
  have hsearch := search?_line (wording "input") hleast (wording "input\n")
  have hsame := (hfound _).1 ⟨_, hsearch⟩
  exact absurd hsame (by decide)

end Rule.Selector

end BareStrings
