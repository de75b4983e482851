import BareStrings.Markup.Lexeme.Basic
import BareStrings.Proofs.Text.Ascii
import BareStrings.Proofs.Text.Split
import Mathlib.Data.List.TakeWhile

namespace BareStrings.Markup.Lexeme

open BareStrings.Text

/-- The bracket that ends a tag is no blank. -/
theorem isBlank_bracket : isBlank '>' = false := by decide

/-- A closing that ends with a bracket: it is not found where there is no bracket, it is no longer than
the text, and what follows a bracket changes nothing. -/
structure SettledByBracket (closing : List Char → Option Nat) : Prop where
  mem : ∀ {text size}, closing text = some size → '>' ∈ text
  size_le : ∀ {text size}, closing text = some size → size ≤ text.length
  append : ∀ {text}, '>' ∈ text → ∀ more, closing (text ++ more) = closing text

/-- A closing behind a character. -/
def behindChar (first : Char) (closing : List Char → Option Nat) : List Char → Option Nat
  | c :: rest => if c = first then (closing rest).map (· + 1) else none
  | [] => none

/-- A closing behind any blanks. -/
def behindBlanks (closing : List Char → Option Nat) (text : List Char) : Option Nat :=
  (closing (text.dropWhile isBlank)).map (· + (text.takeWhile isBlank).length)

private theorem bracket?_eq (text : List Char) :
    bracket? text = if text.head? = some '>' then some 1 else none := by
  unfold bracket?
  split
  · rfl
  · rename_i hother
    refine (if_neg fun hhead => ?_).symm
    obtain ⟨rest, rfl⟩ := List.head?_eq_some_iff.1 hhead
    exact hother rest rfl

private theorem bracketAfterBlanks?_eq : bracketAfterBlanks? = behindBlanks bracket? := by
  funext text
  simp only [bracketAfterBlanks?, behindBlanks, bracket?]
  split
  · simp [Nat.add_comm]
  · rfl

private theorem behindChar_self (first : Char) (closing : List Char → Option Nat) (rest : List Char) :
    behindChar first closing (first :: rest) = (closing rest).map (· + 1) := if_pos rfl

private theorem behindChar_eq_none {first : Char} {text : List Char} {closing : List Char → Option Nat}
    (hother : ∀ rest, text ≠ first :: rest) : behindChar first closing text = none := by
  cases text with
  | nil => rfl
  | cons c rest => exact if_neg fun hc => hother rest (by rw [hc])

/-- A comment ends with two hyphens, and a bracket behind blanks. -/
private theorem commentClosing?_eq :
    commentClosing? = behindChar '-' (behindChar '-' bracketAfterBlanks?) := by
  funext text
  unfold commentClosing?
  split
  · rw [behindChar_self, behindChar_self, Option.map_map]
    rfl
  · rename_i hother
    match text with
    | [] => rfl
    | c :: rest =>
      by_cases hc : c = '-'
      · have hnone : behindChar '-' bracketAfterBlanks? rest = none :=
          behindChar_eq_none fun behind hrest => hother behind (by rw [hc, hrest])
        rw [hc, behindChar_self, hnone]
        rfl
      · exact (if_neg hc).symm

private theorem conditionClosing?_eq : conditionClosing? = behindChar ']' bracketAfterBlanks? := by
  funext text
  unfold conditionClosing?
  split
  · rfl
  · rename_i hother
    exact (behindChar_eq_none hother).symm

/-- A section ends with two square brackets that blanks may part, and a bracket behind blanks. -/
private theorem sectionClosing?_eq :
    sectionClosing? = behindChar ']' (behindBlanks (behindChar ']' bracketAfterBlanks?)) := by
  funext text
  unfold sectionClosing?
  split
  · rename_i rest
    rw [behindChar_self, behindBlanks]
    split
    · rename_i behind hclose
      rw [hclose, behindChar_self]
      cases bracketAfterBlanks? behind with
      | none => rfl
      | some size => simp only [Option.map_some, Nat.add_comm, Nat.add_left_comm]
    · rename_i hother
      rw [behindChar_eq_none hother]
      rfl
  · rename_i hother
    exact (behindChar_eq_none hother).symm

namespace SettledByBracket

variable {closing : List Char → Option Nat}

/-- An ending that a bracket settles is settled behind any other character too. -/
private theorem behindChar {first : Char} (hsettled : SettledByBracket closing) (hfirst : first ≠ '>') :
    SettledByBracket (behindChar first closing) := by
  have hsome : ∀ {text size}, Lexeme.behindChar first closing text = some size →
      ∃ rest inner, text = first :: rest ∧ closing rest = some inner ∧ size = inner + 1 := by
    intro text size hsize
    cases text with
    | nil => cases hsize
    | cons c rest =>
      simp only [Lexeme.behindChar] at hsize
      split at hsize
      · rename_i hc
        obtain ⟨inner, hinner, rfl⟩ := Option.map_eq_some_iff.1 hsize
        exact ⟨rest, inner, by rw [hc], hinner, rfl⟩
      · cases hsize
  refine ⟨fun hsize => ?_, fun hsize => ?_, fun {text} hmem more => ?_⟩
  · obtain ⟨rest, inner, rfl, hinner, -⟩ := hsome hsize
    exact List.mem_cons_of_mem _ (hsettled.mem hinner)
  · obtain ⟨rest, inner, rfl, hinner, rfl⟩ := hsome hsize
    exact Nat.succ_le_succ (hsettled.size_le hinner)
  · cases text with
    | nil => cases hmem
    | cons c rest =>
      simp only [List.cons_append, Lexeme.behindChar]
      split
      · rename_i hc
        have hrest : '>' ∈ rest := by
          rcases List.mem_cons.1 hmem with hbracket | hlater
          · exact absurd (hc.symm.trans hbracket.symm) hfirst
          · exact hlater
        rw [hsettled.append hrest]
      · rfl

/-- An ending that a bracket settles is settled behind blanks too. -/
private theorem behindBlanks (hsettled : SettledByBracket closing) :
    SettledByBracket (behindBlanks closing) := by
  refine ⟨fun hsize => ?_, fun {text size} hsize => ?_, fun hmem more => ?_⟩
  · obtain ⟨inner, hinner, -⟩ := Option.map_eq_some_iff.1 hsize
    exact (List.dropWhile_suffix isBlank).subset (hsettled.mem hinner)
  · obtain ⟨inner, hinner, rfl⟩ := Option.map_eq_some_iff.1 hsize
    have hle := hsettled.size_le hinner
    have hlength := length_takeWhile_add_dropWhile isBlank text
    omega
  · simp only [Lexeme.behindBlanks]
    rw [dropWhile_append_of_mem hmem isBlank_bracket, takeWhile_append_of_mem hmem isBlank_bracket,
      hsettled.append (mem_dropWhile hmem isBlank_bracket)]

/-- Where the first bracket stands is settled once the text holds one. -/
theorem bracket? : SettledByBracket bracket? := by
  have hsome : ∀ {text size}, Lexeme.bracket? text = some size →
      text.head? = some '>' ∧ size = 1 := by
    intro text size hsize
    rw [bracket?_eq] at hsize
    split at hsize
    · rename_i hhead
      exact ⟨hhead, (Option.some.inj hsize).symm⟩
    · cases hsize
  refine ⟨fun hsize => ?_, fun hsize => ?_, fun {text} hmem more => ?_⟩
  · exact List.mem_of_mem_head? (hsome hsize).1
  · obtain ⟨hhead, rfl⟩ := hsome hsize
    exact List.length_pos_of_mem (List.mem_of_mem_head? hhead)
  · cases text with
    | nil => cases hmem
    | cons c rest => rw [bracket?_eq, bracket?_eq, List.cons_append, List.head?_cons, List.head?_cons]

/-- Whether a bracket follows blanks is settled once there is a bracket. -/
private theorem bracketAfterBlanks? : SettledByBracket bracketAfterBlanks? := by
  rw [bracketAfterBlanks?_eq]
  exact bracket?.behindBlanks

/-- Whether a comment ends in a text is settled once the text holds a bracket at the end of it. -/
theorem commentClosing? : SettledByBracket commentClosing? := by
  rw [commentClosing?_eq]
  exact (bracketAfterBlanks?.behindChar (by decide)).behindChar (by decide)

/-- Whether a conditional section ends in a text is settled by a bracket at its end as well. -/
theorem conditionClosing? : SettledByBracket conditionClosing? := by
  rw [conditionClosing?_eq]
  exact bracketAfterBlanks?.behindChar (by decide)

/-- Whether a section of character data ends in a text is settled by a bracket at its end as well. -/
theorem sectionClosing? : SettledByBracket sectionClosing? := by
  rw [sectionClosing?_eq]
  exact (bracketAfterBlanks?.behindChar (by decide)).behindBlanks.behindChar (by decide)

/-- The first closing in a text stays the first one, whatever follows. -/
theorem endOf? (hsettled : SettledByBracket closing) {text : List Char} {size : Nat}
    (hend : endOf? closing text = some size) :
    '>' ∈ text ∧ size ≤ text.length ∧ ∀ more, Lexeme.endOf? closing (text ++ more) = some size := by
  induction text generalizing size with
  | nil => cases hend
  | cons c rest ih =>
    simp only [Lexeme.endOf?] at hend
    cases hclosing : closing (c :: rest) with
    | some found =>
      rw [hclosing] at hend
      cases hend
      have hmem := hsettled.mem hclosing
      refine ⟨hmem, hsettled.size_le hclosing, fun more => ?_⟩
      have happend := hsettled.append hmem more
      rw [hclosing] at happend
      rw [List.cons_append] at happend ⊢
      rw [Lexeme.endOf?, happend]
    | none =>
      rw [hclosing] at hend
      obtain ⟨later, hlater, rfl⟩ := Option.map_eq_some_iff.1 hend
      obtain ⟨hmem, hle, hmore⟩ := ih hlater
      refine ⟨List.mem_cons_of_mem c hmem, Nat.succ_le_succ hle, fun more => ?_⟩
      have happend := hsettled.append (List.mem_cons_of_mem c hmem) more
      rw [hclosing] at happend
      rw [List.cons_append] at happend ⊢
      rw [Lexeme.endOf?, happend]
      simp only [hmore more, Option.map_some]

end SettledByBracket

/-- A construct that ends at the next closing bracket ends behind the first one. -/
theorem endOf?_bracket? {before : List Char} (hbefore : '>' ∉ before) (behind : List Char) :
    endOf? bracket? (before ++ '>' :: behind) = some (before.length + 1) := by
  induction before with
  | nil => rfl
  | cons c before ih =>
    rw [List.mem_cons, not_or] at hbefore
    have hnone : bracket? (c :: (before ++ '>' :: behind)) = none := by
      simp [bracket?_eq, Ne.symm hbefore.1]
    rw [List.cons_append, endOf?, hnone]
    simp only [ih hbefore.2, Option.map_some, List.length_cons]

/-- Where there is a closing bracket, such a construct ends. -/
theorem exists_endOf?_bracket? {text : List Char} (hmem : '>' ∈ text) :
    ∃ size, endOf? bracket? text = some (size + 1) := by
  obtain ⟨before, behind, rfl, hbefore⟩ := List.eq_append_cons_of_mem hmem
  exact ⟨before.length, endOf?_bracket? hbefore behind⟩

/-- Whether a text begins like an end tag is settled too. -/
theorem append_ne_closing {text : List Char} (hmem : '>' ∈ text)
    (hother : ∀ rest, text ≠ '<' :: '/' :: rest) (more rest : List Char) :
    text ++ more ≠ '<' :: '/' :: rest := by
  intro heq
  match text with
  | [] => cases hmem
  | [c] =>
    obtain rfl := List.mem_singleton.1 hmem
    exact absurd (List.cons.inj heq).1 (by decide)
  | c :: d :: behind =>
    obtain ⟨hc, heq⟩ := List.cons.inj heq
    exact hother behind (by rw [hc, (List.cons.inj heq).1])

/-- An end tag that has its bracket reads the same whatever follows it. -/
theorem endTag?_append {text : List Char} (hmem : '>' ∈ text) (more : List Char) :
    endTag? (text ++ more) = endTag? text := by
  have hnone : ∀ {text}, (∀ rest, text ≠ '<' :: '/' :: rest) → endTag? text = none := by
    intro text hother
    unfold endTag?
    split
    · exact absurd rfl (hother _)
    · rfl
  by_cases hopen : ∃ rest, text = '<' :: '/' :: rest
  · obtain ⟨rest, rfl⟩ := hopen
    have hrest : '>' ∈ rest := by simpa using hmem
    have hword := mem_dropWhile hrest isBlank_bracket
    simp only [List.cons_append, endTag?, dropWhile_append_of_mem hrest isBlank_bracket,
      takeWhile_append_of_mem hrest isBlank_bracket]
    cases hdrop : rest.dropWhile isBlank with
    | nil =>
      rw [hdrop] at hword
      cases hword
    | cons c word =>
      rw [hdrop] at hword
      simp only [List.cons_append]
      split
      · rfl
      · rename_i hletter
        have hc : '>' ≠ c := by
          rintro rfl
          exact hletter (by decide)
        have hbehind : '>' ∈ word := (List.mem_cons.1 hword).resolve_left hc
        have hname : isEndNameChar '>' = false := by decide
        rw [dropWhile_append_of_mem hbehind hname, takeWhile_append_of_mem hbehind hname,
          SettledByBracket.bracketAfterBlanks?.append (mem_dropWhile hbehind hname)]
  · have hother : ∀ rest, text ≠ '<' :: '/' :: rest := fun rest heq => hopen ⟨rest, heq⟩
    rw [hnone hother, hnone (append_ne_closing hmem hother more)]

/-- An end tag that closes raw text holds a bracket. -/
theorem bracket_mem_of_closesRawText {name text : List Char} (hcloses : closesRawText name text = true) :
    '>' ∈ text := by
  unfold closesRawText at hcloses
  split at hcloses
  · rename_i rest
    simp only [Bool.and_eq_true] at hcloses
    obtain ⟨size, hsize⟩ := Option.isSome_iff_exists.1 hcloses.2
    have hmem := SettledByBracket.bracketAfterBlanks?.mem hsize
    exact List.mem_cons_of_mem _ (List.mem_cons_of_mem _
      ((List.dropWhile_suffix _).subset ((List.drop_suffix _ _).subset hmem)))
  · cases hcloses

/-- What all letters of the names of code have in common, checked letter by letter. -/
theorem of_letter {p : Char → Bool} (hall : rawTextNames.all (·.all p) = true) {name : List Char}
    (hname : name ∈ rawTextNames) {letter : Char} (hletter : letter ∈ name) : p letter = true :=
  List.all_eq_true.1 (List.all_eq_true.1 hall name hname) letter hletter

/-- A name that no closing bracket can be part of, in any case. -/
def BracketFree (name : List Char) : Prop := ∀ letter ∈ name, sameLetter letter '>' = false

/-- No name of a raw text element holds a bracket. -/
theorem bracketFree_of_mem {name : List Char} (hname : name ∈ rawTextNames) : BracketFree name := by
  intro letter hletter
  have hother := of_letter (p := fun letter => !sameLetter letter '>') (by decide) hname hletter
  simpa using hother

private theorem BracketFree.not_all {name letters : List Char} (hname : BracketFree name)
    (hlength : letters.length ≤ name.length) (hmem : '>' ∈ letters) :
    (name.zip letters).all (fun (a, b) => sameLetter a b) = false := by
  rw [← List.map_snd_zip hlength] at hmem
  obtain ⟨⟨letter, c⟩, hpair, rfl⟩ := List.mem_map.1 hmem
  rw [List.all_eq_false]
  exact ⟨(letter, '>'), hpair, by simp [hname letter (List.of_mem_zip hpair).1]⟩

/-- Whether raw text ends at a text is settled once the text holds a bracket. -/
private theorem closesRawText_append {name text : List Char} (hname : BracketFree name) (hmem : '>' ∈ text)
    (more : List Char) : closesRawText name (text ++ more) = closesRawText name text := by
  have hfalse : ∀ {text}, (∀ rest, text ≠ '<' :: '/' :: rest) → closesRawText name text = false := by
    intro text hother
    unfold closesRawText
    split
    · exact absurd rfl (hother _)
    · rfl
  by_cases hopen : ∃ rest, text = '<' :: '/' :: rest
  · obtain ⟨rest, rfl⟩ := hopen
    have hrest : '>' ∈ rest := by simpa using hmem
    have hword := mem_dropWhile hrest isBlank_bracket
    simp only [List.cons_append, closesRawText, dropWhile_append_of_mem hrest isBlank_bracket]
    generalize rest.dropWhile isBlank = word at hword ⊢
    -- The bracket stands in the name's place, and then the name is another, or behind it.
    by_cases hinside : '>' ∈ word.take name.length
    · have hlonger : '>' ∈ (word ++ more).take name.length := by
        rw [List.take_append]
        exact List.mem_append_left _ hinside
      rw [hname.not_all (List.length_take_le _ _) hinside,
        hname.not_all (List.length_take_le _ _) hlonger]
      simp
    · have hbehind : '>' ∈ word.drop name.length := by
        rw [← List.take_append_drop name.length word] at hword
        exact (List.mem_append.1 hword).resolve_left hinside
      have hlength : name.length ≤ word.length := by
        have hpos := List.length_pos_of_mem hbehind
        rw [List.length_drop] at hpos
        omega
      rw [List.take_append_of_le_length hlength, List.drop_append_of_le_length hlength,
        SettledByBracket.bracketAfterBlanks?.append hbehind]
  · have hother : ∀ rest, text ≠ '<' :: '/' :: rest := fun rest heq => hopen ⟨rest, heq⟩
    rw [hfalse hother, hfalse (append_ne_closing hmem hother more)]

/-- Where code ends does not depend on what follows its end tag. -/
theorem rawTextSize?_append {name text : List Char} (hname : BracketFree name) {size : Nat}
    (hsize : rawTextSize? name text = some size) :
    '>' ∈ text ∧ size < text.length ∧
      ∀ more, rawTextSize? name (text ++ more) = some size := by
  induction text generalizing size with
  | nil => cases hsize
  | cons c rest ih =>
    rw [rawTextSize?] at hsize
    split at hsize
    · rename_i hcloses
      cases hsize
      have hmem := bracket_mem_of_closesRawText hcloses
      refine ⟨hmem, Nat.succ_pos _, fun more => ?_⟩
      have happend := closesRawText_append hname hmem more
      rw [List.cons_append] at happend ⊢
      rw [rawTextSize?, happend, if_pos hcloses]
    · rename_i hopen
      obtain ⟨later, hlater, rfl⟩ := Option.map_eq_some_iff.1 hsize
      obtain ⟨hmem, hlt, hmore⟩ := ih hlater
      refine ⟨List.mem_cons_of_mem c hmem, Nat.succ_lt_succ hlt, fun more => ?_⟩
      have happend := closesRawText_append hname (List.mem_cons_of_mem c hmem) more
      rw [List.cons_append] at happend ⊢
      rw [rawTextSize?, happend, if_neg hopen, hmore more]
      rfl

/-- Raw text of no length ends at once, at an end tag that closes it. -/
theorem closesRawText_of_rawTextSize? {name text : List Char}
    (hsize : rawTextSize? name text = some 0) : closesRawText name text = true := by
  cases text with
  | nil => cases hsize
  | cons c rest =>
    rw [rawTextSize?] at hsize
    split at hsize
    · assumption
    · obtain ⟨later, _, hnever⟩ := Option.map_eq_some_iff.1 hsize
      cases hnever

end BareStrings.Markup.Lexeme
