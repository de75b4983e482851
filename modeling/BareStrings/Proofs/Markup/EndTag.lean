import BareStrings.Proofs.Markup.Bracket
import BareStrings.Proofs.Markup.Template.StartTag

namespace BareStrings.Markup

open BareStrings.Text

/-- An end tag that holds a word and nothing but blanks beside it. -/
def IsEndTagOf (word tag : List Char) : Prop :=
  ∃ before after, (∀ c ∈ before, isBlank c = true) ∧ (∀ c ∈ after, isBlank c = true) ∧
    tag = '<' :: '/' :: (before ++ (word ++ (after ++ ['>'])))

/-- A word that can be told from the blanks and the bracket around it. -/
structure IsWord (word : List Char) : Prop where
  ne_nil : word ≠ []
  not_blank : ∀ c ∈ word, isBlank c = false
  bracket_not_mem : '>' ∉ word

private theorem open_not_blank {blanks : List Char} (hblanks : ∀ c ∈ blanks, isBlank c = true) :
    '<' ∉ blanks :=
  fun hmem => absurd (hblanks '<' hmem) (by decide)

private theorem bracket_not_blank {blanks : List Char} (hblanks : ∀ c ∈ blanks, isBlank c = true) :
    '>' ∉ blanks :=
  fun hmem => absurd (hblanks '>' hmem) (by decide)

/-- A plain name is a word that an end tag may hold. -/
theorem IsPlainName.isWord {name : List Char} (hname : IsPlainName name) : IsWord name := by
  obtain ⟨c, rest, hsplit, _⟩ := hname.letter
  exact ⟨by simp [hsplit], hname.not_blank, hname.bracket_not_mem⟩

/-- Characters that may stand in the name of an end tag form such a word. -/
theorem IsWord.of_isEndName {word : List Char} (hne : word ≠ [])
    (hchars : ∀ c ∈ word, Lexeme.isEndNameChar c = true) : IsWord word := by
  refine ⟨hne, fun c hc => isBlank_of_isEndNameChar (hchars c hc), fun hmem => ?_⟩
  exact absurd (hchars '>' hmem) (by decide)

namespace IsEndTagOf

variable {word other tag another behind beyond : List Char}

/-- Behind the opening of an end tag and its blanks stand the word, blanks and the bracket. -/
theorem dropWhile_append (htag : IsEndTagOf word tag) (hword : IsWord word) (behind : List Char) :
    ∃ after, (∀ c ∈ after, isBlank c = true) ∧
      ((tag ++ behind).drop 2).dropWhile isBlank = word ++ (after ++ '>' :: behind) := by
  obtain ⟨before, after, hbefore, hafter, rfl⟩ := htag
  obtain ⟨c, rest, rfl⟩ := List.exists_cons_of_ne_nil hword.ne_nil
  have hc := hword.not_blank c List.mem_cons_self
  refine ⟨after, hafter, ?_⟩
  simp only [List.cons_append, List.drop_succ_cons, List.drop_zero, List.append_assoc]
  rw [List.dropWhile_append_of_pos hbefore, List.dropWhile_cons, hc]
  rfl

/-- A text begins with end tags of one word at most. -/
theorem word_eq (htag : IsEndTagOf word tag) (hother : IsEndTagOf other another) (hword : IsWord word)
    (hotherWord : IsWord other) (heq : tag ++ behind = another ++ beyond) : word = other := by
  have htake : ∀ {word after behind : List Char}, IsWord word → (∀ c ∈ after, isBlank c = true) →
      (word ++ (after ++ '>' :: behind)).takeWhile (fun c => !isBlank c && c != '>') = word := by
    intro word after behind hword hafter
    have hall : ∀ c ∈ word, (!isBlank c && c != '>') = true := by
      intro c hc
      have hbracket : c ≠ '>' := by
        rintro rfl
        exact hword.bracket_not_mem hc
      simp [hword.not_blank c hc, hbracket]
    rw [List.takeWhile_append_of_pos hall]
    cases after with
    | nil => simp
    | cons c after => simp [hafter c List.mem_cons_self]
  obtain ⟨after, hafter, hdrop⟩ := htag.dropWhile_append hword behind
  obtain ⟨last, hlast, hotherDrop⟩ := hother.dropWhile_append hotherWord beyond
  rw [heq, hotherDrop] at hdrop
  rw [← htake hword hafter, ← hdrop, htake hotherWord hlast]

/-- Between its brackets an end tag of a word has no bracket. -/
theorem exists_inner (htag : IsEndTagOf word tag) (hopen : '<' ∉ word) (hclose : '>' ∉ word) :
    ∃ inner, tag = '<' :: (inner ++ ['>']) ∧ '<' ∉ inner ∧ '>' ∉ inner := by
  obtain ⟨before, after, hbefore, hafter, rfl⟩ := htag
  refine ⟨'/' :: (before ++ (word ++ after)), by simp, ?_, ?_⟩
  · simp [open_not_blank hbefore, open_not_blank hafter, hopen]
  · simp [bracket_not_blank hbefore, bracket_not_blank hafter, hclose]

end IsEndTagOf

namespace Lexeme

/-- A bracket is found exactly behind blanks, and the size counts both. -/
theorem bracketAfterBlanks?_eq_some {text : List Char} {size : Nat}
    (hsize : bracketAfterBlanks? text = some size) :
    ∃ blanks behind, (∀ c ∈ blanks, isBlank c = true) ∧ text = blanks ++ '>' :: behind ∧
      size = blanks.length + 1 := by
  unfold bracketAfterBlanks? at hsize
  split at hsize
  · rename_i behind hdrop
    cases hsize
    refine ⟨text.takeWhile isBlank, behind, fun c hc => List.mem_takeWhile_imp hc, ?_, rfl⟩
    rw [← hdrop, List.takeWhile_append_dropWhile]
  · cases hsize

/-- Blanks and a bracket are found, whatever follows them. -/
theorem bracketAfterBlanks?_append {blanks : List Char} (hblanks : ∀ c ∈ blanks, isBlank c = true)
    (behind : List Char) : bracketAfterBlanks? (blanks ++ '>' :: behind) = some (blanks.length + 1) := by
  unfold bracketAfterBlanks?
  rw [List.dropWhile_append_of_pos hblanks, List.takeWhile_append_of_pos hblanks]
  simp [isBlank_bracket]

/-- What is read as a well-formed end tag is one, of its full length, and has the word in lower case as its
name. -/
theorem exists_of_endTag? {text name : List Char} {size : Nat} (hend : endTag? text = some (name, size)) :
    ∃ word tag behind, text = tag ++ behind ∧ IsEndTagOf word tag ∧ word ≠ [] ∧
      (∀ c ∈ word, isEndNameChar c = true) ∧ word.map Char.toLower = name ∧ size = tag.length := by
  unfold endTag? at hend
  split at hend
  · rename_i rest
    split at hend
    · cases hend
    · rename_i c word hdrop
      split at hend
      · cases hend
      · rename_i hletter
        obtain ⟨bracket, hbracket, heq⟩ := Option.map_eq_some_iff.1 hend
        obtain ⟨after, behind, hafter, hbehind, rfl⟩ := bracketAfterBlanks?_eq_some hbracket
        obtain ⟨hname, hsize⟩ := Prod.mk.inj heq
        refine ⟨c :: word.takeWhile isEndNameChar, _, behind, ?_,
          ⟨rest.takeWhile isBlank, after, fun c hc => List.mem_takeWhile_imp hc, hafter, rfl⟩,
          List.cons_ne_nil _ _, ?_, hname, ?_⟩
        · have hword := List.takeWhile_append_dropWhile (p := isEndNameChar) (l := word)
          have hrest := List.takeWhile_append_dropWhile (p := isBlank) (l := rest)
          rw [hbehind] at hword
          rw [hdrop, ← hword] at hrest
          simp [hrest]
        · intro d hd
          rcases List.mem_cons.1 hd with rfl | hlater
          · simp only [Bool.not_eq_true', Bool.not_eq_false] at hletter
            simp [isEndNameChar, Char.isAlphanum, hletter]
          · exact List.mem_takeWhile_imp hlater
        · rw [← hsize]
          simp
          omega
  · cases hend

/-- An end tag holds a bracket and is a part of the text that it is read from. -/
theorem endTag?_eq_some {text name : List Char} {size : Nat} (hend : endTag? text = some (name, size)) :
    '>' ∈ text ∧ 0 < size ∧ size ≤ text.length := by
  obtain ⟨word, tag, behind, rfl, ⟨before, after, -, -, rfl⟩, -, -, -, rfl⟩ := exists_of_endTag? hend
  refine ⟨by simp, by simp, ?_⟩
  rw [List.length_append]
  omega

/-- An end tag of a word that a name can be is read as one, with the word in lower case as its name. -/
theorem endTag?_of_isEndTagOf {word tag : List Char} (htag : IsEndTagOf word tag)
    (hletter : ∃ c rest, word = c :: rest ∧ c.isAlpha = true)
    (hchars : ∀ c ∈ word, isEndNameChar c = true) (rest : List Char) :
    endTag? (tag ++ rest) = some (word.map Char.toLower, tag.length) := by
  obtain ⟨c, word, rfl, hletter⟩ := hletter
  obtain ⟨before, after, hbefore, hafter, rfl⟩ := htag
  have hblank := isBlank_of_isAlpha hletter
  have hinside : ∀ d ∈ word, isEndNameChar d = true := fun d hd => hchars d (List.mem_cons_of_mem c hd)
  -- The name ends at a blank or at the bracket.
  obtain ⟨d, more, htail, hd⟩ : ∃ d more, after ++ '>' :: rest = d :: more ∧ isEndNameChar d = false := by
    cases after with
    | nil => exact ⟨'>', rest, rfl, by decide⟩
    | cons d after =>
      refine ⟨d, _, rfl, ?_⟩
      by_contra hchar
      have hnot := isBlank_of_isEndNameChar (by simpa using hchar)
      rw [hafter d List.mem_cons_self] at hnot
      cases hnot
  have htake : (word ++ (after ++ '>' :: rest)).takeWhile isEndNameChar = word := by
    rw [List.takeWhile_append_of_pos hinside, htail]
    simp [hd]
  have hdrop : (word ++ (after ++ '>' :: rest)).dropWhile isEndNameChar = after ++ '>' :: rest := by
    rw [List.dropWhile_append_of_pos hinside, htail]
    simp [hd]
  have hsource : '<' :: '/' :: (before ++ (c :: word ++ (after ++ ['>']))) ++ rest =
      '<' :: '/' :: (before ++ c :: (word ++ (after ++ '>' :: rest))) := by simp
  rw [hsource]
  simp only [endTag?, List.dropWhile_append_of_pos hbefore, List.takeWhile_append_of_pos hbefore,
    List.dropWhile_cons, List.takeWhile_cons, hblank, hletter, Bool.false_eq_true, if_false,
    Bool.not_true, htake, hdrop, bracketAfterBlanks?_append hafter]
  simp
  omega

end Lexeme

end BareStrings.Markup
