import BareStrings.Proofs.Markup.EndTag
import Mathlib.Data.List.Infix

namespace BareStrings.Markup

open BareStrings.Text

/-- The end tag of an element of code, with the name in any case. -/
def IsCodeEnd (name tag : List Char) : Prop :=
  ∃ spelling, spelling.map Char.toLower = name ∧ IsEndTagOf spelling tag

/-- The end tag of an element of code begins with an angle bracket. -/
theorem IsCodeEnd.exists_cons {name tag : List Char} (hend : IsCodeEnd name tag) :
    ∃ more, tag = '<' :: more := by
  obtain ⟨_, _, _, _, _, _, rfl⟩ := hend
  exact ⟨_, rfl⟩

namespace Lexeme

/-- A word that is the name of code up to case. Beyond ASCII, some more letters count as the same. -/
def SameLetters (name word : List Char) : Prop :=
  word.length = name.length ∧ (name.zip word).all (fun (a, b) => sameLetter a b) = true

/-- What looks like the end of code is an end tag of a word that is the name up to case. -/
theorem exists_of_closesRawText {name text : List Char} (hcloses : closesRawText name text = true) :
    ∃ word tag behind, text = tag ++ behind ∧ IsEndTagOf word tag ∧ SameLetters name word := by
  unfold closesRawText at hcloses
  split at hcloses
  · rename_i rest
    simp only [Bool.and_eq_true, beq_iff_eq] at hcloses
    obtain ⟨⟨hlength, hall⟩, hbracket⟩ := hcloses
    obtain ⟨size, hsize⟩ := Option.isSome_iff_exists.1 hbracket
    obtain ⟨after, behind, hafter, hdrop, -⟩ := bracketAfterBlanks?_eq_some hsize
    refine ⟨(rest.dropWhile isBlank).take name.length, _, behind, ?_,
      ⟨rest.takeWhile isBlank, after, fun c hc => List.mem_takeWhile_imp hc, hafter, rfl⟩, hlength, hall⟩
    have hword := List.take_append_drop name.length (rest.dropWhile isBlank)
    have hrest := List.takeWhile_append_dropWhile (p := isBlank) (l := rest)
    rw [hdrop] at hword
    rw [← hword] at hrest
    simp [hrest]
  · cases hcloses

/-- The codes of all blanks. -/
def blankCodes : List Nat :=
  List.range' 0x09 5 ++ List.range' 0x1C 5 ++ [0x85, 0xA0, 0x1680] ++ List.range' 0x2000 11 ++
    [0x2028, 0x2029, 0x202F, 0x205F, 0x3000]

/-- Every blank of markup has one of these codes. -/
theorem mem_blankCodes {c : Char} (hblank : isBlank c = true) : c.toNat ∈ blankCodes := by
  simp only [isBlank, isBlankCode, Bool.or_eq_true, Bool.and_eq_true, decide_eq_true_eq,
    beq_iff_eq] at hblank
  simp only [blankCodes, List.mem_append, List.mem_range'_1, List.mem_cons, List.not_mem_nil, or_false]
  omega

section Letters

variable {name : List Char} (hname : name ∈ rawTextNames) {letter c : Char} (hletter : letter ∈ name)

include hname hletter

/-- Among the characters of ASCII, a letter of code is the same as itself in both cases. -/
theorem sameLetter_ascii (hascii : c.toNat < 128) : sameLetter letter c = (c.toLower == letter) := by
  have htwins := of_letter
    (p := fun letter => (Unicode.twinsOf letter.toNat).all fun code => decide (128 ≤ code))
    (by decide) hname hletter
  have hlower := Unicode.lowerCode_toNat hascii
  have hbound : c.toLower.toNat < 128 := by
    rw [← hlower, Unicode.lowerCode_ascii hascii]
    split <;> omega
  have hnot : c.toLower.toNat ∉ Unicode.twinsOf letter.toNat := by
    intro hmem
    have hle := of_decide_eq_true (List.all_eq_true.1 htwins _ hmem)
    omega
  simp [sameLetter, hlower, hnot, Bool.beq_eq_decide_eq, Char.toNat_inj]

private theorem sameLetter_blank (hblank : isBlank c = true) : sameLetter letter c = false := by
  have hblanks := of_letter
    (p := fun letter => blankCodes.all fun code => !sameLetter letter (Char.ofNat code))
    (by decide +kernel) hname hletter
  have hc := List.all_eq_true.1 hblanks c.toNat (mem_blankCodes hblank)
  rw [Char.ofNat_toNat] at hc
  simpa using hc

end Letters

section Names

variable {name word : List Char} (hname : name ∈ rawTextNames)

private theorem SameLetters.exists_letter (hsame : SameLetters name word) {c : Char} (hc : c ∈ word) :
    ∃ letter ∈ name, sameLetter letter c = true := by
  obtain ⟨hlength, hall⟩ := hsame
  rw [← List.map_snd_zip (Nat.le_of_eq hlength)] at hc
  obtain ⟨⟨letter, d⟩, hpair, rfl⟩ := List.mem_map.1 hc
  exact ⟨letter, (List.of_mem_zip hpair).1, List.all_eq_true.1 hall _ hpair⟩

include hname

/-- A word that spells a name in any case may stand in an end tag, and opens no other one. -/
private theorem SameLetters.isWord (hsame : SameLetters name word) : IsWord word ∧ '<' ∉ word := by
  have hne : name ≠ [] := by
    rintro rfl
    exact absurd hname (by decide)
  have hascii : ∀ c : Char, c.toNat < 128 → (∀ name ∈ rawTextNames, c.toLower ∉ name) → c ∉ word := by
    intro c hc hother hmem
    obtain ⟨letter, hletter, hletters⟩ := hsame.exists_letter hmem
    rw [sameLetter_ascii hname hletter hc, beq_iff_eq] at hletters
    exact hother name hname (hletters ▸ hletter)
  refine ⟨⟨?_, fun c hc => ?_, hascii '>' (by decide) (by decide)⟩, hascii '<' (by decide) (by decide)⟩
  · rintro rfl
    exact hne (List.length_eq_zero_iff.1 hsame.1.symm)
  · obtain ⟨letter, hletter, hletters⟩ := hsame.exists_letter hc
    by_contra hblank
    rw [sameLetter_blank hname hletter (by simpa using hblank)] at hletters
    cases hletters

/-- In ASCII, the words that are the name up to case are those with the name as their lower case. -/
theorem sameLetters_iff (hascii : ∀ c ∈ word, c.toNat < 128) :
    SameLetters name word ↔ word.map Char.toLower = name := by
  have hletters : ∀ letter ∈ name, ∀ c ∈ word, sameLetter letter c = (c.toLower == letter) :=
    fun letter hletter c hc => sameLetter_ascii hname hletter (hascii c hc)
  clear hname hascii
  unfold SameLetters
  induction name generalizing word with
  | nil => simp
  | cons letter name ih =>
    cases word with
    | nil => simp
    | cons c word =>
      have hlater := ih fun letter hletter c hc =>
        hletters letter (List.mem_cons_of_mem _ hletter) c (List.mem_cons_of_mem _ hc)
      have hfirst := hletters letter List.mem_cons_self c List.mem_cons_self
      simp only [List.length_cons, Nat.add_right_cancel_iff, List.zip_cons_cons, List.all_cons, hfirst,
        Bool.and_eq_true, beq_iff_eq, List.map_cons, List.cons.injEq, ← hlater]
      exact and_left_comm

/-- A word that spells a name in any case consists of letters. -/
theorem isAlpha_of_spelling (hspelling : word.map Char.toLower = name) :
    ∀ c ∈ word, c.isAlpha = true := by
  intro c hc
  rw [← isAlpha_toLower]
  exact of_letter (p := Char.isAlpha) (by decide) hname (hspelling ▸ List.mem_map_of_mem hc)

private theorem isEndNameChar_of_spelling (hspelling : word.map Char.toLower = name) :
    ∀ c ∈ word, isEndNameChar c = true := by
  intro c hc
  simp [isEndNameChar, Char.isAlphanum, isAlpha_of_spelling hname hspelling c hc]

/-- A word that spells a name in any case consists of characters of ASCII. -/
theorem ascii_of_spelling (hspelling : word.map Char.toLower = name) : ∀ c ∈ word, c.toNat < 128 := by
  intro c hc
  have hletter := isAlpha_iff.1 (isAlpha_of_spelling hname hspelling c hc)
  omega

variable {tag : List Char}

/-- The end of code looks like it. -/
theorem closesRawText_of_isCodeEnd (hend : IsCodeEnd name tag) (rest : List Char) :
    closesRawText name (tag ++ rest) = true := by
  obtain ⟨spelling, hspelling, htag⟩ := hend
  have hsame := (sameLetters_iff hname (ascii_of_spelling hname hspelling)).2 hspelling
  obtain ⟨after, hafter, hdrop⟩ := htag.dropWhile_append (hsame.isWord hname).1 rest
  obtain ⟨before, last, -, -, rfl⟩ := htag
  obtain ⟨hlength, hall⟩ := hsame
  rw [List.cons_append, List.cons_append, List.drop_succ_cons, List.drop_succ_cons, List.drop_zero] at hdrop
  simp only [List.cons_append, closesRawText, hdrop, ← hlength, List.take_left, List.drop_left, hall,
    bracketAfterBlanks?_append hafter]
  simp

/-- The end of code is read as its end tag. -/
theorem endTag?_of_isCodeEnd (hend : IsCodeEnd name tag) (rest : List Char) :
    endTag? (tag ++ rest) = some (name, tag.length) := by
  obtain ⟨spelling, hspelling, htag⟩ := hend
  have hsame := (sameLetters_iff hname (ascii_of_spelling hname hspelling)).2 hspelling
  obtain ⟨c, word, hword⟩ := List.exists_cons_of_ne_nil (hsame.isWord hname).1.ne_nil
  have hletter := isAlpha_of_spelling hname hspelling c (by simp [hword])
  rw [endTag?_of_isEndTagOf htag ⟨c, word, hword, hletter⟩ (isEndNameChar_of_spelling hname hspelling),
    hspelling]

/-- What looks like the end of code and is read as an end tag is the end of code; otherwise only a closing
bracket ends it. In either case there are no other brackets in it. -/
theorem exists_inner_of_closesRawText {text : List Char} (hcloses : closesRawText name text = true) :
    ∃ inner behind, text = '<' :: (inner ++ '>' :: behind) ∧ '<' ∉ inner ∧ '>' ∉ inner ∧
      (endTag? text = none ∨ IsCodeEnd name ('<' :: (inner ++ ['>']))) := by
  obtain ⟨word, tag, behind, htext, htag, hsame⟩ := exists_of_closesRawText hcloses
  obtain ⟨hword, hopen⟩ := hsame.isWord hname
  obtain ⟨inner, htagEq, hinnerOpen, hinnerClose⟩ := htag.exists_inner hopen hword.bracket_not_mem
  refine ⟨inner, behind, by simp [htext, htagEq], hinnerOpen, hinnerClose, ?_⟩
  cases hend : endTag? text with
  | none => exact .inl rfl
  | some found =>
    obtain ⟨other, another, beyond, htextEq, hother, hne, hchars, -, -⟩ := exists_of_endTag? hend
    have hunique := htag.word_eq hother hword (.of_isEndName hne hchars) (htext.symm.trans htextEq)
    have hascii : ∀ c ∈ word, c.toNat < 128 := fun c hc => isEndNameChar_ascii (hchars c (hunique ▸ hc))
    exact .inr ⟨word, (sameLetters_iff hname hascii).1 hsame, htagEq ▸ htag⟩

/-- The end of code stands nowhere in a body exactly if it is read nowhere there. -/
theorem forall_not_isCodeEnd_iff {body : List Char} :
    (∀ tag, tag <:+: body → ¬IsCodeEnd name tag) ↔
      ∀ suffix ∈ body.tails, (endTag? suffix).map Prod.fst ≠ some name := by
  constructor
  · intro hfree suffix hsuffix hread
    obtain ⟨⟨_, size⟩, hend, rfl⟩ := Option.map_eq_some_iff.1 hread
    obtain ⟨word, tag, behind, rfl, htag, -, -, hword, -⟩ := exists_of_endTag? hend
    have hinside := (List.prefix_append tag behind).isInfix.trans (List.mem_tails _ _ |>.1 hsuffix).isInfix
    exact hfree tag hinside ⟨word, hword, htag⟩
  · rintro hnever tag ⟨before, behind, rfl⟩ hend
    refine hnever (tag ++ behind) ?_ (by rw [endTag?_of_isCodeEnd hname hend]; rfl)
    rw [List.mem_tails, List.append_assoc]
    exact List.suffix_append before _

end Names

/-- Code ends at its end tag, unless it ends before. -/
theorem rawTextSize?_le {name rest : List Char} (hcloses : closesRawText name rest = true)
    (body : List Char) : ∃ size ≤ body.length, rawTextSize? name (body ++ rest) = some size := by
  induction body with
  | nil =>
    refine ⟨0, Nat.le_refl 0, ?_⟩
    cases rest with
    | nil => cases hcloses
    | cons c rest => rw [List.nil_append, rawTextSize?, if_pos hcloses]
  | cons c body ih =>
    obtain ⟨size, hle, hsize⟩ := ih
    rw [List.cons_append, rawTextSize?]
    split
    · exact ⟨0, Nat.zero_le _, rfl⟩
    · exact ⟨size + 1, Nat.succ_le_succ hle, by rw [hsize]; rfl⟩

/-- A tag without further brackets ends before the next opening bracket. -/
theorem exists_append_of_open {inner behind body more : List Char} (hopen : '<' ∉ inner) (hne : body ≠ [])
    (hsplit : '<' :: (inner ++ ['>']) ++ behind = body ++ '<' :: more) :
    ∃ later, body = '<' :: (inner ++ ['>']) ++ later := by
  obtain ⟨later, hlater, -⟩ | ⟨inside, hinside, hbehind⟩ := List.append_eq_append_iff.1 hsplit
  · exact ⟨later, hlater⟩
  · cases inside with
    | nil => exact ⟨[], by simpa using hinside.symm⟩
    | cons d inside =>
      obtain ⟨c, tail, rfl⟩ := List.exists_cons_of_ne_nil hne
      rw [List.cons_append, List.cons.injEq] at hbehind hinside
      have hmem : '<' ∈ inner ++ ['>'] := by
        rw [hinside.2, hbehind.1]
        simp
      rcases List.mem_append.1 hmem with hinner | hbracket
      · exact absurd hinner hopen
      · exact absurd (List.mem_singleton.1 hbracket) (by decide)

section Reading

variable {name ending : List Char} (hname : name ∈ rawTextNames) (hend : IsCodeEnd name ending)

include hname hend

/-- Some of the body is read as data, and what is behind it is still code. -/
theorem next?_body {body : List Char} (hfree : ∀ tag, tag <:+: body → ¬IsCodeEnd name tag)
    (hne : body ≠ []) (rest : List Char) :
    ∃ first later lexeme, body = first ++ later ∧
      next? true (.rawText name) (body ++ (ending ++ rest)) = .ok (some lexeme) ∧
      lexeme.token = .data ∧ lexeme.mode = .rawText name ∧ lexeme.size = first.length := by
  obtain ⟨size, hle, hsize⟩ := rawTextSize?_le (closesRawText_of_isCodeEnd hname hend rest) body
  have hnext : next? true (.rawText name) (body ++ (ending ++ rest)) =
      .ok (inRawText name (body ++ (ending ++ rest))) := by
    obtain ⟨c, tail, rfl⟩ := List.exists_cons_of_ne_nil hne
    rfl
  cases size with
  | succ size =>
    refine ⟨body.take (size + 1), body.drop (size + 1), ⟨.data, size + 1, .rawText name, Nat.succ_pos _⟩,
      (List.take_append_drop _ _).symm, ?_, rfl, rfl, ?_⟩
    · simp only [hnext, inRawText, hsize]
    · rw [List.length_take, Nat.min_eq_left hle]
  | zero =>
    -- The body begins like the end of code, and what looks so lies in the body.
    obtain ⟨inner, behind, htext, hopen, hclose, hnot⟩ :=
      exists_inner_of_closesRawText hname (closesRawText_of_rawTextSize? hsize)
    obtain ⟨more, hending⟩ := hend.exists_cons
    have hsplit : '<' :: (inner ++ ['>']) ++ behind = body ++ '<' :: (more ++ rest) := by
      rw [hending] at htext
      simpa using htext.symm
    obtain ⟨later, hlater⟩ := exists_append_of_open hopen hne hsplit
    have hnone : endTag? (body ++ (ending ++ rest)) = none :=
      hnot.resolve_right (hfree _ (hlater ▸ (List.prefix_append _ later).isInfix))
    have hlast : endOf? bracket? (body ++ (ending ++ rest)) = some (inner.length + 2) := by
      have hbefore : '>' ∉ '<' :: inner := by simpa using hclose
      have hfound := endOf?_bracket? hbefore behind
      rw [List.cons_append, ← htext] at hfound
      simpa using hfound
    refine ⟨_, later, ⟨.data, inner.length + 2, .rawText name, Nat.succ_pos _⟩, hlater, ?_, rfl, rfl,
      by simp⟩
    simp only [hnext, inRawText, hsize, hnone, hlast]
    rfl

/-- Behind the body, the end of code is read. -/
theorem next?_ending (rest : List Char) :
    ∃ lexeme, next? true (.rawText name) (ending ++ rest) = .ok (some lexeme) ∧
      lexeme.token = .endTag name ∧ lexeme.mode = .markup ∧ lexeme.size = ending.length := by
  have hread := endTag?_of_isCodeEnd hname hend rest
  obtain ⟨size, hle, hsize⟩ := rawTextSize?_le (closesRawText_of_isCodeEnd hname hend rest) []
  obtain rfl := Nat.le_zero.1 hle
  have hpos := (endTag?_eq_some hread).2.1
  have hlexeme : inRawText name (ending ++ rest) = some ⟨.endTag name, ending.length, .markup, hpos⟩ := by
    rw [List.nil_append] at hsize
    simp [inRawText, hsize, hread, ofSize?, hpos]
  obtain ⟨more, rfl⟩ := hend.exists_cons
  exact ⟨_, congrArg Except.ok hlexeme, rfl, rfl, rfl⟩

/-- The body is read as data. -/
theorem reads_body {body : List Char} (hfree : ∀ tag, tag <:+: body → ¬IsCodeEnd name tag)
    (rest : List Char) :
    ∃ passages, Reads true (.rawText name) (body ++ (ending ++ rest)) passages (.rawText name)
      (ending ++ rest) ∧ ∀ passage ∈ passages, passage.token = .data := by
  by_cases hne : body = []
  · exact ⟨[], by rw [hne]; exact .nil, by simp⟩
  · obtain ⟨first, later, lexeme, hbody, hnext, htoken, hmode, hsize⟩ :=
      next?_body hname hend hfree hne rest
    have hpos := lexeme.size_pos
    have : later.length < body.length := by
      rw [hbody, List.length_append]
      omega
    have hlaterFree : ∀ tag, tag <:+: later → ¬IsCodeEnd name tag :=
      fun tag htag => hfree tag (hbody ▸ htag.trans (List.suffix_append first later).isInfix)
    obtain ⟨passages, hreads, hdata⟩ := reads_body hlaterFree rest
    have hdrop : (body ++ (ending ++ rest)).drop lexeme.size = later ++ (ending ++ rest) := by
      rw [hbody, hsize, List.append_assoc, List.drop_left]
    refine ⟨_, .cons lexeme hnext (by rwa [hmode, hdrop]), ?_⟩
    rintro passage hmem
    rcases List.mem_cons.1 hmem with rfl | hlater
    · exact htoken
    · exact hdata passage hlater
termination_by body.length

end Reading

end Lexeme

end BareStrings.Markup
