import BareStrings.Proofs.Rule.Answer
import BareStrings.Proofs.Rule.Slashed

namespace BareStrings.Rule

open BareStrings.Markup BareStrings.Regex BareStrings.Text

namespace TagName

/-- A small letter or a digit of ASCII. -/
def isSmall (c : Char) : Bool := c.isLower || c.isDigit

section Signs

variable {c : Char}

/-- Small letters and digits are alphanumeric. -/
private theorem isAlphanum_of_isSmall (hsmall : isSmall c = true) : c.isAlphanum = true := by
  rw [isSmall, Bool.or_eq_true] at hsmall
  exact (Bool.or_eq_true _ _).mpr (hsmall.imp_left isAlpha_of_isLower)

/-- Letters and digits are neither punctuation nor what stands between words. -/
theorem isPlain_of_isAlphanum (hc : c.isAlphanum = true) :
    symbols.contains c = false ∧ c ≠ '-' ∧ c ≠ '_' ∧ isBlank c = false :=
  of_ascii (P := fun c => c.isAlphanum = true →
    symbols.contains c = false ∧ c ≠ '-' ∧ c ≠ '_' ∧ isBlank c = false)
    (by decide) (toNat_lt_of_isAlphanum hc) hc

private theorem isUpper_of_isSmall (hsmall : isSmall c = true) : c.isUpper = false :=
  of_ascii (P := fun c => isSmall c = true → c.isUpper = false)
    (by decide) (toNat_lt_of_isAlphanum (isAlphanum_of_isSmall hsmall)) hsmall

private theorem isAlphanum_toUpper (hc : c.isAlphanum = true) : c.toUpper.isAlphanum = true :=
  of_ascii (P := fun c => c.isAlphanum = true → c.toUpper.isAlphanum = true)
    (by decide) (toNat_lt_of_isAlphanum hc) hc

/-- A capital is no small letter, and it is the same again after it has been put into lower case and back. -/
theorem toUpper_toLower_of_isUpper (hupper : c.isUpper = true) : c.isLower = false ∧ c.toLower.toUpper = c :=
  of_ascii (P := fun c => c.isUpper = true → c.isLower = false ∧ c.toLower.toUpper = c)
    (by decide) (toNat_lt_of_isAlpha (isAlpha_of_isUpper hupper)) hupper

end Signs

/-- A name of letters and digits, possibly with hyphens, has no punctuation. -/
theorem hasSymbols_eq_false {name : List Char} (hname : ∀ c ∈ name, c = '-' ∨ c.isAlphanum = true) :
    hasSymbols name = false := by
  refine List.any_eq_false.2 fun c hc => ?_
  obtain rfl | hsign := hname c hc
  · decide
  · simpa using (isPlain_of_isAlphanum hsign).1

/-- A name of letters and digits that begins with a capital is in Pascal case. -/
theorem isPascalCase_of_isUpper {c : Char} {rest : List Char} (hupper : c.isUpper = true)
    (hname : ∀ d ∈ c :: rest, d.isAlphanum = true) : isPascalCase (c :: rest) = true := by
  have hsymbols : hasSymbols (c :: rest) = false := hasSymbols_eq_false fun d hd => .inr (hname d hd)
  have hlower : (c :: rest).head?.any Char.isLower = false := (toUpper_toLower_of_isUpper hupper).1
  have hjoints : (c :: rest).any (fun d => d == '-' || d == '_' || isBlank d) = false := by
    refine List.any_eq_false.2 fun d hd => ?_
    obtain ⟨_, hhyphen, hline, hblank⟩ := isPlain_of_isAlphanum (hname d hd)
    simp [hhyphen, hline, hblank]
  rw [isPascalCase, hsymbols, hlower, hjoints]
  rfl

/-- Such a name is its own Pascal case. -/
theorem pascalCase_of_isUpper {c : Char} {rest : List Char} (hupper : c.isUpper = true)
    (hname : ∀ d ∈ c :: rest, d.isAlphanum = true) : pascalCase (c :: rest) = c :: rest := by
  have hletter : c.isAlpha = true := isAlpha_of_isUpper hupper
  have hlower : Unicode.toLower [c] = [c.toLower] :=
    Unicode.toLower_ascii (List.forall_mem_singleton.2 (toNat_lt_of_isAlpha hletter))
  have hcapital : Unicode.upperChar c.toLower = [c] := by
    have hascii : c.toLower.toNat < 128 := toNat_lt_of_isAlpha ((isAlpha_toLower c).trans hletter)
    rw [Unicode.upperChar_ascii hascii, (toUpper_toLower_of_isUpper hupper).2]
  rw [pascalCase, camelCase, if_pos (isPascalCase_of_isUpper hupper hname)]
  simp only [hlower, List.singleton_append, capitalize, hcapital]

/-- A word of a name: small letters and digits, at least one. -/
structure IsWord (word : List Char) : Prop where
  ne_nil : word ≠ []
  small : ∀ c ∈ word, isSmall c = true

/-- Words that a name is made of. The first of them begins with a letter. -/
structure AreWords (words : List (List Char)) : Prop where
  isWord : ∀ word ∈ words, IsWord word
  letter : ∃ c rest more, words = (c :: rest) :: more ∧ c.isLower = true

/-- The name of words in small letters. -/
def hyphenated (words : List (List Char)) : List Char := joinWith ['-'] words

/-- The name of words with capitals. -/
def capitalized (words : List (List Char)) : List Char := words.flatMap (·.modifyHead Char.toUpper)

private theorem IsWord.exists_cons {word : List Char} (hword : IsWord word) :
    ∃ c rest, word = c :: rest ∧ isSmall c = true ∧ ∀ d ∈ rest, isSmall d = true := by
  obtain ⟨c, rest, rfl⟩ := List.exists_cons_of_ne_nil hword.ne_nil
  exact ⟨c, rest, rfl, List.forall_mem_cons.1 hword.small⟩

section Joining

variable {text : List Char} (htext : ∀ c ∈ text, isSmall c = true)
include htext

/-- A word stays when words are joined. -/
theorem joinWords_append (rest : List Char) : joinWords (text ++ rest) = text ++ joinWords rest := by
  induction text with
  | nil => rfl
  | cons c text ih =>
    obtain ⟨hc, htext⟩ := List.forall_mem_cons.1 htext
    obtain ⟨_, hhyphen, hline, _⟩ := isPlain_of_isAlphanum (isAlphanum_of_isSmall hc)
    rw [List.cons_append, joinWords_cons_of_ne hhyphen hline, ih htext, List.cons_append]

private theorem hasDoubleHyphen_append (rest : List Char) :
    hasDoubleHyphen (text ++ rest) = hasDoubleHyphen rest := by
  induction text with
  | nil => rfl
  | cons c text ih =>
    obtain ⟨hc, htext⟩ := List.forall_mem_cons.1 htext
    obtain ⟨_, hhyphen, _⟩ := isPlain_of_isAlphanum (isAlphanum_of_isSmall hc)
    rw [List.cons_append, ← ih htext, hasDoubleHyphen]
    intro _ hboth
    exact absurd hboth hhyphen

end Joining

variable {words : List (List Char)}

/-- Each hyphen in front of a word makes a capital of its first character. -/
theorem joinWords_flatMap (hwords : ∀ word ∈ words, IsWord word) :
    joinWords (words.flatMap ('-' :: ·)) = capitalized words := by
  induction words with
  | nil => rfl
  | cons word words ih =>
    obtain ⟨hword, hmore⟩ := List.forall_mem_cons.1 hwords
    obtain ⟨c, rest, rfl, hc, hrest⟩ := hword.exists_cons
    have hsign : isWordChar c = true := by simp [isWordChar, isAlphanum_of_isSmall hc]
    have hjoin : joinWords ('-' :: c :: (rest ++ words.flatMap ('-' :: ·))) =
        c.toUpper :: joinWords (rest ++ words.flatMap ('-' :: ·)) := by
      simp [joinWords, hsign]
    rw [List.flatMap_cons, List.cons_append, List.cons_append, hjoin, joinWords_append hrest, ih hmore, capitalized,
      capitalized, List.flatMap_cons, List.modifyHead_cons, List.cons_append]

/-- Words with one hyphen in front of each hold no two hyphens side by side. -/
private theorem hasDoubleHyphen_flatMap (hwords : ∀ word ∈ words, IsWord word) :
    hasDoubleHyphen (words.flatMap ('-' :: ·)) = false := by
  induction words with
  | nil => rfl
  | cons word words ih =>
    obtain ⟨hword, hmore⟩ := List.forall_mem_cons.1 hwords
    obtain ⟨c, rest, rfl, hc, hrest⟩ := hword.exists_cons
    obtain ⟨_, hhyphen, _⟩ := isPlain_of_isAlphanum (isAlphanum_of_isSmall hc)
    have hbehind := hasDoubleHyphen_append (List.forall_mem_cons.2 ⟨hc, hrest⟩) (words.flatMap ('-' :: ·))
    rw [List.flatMap_cons, List.cons_append, hasDoubleHyphen, hbehind, ih hmore]
    intro _ _ hboth
    exact absurd (List.cons.inj hboth).1 hhyphen

private theorem hyphenated_cons (word : List Char) (words : List (List Char)) :
    hyphenated (word :: words) = word ++ words.flatMap ('-' :: ·) :=
  joinWith_eq_flatMap ['-'] word words

private theorem mem_hyphenated (hwords : ∀ word ∈ words, IsWord word) {c : Char} (hc : c ∈ hyphenated words) :
    c = '-' ∨ isSmall c = true := by
  obtain hhyphen | ⟨word, hword, hc⟩ := mem_joinWith hc
  · exact .inl (List.mem_singleton.1 hhyphen)
  · exact .inr ((hwords word hword).small c hc)

private theorem isAlphanum_of_mem_capitalized (hwords : ∀ word ∈ words, IsWord word) {c : Char}
    (hc : c ∈ capitalized words) : c.isAlphanum = true := by
  obtain ⟨word, hword, hc⟩ := List.mem_flatMap.1 hc
  obtain ⟨first, rest, rfl, hfirst, hrest⟩ := (hwords word hword).exists_cons
  obtain rfl | hc := List.mem_cons.1 hc
  · exact isAlphanum_toUpper (isAlphanum_of_isSmall hfirst)
  · exact isAlphanum_of_isSmall (hrest c hc)

namespace AreWords

variable (hwords : AreWords words)
include hwords

/-- The first of the words begins with a small letter. -/
private theorem exists_cons :
    ∃ c rest more, words = (c :: rest) :: more ∧ c.isLower = true ∧ c.isAlpha = true ∧
    (∀ d ∈ rest, isSmall d = true) ∧ ∀ word ∈ more, IsWord word := by
  obtain ⟨c, rest, more, rfl, hlower⟩ := hwords.letter
  obtain ⟨hfirst, hmore⟩ := List.forall_mem_cons.1 hwords.isWord
  exact ⟨c, rest, more, rfl, hlower, isAlpha_of_isLower hlower, (List.forall_mem_cons.1 hfirst.small).2, hmore⟩

/-- Words with hyphens between them are written in words with hyphens. -/
private theorem isKebabCase_hyphenated : isKebabCase (hyphenated words) = true := by
  have hsigns (c : Char) (hc : c ∈ hyphenated words) : c = '-' ∨ isSmall c = true :=
    mem_hyphenated hwords.isWord hc
  have hupper : (hyphenated words).any Char.isUpper = false := by
    refine List.any_eq_false.2 fun c hc => ?_
    obtain rfl | hsmall := hsigns c hc
    · decide
    · rw [isUpper_of_isSmall hsmall]
      exact Bool.false_ne_true
  have hsymbols : hasSymbols (hyphenated words) = false :=
    hasSymbols_eq_false fun c hc => (hsigns c hc).imp_right isAlphanum_of_isSmall
  have hjoints : (hyphenated words).any (fun c => c == '_' || isBlank c) = false := by
    refine List.any_eq_false.2 fun c hc => ?_
    obtain rfl | hsmall := hsigns c hc
    · decide
    · obtain ⟨_, _, hline, hblank⟩ := isPlain_of_isAlphanum (isAlphanum_of_isSmall hsmall)
      simp [hline, hblank]
  obtain ⟨c, rest, more, rfl, hlower, hletter, hrest, hmore⟩ := hwords.exists_cons
  have hfirst : ∀ d ∈ c :: rest, isSmall d = true := (hwords.isWord _ List.mem_cons_self).small
  have hhead : ((hyphenated ((c :: rest) :: more)).head? == some '-') = false := by
    rw [hyphenated_cons]
    simpa using ne_of_isAlpha hletter rfl
  have hdouble : hasDoubleHyphen (hyphenated ((c :: rest) :: more)) = false := by
    rw [hyphenated_cons, hasDoubleHyphen_append hfirst, hasDoubleHyphen_flatMap hmore]
  rw [isKebabCase, hupper, hsymbols, hhead, hjoints, hdouble]
  rfl

private theorem pascalCase_hyphenated : pascalCase (hyphenated words) = capitalized words := by
  have hkebab := hwords.isKebabCase_hyphenated
  obtain ⟨c, rest, more, rfl, _, hletter, hrest, hmore⟩ := hwords.exists_cons
  rw [hyphenated_cons, List.cons_append] at hkebab ⊢
  rw [pascalCase_cons hletter hkebab, joinWords_append hrest, joinWords_flatMap hmore, capitalized, capitalized,
    List.flatMap_cons, List.modifyHead_cons, List.cons_append]

private theorem pascalCase_capitalized : pascalCase (capitalized words) = capitalized words := by
  have hname (c : Char) (hc : c ∈ capitalized words) := isAlphanum_of_mem_capitalized hwords.isWord hc
  obtain ⟨c, rest, more, rfl, _, hletter, _⟩ := hwords.exists_cons
  exact pascalCase_of_isUpper (isUpper_toUpper_of_isAlpha hletter) hname

private theorem hyphenated_eq_cons : ∃ c rest, hyphenated words = c :: rest ∧ c.isAlpha = true := by
  obtain ⟨c, rest, more, rfl, _, hletter, _⟩ := hwords.exists_cons
  exact ⟨c, rest ++ more.flatMap ('-' :: ·), by rw [hyphenated_cons, List.cons_append], hletter⟩

/-- Words that are joined by capitals are a name and no pattern. -/
theorem isPattern_capitalized : Selector.isPattern (codePoints (capitalized words)) = false := by
  by_contra hpattern
  obtain ⟨⟨body, flags⟩, hparts⟩ := Option.isSome_iff_exists.1 (eq_true_of_ne_false hpattern)
  obtain ⟨hslashed, _⟩ := Selector.patternParts?_eq_some_iff.1 hparts
  have hslash : CodePoint.ofChar '/' ∈ codePoints (capitalized words) := hslashed ▸ List.mem_cons_self
  exact absurd (isAlphanum_of_mem_capitalized hwords.isWord (mem_codePoints_iff.1 hslash)) (by decide)

end AreWords

end TagName

namespace Resolver

open BareStrings.Rule.TagName

variable {attributes : List (List CodePoint × List (List CodePoint))} {targets : Targets} {words : List (List Char)}

/-- What a table gives to the Pascal case of a name in kebab case is among the answer to the name. -/
theorem mem_answer_of_gives (hkeys : (attributes.map Prod.fst).Nodup)
    (htargets : Targets.ofAttributes attributes = .ok targets) {c : Char} {rest : List Char}
    (hletter : c.isAlpha = true) (hkebab : isKebabCase (c :: rest) = true) {found : Finset (List CodePoint)}
    (hfound : (ofTargets targets).answer (c :: rest) = .ok found) {given : List CodePoint}
    (hgives : Gives attributes (pascalCase (c :: rest)) given) : given ∈ found := by
  rw [answer_cons hletter] at hfound
  obtain ⟨own, _, hfound⟩ := bind_eq_ok_iff.1 hfound
  rw [if_pos hkebab, answer_of_not_isKebabCase targets (isKebabCase_pascalCase hletter hkebab)] at hfound
  obtain ⟨more, hmore, hfound⟩ := bind_eq_ok_iff.1 hfound
  obtain rfl := Except.ok.inj hfound
  obtain ⟨names, hnames, rfl⟩ := Targets.ownSet_eq_ok_iff.1 hmore
  have hgiven := (Targets.mem_ofName_iff_gives hkeys htargets hnames).2 hgives
  exact Finset.mem_union_right own (List.mem_toFinset.2 hgiven)

private theorem answer_afterAll (targets : Targets) (asked : List (List Char)) (tag : List Char) :
    ((ofTargets targets).afterAll asked).answer tag = (ofTargets targets).answer tag := by
  obtain ⟨hfaithful, hsame⟩ := (faithful_ofTargets targets).afterAll asked
  rw [hfaithful.answer_eq, hsame, answer_ofTargets]
  rfl

/-- A name whose words are joined by hyphens is in kebab case. Its Pascal case joins the same words by
capitals; that is not in kebab case, and it is its own Pascal case. So if a table has an entry for it, the
answer to the name with hyphens holds the attributes of this entry, whatever has been asked before. There is
an answer exactly if the searches for all patterns in both spellings have one, which they always have if no
pattern notes groups. -/
theorem answer_hyphenated (hwords : AreWords words) :
    isKebabCase (hyphenated words) = true ∧
    pascalCase (hyphenated words) = capitalized words ∧
    isKebabCase (pascalCase (hyphenated words)) = false ∧
    pascalCase (pascalCase (hyphenated words)) = pascalCase (hyphenated words) ∧
    ∀ attributes targets names asked, (attributes.map Prod.fst).Nodup →
      Targets.ofAttributes attributes = .ok targets →
      (codePoints (pascalCase (hyphenated words)), names) ∈ attributes →
      let answer := ((ofTargets targets).afterAll asked).answer (hyphenated words)
      (∀ found, answer = .ok found → names.toFinset ⊆ found) ∧
      ((∃ found, answer = .ok found) ↔
        AllTold attributes (hyphenated words) ∧ AllTold attributes (pascalCase (hyphenated words))) ∧
      ((∀ entry ∈ targets.patterns, entry.1.regex.captures = false) → ∃ found, answer = .ok found) := by
  have hkebab := hwords.isKebabCase_hyphenated
  have hpascal := hwords.pascalCase_hyphenated
  have hplain := hwords.isPattern_capitalized
  have hsame := hwords.pascalCase_capitalized
  obtain ⟨c, rest, hname, hletter⟩ := hwords.hyphenated_eq_cons
  rw [← hpascal] at hplain hsame
  rw [hname] at hkebab hplain hsame hpascal ⊢
  refine ⟨hkebab, hpascal, isKebabCase_pascalCase hletter hkebab, hsame, ?_⟩
  intro attributes targets names asked hkeys htargets hentry
  simp only [answer_afterAll]
  refine ⟨fun found hfound given hgiven => ?_, ?_, fun hfree => ?_⟩
  · have happlies : Selector.AppliesTo (codePoints (pascalCase (c :: rest))) (pascalCase (c :: rest)) := by
      rw [Selector.AppliesTo, hplain, if_neg Bool.false_ne_true]
    exact mem_answer_of_gives hkeys htargets hletter hkebab hfound
      ⟨_, hentry, happlies, List.mem_toFinset.1 hgiven⟩
  · rw [exists_answer_iff hletter htargets, forall_prop_of_true hkebab]
  · have htold (name : List Char) : AllTold attributes name :=
      (Targets.exists_ofName_iff_allTold htargets).1 (Targets.exists_ofName hfree name)
    exact (exists_answer_iff hletter htargets).2 ⟨htold _, fun _ => htold _⟩

/-- An entry for `MyBox2` gives its attribute to `my-box-2`, beside a pattern that finds nothing there. -/
theorem answer_hyphenated_box :
    let words := ["my".toList, "box".toList, "2".toList]
    let attributes : List (List CodePoint × List (List CodePoint)) :=
      [(wording "/^your-/", [wording "hint"]), (wording "MyBox2", [wording "label"])]
    AreWords words ∧ (attributes.map Prod.fst).Nodup ∧
      ∃ targets found, Targets.ofAttributes attributes = .ok targets ∧
        ((ofTargets targets).afterAll ["my-box".toList]).answer (hyphenated words) = .ok found ∧
        wording "label" ∈ found := by
  intro words attributes
  have hwords : AreWords words := by
    refine ⟨?_, 'm', "y".toList, ["box".toList, "2".toList], rfl, rfl⟩
    simp only [words, List.forall_mem_cons]
    refine ⟨?_, ?_, ?_, by simp⟩
    all_goals exact ⟨by decide, List.all_eq_true.1 rfl⟩
  have hkeys : (attributes.map Prod.fst).Nodup := by decide
  have hread : (Targets.ofAttributes attributes).toOption.map
      (fun targets => targets.patterns.all fun entry => !entry.1.regex.captures) = some true := by
    decide +kernel
  obtain ⟨targets, htargets, hall⟩ := exists_of_toOption_map hread
  obtain ⟨_, hpascal, _, _, hanswer⟩ := answer_hyphenated hwords
  have hentry : (codePoints (pascalCase (hyphenated words)), [wording "label"]) ∈ attributes := by
    rw [hpascal]
    decide +kernel
  have hfree : ∀ entry ∈ targets.patterns, entry.1.regex.captures = false := fun entry hmem => by
    simpa using List.all_eq_true.1 hall entry hmem
  obtain ⟨hholds, _, hexists⟩ := hanswer attributes targets [wording "label"] ["my-box".toList] hkeys htargets hentry
  obtain ⟨found, hfound⟩ := hexists hfree
  exact ⟨hwords, hkeys, targets, found, htargets, hfound, hholds found hfound (by simp)⟩

/-- An entry for `Xyz`, and beside it a pattern that compiles and whose search in `xyz` has no answer. -/
theorem answer_hyphenated_without_search_result :
    let words := ["xyz".toList]
    let attributes : List (List CodePoint × List (List CodePoint)) :=
      [(wording "Xyz", [wording "label"]), (wording "/((x)|y|z)*+/", [wording "title"])]
    AreWords words ∧ (attributes.map Prod.fst).Nodup ∧
      (codePoints (pascalCase (hyphenated words)), [wording "label"]) ∈ attributes ∧
      ∃ targets, Targets.ofAttributes attributes = .ok targets ∧
        (ofTargets targets).answer (hyphenated words) = .error .reversedGroup := by
  intro words attributes
  have hwords : AreWords words := by
    refine ⟨?_, 'x', "yz".toList, [], rfl, rfl⟩
    simp only [words, List.forall_mem_cons]
    exact ⟨⟨by decide, List.all_eq_true.1 rfl⟩, by simp⟩
  have hsearch : (Targets.ofAttributes attributes).toOption.map (·.ofTag "xyz".toList) =
      some (.error .reversedGroup) := by
    decide +kernel
  obtain ⟨targets, htargets, hcause⟩ := exists_of_toOption_map hsearch
  refine ⟨hwords, by decide +kernel, by decide +kernel, targets, htargets, ?_⟩
  rw [answer_ofTargets]
  exact congrArg (Except.map List.toFinset) hcause

end Resolver

end BareStrings.Rule
