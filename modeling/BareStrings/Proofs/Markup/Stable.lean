import BareStrings.Proofs.Markup.CharRef
import BareStrings.Proofs.Markup.EndTag
import BareStrings.Proofs.Markup.Passage
import BareStrings.Proofs.Markup.TagSpan

namespace BareStrings.Markup

open BareStrings.Text CharRef

namespace Lexeme

/-- Whether a text begins with a pattern that holds no bracket is settled once the text holds one. -/
private theorem isPrefixOf_append {pattern text : List Char} (hmem : '>' ∈ text) (hpattern : '>' ∉ pattern)
    (more : List Char) : pattern.isPrefixOf (text ++ more) = pattern.isPrefixOf text := by
  induction pattern generalizing text with
  | nil => simp
  | cons p pattern ih =>
    rw [List.mem_cons, not_or] at hpattern
    cases text with
    | nil => cases hmem
    | cons c rest =>
      rw [List.cons_append, List.isPrefixOf_cons_cons, List.isPrefixOf_cons_cons]
      rcases List.mem_cons.1 hmem with rfl | hrest
      · have hne : (p == '>') = false := beq_eq_false_iff_ne.2 (Ne.symm hpattern.1)
        rw [hne, Bool.false_and, Bool.false_and]
      · rw [ih hrest hpattern.2]

/-- Whether a text is a document type is settled once it holds a bracket. -/
private theorem isDoctype_append {text : List Char} (hmem : '>' ∈ text) (more : List Char) :
    isDoctype (text ++ more) = isDoctype text := by
  have hfalse : ∀ {text : List Char}, '>' ∈ text.take 9 → isDoctype text = false := by
    intro text hinside
    rw [isDoctype, beq_eq_false_iff_ne]
    intro heq
    have hlower : '>' ∈ (text.take 9).map Char.toLower := List.mem_map.2 ⟨'>', hinside, by decide⟩
    rw [heq] at hlower
    revert hlower
    decide
  by_cases hinside : '>' ∈ text.take 9
  · rw [hfalse hinside, hfalse]
    rw [List.take_append]
    exact List.mem_append_left _ hinside
  · have hlength : 9 ≤ text.length := by
      by_contra hshort
      rw [List.take_of_length_le (by omega)] at hinside
      exact hinside hmem
    rw [isDoctype, isDoctype, List.take_append_of_le_length hlength]

/-- What ends a marked section with a keyword. -/
def sectionEndOf? (word blanks content : List Char) : Except MarkupError (Option Nat) :=
  if contentKeywords.contains (word.map Char.toLower) then
    .ok ((endOf? sectionClosing? content).map (· + 3))
  else if conditionKeywords.contains (word.map Char.toLower) then
    .ok ((endOf? conditionClosing? content).map (· + 3))
  else .error (.unknownSection (word ++ blanks))

private theorem sectionEnd?_cons (c : Char) (rest : List Char) :
    sectionEnd? ("<![".toList ++ c :: rest) =
      if !c.isAlpha then .error (.sectionNameExpected (("<![".toList ++ c :: rest).take 20))
      else if ((rest.dropWhile isKeywordChar).dropWhile isBlank).isEmpty then .ok none
      else sectionEndOf? (c :: rest.takeWhile isKeywordChar)
        ((rest.dropWhile isKeywordChar).takeWhile isBlank) (c :: rest) := rfl

/-- Where a section ends, or that it cannot be read, does not change with more text. -/
private theorem sectionEndOf?_append (word blanks content : List Char) :
    (∀ {size}, sectionEndOf? word blanks content = .ok (some size) →
      '>' ∈ content ∧ size ≤ content.length + 3 ∧
        ∀ more, sectionEndOf? word blanks (content ++ more) = .ok (some size)) ∧
    ∀ {error}, sectionEndOf? word blanks content = .error error →
      ∀ more, sectionEndOf? word blanks (content ++ more) = .error error := by
  have hclosing : ∀ {closing}, SettledByBracket closing → ∀ {size},
      (endOf? closing content).map (· + 3) = some size → '>' ∈ content ∧ size ≤ content.length + 3 ∧
        ∀ more, (endOf? closing (content ++ more)).map (· + 3) = some size := by
    intro closing hsettled size hsize
    obtain ⟨inner, hinner, rfl⟩ := Option.map_eq_some_iff.1 hsize
    obtain ⟨hmem, hle, hmore⟩ := hsettled.endOf? hinner
    exact ⟨hmem, Nat.add_le_add_right hle 3, fun more => by rw [hmore more]; rfl⟩
  unfold sectionEndOf?
  split
  · refine ⟨fun hsize => ?_, nofun⟩
    obtain ⟨hmem, hle, hmore⟩ := hclosing .sectionClosing? (Except.ok.inj hsize)
    exact ⟨hmem, hle, fun more => by rw [hmore more]⟩
  · split
    · refine ⟨fun hsize => ?_, nofun⟩
      obtain ⟨hmem, hle, hmore⟩ := hclosing .conditionClosing? (Except.ok.inj hsize)
      exact ⟨hmem, hle, fun more => by rw [hmore more]⟩
    · exact ⟨nofun, fun herror _ => herror⟩

/-- Whether a marked section is refused, and where it ends, is settled by what has been read of it. -/
theorem sectionEnd?_append {text : List Char} (hopen : "<![".toList <+: text) :
    (∀ {size}, sectionEnd? text = .ok (some size) →
      '>' ∈ text ∧ size ≤ text.length ∧ ∀ more, sectionEnd? (text ++ more) = .ok (some size)) ∧
    ∀ {error}, sectionEnd? text = .error error →
      ∀ more, ∃ error, sectionEnd? (text ++ more) = .error error := by
  obtain ⟨content, rfl⟩ := hopen
  cases content with
  | nil => exact ⟨nofun, nofun⟩
  | cons c rest =>
    rw [sectionEnd?_cons]
    by_cases hletter : (!c.isAlpha) = true
    · rw [if_pos hletter]
      refine ⟨nofun, fun _ more => ?_⟩
      rw [List.append_assoc, List.cons_append, sectionEnd?_cons, if_pos hletter]
      exact ⟨_, rfl⟩
    · rw [if_neg hletter]
      by_cases hbehind : ((rest.dropWhile isKeywordChar).dropWhile isBlank).isEmpty = true
      · rw [if_pos hbehind]
        exact ⟨nofun, nofun⟩
      · have hne : (rest.dropWhile isKeywordChar).dropWhile isBlank ≠ [] := by simpa using hbehind
        have hword : rest.dropWhile isKeywordChar ≠ [] := by
          intro hnil
          rw [hnil] at hne
          exact hne rfl
        have hmore : ∀ more, sectionEnd? ("<![".toList ++ c :: rest ++ more) =
            sectionEndOf? (c :: rest.takeWhile isKeywordChar)
              ((rest.dropWhile isKeywordChar).takeWhile isBlank) (c :: rest ++ more) := by
          intro more
          rw [List.append_assoc, List.cons_append, sectionEnd?_cons, if_neg hletter,
            takeWhile_append_of_ne_nil hword, dropWhile_append_of_ne_nil hword,
            takeWhile_append_of_ne_nil hne, dropWhile_append_of_ne_nil hne, if_neg (by simp [hne])]
        rw [if_neg hbehind]
        obtain ⟨hsome, herror⟩ := sectionEndOf?_append (c :: rest.takeWhile isKeywordChar)
          ((rest.dropWhile isKeywordChar).takeWhile isBlank) (c :: rest)
        refine ⟨fun hsize => ?_, fun hrefused more => ⟨_, (hmore more).trans (herror hrefused more)⟩⟩
        obtain ⟨hmem, hle, hsame⟩ := hsome hsize
        refine ⟨List.mem_append_right _ hmem, ?_, fun more => (hmore more).trans (hsame more)⟩
        rw [List.length_append, Nat.add_comm]
        exact hle

/-- An ending that has been found behind some front of a text stays where it is. -/
private theorem SettledByBracket.endOf?_drop {closing : List Char → Option Nat}
    (hsettled : SettledByBracket closing) {text : List Char} {front size : Nat}
    (hend : (Lexeme.endOf? closing (text.drop front)).map (· + front) = some size) :
    '>' ∈ text ∧ size ≤ text.length ∧
      ∀ more, (Lexeme.endOf? closing ((text ++ more).drop front)).map (· + front) = some size := by
  obtain ⟨inner, hinner, rfl⟩ := Option.map_eq_some_iff.1 hend
  obtain ⟨hmem, hle, hmore⟩ := hsettled.endOf? hinner
  have hpos := List.length_pos_of_mem hmem
  rw [List.length_drop] at hle hpos
  refine ⟨(List.drop_suffix _ _).subset hmem, by omega, fun more => ?_⟩
  rw [List.drop_append_of_le_length (by omega), hmore more]
  rfl

/-- Whether a declaration is refused, and where it ends, is settled by what has been read of it. -/
theorem declarationEnd?_append (text : List Char) :
    (∀ {size}, declarationEnd? text = .ok (some size) →
      size ≤ text.length ∧ ∀ more, declarationEnd? (text ++ more) = .ok (some size)) ∧
    ∀ {error}, declarationEnd? text = .error error →
      ∀ more, ∃ error, declarationEnd? (text ++ more) = .error error := by
  have hcomment : '>' ∉ "<!--".toList := by decide
  have hsection : '>' ∉ "<![".toList := by decide
  by_cases hdashes : "<!--".toList.isPrefixOf text = true
  · rw [declarationEnd?, if_pos hdashes]
    refine ⟨fun hsize => ?_, nofun⟩
    obtain ⟨hmem, hle, hmore⟩ := SettledByBracket.commentClosing?.endOf?_drop (Except.ok.inj hsize)
    refine ⟨hle, fun more => ?_⟩
    rw [declarationEnd?, isPrefixOf_append hmem hcomment, if_pos hdashes, hmore more]
  by_cases hmarked : "<![".toList.isPrefixOf text = true
  · rw [declarationEnd?, if_neg hdashes, if_pos hmarked]
    have hopen := List.isPrefixOf_iff_prefix.1 hmarked
    have hmore : ∀ more, declarationEnd? (text ++ more) = sectionEnd? (text ++ more) := by
      obtain ⟨content, rfl⟩ := hopen
      exact fun more => rfl
    obtain ⟨hsome, herror⟩ := sectionEnd?_append hopen
    refine ⟨fun hsize => ?_, fun hrefused more => ?_⟩
    · obtain ⟨_, hle, hsame⟩ := hsome hsize
      exact ⟨hle, fun more => (hmore more).trans (hsame more)⟩
    · rw [hmore more]
      exact herror hrefused more
  · rw [declarationEnd?, if_neg hdashes, if_neg hmarked]
    by_cases hdoctype : isDoctype text = true
    · rw [if_pos hdoctype]
      refine ⟨fun hsize => ?_, nofun⟩
      obtain ⟨hmem, hle, hmore⟩ := SettledByBracket.bracket?.endOf?_drop (Except.ok.inj hsize)
      refine ⟨hle, fun more => ?_⟩
      rw [declarationEnd?, isPrefixOf_append hmem hcomment, if_neg hdashes,
        isPrefixOf_append hmem hsection, if_neg hmarked, isDoctype_append hmem, if_pos hdoctype,
        hmore more]
    · rw [if_neg hdoctype]
      refine ⟨fun hsize => ?_, nofun⟩
      obtain ⟨hmem, hle, hmore⟩ := SettledByBracket.bracket?.endOf?_drop (Except.ok.inj hsize)
      refine ⟨hle, fun more => ?_⟩
      rw [declarationEnd?, isPrefixOf_append hmem hcomment, if_neg hdashes,
        isPrefixOf_append hmem hsection, if_neg hmarked, isDoctype_append hmem, if_neg hdoctype,
        hmore more]

/-- What only a bracket closes is the same whatever follows the bracket. -/
theorem bracketed_append {text : List Char} {token : Token} {mode : Mode} {lexeme : Lexeme}
    (hlexeme : ofSize? token mode ((endOf? bracket? text).map (· + 2)) = some lexeme) (more : List Char) :
    '>' ∈ text ∧ lexeme.size ≤ text.length + 2 ∧
      ofSize? token mode ((endOf? bracket? (text ++ more)).map (· + 2)) = some lexeme := by
  obtain ⟨_, _, hsize⟩ := ofSize?_eq_some hlexeme
  obtain ⟨inner, hinner, hsum⟩ := Option.map_eq_some_iff.1 hsize
  obtain ⟨hmem, hle, hmore⟩ := SettledByBracket.bracket?.endOf? hinner
  refine ⟨hmem, by omega, ?_⟩
  rw [hmore more, ← hinner]
  exact hlexeme

/-- What begins like an end tag and can be told is the same whatever follows. -/
theorem closing?_append {rest : List Char} {lexeme : Lexeme}
    (hlexeme : closing? ('<' :: '/' :: rest) = some lexeme) :
    lexeme.size ≤ rest.length + 2 ∧ ∀ more, closing? ('<' :: '/' :: (rest ++ more)) = some lexeme := by
  have hcons : ∀ more, '<' :: '/' :: (rest ++ more) = '<' :: '/' :: rest ++ more := fun more => rfl
  simp only [closing?, List.drop_succ_cons, List.drop_zero] at hlexeme
  cases hend : endTag? ('<' :: '/' :: rest) with
  | some found =>
    obtain ⟨name, size⟩ := found
    obtain ⟨hmem, _, hle⟩ := endTag?_eq_some hend
    rw [hend] at hlexeme
    obtain ⟨_, _, hsize⟩ := ofSize?_eq_some hlexeme
    cases hsize
    refine ⟨hle, fun more => ?_⟩
    rw [hcons, closing?, endTag?_append hmem, hend]
    exact hlexeme
  | none =>
    rw [hend] at hlexeme
    simp only at hlexeme
    split at hlexeme
    · cases hlexeme
    · rename_i behind
      obtain ⟨_, _, hsize⟩ := ofSize?_eq_some hlexeme
      rw [Option.some.injEq] at hsize
      refine ⟨by simp only [List.length_cons]; omega, fun more => ?_⟩
      have hmem : '>' ∈ '<' :: '/' :: '>' :: behind := by simp
      rw [hcons, closing?, endTag?_append hmem, hend]
      exact hlexeme
    · rename_i c tail hbracket
      obtain ⟨token, hread⟩ : ∃ token,
          ofSize? token .markup ((endOf? bracket? (c :: tail)).map (· + 2)) = some lexeme := by
        split at hlexeme <;> exact ⟨_, hlexeme⟩
      obtain ⟨hmem, hsize, -⟩ := bracketed_append hread []
      refine ⟨hsize, fun more => ?_⟩
      have hwhole : '>' ∈ '<' :: '/' :: c :: tail := by simpa using hmem
      rw [hcons, closing?, endTag?_append hwhole, hend]
      simp only [List.cons_append, List.drop_succ_cons, List.drop_zero]
      by_cases hletter : (!c.isAlpha) = true
      · rw [if_pos hletter] at hlexeme ⊢
        exact (bracketed_append hlexeme more).2.2
      · have htail : '>' ∈ tail := (List.mem_cons.1 hmem).resolve_left fun hc => hbracket hc.symm
        rw [if_neg hletter] at hlexeme ⊢
        rw [takeWhile_append_of_mem htail (by decide)]
        exact (bracketed_append hlexeme more).2.2

/-- Whether something like a start tag ends in a text but leaves a quote open, which is closed in the
source behind the text. -/
def cutsQuote (more : List Char) : List Char → Bool
  | '<' :: c :: rest =>
    c.isAlpha && (tagSpan (c :: rest)).ending != .unfinished &&
      (openQuotesOf (c :: rest)).any more.contains
  | _ => false

/-- A start tag that ends, and none of whose quotes is cut, reads the same with more text behind it. -/
private theorem startTag?_append {c : Char} {rest more : List Char} (hletter : c.isAlpha = true)
    (hcut : cutsQuote more ('<' :: c :: rest) = false)
    (hends : (tagSpan (c :: rest)).ending ≠ .unfinished) :
    startTag? ('<' :: c :: (rest ++ more)) = startTag? ('<' :: c :: rest) ∧
      (tagSpan (c :: rest)).size ≤ rest.length + 1 := by
  have hquote : ∀ quote ∈ openQuotesOf (c :: rest), quote ∉ more := by
    intro quote hopen hmem
    simp only [cutsQuote, hletter, bne_iff_ne.2 hends, Bool.true_and, List.any_eq_false] at hcut
    exact hcut quote hopen (List.contains_iff_mem.2 hmem)
  obtain ⟨hspan, hsize⟩ := tagSpan_append hends hquote
  rw [List.cons_append] at hspan
  refine ⟨?_, hsize⟩
  simp only [startTag?, List.drop_succ_cons, List.drop_zero, hspan]

private theorem size_of_startTag? {rest : List Char} {lexeme : Lexeme}
    (hlexeme : startTag? ('<' :: rest) = .ok (some lexeme)) :
    lexeme.size = (tagSpan rest).size + 1 := by
  simp only [startTag?, List.drop_succ_cons, List.drop_zero] at hlexeme
  split at hlexeme
  · cases hlexeme
  · obtain ⟨_, _, hlexeme⟩ := bind_eq_ok_iff.1 hlexeme
    exact (Option.some.inj (ofSize?_eq_some (Except.ok.inj hlexeme)).2.2).symm
  · obtain ⟨_, _, hlexeme⟩ := bind_eq_ok_iff.1 hlexeme
    exact (Option.some.inj (ofSize?_eq_some (Except.ok.inj hlexeme)).2.2).symm

/-- A declaration that can be told is the same whatever follows, and one that is refused is refused. -/
theorem declaration_append (text more : List Char) :
    let read (text : List Char) : Except MarkupError (Option Lexeme) := do
      return ofSize? .aside .markup (← declarationEnd? text)
    (∀ {lexeme}, read text = .ok (some lexeme) →
      lexeme.size ≤ text.length ∧ read (text ++ more) = .ok (some lexeme)) ∧
    ∀ {error}, read text = .error error → ∃ error, read (text ++ more) = .error error := by
  obtain ⟨hsome, herror⟩ := declarationEnd?_append text
  constructor
  · intro lexeme hlexeme
    obtain ⟨size, hend, hlexeme⟩ := bind_eq_ok_iff.1 hlexeme
    obtain ⟨_, _, rfl⟩ := ofSize?_eq_some (Except.ok.inj hlexeme)
    obtain ⟨hle, hmore⟩ := hsome hend
    exact ⟨hle, bind_eq_ok_iff.2 ⟨_, hmore more, hlexeme⟩⟩
  · intro error hrefused
    obtain hend | ⟨_, _, hnever⟩ := bind_eq_error_iff.1 hrefused
    · obtain ⟨found, hlast⟩ := herror hend more
      exact ⟨found, bind_eq_error_iff.2 (.inl hlast)⟩
    · cases hnever

/-- What begins with a bracket and can be told is the same whatever follows, unless a quote is cut; and
what is refused is refused whatever follows. -/
theorem construct?_append {rest more : List Char} (hcut : cutsQuote more ('<' :: rest) = false) :
    (∀ {lexeme}, construct? ('<' :: rest) = .ok (some lexeme) →
      lexeme.size ≤ rest.length + 1 ∧ construct? ('<' :: (rest ++ more)) = .ok (some lexeme)) ∧
    ∀ {error}, construct? ('<' :: rest) = .error error →
      ∃ error, construct? ('<' :: (rest ++ more)) = .error error := by
  cases rest with
  | nil => exact ⟨by rintro _ ⟨⟩, by rintro _ ⟨⟩⟩
  | cons c rest =>
    simp only [construct?, List.drop_succ_cons, List.drop_zero, List.cons_append]
    by_cases hletter : c.isAlpha = true
    · rw [if_pos hletter, if_pos hletter]
      by_cases hends : (tagSpan (c :: rest)).ending = .unfinished
      · have hnone : startTag? ('<' :: c :: rest) = .ok none := by
          simp only [startTag?, List.drop_succ_cons, List.drop_zero, hends]
        rw [hnone]
        exact ⟨by simp, by simp⟩
      · obtain ⟨hsame, hsize⟩ := startTag?_append hletter hcut hends
        rw [hsame]
        refine ⟨fun hlexeme => ⟨?_, hlexeme⟩, fun herror => ⟨_, herror⟩⟩
        rw [size_of_startTag? hlexeme]
        exact Nat.succ_le_succ hsize
    · rw [if_neg hletter, if_neg hletter]
      by_cases hslash : c = '/'
      · rw [if_pos hslash, if_pos hslash, hslash]
        refine ⟨fun hlexeme => ?_, by simp⟩
        obtain ⟨hsize, hmore⟩ := closing?_append (Except.ok.inj hlexeme)
        exact ⟨hsize, by rw [hmore more]⟩
      · rw [if_neg hslash, if_neg hslash]
        by_cases hmark : c = '!'
        · rw [if_pos hmark, if_pos hmark]
          exact declaration_append ('<' :: c :: rest) more
        · rw [if_neg hmark, if_neg hmark]
          by_cases hasks : c = '?'
          · rw [if_pos hasks, if_pos hasks]
            refine ⟨fun hlexeme => ?_, by simp⟩
            obtain ⟨-, hsize, hmore⟩ := bracketed_append (Except.ok.inj hlexeme) more
            exact ⟨hsize, by rw [hmore]⟩
          · rw [if_neg hasks, if_neg hasks]
            refine ⟨fun hlexeme => ⟨?_, hlexeme⟩, by simp⟩
            obtain ⟨_, _, hsize⟩ := ofSize?_eq_some (Except.ok.inj hlexeme)
            rw [Option.some.injEq] at hsize
            omega

/-- What can be told in code is the same whatever follows. -/
theorem inRawText_append {name text : List Char} (hname : BracketFree name) {lexeme : Lexeme}
    (hlexeme : inRawText name text = some lexeme) :
    lexeme.size ≤ text.length ∧ ∀ more, inRawText name (text ++ more) = some lexeme := by
  unfold inRawText at hlexeme
  split at hlexeme
  · cases hlexeme
  · rename_i hsize
    obtain ⟨hmem, _, hsame⟩ := rawTextSize?_append hname hsize
    split at hlexeme
    · rename_i hend
      obtain ⟨_, _, hle⟩ := endTag?_eq_some hend
      obtain ⟨_, _, hlast⟩ := ofSize?_eq_some hlexeme
      cases hlast
      refine ⟨hle, fun more => ?_⟩
      simp only [inRawText, hsame more, endTag?_append hmem, hend]
      exact hlexeme
    · rename_i hend
      obtain ⟨_, _, hlast⟩ := ofSize?_eq_some hlexeme
      obtain ⟨_, hle, hmore⟩ := SettledByBracket.bracket?.endOf? hlast
      refine ⟨hle, fun more => ?_⟩
      simp only [inRawText, hsame more, endTag?_append hmem, hend, hmore more]
      rw [← hlast]
      exact hlexeme
  · rename_i size hsize
    obtain ⟨_, hlt, hsame⟩ := rawTextSize?_append hname hsize
    cases hlexeme
    refine ⟨Nat.le_of_lt hlt, fun more => ?_⟩
    simp only [inRawText, hsame more]

/-- What begins with no angle bracket is text up to the next one, or waits for a reference to end. -/
theorem next?_markup_text {c : Char} (hc : c ≠ '<') (final : Bool) (rest : List Char) :
    next? final .markup (c :: rest) =
      if !rest.contains '<' && endsInReference (c :: rest) && !final then .ok none
      else (ofText (c :: rest) (rest.takeWhile (· != '<')).length).map some := by
  rw [next?, inMarkup, if_neg hc]
  split
  · rfl
  · cases ofText (c :: rest) (rest.takeWhile (· != '<')).length <;> rfl

/-- Text up to a tag is the same whatever follows; other text goes on. -/
theorem next?_text_append {c : Char} (hc : c ≠ '<') {rest : List Char} {lexeme : Lexeme}
    (hnext : next? false .markup (c :: rest) = .ok (some lexeme)) (more : List Char) :
    (lexeme.size ≤ (c :: rest).length ∧
        next? true .markup (c :: rest ++ more) = .ok (some lexeme)) ∨
      '<' ∉ c :: rest ∧ lexeme.token = .data ∧ lexeme.mode = .markup ∧
        lexeme.size = (c :: rest).length := by
  rw [next?_markup_text hc] at hnext
  split at hnext
  · cases hnext
  · have htext := map_some_eq_ok hnext
    obtain ⟨htoken, hmode, hsize⟩ := ofText_eq_ok htext
    by_cases hmem : '<' ∈ rest
    · have hlength := (List.takeWhile_sublist (· != '<') (l := rest)).length_le
      refine .inl ⟨by rw [List.length_cons]; omega, ?_⟩
      have htake : (c :: (rest ++ more)).take ((rest.takeWhile (· != '<')).length + 1) =
          (c :: rest).take ((rest.takeWhile (· != '<')).length + 1) := by
        rw [← List.cons_append, List.take_append_of_le_length (by rw [List.length_cons]; omega)]
      rw [List.cons_append, next?_markup_text hc, Bool.not_true, Bool.and_false,
        if_neg Bool.false_ne_true, takeWhile_append_of_mem hmem (by decide), ofText, htake]
      rw [ofText] at htext
      rw [htext]
      rfl
    · have hall : rest.takeWhile (· != '<') = rest :=
        List.takeWhile_eq_self_iff.2 fun d hd => by
          rw [bne_iff_ne]
          rintro rfl
          exact hmem hd
      refine .inr ⟨?_, htoken, hmode, by rw [hsize, hall, List.length_cons]⟩
      rw [List.mem_cons, not_or]
      exact ⟨Ne.symm hc, hmem⟩

private theorem take_succ_takeWhile (c : Char) (p : Char → Bool) (rest : List Char) :
    (c :: rest).take ((rest.takeWhile p).length + 1) = c :: rest.takeWhile p := by
  rw [List.take_succ_cons, ← List.prefix_iff_eq_take.1 (List.takeWhile_prefix p)]

/-- Text is refused only for a reference in it, and so it is refused however it goes on. -/
theorem next?_text_append_error {c : Char} (hc : c ≠ '<') {rest : List Char} {error : MarkupError}
    (herror : next? false .markup (c :: rest) = .error error) (more : List Char) :
    ∃ error, next? true .markup (c :: rest ++ more) = .error error := by
  rw [next?_markup_text hc] at herror
  split at herror
  · cases herror
  · have hlong : HoldsLong (c :: rest.takeWhile (· != '<')) := by
      rw [← take_succ_takeWhile]
      by_contra hclean
      obtain ⟨lexeme, htext⟩ := ofText_eq_ok_iff.2 hclean
      rw [htext] at herror
      cases herror
    have hmore : HoldsLong (c :: (rest ++ more).takeWhile (· != '<')) := by
      refine hlong.of_isInfix (List.IsPrefix.isInfix ?_)
      exact List.cons_prefix_cons.2 ⟨rfl, takeWhile_prefix_takeWhile_append _ rest more⟩
    rw [List.cons_append, next?_markup_text hc, Bool.not_true, Bool.and_false,
      if_neg Bool.false_ne_true]
    cases htext : ofText (c :: (rest ++ more)) ((rest ++ more).takeWhile (· != '<')).length with
    | error error => exact ⟨error, rfl⟩
    | ok lexeme =>
      rw [← take_succ_takeWhile] at hmore
      exact absurd hmore (ofText_eq_ok_iff.1 ⟨lexeme, htext⟩)

end Lexeme

/-- No closing bracket can be part of the name of the surrounding code. -/
def Mode.BracketFree : Mode → Prop
  | .markup => True
  | .rawText name => Lexeme.BracketFree name

namespace Lexeme

/-- Code follows a start tag only under the name of the tag, which is one of an element of code. -/
theorem rawText_of_startTag? {text : List Char} {lexeme : Lexeme}
    (hlexeme : startTag? text = .ok (some lexeme)) {name : List Char}
    (hcode : lexeme.mode = .rawText name) :
    name ∈ rawTextNames ∧ lexeme.token = .startTag name false := by
  simp only [startTag?] at hlexeme
  split at hlexeme
  · cases hlexeme
  · obtain ⟨_, _, hlexeme⟩ := bind_eq_ok_iff.1 hlexeme
    rw [(ofSize?_eq_some (Except.ok.inj hlexeme)).2.1] at hcode
    cases hcode
  · obtain ⟨_, _, hlexeme⟩ := bind_eq_ok_iff.1 hlexeme
    obtain ⟨htoken, hmode, _⟩ := ofSize?_eq_some (Except.ok.inj hlexeme)
    rw [hmode] at hcode
    split at hcode
    · rename_i hopens
      rw [Bool.and_eq_true, Bool.not_eq_true'] at hopens
      cases hcode
      exact ⟨List.contains_iff_mem.1 hopens.2, by rw [htoken, hopens.1]⟩
    · cases hcode

/-- Raw text begins only behind the start tag of a raw text element. -/
private theorem rawText_of_construct? {text : List Char} {lexeme : Lexeme}
    (hlexeme : construct? text = .ok (some lexeme)) {name : List Char}
    (hcode : lexeme.mode = .rawText name) :
    name ∈ rawTextNames ∧ lexeme.token = .startTag name false := by
  have hplain : ∀ {token size}, ofSize? token .markup size ≠ some lexeme := by
    intro token size hlexeme
    rw [(ofSize?_eq_some hlexeme).2.1] at hcode
    cases hcode
  unfold construct? at hlexeme
  split at hlexeme
  · cases hlexeme
  · split at hlexeme
    · exact rawText_of_startTag? hlexeme hcode
    · split at hlexeme
      · have hclosing := Except.ok.inj hlexeme
        simp only [closing?] at hclosing
        split at hclosing
        · exact absurd hclosing hplain
        · split at hclosing
          · cases hclosing
          · exact absurd hclosing hplain
          · split at hclosing <;> exact absurd hclosing hplain
      · split at hlexeme
        · obtain ⟨_, _, hlexeme⟩ := bind_eq_ok_iff.1 hlexeme
          exact absurd (Except.ok.inj hlexeme) hplain
        · split at hlexeme <;> exact absurd (Except.ok.inj hlexeme) hplain

/-- What is read before code is the start tag of an element of code, or code under the same name. -/
theorem rawText_of_next? {final : Bool} {mode : Mode} {text : List Char} {lexeme : Lexeme}
    (hnext : next? final mode text = .ok (some lexeme)) {name : List Char}
    (hcode : lexeme.mode = .rawText name) :
    (mode = .rawText name ∧ lexeme.token = .data) ∨
      name ∈ rawTextNames ∧ lexeme.token = .startTag name false := by
  match mode, text with
  | .markup, [] | .rawText _, [] => cases hnext
  | .rawText opened, c :: rest =>
    have hlexeme := Except.ok.inj hnext
    unfold inRawText at hlexeme
    split at hlexeme
    · cases hlexeme
    · split at hlexeme
      · rw [(ofSize?_eq_some hlexeme).2.1] at hcode
        cases hcode
      · obtain ⟨htoken, hmode, _⟩ := ofSize?_eq_some hlexeme
        exact .inl ⟨hmode.symm.trans hcode, htoken⟩
    · cases hlexeme
      exact .inl ⟨hcode, rfl⟩
  | .markup, c :: rest =>
    by_cases hc : c = '<'
    · rw [next?, inMarkup, if_pos hc] at hnext
      obtain ⟨found, hconstruct, hnext⟩ := bind_eq_ok_iff.1 hnext
      cases found with
      | some found =>
        cases hnext
        exact .inr (rawText_of_construct? hconstruct hcode)
      | none =>
        simp only at hnext
        split at hnext
        · obtain ⟨found, htext, hsome⟩ := bind_eq_ok_iff.1 hnext
          cases hsome
          rw [(ofText_eq_ok htext).2.1] at hcode
          cases hcode
        · cases hnext
    · rw [next?_markup_text hc] at hnext
      split at hnext
      · cases hnext
      · rw [(ofText_eq_ok (map_some_eq_ok hnext)).2.1] at hcode
        cases hcode

/-- Code is only entered under the names of elements of code. -/
theorem bracketFree_of_next? {final : Bool} {mode : Mode} {text : List Char} {lexeme : Lexeme}
    (hmode : mode.BracketFree) (hnext : next? final mode text = .ok (some lexeme)) :
    lexeme.mode.BracketFree := by
  cases hcode : lexeme.mode with
  | markup => trivial
  | rawText name =>
    obtain ⟨rfl, _⟩ | ⟨hname, _⟩ := rawText_of_next? hnext hcode
    · exact hmode
    · exact bracketFree_of_mem hname

/-- What can be told before the end of a source is the same whatever follows, unless a quote is cut or
it is text that goes on. -/
theorem next?_append {mode : Mode} {text more : List Char} {lexeme : Lexeme} (hmode : mode.BracketFree)
    (hcut : mode = .markup → cutsQuote more text = false)
    (hnext : next? false mode text = .ok (some lexeme)) :
    (lexeme.size ≤ text.length ∧ next? true mode (text ++ more) = .ok (some lexeme)) ∨
      mode = .markup ∧ '<' ∉ text ∧ lexeme.token = .data ∧ lexeme.mode = .markup ∧
        lexeme.size = text.length := by
  match mode, text with
  | .markup, [] | .rawText _, [] => cases hnext
  | .rawText name, c :: rest =>
    obtain ⟨hsize, hmore⟩ := inRawText_append hmode (Except.ok.inj hnext)
    exact .inl ⟨hsize, congrArg Except.ok (hmore more)⟩
  | .markup, c :: rest =>
    by_cases hc : c = '<'
    · subst hc
      rw [next?, inMarkup, if_pos rfl] at hnext
      obtain ⟨found, hconstruct, hnext⟩ := bind_eq_ok_iff.1 hnext
      cases found with
      | some found =>
        cases hnext
        obtain ⟨hsize, hmore⟩ := (construct?_append (hcut rfl)).1 hconstruct
        refine .inl ⟨hsize, ?_⟩
        rw [List.cons_append, next?, inMarkup, if_pos rfl, hmore]
        rfl
      | none => cases hnext
    · obtain hsame | ⟨htext, htoken, hlast, hsize⟩ := next?_text_append hc hnext more
      · exact .inl hsame
      · exact .inr ⟨rfl, htext, htoken, hlast, hsize⟩

/-- What is refused before the end of a source is refused whatever follows. -/
theorem next?_append_error {mode : Mode} {text more : List Char} {error : MarkupError}
    (hcut : mode = .markup → cutsQuote more text = false)
    (herror : next? false mode text = .error error) :
    ∃ error, next? true mode (text ++ more) = .error error := by
  match mode, text with
  | .markup, [] | .rawText _, [] => cases herror
  | .rawText name, c :: rest => cases herror
  | .markup, c :: rest =>
    by_cases hc : c = '<'
    · subst hc
      rw [next?, inMarkup, if_pos rfl] at herror
      obtain hconstruct | ⟨found, _, hnever⟩ := bind_eq_error_iff.1 herror
      · obtain ⟨error, hmore⟩ := (construct?_append (hcut rfl)).2 hconstruct
        refine ⟨error, ?_⟩
        rw [List.cons_append, next?, inMarkup, if_pos rfl, hmore]
        rfl
      · cases found <;> cases hnever
    · exact next?_text_append_error hc herror more

end Lexeme

end BareStrings.Markup
