import BareStrings.Markup.Lexeme.StartTag
import BareStrings.Proofs.Text.Split

namespace BareStrings.Markup.Lexeme

open BareStrings.Text

/-- The equals signs behind an attribute's name. -/
def signsOf (text : List Char) : List Char := (text.dropWhile isBlank).takeWhile (· == '=')

/-- What follows the equals signs. -/
def behindSigns (text : List Char) : List Char := (text.dropWhile isBlank).dropWhile (· == '=')

/-- What follows the equals signs and the blanks after them. -/
def valueText (text : List Char) : List Char := (behindSigns text).dropWhile isBlank

/-- The number of characters up to the last equals sign. -/
def leadSize (text : List Char) : Nat := (text.takeWhile isBlank).length + (signsOf text).length

/-- The number of blanks between the equals signs and the value. -/
def innerSize (text : List Char) : Nat := ((behindSigns text).takeWhile isBlank).length

/-- What may enclose a value. -/
def IsQuote (c : Char) : Prop := c = '"' ∨ c = '\''

instance : DecidablePred IsQuote := fun c => inferInstanceAs (Decidable (c = '"' ∨ c = '\''))

/-- What is looked at for a value is the end of the text that is left. -/
theorem valueText_suffix (text : List Char) : valueText text <:+ text :=
  (List.dropWhile_suffix _).trans ((List.dropWhile_suffix _).trans (List.dropWhile_suffix _))

/-- A value that a quote begins. -/
theorem valueSpan?_quote {text rest : List Char} {quote : Char} (hquote : IsQuote quote)
    (hopen : valueText text = quote :: rest) :
    valueSpan? text =
      if (signsOf text).isEmpty then none
      else if rest.contains quote then
        some (rest.takeWhile (· != quote),
          leadSize text + innerSize text + (rest.takeWhile (· != quote)).length + 2)
      else if 0 < innerSize text then some ([], leadSize text + innerSize text)
      else if 2 ≤ (signsOf text).length then
        some ('=' :: (valueText text).takeWhile isBareChar,
          leadSize text + ((valueText text).takeWhile isBareChar).length)
      else none := by
  have hbody : ((text.dropWhile isBlank).dropWhile (· == '=')).dropWhile isBlank = quote :: rest := hopen
  rcases hquote with rfl | rfl <;>
    simp only [valueSpan?, hbody, hopen, signsOf, leadSize, innerSize, behindSigns]

/-- A value that no quote begins. -/
theorem valueSpan?_bare {text : List Char}
    (hbare : ∀ quote rest, valueText text = quote :: rest → ¬IsQuote quote) :
    valueSpan? text =
      if (signsOf text).isEmpty then none
      else some ((valueText text).takeWhile isBareChar,
        leadSize text + innerSize text + ((valueText text).takeWhile isBareChar).length) := by
  simp only [valueSpan?]
  split
  · rename_i hsigns
    exact (if_pos hsigns).symm
  · rename_i hsigns
    refine Eq.trans ?_ (if_neg hsigns).symm
    split
    · rename_i rest hopen
      exact absurd (.inl rfl) (hbare _ _ hopen)
    · rename_i rest hopen
      exact absurd (.inr rfl) (hbare _ _ hopen)
    · rfl

/-- A quote that begins a value and is not closed in the text. -/
def openQuote? (text : List Char) : Option Char :=
  match valueText text with
  | [] => none
  | c :: rest =>
    if IsQuote c ∧ (signsOf text).isEmpty = false ∧ rest.contains c = false then some c else none

/-- The value of an attribute, which is empty if there is none, and the number of characters up to its
end. -/
def valuePart (text : List Char) : List Char × Nat := (valueSpan? text).getD ([], 0)

/-- A character of an attribute's name after the first. -/
def isSpanNameChar (c : Char) : Bool := !isBlank c && c != '/' && c != '=' && c != '>'

private theorem length_eq_valueText (text : List Char) :
    text.length = leadSize text + innerSize text + (valueText text).length := by
  have hblank := length_takeWhile_add_dropWhile isBlank text
  have hsigns := length_takeWhile_add_dropWhile (· == '=') (text.dropWhile isBlank)
  have hinner := length_takeWhile_add_dropWhile isBlank (behindSigns text)
  simp only [leadSize, innerSize, signsOf, valueText, behindSigns] at *
  omega

/-- A gap that ends in a text stays the same. -/
theorem gapSize_append {text : List Char} (hends : gapSize text < text.length) (more : List Char) :
    gapSize (text ++ more) = gapSize text := by
  fun_induction gapSize text with
  | case1 rest => rfl
  | case2 c rest hslash hgap ih =>
    have hrest : gapSize rest < rest.length := Nat.lt_of_succ_lt_succ hends
    obtain ⟨d, behind, rfl⟩ := List.exists_cons_of_length_pos (Nat.zero_lt_of_lt hrest)
    have happend := ih hrest
    rw [List.cons_append, List.cons_append, gapSize, if_pos hgap, ← List.cons_append, happend]
    rintro tail rfl heq
    exact hslash behind rfl (by rw [(List.cons.inj heq).1])
  | case3 c rest hslash hgap =>
    rw [List.cons_append, gapSize, if_neg hgap]
    rintro tail rfl -
    exact hgap (.inl rfl)
  | case4 => cases hends

/-- A gap that nothing follows takes all blanks that are left. -/
private theorem gapSize_of_blank {text : List Char} (hblank : text.dropWhile isBlank = []) :
    gapSize text = text.length := by
  rw [List.dropWhile_eq_nil_iff] at hblank
  induction text with
  | nil => rfl
  | cons c rest ih =>
    have hc := hblank c List.mem_cons_self
    rw [gapSize, if_pos (.inr hc), ih fun d hd => hblank d (List.mem_cons_of_mem c hd),
      List.length_cons]
    rintro tail rfl -
    revert hc
    decide

private theorem valueSpan?_unsigned {text : List Char} (hsigns : (signsOf text).isEmpty = true) :
    valueSpan? text = none := if_pos hsigns

/-- What stands before a value stays the same where the value has begun. -/
theorem valueText_append {text : List Char} (hne : valueText text ≠ []) (more : List Char) :
    signsOf (text ++ more) = signsOf text ∧ leadSize (text ++ more) = leadSize text ∧
      innerSize (text ++ more) = innerSize text ∧
      valueText (text ++ more) = valueText text ++ more := by
  have hbehind : behindSigns text ≠ [] := by
    intro hnil
    rw [valueText, hnil] at hne
    exact hne rfl
  have hdrop : text.dropWhile isBlank ≠ [] := by
    intro hnil
    rw [behindSigns, hnil] at hbehind
    exact hbehind rfl
  have hsigns : signsOf (text ++ more) = signsOf text := by
    rw [signsOf, dropWhile_append_of_ne_nil hdrop, takeWhile_append_of_ne_nil hbehind, signsOf]
  have hmore : behindSigns (text ++ more) = behindSigns text ++ more := by
    rw [behindSigns, dropWhile_append_of_ne_nil hdrop, dropWhile_append_of_ne_nil hbehind, behindSigns]
  refine ⟨hsigns, ?_, ?_, ?_⟩
  · rw [leadSize, takeWhile_append_of_ne_nil hdrop, hsigns, leadSize]
  · rw [innerSize, hmore, takeWhile_append_of_ne_nil hne, innerSize]
  · rw [valueText, hmore, dropWhile_append_of_ne_nil hne, valueText]

/-- Where no sign of a value stands, none is found with more text either. -/
private theorem valueSpan?_append_of_unsigned {text : List Char} (hsigns : (signsOf text).isEmpty = true)
    (hne : text.dropWhile isBlank ≠ []) (more : List Char) :
    valueSpan? (text ++ more) = valueSpan? text := by
  have hmore : (signsOf (text ++ more)).isEmpty = true := by
    obtain ⟨c, rest, hsplit⟩ := List.exists_cons_of_ne_nil hne
    rw [signsOf, hsplit, List.takeWhile_cons] at hsigns
    rw [signsOf, dropWhile_append_of_ne_nil hne, hsplit, List.cons_append, List.takeWhile_cons]
    split at hsigns
    · cases hsigns
    · rename_i hc
      rw [if_neg hc]
      rfl
  rw [valueSpan?_unsigned hsigns, valueSpan?_unsigned hmore]

/-- A quoted value keeps its span, if its quote has been closed or is not closed by what follows. -/
private theorem valueSpan?_append_of_quote {text rest more : List Char} {quote : Char}
    (hquote : IsQuote quote) (hopen : valueText text = quote :: rest)
    (hclosed : quote ∈ rest ∨ quote ∉ more) (hends : (valuePart text).2 < text.length) :
    valueSpan? (text ++ more) = valueSpan? text := by
  have hne : valueText text ≠ [] := by simp [hopen]
  obtain ⟨hsame, hlead, hinner, hmore⟩ := valueText_append hne more
  have hvalue := valueSpan?_quote hquote hopen
  have hlonger := valueSpan?_quote hquote (hmore.trans (by rw [hopen, List.cons_append]))
  rw [hsame, hlead, hinner, hmore] at hlonger
  rw [valuePart, hvalue] at hends
  rw [hvalue, hlonger]
  by_cases hsigns : (signsOf text).isEmpty = true
  · rw [if_pos hsigns, if_pos hsigns]
  rw [if_neg hsigns] at hends
  rw [if_neg hsigns, if_neg hsigns]
  by_cases hmem : quote ∈ rest
  · have hcontains : rest.contains quote = true := by simpa using hmem
    have hcontainsMore : (rest ++ more).contains quote = true := by simp [hmem]
    rw [if_pos hcontains, if_pos hcontainsMore, takeWhile_append_of_mem hmem (by simp)]
  · have hcontains : ¬rest.contains quote = true := by simpa using hmem
    have hcontainsMore : ¬(rest ++ more).contains quote = true := by
      simpa [hmem] using hclosed.resolve_left hmem
    rw [if_neg hcontains] at hends
    rw [if_neg hcontains, if_neg hcontainsMore]
    by_cases hspace : 0 < innerSize text
    · rw [if_pos hspace, if_pos hspace]
    rw [if_neg hspace] at hends
    rw [if_neg hspace, if_neg hspace]
    by_cases htwo : 2 ≤ (signsOf text).length
    · rw [if_pos htwo] at hends
      have hbare : (valueText text).dropWhile isBareChar ≠ [] := by
        intro hnil
        have hlength := length_eq_valueText text
        have hwhole := length_takeWhile_add_dropWhile isBareChar (valueText text)
        rw [hnil, List.length_nil] at hwhole
        simp only [Option.getD_some] at hends
        omega
      rw [if_pos htwo, if_pos htwo, takeWhile_append_of_ne_nil hbare]
    · rw [if_neg htwo, if_neg htwo]

/-- A value without quotes keeps its span once something stands behind it. -/
private theorem valueSpan?_append_of_bare {text : List Char} (hne : valueText text ≠ [])
    (hbare : ∀ quote rest, valueText text = quote :: rest → ¬IsQuote quote)
    (hends : (valuePart text).2 < text.length) (more : List Char) :
    valueSpan? (text ++ more) = valueSpan? text := by
  obtain ⟨hsame, hlead, hinner, hmore⟩ := valueText_append hne more
  have hbareMore : ∀ quote rest, valueText (text ++ more) = quote :: rest → ¬IsQuote quote := by
    obtain ⟨c, behind, hsplit⟩ := List.exists_cons_of_ne_nil hne
    rw [hmore, hsplit, List.cons_append]
    rintro _ _ ⟨⟩
    exact hbare c behind hsplit
  rw [valuePart, valueSpan?_bare hbare] at hends
  rw [valueSpan?_bare hbare, valueSpan?_bare hbareMore, hsame, hlead, hinner, hmore]
  by_cases hsigns : (signsOf text).isEmpty = true
  · rw [if_pos hsigns, if_pos hsigns]
  · rw [if_neg hsigns, Option.getD_some] at hends
    have hends : (valueText text).dropWhile isBareChar ≠ [] := by
      intro hnil
      have hlength := length_eq_valueText text
      have hwhole := length_takeWhile_add_dropWhile isBareChar (valueText text)
      rw [hnil, List.length_nil] at hwhole
      simp only at hends
      omega
    rw [if_neg hsigns, if_neg hsigns, takeWhile_append_of_ne_nil hends]

/-- A value stays the same where the gap behind it ends in the text, unless it is a quote that is left
open and then closed. -/
theorem valueSpan?_append {text more : List Char}
    (hends : (valuePart text).2 + gapSize (text.drop (valuePart text).2) < text.length)
    (hquote : ∀ quote, openQuote? text = some quote → quote ∉ more) :
    valueSpan? (text ++ more) = valueSpan? text := by
  have hvalue : (valuePart text).2 < text.length := by omega
  by_cases hsigns : (signsOf text).isEmpty = true
  · refine valueSpan?_append_of_unsigned hsigns ?_ more
    intro hnil
    rw [valuePart, valueSpan?_unsigned hsigns, Option.getD_none, List.drop_zero,
      gapSize_of_blank hnil, Nat.zero_add] at hends
    exact Nat.lt_irrefl _ hends
  cases hopen : valueText text with
  | nil =>
    have hbare : ∀ quote rest, valueText text = quote :: rest → ¬IsQuote quote := by simp [hopen]
    have hlength := length_eq_valueText text
    rw [valuePart, valueSpan?_bare hbare, if_neg hsigns, hopen] at hvalue
    simp only [Option.getD_some, List.takeWhile_nil, List.length_nil] at hvalue
    rw [hopen, List.length_nil] at hlength
    omega
  | cons c rest =>
    by_cases hc : IsQuote c
    · refine valueSpan?_append_of_quote hc hopen ?_ hvalue
      by_cases hmem : c ∈ rest
      · exact .inl hmem
      · refine .inr (hquote c ?_)
        have hunsigned : (signsOf text).isEmpty = false := by simpa using hsigns
        have hopenRest : rest.contains c = false := by simpa using hmem
        simp only [openQuote?, hopen]
        rw [if_pos ⟨hc, hunsigned, hopenRest⟩]
    · refine valueSpan?_append_of_bare (by simp [hopen]) ?_ hvalue more
      rw [hopen]
      rintro _ _ ⟨⟩
      exact hc

private theorem attributeSpan?_cons (previous c : Char) (rest : List Char) :
    attributeSpan? previous (c :: rest) =
      let after := rest.dropWhile isSpanNameChar
      let value := valuePart after
      if !precedesAttribute previous || isBlank c || c == '/' || c == '>' then none
      else some {
        value := value.1
        size := (rest.takeWhile isSpanNameChar).length + value.2 + gapSize (after.drop value.2) + 1
        size_pos := Nat.succ_pos _ } := rfl

/-- An attribute that ends in a text stays the same, unless a quote that it leaves open is closed. -/
theorem attributeSpan?_append {previous c : Char} {rest more : List Char} {span : AttributeSpan}
    (hspan : attributeSpan? previous (c :: rest) = some span) (hends : span.size < (c :: rest).length)
    (hquote : ∀ quote, openQuote? (rest.dropWhile isSpanNameChar) = some quote → quote ∉ more) :
    attributeSpan? previous (c :: rest ++ more) = some span := by
  rw [List.cons_append]
  rw [attributeSpan?_cons] at hspan ⊢
  simp only at hspan ⊢
  split at hspan
  · cases hspan
  · rename_i hopen
    cases hspan
    rw [if_neg hopen]
    have hlength := length_takeWhile_add_dropWhile isSpanNameChar rest
    simp only [List.length_cons] at hends
    have hvalue : (valuePart (rest.dropWhile isSpanNameChar)).2 +
        gapSize ((rest.dropWhile isSpanNameChar).drop (valuePart (rest.dropWhile isSpanNameChar)).2) <
          (rest.dropWhile isSpanNameChar).length := by omega
    have hne : rest.dropWhile isSpanNameChar ≠ [] := List.length_pos_iff.1 (by omega)
    have hgap : gapSize ((rest.dropWhile isSpanNameChar).drop
          (valuePart (rest.dropWhile isSpanNameChar)).2) <
        ((rest.dropWhile isSpanNameChar).drop
          (valuePart (rest.dropWhile isSpanNameChar)).2).length := by
      rw [List.length_drop]
      omega
    have hsame : valuePart (rest.dropWhile isSpanNameChar ++ more) =
        valuePart (rest.dropWhile isSpanNameChar) := by
      rw [valuePart, valueSpan?_append hvalue hquote, valuePart]
    simp only [dropWhile_append_of_ne_nil hne, takeWhile_append_of_ne_nil hne, hsame,
      List.drop_append_of_le_length (Nat.le_of_lt (Nat.lt_of_le_of_lt (Nat.le_add_right _ _) hvalue)),
      gapSize_append hgap]

private theorem attributeSpan?_append_of_none {previous c : Char} {rest : List Char}
    (hnone : attributeSpan? previous (c :: rest) = none) (more : List Char) :
    attributeSpan? previous (c :: rest ++ more) = none := by
  rw [attributeSpan?_cons] at hnone
  rw [List.cons_append, attributeSpan?_cons]
  simp only at hnone ⊢
  split at hnone
  · rename_i hclosed
    rw [if_pos hclosed]
  · cases hnone

/-- The quotes that the attributes at the front of a text leave open. -/
def openQuotes (previous : Char) (text : List Char) : List Char :=
  match text with
  | [] => []
  | c :: rest =>
    match attributeSpan? previous (c :: rest) with
    | none => []
    | some span =>
      (openQuote? (rest.dropWhile isSpanNameChar)).toList ++
        openQuotes (((c :: rest).take span.size).getLastD previous) ((c :: rest).drop span.size)
termination_by text.length
decreasing_by
  have hpos := span.size_pos
  simp only [List.length_drop, List.length_cons]
  omega

/-- Where one attribute spans something, the next one is looked for behind it. -/
theorem attributeSpans_eq {previous : Char} {text : List Char} {span : AttributeSpan}
    (hspan : attributeSpan? previous text = some span) :
    attributeSpans previous text =
      (span.value :: (attributeSpans ((text.take span.size).getLastD previous) (text.drop span.size)).1,
        span.size +
          (attributeSpans ((text.take span.size).getLastD previous) (text.drop span.size)).2) := by
  cases text with
  | nil => cases hspan
  | cons c rest =>
    rw [attributeSpans]
    simp only [hspan]

private theorem attributeSpans_eq_of_none {previous : Char} {text : List Char}
    (hnone : attributeSpan? previous text = none) : attributeSpans previous text = ([], 0) := by
  cases text with
  | nil => rw [attributeSpans]
  | cons c rest =>
    rw [attributeSpans]
    simp only [hnone]

/-- Attributes that end in a text stay the same, unless a quote that they leave open is closed. -/
theorem attributeSpans_append {previous : Char} {text more : List Char}
    (hends : (attributeSpans previous text).2 < text.length)
    (hquote : ∀ quote ∈ openQuotes previous text, quote ∉ more) :
    attributeSpans previous (text ++ more) = attributeSpans previous text := by
  fun_induction openQuotes previous text with
  | case1 => cases hends
  | case2 previous c rest hnone =>
    rw [attributeSpans_eq_of_none hnone,
      attributeSpans_eq_of_none (attributeSpan?_append_of_none hnone more)]
  | case3 previous c rest span hspan ih =>
    rw [attributeSpans_eq hspan] at hends ⊢
    simp only at hends
    have hfirst : span.size < (c :: rest).length := by omega
    have hlater : (attributeSpans (((c :: rest).take span.size).getLastD previous)
        ((c :: rest).drop span.size)).2 < ((c :: rest).drop span.size).length := by
      rw [List.length_drop]
      omega
    have hspanMore := attributeSpan?_append hspan hfirst fun quote hopen =>
      hquote quote (List.mem_append_left _ (by rw [hopen]; exact List.mem_singleton_self quote))
    rw [attributeSpans_eq hspanMore, List.take_append_of_le_length (Nat.le_of_lt hfirst),
      List.drop_append_of_le_length (Nat.le_of_lt hfirst),
      ih hlater fun quote hopen => hquote quote (List.mem_append_right _ hopen)]

/-- The number of characters of a tag's name and of the gap behind it. -/
def frontSize (text : List Char) : Nat :=
  (text.takeWhile isTagNameChar).length + gapSize (text.drop (text.takeWhile isTagNameChar).length)

/-- The attributes of a tag: their values and the number of characters that they take. -/
def spansOf (text : List Char) : List (List Char) × Nat :=
  attributeSpans ((text.take (frontSize text)).getLastD '<') (text.drop (frontSize text))

/-- The values of a tag are those of its attributes. -/
theorem tagSpan_values (text : List Char) : (tagSpan text).values = (spansOf text).1 := by
  unfold tagSpan
  simp only
  split <;> rfl

/-- The quotes that a tag leaves open. -/
def openQuotesOf (text : List Char) : List Char :=
  openQuotes ((text.take (frontSize text)).getLastD '<') (text.drop (frontSize text))

/-- How a tag ends whose attributes have been passed over, and after how many characters. -/
def endingAt (size : Nat) : List Char → TagEnd × Nat
  | '>' :: _ => (.closed false, size + 1)
  | '/' :: '>' :: _ => (.closed true, size + 2)
  | [] => (.unfinished, size)
  | c :: _ => (if c.isAlpha || c == '=' || c == '/' then .unfinished else .broken, size)

private theorem tagSpan_eq (text : List Char) :
    tagSpan text =
      let size := frontSize text + (spansOf text).2
      { name := text.takeWhile isTagNameChar
        values := (spansOf text).1
        ending := (endingAt size (text.drop size)).1
        size := (endingAt size (text.drop size)).2 } := by
  simp only [tagSpan, endingAt, spansOf, frontSize]
  split <;> simp_all only

/-- The ending of a tag keeps its place once it is complete. -/
private theorem endingAt_append {size : Nat} {rest : List Char} (hends : (endingAt size rest).1 ≠ .unfinished)
    (more : List Char) :
    endingAt size (rest ++ more) = endingAt size rest ∧ (endingAt size rest).2 ≤ size + rest.length ∧
      rest ≠ [] := by
  unfold endingAt at hends
  split at hends
  · exact ⟨rfl, by simp [endingAt], by simp⟩
  · exact ⟨rfl, by simp [endingAt], by simp⟩
  · exact absurd rfl hends
  · rename_i c rest hbracket _
    have hother : ∀ tail : List Char, endingAt size (c :: tail) = (.broken, size) := by
      intro tail
      simp only at hends
      split at hends
      · exact absurd rfl hends
      · rename_i hc
        rw [endingAt, if_neg hc]
        · exact hbracket
        · rintro _ rfl -
          exact hc (by decide)
    exact ⟨by rw [List.cons_append, hother, hother], by rw [hother]; omega, List.cons_ne_nil _ _⟩

/-- The name of a tag is settled once something stands behind it. -/
private theorem frontSize_append {text : List Char} (hends : frontSize text < text.length)
    (more : List Char) :
    frontSize (text ++ more) = frontSize text ∧
      (text ++ more).takeWhile isTagNameChar = text.takeWhile isTagNameChar := by
  have hlength := length_takeWhile_add_dropWhile isTagNameChar text
  have hne : text.dropWhile isTagNameChar ≠ [] := by
    intro hnil
    rw [hnil, List.length_nil] at hlength
    rw [frontSize] at hends
    omega
  have hname := takeWhile_append_of_ne_nil hne more
  refine ⟨?_, hname⟩
  have hgap : gapSize (text.drop (text.takeWhile isTagNameChar).length) <
      (text.drop (text.takeWhile isTagNameChar).length).length := by
    rw [frontSize] at hends
    rw [List.length_drop]
    omega
  rw [frontSize, hname, List.drop_append_of_le_length (by omega), gapSize_append hgap, frontSize]

/-- A tag that ends in a text stays the same, unless a quote that it leaves open is closed. -/
theorem tagSpan_append {text more : List Char} (hends : (tagSpan text).ending ≠ .unfinished)
    (hquote : ∀ quote ∈ openQuotesOf text, quote ∉ more) :
    tagSpan (text ++ more) = tagSpan text ∧ (tagSpan text).size ≤ text.length := by
  rw [tagSpan_eq] at hends
  obtain ⟨hending, hsize, hne⟩ := endingAt_append hends more
  have hinside : frontSize text + (spansOf text).2 < text.length := by
    rw [ne_eq, List.drop_eq_nil_iff] at hne
    omega
  have hfront : frontSize text < text.length := by omega
  obtain ⟨hfrontMore, hname⟩ := frontSize_append hfront more
  have hspans : spansOf (text ++ more) = spansOf text := by
    rw [spansOf, hfrontMore, List.take_append_of_le_length (Nat.le_of_lt hfront),
      List.drop_append_of_le_length (Nat.le_of_lt hfront)]
    refine attributeSpans_append ?_ hquote
    rw [List.length_drop]
    rw [spansOf] at hinside
    omega
  rw [List.length_drop] at hsize
  constructor
  · rw [tagSpan_eq, tagSpan_eq]
    simp only [hfrontMore, hspans, hname, List.drop_append_of_le_length (Nat.le_of_lt hinside), hending]
  · rw [tagSpan_eq]
    simp only
    omega

end BareStrings.Markup.Lexeme
