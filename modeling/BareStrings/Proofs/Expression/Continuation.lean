import BareStrings.Proofs.Expression.StringLiteral

namespace BareStrings.Expression

open BareStrings.Text

/-- The line ends that denote nothing behind a backslash. -/
def lineEnds : List (List Char) := [['\n'], ['\r'], ['\r', '\n'], ['\u2028'], ['\u2029']]

variable {quote : Char} {front behind lineEnd : List Char} {items : List Item}

private theorem exists_item_of_lineEnd (hline : lineEnd ∈ lineEnds) (hbehind : ¬['\n'] <+: behind) :
    ∃ item : Item, item.spelled = '\\' :: lineEnd ∧ item.Fits behind ∧ item.codes = .ok [] := by
  simp only [lineEnds, List.mem_cons, List.not_mem_nil, or_false] at hline
  rcases hline with rfl | rfl | rfl | rfl | rfl
  · exact ⟨.simple '\n', rfl, simple_fits_any (by decide) _, rfl⟩
  · exact ⟨.simple '\r', rfl, simple_fits (by decide) (by simpa using hbehind), rfl⟩
  · exact ⟨.lineEnd, rfl, trivial, rfl⟩
  · exact ⟨.simple '\u2028', rfl, simple_fits_any (by decide) _, rfl⟩
  · exact ⟨.simple '\u2029', rfl, simple_fits_any (by decide) _, rfl⟩

private theorem decodeBody_continued (hscans : Scans (front ++ behind) items behind)
    (hline : lineEnd ∈ lineEnds) (hbehind : ¬['\n'] <+: behind) :
    decodeBody (front ++ '\\' :: lineEnd ++ behind) = decodeBody (front ++ behind) := by
  obtain ⟨item, hspelled, hfits, hcodes⟩ := exists_item_of_lineEnd hline hbehind
  have hnothing : decodeBody ('\\' :: (lineEnd ++ behind)) = decodeBody behind := by
    rw [← List.cons_append, ← hspelled, decodeBody_item hfits, hcodes]
    cases decodeBody behind <;> rfl
  have hcut := hscans.cut rfl (lineEnd ++ behind)
  rw [List.append_assoc, List.cons_append, decodeBody_of_scans hcut, hnothing, decodeBody_of_scans hscans]

private theorem isBody_continued (hquote : quote ≠ '\\') (hbody : IsBody quote (front ++ behind))
    (hfront : ¬EndsInEscape front) (c : Char) : IsBody quote (front ++ '\\' :: c :: behind) := by
  obtain ⟨hbefore, hafter⟩ := (isBody_append hfront).1 hbody
  exact (isBody_append hfront).2 ⟨hbefore, hafter.escape hquote c⟩

/-- The backslash is used up by the first character of the line end. -/
theorem not_isBody_continued (hfront : ¬EndsInEscape front) :
    ¬IsBody quote (front ++ '\\' :: '\r' :: '\n' :: behind) := by
  intro hbody
  have hafter := ((isBody_append hfront).1 hbody).2
  exact absurd (hafter.escaped ['\\', '\r'] '\n' behind rfl (by simp)) (by decide)

private theorem numeral?_quoted (hquote : quote ∈ ['\'', '"']) (rest : List Char) :
    numeral? (quote :: rest) = none := by
  have hdigit : Unicode.isDecimalDigit quote = false := by
    rcases List.mem_pair.1 hquote with rfl | rfl <;> decide
  rcases List.mem_pair.1 hquote with rfl | rfl <;> simp [numeral?, Number.Decimal.ofText?, hdigit]

private theorem keyword?_quoted (hquote : quote ∈ ['\'', '"']) (rest : List Char) :
    keyword? (quote :: rest) = none := by
  rcases List.mem_pair.1 hquote with rfl | rfl <;> simp [keyword?]

/-- A text that begins with a quote is nothing else, if it is not a string. -/
theorem parse_eq_dynamic {body : List Char} (hquote : quote ∈ ['\'', '"']) (hbody : ¬IsBody quote body) :
    parse (quote :: body ++ [quote]) = .ok (some (.dynamic (quote :: body ++ [quote]))) := by
  have hnone : stringBody? (quote :: body ++ [quote]) = none := by
    rw [Option.eq_none_iff_forall_ne_some]
    intro inner hread
    exact hbody ((stringBody?_enclosed hquote).1 hread).2
  rw [parse_enclosed hquote]
  exact (Classified.dynamic (by simp) hnone (numeral?_quoted hquote _) (keyword?_quoted hquote _)).classify_eq

/-- Continuing a string between two items leaves its value as it is. It is still a string, except behind a
line end of two characters: the continued source is taken for an expression whose value is not known. -/
theorem parse_continued (hquote : quote ∈ ['\'', '"']) (front behind : List Char) {codes : List CodePoint}
    {raw : List Char}
    (hparse : parse (quote :: (front ++ behind) ++ [quote]) = .ok (some (.literal (.string codes) raw)))
    (hsplit : ∃ items, Scans (front ++ behind) items behind) (hline : lineEnd ∈ lineEnds) :
    decodeBody (front ++ '\\' :: lineEnd ++ behind) = .ok codes ∧
      let source := quote :: (front ++ '\\' :: lineEnd ++ behind) ++ [quote]
      parse source =
        .ok (some (if lineEnd = ['\r', '\n'] then .dynamic source else .literal (.string codes) source)) := by
  obtain ⟨rfl, hbody, hcodes⟩ := (parse_eq_string_iff hquote).1 hparse
  obtain ⟨items, hscans⟩ := hsplit
  have hfront : ¬EndsInEscape front := hscans.not_endsInEscape rfl
  have hbehind : ¬['\n'] <+: behind := by
    rintro ⟨more, rfl⟩
    have hafter := ((isBody_append hfront).1 hbody).2
    exact absurd (hafter.escaped [] '\n' more rfl (by simp)) (by decide)
  have hvalue : decodeBody (front ++ '\\' :: lineEnd ++ behind) = .ok codes := by
    rw [decodeBody_continued hscans hline hbehind, hcodes]
  refine ⟨hvalue, ?_⟩
  intro source
  by_cases htwo : lineEnd = ['\r', '\n']
  · have hended : ¬IsBody quote (front ++ '\\' :: lineEnd ++ behind) := by
      rw [htwo, List.append_assoc]
      exact not_isBody_continued hfront
    rw [if_pos htwo]
    exact parse_eq_dynamic hquote hended
  · obtain ⟨c, rfl⟩ : ∃ c, lineEnd = [c] := by
      simp only [lineEnds, List.mem_cons, List.not_mem_nil, or_false, htwo, false_or] at hline
      rcases hline with rfl | rfl | rfl | rfl <;> exact ⟨_, rfl⟩
    have htaken : IsBody quote (front ++ ['\\', c] ++ behind) := by
      rw [List.append_assoc]
      exact isBody_continued (ne_of_mem_of_not_mem hquote (by decide)) hbody hfront c
    rw [if_neg htwo]
    exact (parse_eq_string_iff hquote).2 ⟨rfl, htaken, hvalue⟩

/-- Two letters, the second one a numeral, are continued by two more on the next line; with the shorter line
end they stay one string. -/
theorem parse_continued_letters :
    let source := "'a\\x62cd'".toList
    let codes : List CodePoint := [0x61, 0x62, 0x63, 0x64]
    let onNextLine := "'a\\x62\\\ncd'".toList
    let behindTwo := "'a\\x62\\\r\ncd'".toList
    parse source = .ok (some (.literal (.string codes) source)) ∧
      Scans "a\\x62cd".toList [.plain 'a', .numeral .twoDigits ['6', '2']] "cd".toList ∧
      parse onNextLine = .ok (some (.literal (.string codes) onNextLine)) ∧
      parse behindTwo = .ok (some (.dynamic behindTwo)) := by
  intro source codes onNextLine behindTwo
  have hparse : parse source = .ok (some (.literal (.string codes) source)) := by decide +kernel
  have hscans : Scans "a\\x62cd".toList [.plain 'a', .numeral .twoDigits ['6', '2']] "cd".toList := by
    have hletter : (Item.plain 'a').Fits "\\x62cd".toList := by
      rw [Item.Fits]
      decide
    have hnumeral : (Item.numeral .twoDigits ['6', '2']).Fits "cd".toList := ⟨List.all_eq_true.1 rfl, rfl⟩
    exact .cons hletter (.cons hnumeral (.nil _))
  have hquote : '\'' ∈ ['\'', '"'] := by decide
  have hcontinued (lineEnd : List Char) (hline : lineEnd ∈ lineEnds) :=
    parse_continued hquote "a\\x62".toList "cd".toList hparse ⟨_, hscans⟩ hline
  exact ⟨hparse, hscans, (hcontinued ['\n'] (by decide)).2, (hcontinued ['\r', '\n'] (by decide)).2⟩

/-- A string that is continued behind a line end of two characters is no string any more. -/
theorem parse_continued_two_characters :
    parse "'ab'".toList = .ok (some (.literal (.string [0x61, 0x62]) "'ab'".toList)) ∧
      Scans "ab".toList [.plain 'a'] "b".toList ∧ ['\r', '\n'] ∈ lineEnds ∧
      parse "'a\\\r\nb'".toList = .ok (some (.dynamic "'a\\\r\nb'".toList)) := by
  have hletter : (Item.plain 'a').Fits "b".toList := by
    rw [Item.Fits]
    decide
  exact ⟨by decide +kernel, .cons hletter (.nil _), by decide, by decide +kernel⟩

end BareStrings.Expression
