import BareStrings.Markup.Error

namespace BareStrings.Markup

open BareStrings.Text

namespace CharRef

/-- A character as it can be written in any place of markup. -/
def written (c : Char) : List Char :=
  if c = '&' then "&amp;".toList
  else if c = '<' then "&lt;".toList
  else if c = '"' then "&quot;".toList
  else [c]

/-- A text in which ampersands and one more character are written as references. -/
def escape (special : Char) (text : List Char) : List Char :=
  text.flatMap fun c => if c = '&' ∨ c = special then written c else [c]

@[simp]
private theorem escape_nil (special : Char) : escape special [] = [] := rfl

/-- Escaping goes character by character. -/
private theorem escape_cons (special c : Char) (text : List Char) :
    escape special (c :: text) =
      (if c = '&' ∨ c = special then written c else [c]) ++ escape special text := rfl

private theorem decode_cons {c : Char} (hplain : c ≠ '&') (rest : List Char) :
    decode (c :: rest) = (decode rest).map (c :: ·) := by
  rw [decode, if_neg hplain]

/-- A reference at the front is replaced, and the rest is decoded behind it. -/
private theorem decode_reference {text replacement after : List Char}
    (href : reference? text = .ok (some (replacement, after))) :
    decode ('&' :: text) = (decode after).map (replacement ++ ·) := by
  rw [decode, if_pos rfl]
  split
  · rename_i error herror
    rw [href] at herror
    cases herror
  · rename_i hnone
    rw [href] at hnone
    cases hnone
  · rename_i hsome
    rw [href] at hsome
    cases hsome
    rfl

/-- A text without ampersands stands for itself. -/
theorem decode_append {text : List Char} (hplain : ∀ c ∈ text, c ≠ '&') (rest : List Char) :
    decode (text ++ rest) = (decode rest).map (text ++ ·) := by
  induction text with
  | nil => cases hrest : decode rest <;> simp [hrest, Except.map]
  | cons c text ih =>
    rw [List.cons_append, decode_cons (hplain c List.mem_cons_self),
      ih fun d hd => hplain d (List.mem_cons_of_mem _ hd)]
    cases decode rest <;> rfl

/-- A character that has been written as a reference is decoded as itself. -/
private theorem decode_written (c : Char) (rest : List Char) :
    decode (written c ++ rest) = (decode rest).map (c :: ·) := by
  unfold written
  split
  · rename_i hc
    have hname : resolveName "amp;".toList = ['&'] := by decide
    have href : reference? ("amp;".toList ++ rest) = .ok (some (['&'], rest)) := by
      simpa [reference?, maxNameLength, isNameChar] using hname
    rw [hc]
    exact decode_reference href
  · split
    · rename_i hc
      have hname : resolveName "lt;".toList = ['<'] := by decide
      have href : reference? ("lt;".toList ++ rest) = .ok (some (['<'], rest)) := by
        simpa [reference?, maxNameLength, isNameChar] using hname
      rw [hc]
      exact decode_reference href
    · split
      · rename_i hc
        have hname : resolveName "quot;".toList = ['"'] := by decide
        have href : reference? ("quot;".toList ++ rest) = .ok (some (['"'], rest)) := by
          simpa [reference?, maxNameLength, isNameChar] using hname
        rw [hc]
        exact decode_reference href
      · rename_i hplain _ _
        exact decode_cons hplain rest

/-- Decoding undoes escaping and goes on with what follows. -/
theorem decode_escape (special : Char) (text rest : List Char) :
    decode (escape special text ++ rest) = (decode rest).map (text ++ ·) := by
  induction text with
  | nil => cases hrest : decode rest <;> simp [hrest, Except.map]
  | cons c text ih =>
    have hfirst : ∀ behind, decode ((if c = '&' ∨ c = special then written c else [c]) ++ behind) =
        (decode behind).map (c :: ·) := by
      intro behind
      split
      · exact decode_written c behind
      · rename_i hplain
        exact decode_cons (fun hc => hplain (.inl hc)) behind
    rw [escape_cons, List.append_assoc, hfirst, ih]
    cases decode rest <;> rfl

/-- Escaping brings in none of the characters that a reference is not written with. -/
theorem not_mem_escape {special d : Char} {text : List Char} (htext : d ∉ text)
    (hwritten : ∀ c, c ≠ d → d ∉ written c) : d ∉ escape special text := by
  induction text with
  | nil => exact List.not_mem_nil
  | cons c text ih =>
    rw [List.mem_cons, not_or] at htext
    rw [escape_cons, List.mem_append, not_or]
    refine ⟨?_, ih htext.2⟩
    split
    · exact hwritten c (Ne.symm htext.1)
    · simpa using htext.1

/-- The special character itself is no longer in an escaped text. -/
theorem special_not_mem_escape {special : Char} (hwritten : ∀ c, special ∉ written c)
    (text : List Char) : special ∉ escape special text := by
  induction text with
  | nil => exact List.not_mem_nil
  | cons c text ih =>
    rw [escape_cons, List.mem_append, not_or]
    refine ⟨?_, ih⟩
    split
    · exact hwritten c
    · rename_i hplain
      rw [List.mem_singleton]
      exact fun hc => hplain (.inr hc.symm)

/-- Escaping leaves something of every text that is not empty. -/
theorem escape_ne_nil {special : Char} {text : List Char} (htext : text ≠ []) :
    escape special text ≠ [] := by
  obtain ⟨c, rest, rfl⟩ := List.exists_cons_of_ne_nil htext
  have hwritten : written c ≠ [] := by
    unfold written
    repeat' split
    all_goals simp
  rw [escape_cons]
  split <;> simp [hwritten]

end CharRef

/-- Text as it stands between tags. -/
def escapeText (text : List Char) : List Char := CharRef.escape '<' text

/-- An attribute's value as it stands between double quotes. -/
def escapeValue (text : List Char) : List Char := CharRef.escape '"' text

/-- An escaped text opens no tag. -/
theorem open_not_mem_escapeText (text : List Char) : '<' ∉ escapeText text := by
  apply CharRef.special_not_mem_escape
  intro c
  unfold CharRef.written
  repeat' split
  all_goals simp_all [eq_comm]

/-- An escaped value does not end the quotes around it. -/
theorem quote_not_mem_escapeValue (text : List Char) : '"' ∉ escapeValue text := by
  apply CharRef.special_not_mem_escape
  intro c
  unfold CharRef.written
  repeat' split
  all_goals simp_all [eq_comm]

/-- Escaping brings no brace into a text. -/
theorem brace_not_mem_escapeText {text : List Char} (htext : '\x7b' ∉ text) :
    '\x7b' ∉ escapeText text := by
  apply CharRef.not_mem_escape htext
  intro c hc
  unfold CharRef.written
  repeat' split
  all_goals simp_all [eq_comm]

/-- A text whose references can all be decoded is the value that they give. -/
theorem decodeText_of_decode {text value : List Char} (hdecode : CharRef.decode text = .ok value) :
    decodeText text = .ok value := by
  rw [decodeText, hdecode]
  rfl

/-- Decoding takes the escapes of a text back. -/
theorem decodeText_escape (special : Char) (text : List Char) :
    decodeText (CharRef.escape special text) = .ok text := by
  apply decodeText_of_decode
  have hdecode := CharRef.decode_escape special text []
  rw [List.append_nil, CharRef.decode] at hdecode
  simpa [Except.map] using hdecode

/-- A text without an ampersand stands for itself. -/
theorem decodeText_plain {text : List Char} (hplain : ∀ c ∈ text, c ≠ '&') :
    decodeText text = .ok text := by
  apply decodeText_of_decode
  have hdecode := CharRef.decode_append hplain []
  rw [List.append_nil, CharRef.decode] at hdecode
  simpa [Except.map] using hdecode

end BareStrings.Markup
