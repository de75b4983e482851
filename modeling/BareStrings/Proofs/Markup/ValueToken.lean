import BareStrings.Proofs.Markup.Escape
import BareStrings.Proofs.Markup.Place
import BareStrings.Proofs.Markup.TagSpan

namespace BareStrings.Markup

open BareStrings.Text

namespace StartTag

open Lexeme (IsQuote)

/-- What a value's token can be, with what stands behind it in its tag. -/
inductive IsToken : (token behind : List Char) → Prop
  | quoted {quote : Char} {inner behind : List Char} (hquote : IsQuote quote) (hinner : quote ∉ inner) :
    IsToken (quote :: inner ++ [quote]) behind
  | bare {c : Char} {rest behind : List Char} (hfirst : ¬IsQuote c)
    (hchars : ∀ d ∈ c :: rest, isBareValueChar d = true) : IsToken (c :: rest) behind
  | unclosed {quote : Char} {rest behind : List Char} (hquote : IsQuote quote)
    (hnone : quote ∉ rest ++ behind) (hchars : ∀ d ∈ quote :: rest, isBareValueChar d = true) :
    IsToken (quote :: rest) behind

/-- A token that begins with a quote is the quoted one, or the bare one if that quote never ends. -/
theorem token?_quote {quote : Char} (hquote : IsQuote quote) (inner : List Char) :
    token? (quote :: inner) = (quotedToken? quote inner).or (bareToken? (quote :: inner)) := by
  rcases hquote with rfl | rfl <;> rfl

/-- A token that begins with no quote is the bare one. -/
theorem token?_bare {text : List Char} (hfirst : ∀ c ∈ text.head?, ¬IsQuote c) :
    token? text = bareToken? text := by
  unfold token?
  split
  · exact absurd (.inl rfl) (hfirst '"' rfl)
  · exact absurd (.inr rfl) (hfirst '\'' rfl)
  · rfl

/-- A token in quotes ends at the next quote of its kind. -/
theorem quotedToken?_append_quote {quote : Char} {inner : List Char} (hinner : quote ∉ inner)
    (rest : List Char) :
    quotedToken? quote (inner ++ quote :: rest) = some (quote :: inner ++ [quote], rest) := by
  have hall : ∀ c ∈ inner, (c != quote) = true := by
    intro c hc
    rw [bne_iff_ne]
    rintro rfl
    exact hinner hc
  rw [quotedToken?, List.dropWhile_append_of_pos hall, List.takeWhile_append_of_pos hall]
  simp

private theorem quotedToken?_eq_none {quote : Char} {text : List Char} (hnone : quote ∉ text) :
    quotedToken? quote text = none := by
  have hdrop : text.dropWhile (· != quote) = [] := by
    rw [List.dropWhile_eq_nil_iff]
    intro c hc
    rw [bne_iff_ne]
    rintro rfl
    exact hnone hc
  rw [quotedToken?, hdrop]

/-- A token without quotes ends before the next character that cannot be in one. -/
theorem bareToken?_append_of_head {token rest : List Char} (hne : token ≠ [])
    (hchars : ∀ c ∈ token, isBareValueChar c = true)
    (hrest : ∀ c ∈ rest.head?, isBareValueChar c = false) :
    bareToken? (token ++ rest) = some (token, rest) := by
  obtain ⟨htake, hdrop⟩ := takeWhile_append_of_head hchars rest hrest
  simp only [bareToken?, htake, hdrop, List.isEmpty_iff, hne, if_false]

private theorem bareToken?_eq_some {text token rest : List Char}
    (htoken : bareToken? text = some (token, rest)) :
    token ≠ [] ∧ text = token ++ rest ∧ ∀ c ∈ token, isBareValueChar c = true := by
  have happend := bareToken?_append htoken
  simp only [bareToken?] at htoken
  split at htoken
  · cases htoken
  · rename_i hne
    cases htoken
    exact ⟨by simpa using hne, happend, fun c hc => List.mem_takeWhile_imp hc⟩

/-- A token that is read is of one of the kinds. -/
theorem isToken_of_token? {text token rest : List Char} (htoken : token? text = some (token, rest)) :
    IsToken token rest := by
  cases text with
  | nil => cases htoken
  | cons c text =>
    by_cases hquote : IsQuote c
    · rw [token?_quote hquote] at htoken
      by_cases hclosed : c ∈ text
      · obtain ⟨inner, behind, rfl, hinner⟩ := List.eq_append_cons_of_mem hclosed
        rw [quotedToken?_append_quote hinner, Option.some_or] at htoken
        cases htoken
        exact .quoted hquote hinner
      · rw [quotedToken?_eq_none hclosed, Option.none_or] at htoken
        obtain ⟨hne, happend, hchars⟩ := bareToken?_eq_some htoken
        obtain ⟨d, inner, rfl⟩ := List.exists_cons_of_ne_nil hne
        obtain ⟨rfl, rfl⟩ := List.cons.inj happend
        exact .unclosed hquote hclosed hchars
    · rw [token?_bare (by simpa using hquote)] at htoken
      obtain ⟨hne, happend, hchars⟩ := bareToken?_eq_some htoken
      obtain ⟨d, inner, rfl⟩ := List.exists_cons_of_ne_nil hne
      obtain ⟨rfl, rfl⟩ := List.cons.inj happend
      exact .bare hquote hchars

private theorem isToken_of_value? {text lead token rest : List Char}
    (hvalue : value? text = some (lead, token, rest)) : IsToken token rest := by
  unfold value? at hvalue
  split at hvalue
  · obtain ⟨⟨found, behind⟩, htoken, heq⟩ := Option.map_eq_some_iff.1 hvalue
    simp only [Prod.mk.injEq] at heq
    obtain ⟨_, rfl, rfl⟩ := heq
    exact isToken_of_token? htoken
  · cases hvalue

/-- What stands behind a token may be followed by something without quotes. -/
theorem IsToken.append {token behind : List Char} (htoken : IsToken token behind) {more : List Char}
    (hmore : ∀ c ∈ more, ¬IsQuote c) : IsToken token (behind ++ more) := by
  cases htoken with
  | quoted hquote hinner => exact .quoted hquote hinner
  | bare hfirst hchars => exact .bare hfirst hchars
  | @unclosed quote rest _ hquote hnone hchars =>
    refine .unclosed hquote ?_ hchars
    rw [← List.append_assoc, List.mem_append, not_or]
    exact ⟨hnone, fun hmem => hmore quote hmem hquote⟩

private theorem tokenContent_quote {quote : Char} (hquote : IsQuote quote) (inner : List Char) :
    tokenContent (quote :: inner) = inner.dropLast := by
  rcases hquote with rfl | rfl <;> rfl

private theorem tokenContent_bare {token : List Char} (hfirst : ∀ c ∈ token.head?, ¬IsQuote c) :
    tokenContent token = token := by
  unfold tokenContent
  split
  · exact absurd (.inl rfl) (hfirst '"' rfl)
  · exact absurd (.inr rfl) (hfirst '\'' rfl)
  · rfl

private theorem tokenContent_quoted {quote : Char} (hquote : IsQuote quote) (inner : List Char) :
    tokenContent (quote :: inner ++ [quote]) = inner := by
  rw [List.cons_append, tokenContent_quote hquote, List.dropLast_concat]

/-- A token begins and ends with the same quote. -/
def IsEnclosed (token : List Char) : Prop :=
  ∃ quote inner, IsQuote quote ∧ token = quote :: inner ++ [quote]

/-- A token begins with a quote and ends with another character. -/
def IsUnclosed (token : List Char) : Prop :=
  ∃ quote inner last, IsQuote quote ∧ last ≠ quote ∧ token = quote :: inner ++ [last]

/-- A text is what a token says: the decoded inside of its quotes, or else the whole token decoded, of
which a quote at the front may be left out. -/
def KeepsToken (token text : List Char) : Prop :=
  (∃ quote inner, IsQuote quote ∧ token = quote :: inner ++ [quote] ∧ decodeText inner = .ok text) ∨
    ¬IsEnclosed token ∧ (decodeText token = .ok text ∨
      ∃ quote inner, IsQuote quote ∧ token = quote :: inner ∧ decodeText inner = .ok text)

/-- A token of any kind is kept, but for one that a quote begins and another character ends. -/
theorem IsToken.keepsToken {token behind text : List Char} (htoken : IsToken token behind)
    (hdecode : decodeText (tokenContent token) = .ok text) (hclosed : ¬IsUnclosed token) :
    KeepsToken token text := by
  cases htoken with
  | @quoted quote inner _ hquote _ =>
    rw [tokenContent_quoted hquote] at hdecode
    exact .inl ⟨quote, inner, hquote, rfl, hdecode⟩
  | @bare c rest _ hfirst _ =>
    rw [tokenContent_bare (by simpa using hfirst)] at hdecode
    refine .inr ⟨?_, .inl hdecode⟩
    rintro ⟨quote, inner, hquote, heq⟩
    obtain ⟨rfl, _⟩ := List.cons.inj heq
    exact hfirst hquote
  | @unclosed quote rest _ hquote hnone _ =>
    rw [tokenContent_quote hquote] at hdecode
    -- A quote with anything behind it would be unclosed, so the token is the quote alone.
    obtain rfl : rest = [] := by
      rcases List.eq_nil_or_concat rest with hnil | ⟨inner, last, rfl⟩
      · exact hnil
      · refine absurd ⟨quote, inner, last, hquote, ?_, by simp⟩ hclosed
        rintro rfl
        exact hnone (by simp)
    refine .inr ⟨?_, .inr ⟨quote, [], hquote, rfl, hdecode⟩⟩
    rintro ⟨other, inner, _, heq⟩
    have hlength := congrArg List.length heq
    simp at hlength

/-- Of a token that a quote begins and another character ends, that character is lost. -/
theorem decodeText_of_unclosed {quote last : Char} {inner text : List Char} (hquote : IsQuote quote)
    (hdecode : decodeText (tokenContent (quote :: inner ++ [last])) = .ok text) :
    decodeText inner = .ok text := by
  rwa [List.cons_append, tokenContent_quote hquote, List.dropLast_concat] at hdecode

/-- The tokens of attributes stand in the text that they are cut out of. -/
theorem rawAttributes_tokens (position : Position) (text : List Char) :
    ∀ raw ∈ rawAttributes position text, ∀ token place, raw.token = some (token, place) →
      ∃ before behind, text = before ++ token ++ behind ∧ place = position.advance before ∧
        IsToken token behind := by
  fun_induction rawAttributes position text with
  | case1 => simp
  | case2 position c rest hstart name after behind hvalue ih =>
    intro raw hraw token place htoken
    rcases List.mem_cons.1 hraw with rfl | hlater
    · cases htoken
    · obtain ⟨before, last, hafter, hplace, htoken⟩ := ih raw hlater token place htoken
      refine ⟨name ++ before, last, ?_, ?_, htoken⟩
      · rw [List.append_assoc, List.append_assoc, ← List.append_assoc before, ← hafter]
        simp [name, after, List.takeWhile_append_dropWhile]
      · rw [hplace, Position.advance_append]
  | case3 position c rest hstart name after behind lead found afterValue hvalue ih =>
    have hsplit : c :: rest = name ++ (lead ++ found ++ afterValue) := by
      rw [← value?_append hvalue]
      simp [name, after, List.takeWhile_append_dropWhile]
    intro raw hraw token place htoken
    rcases List.mem_cons.1 hraw with rfl | hlater
    · cases htoken
      refine ⟨name ++ lead, afterValue, by rw [hsplit]; simp, ?_, isToken_of_value? hvalue⟩
      exact (Position.advance_append ..).symm
    · obtain ⟨before, last, hafter, hplace, htoken⟩ := ih raw hlater token place htoken
      refine ⟨name ++ lead ++ found ++ before, last, by rw [hsplit, hafter]; simp, ?_, htoken⟩
      rw [hplace, Position.advance_append, Position.advance_append, Position.advance_append]
  | case4 position c rest hstart ih =>
    intro raw hraw token place htoken
    obtain ⟨before, last, rfl, hplace, htoken⟩ := ih raw hraw token place htoken
    exact ⟨c :: before, last, rfl, hplace, htoken⟩

end StartTag

open StartTag
open Lexeme (IsQuote)

/-- The tokens of a start tag's attributes stand in the source of the tag. -/
theorem Tag.rawAttributes_tokens {source : List Char}
    (hopen : ∃ c rest, source = '<' :: c :: rest ∧ c.isAlpha = true) (position : Position) :
    ∀ raw ∈ Tag.rawAttributes source position, ∀ token place, raw.token = some (token, place) →
      ∃ before behind, source = before ++ token ++ behind ∧ place = position.advance before ∧
        IsToken token behind := by
  intro raw hraw token place htoken
  obtain ⟨inside, bracket, hsource, hbracket, hraws⟩ := Tag.exists_rawAttributes hopen position
  have hquotes : ∀ c ∈ bracket, ¬IsQuote c := by
    intro c hc
    rw [hbracket c hc]
    decide
  rw [hraws] at hraw
  obtain ⟨before, behind, hinside, hplace, hkind⟩ :=
    StartTag.rawAttributes_tokens _ inside raw hraw token place htoken
  refine ⟨'<' :: (splitName source).1 ++ before, behind ++ bracket, ?_, ?_, hkind.append hquotes⟩
  · refine hsource.trans ?_
    rw [hinside]
    simp
  · rw [hplace, Position.advance_append]

/-- The value of an attribute is read from a text: a plain value is that text, and what a directive binds
is read from it. -/
def Attribute.Says (text : List Char) (place : Position) : Attribute → Prop
  | .plain _ value _ => value = some ⟨text, place⟩
  | .directive key value _ =>
    ∃ expression, boundExpression key text = .ok expression ∧ value = some ⟨expression, place⟩

/-- An attribute has no value. -/
def Attribute.IsBare : Attribute → Prop
  | .plain _ value _ => value = none
  | .directive _ value _ => value = none

/-- An attribute says what its token does, unless the token is unclosed; of an unclosed one the character
at the end is missing. -/
def RawAttribute.KeptIn (source : List Char) (position : Position) (raw : RawAttribute)
    (written : Attribute) : Prop :=
  match raw.token with
  | none => written.IsBare
  | some (token, place) =>
    ∃ before behind text, source = before ++ token ++ behind ∧ place = position.advance before ∧
      written.Says text place ∧ IsToken token behind ∧
      (¬IsUnclosed token → KeepsToken token text) ∧
      ∀ quote inner last, IsQuote quote → last ≠ quote → token = quote :: inner ++ [last] →
        decodeText inner = .ok text

/-- An attribute says what its token holds, at the token's place, and is bare without one. -/
private theorem RawAttribute.decode_says {raw : RawAttribute} {written : Attribute}
    (hdecode : raw.decode = .ok written) :
    (raw.token = none → written.IsBare) ∧
      ∀ token place, raw.token = some (token, place) →
        ∃ text, decodeText (tokenContent token) = .ok text ∧ written.Says text place := by
  obtain ⟨name, position, token⟩ := raw
  cases token with
  | none =>
    refine ⟨fun _ => ?_, (fun _ _ htoken => by cases htoken)⟩
    simp only [decode, pure_bind] at hdecode
    cases hkey : DirectiveKey.parse? name <;> simp only [hkey] at hdecode <;> cases hdecode <;> rfl
  | some token =>
    refine ⟨(fun htoken => by cases htoken), ?_⟩
    rintro _ _ ⟨⟩
    simp only [decode, pure_bind, bind_eq_ok_iff] at hdecode
    obtain ⟨text, htext, hwritten⟩ := hdecode
    refine ⟨text, htext, ?_⟩
    cases hkey : DirectiveKey.parse? name with
    | none =>
      simp only [hkey] at hwritten
      cases hwritten
      rfl
    | some key =>
      simp only [hkey, bind_eq_ok_iff] at hwritten
      obtain ⟨expression, hexpression, hwritten⟩ := hwritten
      cases hwritten
      exact ⟨expression, hexpression, rfl⟩

/-- All attributes of a start tag are kept, each as its token allows. -/
theorem Tag.attributes_kept {source : List Char} {position : Position} {tag : Tag}
    (hopen : ∃ c rest, source = '<' :: c :: rest ∧ c.isAlpha = true)
    (hparse : Tag.parse source position = .ok tag) :
    List.Forall₂ (RawAttribute.KeptIn source position) (Tag.rawAttributes source position)
      tag.attributes := by
  rw [Tag.parse, bind_eq_ok_iff] at hparse
  obtain ⟨attributes, hattributes, htag⟩ := hparse
  cases htag
  refine (forall₂_of_mapM hattributes).imp ?_
  rintro raw written ⟨hraw, hdecode⟩
  obtain ⟨hnone, hsome⟩ := RawAttribute.decode_says hdecode
  unfold RawAttribute.KeptIn
  split
  · rename_i htoken
    exact hnone htoken
  · rename_i token place htoken
    obtain ⟨text, htext, hsays⟩ := hsome token place htoken
    obtain ⟨before, behind, hsource, hplace, hkind⟩ :=
      Tag.rawAttributes_tokens hopen position raw hraw token place htoken
    refine ⟨before, behind, text, hsource, hplace, hsays, hkind, hkind.keepsToken htext, ?_⟩
    rintro quote inner last hquote _ rfl
    exact decodeText_of_unclosed hquote htext

namespace Builder

variable {builder : Builder}

private theorem position_flush {flushed : Builder} (hflush : builder.flush = .ok flushed) :
    flushed.position = builder.position := by
  obtain ⟨_, rfl⟩ | ⟨_, _, nodes, _, _, rfl⟩ := flush_cases hflush
  · rfl
  · exact position_addNodes builder nodes

/-- Text has no start tags. -/
theorem startTag_not_mem_textNodes {position : Position} {raw : List Char} {nodes : List Node}
    (hnodes : textNodes position raw = .ok nodes) (tag : Tag) :
    .startTag tag ∉ nodesParts nodes := by
  unfold textNodes at hnodes
  generalize Piece.ofSource raw = pieces at hnodes
  induction pieces generalizing position nodes with
  | nil =>
    cases hnodes
    exact nofun
  | cons piece pieces ih =>
    simp only [Piece.toNodes, bind_eq_ok_iff] at hnodes
    obtain ⟨node, hnode, later, hlater, hnodes⟩ := hnodes
    obtain rfl := Except.ok.inj hnodes
    rw [nodesParts, List.mem_append, not_or]
    refine ⟨?_, ih hlater⟩
    cases piece with
    | text raw =>
      obtain ⟨text, _, hnode⟩ := bind_eq_ok_iff.1 hnode
      obtain rfl := Except.ok.inj hnode
      simp [Node.parts]
    | mustache body =>
      simp only [Piece.toNode, bind_eq_ok_iff] at hnode
      obtain ⟨_, _, _, _, hnode⟩ := hnode
      obtain rfl := Except.ok.inj hnode
      simp [Node.parts]

private theorem startTag_mem_flush {flushed : Builder} (hflush : builder.flush = .ok flushed) {tag : Tag}
    (hmem : .startTag tag ∈ flushed.parts) : .startTag tag ∈ builder.parts := by
  obtain ⟨_, rfl⟩ | ⟨start, raw, nodes, _, hnodes, rfl⟩ := flush_cases hflush
  · exact hmem
  · have hparts : ({ builder.addNodes nodes with pending := none } : Builder).parts =
        builder.parts ++ nodesParts nodes := parts_addNodes builder nodes
    rw [hparts, List.mem_append] at hmem
    exact hmem.resolve_right (startTag_not_mem_textNodes hnodes tag)

/-- A passage adds a start tag only by being its source, and moves on by its source. -/
theorem startTag_mem_step {next : Builder} {token : Token} {raw : List Char}
    (hstep : builder.step token raw = .ok next) :
    next.position = builder.position.advance raw ∧
      ∀ tag, .startTag tag ∈ next.parts → .startTag tag ∈ builder.parts ∨
        ∃ name selfClosing, token = .startTag name selfClosing ∧
          Tag.parse raw builder.position = .ok tag := by
  obtain ⟨_, rfl⟩ | ⟨_, rfl⟩ | ⟨flushed, hflush, hnext⟩ := step_cases hstep
  · refine ⟨by simp [pass, position_beginText], fun tag hmem => .inl ?_⟩
    rwa [parts_pass, parts_beginText] at hmem
  · refine ⟨by simp [pass], fun tag hmem => .inl ?_⟩
    rwa [parts_pass] at hmem
  · have hposition := position_flush hflush
    rcases hnext with ⟨name, selfClosing, opened, htoken, hparse, rfl⟩ | ⟨name, _, rfl⟩ | ⟨_, rfl⟩
    · refine ⟨by simp [pass, position_addTag, hposition], fun tag hmem => ?_⟩
      rw [parts_pass, parts_addTag, List.mem_append, List.mem_singleton] at hmem
      rcases hmem with hold | hnew
      · exact .inl (startTag_mem_flush hflush hold)
      · cases hnew
        rw [hposition] at hparse
        exact .inr ⟨name, selfClosing, htoken, hparse⟩
    · refine ⟨by simp [pass, position_close, hposition], fun tag hmem => .inl ?_⟩
      rw [parts_pass, parts_close] at hmem
      exact startTag_mem_flush hflush hmem
    · refine ⟨by simp [pass, hposition], fun tag hmem => .inl ?_⟩
      rw [parts_pass] at hmem
      exact startTag_mem_flush hflush hmem

/-- The start tags that passages add are read from passages of theirs, at the places of these. -/
theorem exists_opening {passages : List Passage} {last : Builder}
    (hsteps : builder.steps passages = .ok last) {tag : Tag} (hmem : .startTag tag ∈ last.parts) :
    .startTag tag ∈ builder.parts ∨
      ∃ former opening latter name selfClosing, passages = former ++ opening :: latter ∧
        opening.token = .startTag name selfClosing ∧
        Tag.parse opening.raw (builder.position.advance (Passage.rawOf former)) = .ok tag := by
  induction passages generalizing builder with
  | nil =>
    cases hsteps
    exact .inl hmem
  | cons passage passages ih =>
    rw [steps_cons, bind_eq_ok_iff] at hsteps
    obtain ⟨next, hstep, hsteps⟩ := hsteps
    obtain ⟨hposition, hnew⟩ := startTag_mem_step hstep
    rcases ih hsteps with hfirst | ⟨former, opening, latter, name, selfClosing, rfl, htoken, hparse⟩
    · rcases hnew tag hfirst with hold | ⟨name, selfClosing, htoken, hparse⟩
      · exact .inl hold
      · exact .inr ⟨[], passage, passages, name, selfClosing, rfl, htoken, hparse⟩
    · refine .inr ⟨passage :: former, opening, latter, name, selfClosing, rfl, htoken, ?_⟩
      rwa [Passage.rawOf_cons, Position.advance_append, ← hposition]

end Builder

/-- Each start tag of a tree is read from a passage of the source, where that passage stands. The values
of its attributes say what the tokens in that passage do, but for unclosed tokens: these begin with a
quote that the tag does not close, and lose the character at their end. -/
theorem values_say_tokens {source : List Char} {document : Document}
    (hparse : parseTemplate source = .ok document) {tag : Tag} (htag : .startTag tag ∈ document.parts) :
    ∃ former opening latter mode rest name selfClosing,
      Reads true .markup source (former ++ opening :: latter) mode rest ∧
      opening.token = .startTag name selfClosing ∧
      tag.position = Position.start.advance (Passage.rawOf former) ∧
      Tag.parse opening.raw tag.position = .ok tag ∧
      List.Forall₂ (RawAttribute.KeptIn opening.raw tag.position)
        (Tag.rawAttributes opening.raw tag.position) tag.attributes := by
  obtain ⟨passages, mode, rest, builder, last, hreads, _, hsteps, hflush, rfl⟩ :=
    parseTemplate_eq_ok_iff.1 hparse
  have hmem : .startTag tag ∈ builder.parts := Builder.startTag_mem_flush hflush htag
  rcases Builder.exists_opening hsteps hmem with
    hnever | ⟨former, opening, latter, name, selfClosing, rfl, htoken, htagged⟩
  · cases hnever
  · have hposition : tag.position = Position.start.advance (Passage.rawOf former) := by
      obtain ⟨attributes, _, htag⟩ := bind_eq_ok_iff.1 htagged
      cases htag
      rfl
    have hopening : opening ∈ former ++ opening :: latter := by simp
    have hopen := (hreads.sound opening hopening).startTag name selfClosing htoken
    change Tag.parse opening.raw (Position.start.advance (Passage.rawOf former)) = .ok tag at htagged
    rw [← hposition] at htagged
    exact ⟨former, opening, latter, mode, rest, name, selfClosing, hreads, htoken, hposition, htagged,
      Tag.attributes_kept hopen htagged⟩

/-- Two kinds of quotes, a directive without quotes, and a quote that is never closed. -/
theorem values_say_tokens_kinds :
    let source := "<p a='1\"' :b=c d= \"ef>g".toList
    ∃ document tag, parseTemplate source = .ok document ∧ .startTag tag ∈ document.parts ∧
      tag.attributes = [.plain ['a'] (some ⟨['1', '"'], ⟨1, 5⟩⟩) ⟨1, 3⟩,
        .directive ⟨"bind".toList, some ['b'], [], [':', 'b']⟩
          (some ⟨some (.dynamic ['c']), ⟨1, 13⟩⟩) ⟨1, 10⟩,
        .plain ['d'] (some ⟨['e'], ⟨1, 18⟩⟩) ⟨1, 15⟩] ∧
      ∃ former opening latter mode rest,
        Reads true .markup source (former ++ opening :: latter) mode rest ∧
        List.Forall₂ (RawAttribute.KeptIn opening.raw tag.position)
          (Tag.rawAttributes opening.raw tag.position) tag.attributes := by
  intro source
  let tag : Tag := ⟨['p'], .start, [.plain ['a'] (some ⟨['1', '"'], ⟨1, 5⟩⟩) ⟨1, 3⟩,
    .directive ⟨"bind".toList, some ['b'], [], [':', 'b']⟩
      (some ⟨some (.dynamic ['c']), ⟨1, 13⟩⟩) ⟨1, 10⟩,
    .plain ['d'] (some ⟨['e'], ⟨1, 18⟩⟩) ⟨1, 15⟩]⟩
  have hparts : (parseTemplate source).toOption.map Document.parts =
      some [.startTag tag, .text ['g'] ⟨1, 22⟩] := by
    decide +kernel
  cases hparse : parseTemplate source with
  | error error =>
    rw [hparse] at hparts
    cases hparts
  | ok document =>
    rw [hparse] at hparts
    have htag : .startTag tag ∈ document.parts := by
      rw [show document.parts = _ from Option.some.inj hparts]
      exact List.mem_cons_self
    obtain ⟨former, opening, latter, mode, rest, _, _, hreads, _, _, _, hkept⟩ :=
      values_say_tokens hparse htag
    exact ⟨document, tag, rfl, htag, rfl, former, opening, latter, mode, rest, hreads, hkept⟩

/-- A quote behind a blank, which the tag does not close: the text behind it loses its last character. -/
theorem unclosed_value_loses_last :
    let source := "<a b= \"x>y".toList
    let token := "\"x".toList
    let tag : Tag := ⟨['a'], ⟨1, 0⟩, [.plain ['b'] (some ⟨[], ⟨1, 6⟩⟩) ⟨1, 3⟩]⟩
    (parseTemplate source).toOption.map Document.parts = some [.startTag tag, .text ['y'] ⟨1, 9⟩] ∧
      Tag.rawAttributes "<a b= \"x>".toList tag.position = [⟨['b'], ⟨1, 3⟩, some (token, ⟨1, 6⟩)⟩] ∧
      ¬KeepsToken token [] := by
  intro source token tag
  refine ⟨by decide +kernel, by decide +kernel, ?_⟩
  have hplain : ∀ text : List Char, '&' ∉ text → decodeText text = .ok [] → text = [] := by
    intro text hclean hdecode
    have hsame : decodeText text = .ok text :=
      decodeText_plain fun c hc => fun heq => hclean (heq ▸ hc)
    rw [hsame] at hdecode
    exact Except.ok.inj hdecode
  rintro (⟨quote, inner, _, htoken, _⟩ | ⟨_, hdecode | ⟨quote, inner, _, htoken, hdecode⟩⟩)
  · have hends := congrArg List.getLast? htoken
    have hbegins := congrArg List.head? htoken
    rw [List.getLast?_concat] at hends
    rw [List.cons_append, List.head?_cons] at hbegins
    exact absurd (hbegins.trans hends.symm) (by decide)
  · exact absurd (hplain token (by decide) hdecode) (by decide)
  · obtain ⟨_, hinner⟩ := List.cons.inj htoken
    rw [← hinner] at hdecode
    exact absurd (hplain ['x'] (by decide) hdecode) (by decide)

end BareStrings.Markup
