import BareStrings.Proofs.Markup.Bracket
import BareStrings.Proofs.Markup.CharRef
import BareStrings.Proofs.Markup.Faithful
import BareStrings.Proofs.Markup.TagName
import BareStrings.Proofs.Markup.TagSpan

namespace BareStrings.Markup

open BareStrings.Text

/-- A source holds a text that is read as an expression: what the value of a directive in a start tag
stands for, or what the inside of an interpolation in unfinished text does. -/
inductive HoldsExpression (source : List Char) : List Char → Prop
  | directive {passages : List Passage} {mode : Mode} {rest : List Char}
      (hreads : Reads true .markup source passages mode rest)
      {passage : Passage} (hmem : passage ∈ passages) {name : List Char} {selfClosing : Bool}
      (htoken : passage.token = .startTag name selfClosing)
      {position : Position} {raw : RawAttribute} (hraw : raw ∈ Tag.rawAttributes passage.raw position)
      {key : DirectiveKey} (hkey : DirectiveKey.parse? raw.name = some key)
      {token : List Char} {place : Position} (hvalue : raw.token = some (token, place))
      {text : List Char} (hdecode : decodeText (StartTag.tokenContent token) = .ok text) :
      HoldsExpression source text
  | interpolation {passages : List Passage} {mode : Mode} {rest : List Char}
      (hreads : Reads true .markup source passages mode rest)
      {builder : Builder} (hsteps : Builder.empty.steps passages = .ok builder)
      {start : Position} {raw : List Char} (hpending : builder.pending = some (start, raw))
      {body : List Char} (hbody : .mustache body ∈ Piece.ofSource raw)
      {text : List Char} (hdecode : decodeText body = .ok text) :
      HoldsExpression source text

/-- What a markup error says of the source that it refuses. Errors about marked sections quote the source
from the beginning of the section on, or from its keyword on. -/
def MarkupError.HasCauseIn (source : List Char) : MarkupError → Prop
  | .charRef _ => CharRef.HoldsLong source
  | .expression cause =>
    ∃ text, HoldsExpression source text ∧ Expression.parse text = .error cause
  | .sectionNameExpected ahead => "<![".toList <+: ahead ∧ ahead <:+: source
  | .unknownSection keyword => "<![".toList ++ keyword <:+: source

/-- An expression is refused for the cause that its parser gives. -/
private theorem readExpression_eq_error {text : List Char} {error : MarkupError}
    (herror : readExpression text = .error error) :
    ∃ cause, error = .expression cause ∧ Expression.parse text = .error cause := by
  unfold readExpression at herror
  cases hparse : Expression.parse text with
  | ok expression =>
    rw [hparse] at herror
    cases herror
  | error cause =>
    rw [hparse] at herror
    cases herror
    exact ⟨cause, rfl, rfl⟩

/-- A text that cannot be decoded is the cause in every source that it is a piece of. -/
theorem hasCauseIn_of_decodeText {text source : List Char} {error : MarkupError}
    (herror : decodeText text = .error error) (hpiece : text <:+: source) : error.HasCauseIn source := by
  obtain ⟨cause, rfl, hlong⟩ := decodeText_eq_error herror
  exact hlong.of_isInfix hpiece

namespace Lexeme

open CharRef (HoldsLong)

/-- The value of an attribute is a piece of the tag, but for an equals sign before it. -/
theorem holdsLong_of_valueSpan? {text value : List Char} {size : Nat}
    (hspan : valueSpan? text = some (value, size)) (hlong : HoldsLong value) : HoldsLong text := by
  have hbody := valueText_suffix text
  have hbare : HoldsLong ((valueText text).takeWhile isBareChar) → HoldsLong text := fun hlong =>
    hlong.of_isInfix ((List.takeWhile_prefix _).isInfix.trans hbody.isInfix)
  have hsign : '&' ∉ ['='] := by decide
  have hsigned : HoldsLong ('=' :: (valueText text).takeWhile isBareChar) → HoldsLong text :=
    fun hlong => hbare ((CharRef.holdsLong_append_iff hsign _).1 hlong)
  by_cases hquote : ∃ quote rest, valueText text = quote :: rest ∧ IsQuote quote
  · obtain ⟨quote, rest, hopen, hquote⟩ := hquote
    rw [valueSpan?_quote hquote hopen] at hspan
    rw [hopen] at hbody
    split at hspan
    · cases hspan
    · split at hspan
      · cases hspan
        have hrest := (List.suffix_cons quote rest).trans hbody
        exact hlong.of_isInfix ((List.takeWhile_prefix _).isInfix.trans hrest.isInfix)
      · split at hspan
        · cases hspan
          exact absurd hlong CharRef.not_holdsLong_nil
        · split at hspan
          · cases hspan
            exact hsigned hlong
          · cases hspan
  · rw [valueSpan?_bare fun quote rest hopen hq => hquote ⟨quote, rest, hopen, hq⟩] at hspan
    split at hspan
    · cases hspan
    · cases hspan
      exact hbare hlong

/-- A value that holds a reference that is too long stands in a text that does. -/
private theorem holdsLong_of_attributeSpan? {previous : Char} {text : List Char} {span : AttributeSpan}
    (hspan : attributeSpan? previous text = some span) (hlong : HoldsLong span.value) :
    HoldsLong text := by
  cases text with
  | nil => cases hspan
  | cons c rest =>
    simp only [attributeSpan?] at hspan
    split at hspan
    · cases hspan
    · cases hspan
      simp only at hlong
      cases hvalue : valueSpan? (rest.dropWhile fun d => !isBlank d && d != '/' && d != '=' && d != '>') with
      | none =>
        rw [hvalue] at hlong
        exact absurd hlong CharRef.not_holdsLong_nil
      | some found =>
        rw [hvalue] at hlong
        have hafter := holdsLong_of_valueSpan? hvalue hlong
        exact hafter.of_isInfix ((List.dropWhile_suffix _).trans (List.suffix_cons c rest)).isInfix

/-- The same for every value of a tag. -/
private theorem holdsLong_of_attributeSpans {previous : Char} {text value : List Char}
    (hvalue : value ∈ (attributeSpans previous text).1) (hlong : HoldsLong value) :
    HoldsLong text := by
  fun_induction attributeSpans previous text with
  | case1 => cases hvalue
  | case2 => cases hvalue
  | case3 previous c rest span hspan last values size hmore ih =>
    rcases List.mem_cons.1 hvalue with rfl | hlater
    · exact holdsLong_of_attributeSpan? hspan hlong
    · rw [hmore] at ih
      exact (ih hlater).of_isInfix (List.drop_suffix _ _).isInfix

/-- A start tag is refused for a value of an attribute only. -/
theorem startTag?_eq_error {text source : List Char} {error : MarkupError}
    (herror : startTag? text = .error error) (htext : text <:+: source) : error.HasCauseIn source := by
  have hvalues : (tagSpan (text.drop 1)).values.mapM decodeText = .error error →
      error.HasCauseIn source := by
    intro hmap
    obtain ⟨value, hmem, hvalue⟩ := exists_of_mapM_eq_error hmap
    obtain ⟨cause, rfl, hlong⟩ := decodeText_eq_error hvalue
    rw [tagSpan_values] at hmem
    have hinside := holdsLong_of_attributeSpans hmem hlong
    rw [List.drop_drop] at hinside
    exact hinside.of_isInfix ((List.drop_suffix _ text).isInfix.trans htext)
  simp only [startTag?] at herror
  split at herror
  · cases herror
  · obtain hmap | ⟨_, _, hnever⟩ := bind_eq_error_iff.1 herror
    · exact hvalues hmap
    · cases hnever
  · obtain hmap | ⟨_, _, hnever⟩ := bind_eq_error_iff.1 herror
    · exact hvalues hmap
    · cases hnever

/-- A marked section is refused for what follows its beginning. -/
theorem sectionEnd?_eq_error {text source : List Char} {error : MarkupError}
    (hopen : "<![".toList <+: text) (herror : sectionEnd? text = .error error)
    (htext : text <:+: source) : error.HasCauseIn source := by
  simp only [sectionEnd?] at herror
  split at herror
  · cases herror
  · rename_i c rest hcontent
    split at herror
    · cases herror
      exact ⟨List.prefix_take_iff.2 ⟨hopen, by decide⟩, (List.take_prefix _ _).isInfix.trans htext⟩
    · split at herror
      · cases herror
      · split at herror
        · cases herror
        · split at herror
          · cases herror
          · cases herror
            refine List.IsInfix.trans (List.IsPrefix.isInfix ?_) htext
            obtain ⟨content, rfl⟩ := hopen
            obtain rfl : content = c :: rest := hcontent
            have hword := List.takeWhile_append_dropWhile (p := isKeywordChar) (l := rest)
            have hblank := List.takeWhile_append_dropWhile (p := isBlank)
              (l := rest.dropWhile isKeywordChar)
            refine ⟨(rest.dropWhile isKeywordChar).dropWhile isBlank, ?_⟩
            rw [← List.append_assoc, List.append_assoc _ _ (List.dropWhile _ _), hblank,
              List.append_assoc, List.cons_append, hword]

private theorem declarationEnd?_eq_error {text source : List Char} {error : MarkupError}
    (herror : declarationEnd? text = .error error) (htext : text <:+: source) :
    error.HasCauseIn source := by
  unfold declarationEnd? at herror
  split at herror
  · cases herror
  · split at herror
    · rename_i hopen
      exact sectionEnd?_eq_error (List.isPrefixOf_iff_prefix.1 hopen) herror htext
    · split at herror <;> cases herror

/-- What is refused at an angle bracket has its cause in the source. -/
private theorem construct?_eq_error {text source : List Char} {error : MarkupError}
    (herror : construct? text = .error error) (htext : text <:+: source) :
    error.HasCauseIn source := by
  unfold construct? at herror
  split at herror
  · cases herror
  · split at herror
    · exact startTag?_eq_error herror htext
    · split at herror
      · cases herror
      · split at herror
        · obtain hend | ⟨_, _, hnever⟩ := bind_eq_error_iff.1 herror
          · exact declarationEnd?_eq_error hend htext
          · cases hnever
        · split at herror <;> cases herror

/-- Text that is refused has the cause for it in the source. -/
private theorem ofText_eq_error {text source : List Char} {more : Nat} {error : MarkupError}
    (herror : ofText text more = .error error) (htext : text <:+: source) :
    error.HasCauseIn source := by
  unfold ofText at herror
  cases hdecode : decodeText (text.take (more + 1)) with
  | ok decoded =>
    rw [hdecode] at herror
    cases herror
  | error cause =>
    rw [hdecode] at herror
    cases herror
    exact hasCauseIn_of_decodeText hdecode ((List.take_prefix _ text).isInfix.trans htext)

/-- No lexeme is told only if a cause stands in the text. -/
theorem next?_eq_error {final : Bool} {mode : Mode} {text source : List Char} {error : MarkupError}
    (herror : next? final mode text = .error error) (htext : text <:+: source) :
    error.HasCauseIn source := by
  match mode, text with
  | .markup, [] | .rawText _, [] => cases herror
  | .rawText _, _ :: _ => cases herror
  | .markup, c :: rest =>
    simp only [next?, inMarkup] at herror
    split at herror
    · obtain hconstruct | ⟨found, _, herror⟩ := bind_eq_error_iff.1 herror
      · exact construct?_eq_error hconstruct htext
      · cases found with
        | some lexeme => cases herror
        | none =>
          simp only at herror
          split at herror
          · obtain hsalvaged | ⟨_, _, hnever⟩ := bind_eq_error_iff.1 herror
            · exact ofText_eq_error hsalvaged htext
            · cases hnever
          · cases herror
    · split at herror
      · cases herror
      · obtain hdata | ⟨_, _, hnever⟩ := bind_eq_error_iff.1 herror
        · exact ofText_eq_error hdata htext
        · cases hnever

end Lexeme

private theorem StartTag.tokenContent_isInfix (token : List Char) : tokenContent token <:+: token := by
  have hinner : ∀ (quote : Char) (inner : List Char), inner.dropLast <:+: quote :: inner :=
    fun quote inner => (List.dropLast_prefix inner).isInfix.trans (List.suffix_cons quote inner).isInfix
  unfold tokenContent
  split
  · exact hinner _ _
  · exact hinner _ _
  · exact List.infix_rfl

/-- An attribute is refused for the references in its value, or for its expression if it is a
directive. -/
theorem RawAttribute.decode_eq_error {raw : RawAttribute} {error : MarkupError}
    (herror : raw.decode = .error error) :
    ∃ token place, raw.token = some (token, place) ∧
      (decodeText (StartTag.tokenContent token) = .error error ∨
        ∃ key text cause, DirectiveKey.parse? raw.name = some key ∧
          decodeText (StartTag.tokenContent token) = .ok text ∧
          Expression.parse text = .error cause ∧ error = .expression cause) := by
  obtain ⟨name, position, token⟩ := raw
  cases token with
  | none =>
    simp only [RawAttribute.decode, pure_bind] at herror
    cases hkey : DirectiveKey.parse? name <;> simp only [hkey] at herror <;> cases herror
  | some token =>
    obtain ⟨token, place⟩ := token
    refine ⟨token, place, rfl, ?_⟩
    simp only [RawAttribute.decode, pure_bind] at herror
    obtain hvalue | ⟨text, htext, herror⟩ := bind_eq_error_iff.1 herror
    · exact .inl hvalue
    · cases hkey : DirectiveKey.parse? name with
      | none =>
        simp only [hkey] at herror
        cases herror
      | some key =>
        simp only [hkey] at herror
        obtain hbound | ⟨_, _, hnever⟩ := bind_eq_error_iff.1 herror
        · obtain hread | ⟨expression, _, hnever⟩ := bind_eq_error_iff.1 hbound
          · obtain ⟨cause, rfl, hparse⟩ := readExpression_eq_error hread
            exact .inr ⟨key, text, cause, rfl, htext, hparse, rfl⟩
          · cases expression with
            | none => cases hnever
            | some expression =>
              simp only at hnever
              split at hnever <;> cases hnever
        · cases hnever

/-- A piece is refused for the references in it, or for its expression if it is an interpolation. -/
theorem Piece.toNode_eq_error {piece : Piece} {position : Position} {error : MarkupError}
    (herror : piece.toNode position = .error error) :
    (∃ text, text <:+: piece.raw ∧ decodeText text = .error error) ∨
      ∃ body text cause, piece = .mustache body ∧ decodeText body = .ok text ∧
        Expression.parse text = .error cause ∧ error = .expression cause := by
  cases piece with
  | text raw =>
    obtain htext | ⟨_, _, hnever⟩ := bind_eq_error_iff.1 herror
    · exact .inl ⟨raw, List.infix_rfl, htext⟩
    · cases hnever
  | mustache body =>
    obtain hbody | ⟨text, htext, herror⟩ := bind_eq_error_iff.1 herror
    · exact .inl ⟨body, ⟨Piece.opening, Piece.closing, rfl⟩, hbody⟩
    · obtain hread | ⟨_, _, hnever⟩ := bind_eq_error_iff.1 herror
      · obtain ⟨cause, rfl, hparse⟩ := readExpression_eq_error hread
        exact .inr ⟨body, text, cause, rfl, htext, hparse, rfl⟩
      · cases hnever

/-- Pieces are refused for one of them. -/
private theorem Piece.toNodes_eq_error {pieces : List Piece} {position : Position} {error : MarkupError}
    (herror : Piece.toNodes position pieces = .error error) :
    ∃ piece ∈ pieces, ∃ place, piece.toNode place = .error error := by
  induction pieces generalizing position with
  | nil => cases herror
  | cons piece pieces ih =>
    obtain hfirst | ⟨_, _, herror⟩ := bind_eq_error_iff.1 herror
    · exact ⟨piece, List.mem_cons_self, position, hfirst⟩
    · obtain hlater | ⟨_, _, hnever⟩ := bind_eq_error_iff.1 herror
      · obtain ⟨later, hmem, hlater⟩ := ih hlater
        exact ⟨later, List.mem_cons_of_mem _ hmem, hlater⟩
      · cases hnever

private theorem Piece.raw_isInfix {piece : Piece} {source : List Char} (hpiece : piece ∈ ofSource source) :
    piece.raw <:+: source := by
  have hwhole := rawOf_ofSource source
  obtain ⟨before, behind, hsplit⟩ := List.append_of_mem hpiece
  rw [hsplit, List.flatMap_append, List.flatMap_cons] at hwhole
  exact ⟨_, _, by rw [List.append_assoc, hwhole]⟩

namespace Builder

variable {source rest : List Char} {passages : List Passage} {mode : Mode} {builder : Builder}

/-- A builder that has read the beginning of a source is true to that beginning. -/
theorem trueTo_of_steps (hreads : Reads true .markup source passages mode rest)
    (hsteps : Builder.empty.steps passages = .ok builder) :
    builder.TrueTo (Passage.rawOf passages) := by
  simpa using TrueTo.empty.steps hreads.sound hsteps

/-- Where the waiting text is refused, the cause stands in the source. -/
private theorem flush_eq_error (hreads : Reads true .markup source passages mode rest)
    (hsteps : Builder.empty.steps passages = .ok builder) {error : MarkupError}
    (herror : builder.flush = .error error) : error.HasCauseIn source := by
  unfold flush at herror
  split at herror
  · cases herror
  · rename_i start raw hpending
    obtain hnodes | ⟨_, _, hnever⟩ := bind_eq_error_iff.1 herror
    · obtain ⟨before, hread, _⟩ := (trueTo_of_steps hreads hsteps).pending_stands start raw hpending
      have hraw : raw <:+: source := ⟨before, rest, by rw [← hread, ← hreads.text_eq]⟩
      obtain ⟨piece, hpiece, place, hnode⟩ := Piece.toNodes_eq_error hnodes
      obtain ⟨text, htext, hdecode⟩ | ⟨body, text, cause, rfl, hdecode, hparse, rfl⟩ :=
        Piece.toNode_eq_error hnode
      · exact hasCauseIn_of_decodeText hdecode (htext.trans ((Piece.raw_isInfix hpiece).trans hraw))
      · exact ⟨text, .interpolation hreads hsteps hpending hpiece hdecode, hparse⟩
    · cases hnever

/-- A start tag is refused only if a cause stands in its attributes. -/
theorem parse_eq_error {passage : Passage} {next : Mode} {behind : List Char}
    (hreads : Reads true .markup source passages mode rest)
    (hpassage : Reads true mode rest [passage] next behind)
    (hsteps : Builder.empty.steps passages = .ok builder) {flushed : Builder}
    (hflush : builder.flush = .ok flushed) {name : List Char} {selfClosing : Bool}
    (htoken : passage.token = .startTag name selfClosing) {error : MarkupError}
    (herror : Tag.parse passage.raw flushed.position = .error error) : error.HasCauseIn source := by
  have htrue := (trueTo_of_steps hreads hsteps).flush hflush
  have hopen := (hpassage.sound passage List.mem_cons_self).startTag name selfClosing htoken
  have hstands : ∀ raw ∈ Tag.rawAttributes passage.raw flushed.position, raw.StandsIn source := by
    refine Tag.rawAttributes_standIn hopen ⟨Passage.rawOf passages, behind, ?_, htrue.position_eq⟩
    rw [hreads.text_eq, hpassage.text_eq, List.append_assoc]
    simp
  obtain hattributes | ⟨_, _, hnever⟩ := bind_eq_error_iff.1 herror
  · obtain ⟨raw, hraw, hdecode⟩ := exists_of_mapM_eq_error hattributes
    obtain ⟨token, place, hvalue, hcause⟩ := RawAttribute.decode_eq_error hdecode
    obtain ⟨before, after, hsource, _⟩ := ((hstands raw hraw).2 token place hvalue).1
    rcases hcause with htext | ⟨key, text, cause, hkey, htext, hread, rfl⟩
    · exact hasCauseIn_of_decodeText htext
        ((StartTag.tokenContent_isInfix token).trans ⟨before, after, hsource.symm⟩)
    · exact ⟨text, .directive (hreads.append hpassage)
        (List.mem_append_right _ List.mem_cons_self) htoken hraw hkey hvalue htext, hread⟩
  · cases hnever

/-- A passage is refused only if a cause stands in the source. -/
theorem step_eq_error {passage : Passage} {next : Mode} {behind : List Char}
    (hreads : Reads true .markup source passages mode rest)
    (hpassage : Reads true mode rest [passage] next behind)
    (hsteps : Builder.empty.steps passages = .ok builder) {error : MarkupError}
    (herror : builder.step passage.token passage.raw = .error error) : error.HasCauseIn source := by
  have hflush : builder.flush = .error error → error.HasCauseIn source :=
    flush_eq_error hreads hsteps
  obtain haccept | ⟨_, _, hnever⟩ := bind_eq_error_iff.1 herror
  · cases htoken : passage.token with
    | data =>
      rw [htoken] at haccept
      cases haccept
    | skipped =>
      rw [htoken] at haccept
      cases haccept
    | aside =>
      rw [htoken] at haccept
      exact hflush haccept
    | endTag name =>
      rw [htoken] at haccept
      obtain hfirst | ⟨_, _, hnever⟩ := bind_eq_error_iff.1 haccept
      · exact hflush hfirst
      · cases hnever
    | startTag name selfClosing =>
      rw [htoken] at haccept
      obtain hfirst | ⟨flushed, hfirst, haccept⟩ := bind_eq_error_iff.1 haccept
      · exact hflush hfirst
      · obtain hparse | ⟨_, _, hnever⟩ := bind_eq_error_iff.1 haccept
        · exact parse_eq_error hreads hpassage hsteps hfirst htoken hparse
        · cases hnever
  · cases hnever

end Builder

/-- A run is refused where a lexeme cannot be told or the builder does not take it in. -/
theorem Reader.run_eq_error {final : Bool} {builder : Builder} {mode : Mode} {text : List Char}
    {error : MarkupError} (herror : run final builder mode text = .error error) :
    ∃ passages reached middle rest, Reads final mode text passages middle rest ∧
      builder.steps passages = .ok reached ∧
      (Lexeme.next? final middle rest = .error error ∨
        ∃ lexeme, Lexeme.next? final middle rest = .ok (some lexeme) ∧
          reached.step lexeme.token (rest.take lexeme.size) = .error error) := by
  fun_induction run final builder mode text with
  | case1 => cases herror
  | case2 builder mode c rest found hnext =>
    cases herror
    exact ⟨[], builder, mode, c :: rest, .nil, rfl, .inl hnext⟩
  | case3 => cases herror
  | case4 builder mode c rest lexeme hnext found hstep =>
    cases herror
    exact ⟨[], builder, mode, c :: rest, .nil, rfl, .inr ⟨lexeme, hnext, hstep⟩⟩
  | case5 builder mode c rest lexeme hnext next hstep ih =>
    obtain ⟨passages, reached, middle, behind, hreads, hsteps, hstop⟩ := ih herror
    refine ⟨_, reached, middle, behind, .cons lexeme hnext hreads, ?_, hstop⟩
    rw [Builder.steps_cons, hstep]
    exact hsteps

/-- At the end of a source something is always told, except in code that is never closed. -/
theorem Lexeme.eq_nil_or_unclosed {mode : Mode} {text : List Char}
    (hnone : next? true mode text = .ok none) :
    text = [] ∨ ∃ name, mode = .rawText name ∧ rawTextSize? name text = none := by
  match mode, text with
  | _, [] => exact .inl rfl
  | .rawText name, c :: rest =>
    refine .inr ⟨name, rfl, ?_⟩
    simp only [next?, inRawText, Except.ok.injEq] at hnone
    split at hnone
    · assumption
    · rename_i hsize
      have hmem := bracket_mem_of_closesRawText (closesRawText_of_rawTextSize? hsize)
      split at hnone
      · rename_i hend
        have hpos := (endTag?_eq_some hend).2.1
        simp [ofSize?, hpos] at hnone
      · obtain ⟨size, hlast⟩ := exists_endOf?_bracket? hmem
        simp [ofSize?, hlast] at hnone
    · cases hnone
  | .markup, c :: rest =>
    simp only [next?, inMarkup] at hnone
    split at hnone
    · rw [bind_eq_ok_iff] at hnone
      obtain ⟨found, _, hnone⟩ := hnone
      cases found with
      | some lexeme => cases hnone
      | none =>
        simp only [if_true, bind_eq_ok_iff] at hnone
        obtain ⟨_, _, hnever⟩ := hnone
        cases hnever
    · simp only [Bool.not_true, Bool.and_false, Bool.false_eq_true, if_false, bind_eq_ok_iff] at hnone
      obtain ⟨_, _, hnever⟩ := hnone
      cases hnever

/-- There are no more passages than characters, since none of them is empty. -/
private theorem Reads.length_le {final : Bool} {mode last : Mode} {text rest : List Char}
    {passages : List Passage} (hreads : Reads final mode text passages last rest) :
    passages.length ≤ text.length := by
  have hsound := hreads.sound
  have htext := congrArg List.length hreads.text_eq
  rw [List.length_append] at htext
  have hraw : ∀ {passages : List Passage}, (∀ passage ∈ passages, passage.Sound) →
      passages.length ≤ (Passage.rawOf passages).length := by
    intro passages hsound
    induction passages with
    | nil => exact Nat.zero_le _
    | cons passage passages ih =>
      have hfirst := List.length_pos_iff.2 (hsound passage List.mem_cons_self).raw_ne_nil
      have hlater := ih fun later hlater => hsound later (List.mem_cons_of_mem _ hlater)
      rw [Passage.rawOf_cons, List.length_append, List.length_cons]
      omega
  have hpassages := hraw hsound
  omega

/-- Every source is read in at most as many passages as it has characters, up to code that is never
closed, and becomes a tree; or else it is refused for a cause that stands in it: a decimal reference
with too many digits, an expression that cannot be read, or the beginning of a marked section. -/
theorem parseTemplate_ok_or_hasCauseIn (source : List Char) :
    (∃ document passages mode rest, parseTemplate source = .ok document ∧
      Reads true .markup source passages mode rest ∧ passages.length ≤ source.length ∧
      (rest = [] ∨ ∃ name, mode = .rawText name ∧ Lexeme.rawTextSize? name rest = none)) ∨
    ∃ error, parseTemplate source = .error error ∧ error.HasCauseIn source := by
  rw [parseTemplate_eq]
  cases hrun : Reader.run true .empty .markup source with
  | error error =>
    refine .inr ⟨error, rfl, ?_⟩
    obtain ⟨passages, reached, mode, rest, hreads, hsteps, hnext | ⟨lexeme, hnext, hstep⟩⟩ :=
      Reader.run_eq_error hrun
    · exact Lexeme.next?_eq_error hnext ⟨Passage.rawOf passages, [], by simpa using hreads.text_eq.symm⟩
    · exact Builder.step_eq_error hreads (.cons lexeme hnext .nil) hsteps hstep
  | ok reader =>
    obtain ⟨passages, hreads, hnone, hsteps⟩ := Reader.run_eq_ok_iff.1 hrun
    cases hflush : reader.builder.flush with
    | error error =>
      refine .inr ⟨error, ?_, Builder.flush_eq_error hreads hsteps hflush⟩
      simp only [bind, Except.bind, hflush]
    | ok last =>
      refine .inl ⟨last.document, passages, _, _, ?_, hreads, hreads.length_le,
        Lexeme.eq_nil_or_unclosed hnone⟩
      simp only [bind, Except.bind, hflush]
      rfl

/-- Nothing that is left open is a cause. -/
example : (parseTemplate "<p a='<!-- </ &#1 \x7b\x7b <script> <![".toList).toOption.isSome = true := by
  decide +kernel

end BareStrings.Markup
