import BareStrings.Proofs.Markup.Template
import BareStrings.Proofs.Markup.ValueToken

namespace BareStrings.Markup

open BareStrings.Text
open Lexeme (IsQuote)

/-- A value as it is written: between quotes, or without any. -/
inductive SpelledText where
  | quoted (quote : Char) (inner : List Char)
  | bare (text : List Char)
deriving DecidableEq

namespace SpelledText

/-- The value as a token. -/
def token : SpelledText → List Char
  | .quoted quote inner => quote :: inner ++ [quote]
  | .bare text => text

/-- What is written, without quotes. -/
def content : SpelledText → List Char
  | .quoted _ inner => inner
  | .bare text => text

/-- A value that can be told from what surrounds it: the quote does not occur inside, and what is written
without quotes holds no blank and no closing bracket and begins with no quote and no equals sign. -/
def Valid : SpelledText → Prop
  | .quoted quote inner => IsQuote quote ∧ quote ∉ inner
  | .bare text => text ≠ [] ∧ (∀ c ∈ text, isBlank c = false ∧ c ≠ '>') ∧
    ∀ c ∈ text.head?, ¬IsQuote c ∧ c ≠ '='

end SpelledText

instance : DecidablePred SpelledText.Valid
  | .quoted quote inner => inferInstanceAs (Decidable ((quote = '"' ∨ quote = '\'') ∧ quote ∉ inner))
  | .bare text =>
    have := List.decidableBAll (fun c => isBlank c = false ∧ c ≠ '>') text
    have := @Option.decidableForallMem Char (fun c => ¬(c = '"' ∨ c = '\'') ∧ c ≠ '=') _ text.head?
    inferInstanceAs (Decidable (text ≠ [] ∧ (∀ c ∈ text, isBlank c = false ∧ c ≠ '>') ∧
      ∀ c ∈ text.head?, ¬(c = '"' ∨ c = '\'') ∧ c ≠ '='))

/-- A value with the blanks on both sides of its equals sign. -/
structure SpelledValue where
  before : List Char
  behind : List Char
  text : SpelledText
deriving DecidableEq

/-- What stands between the name of an attribute and the value. -/
def SpelledValue.lead (value : SpelledValue) : List Char := value.before ++ '=' :: value.behind

/-- An attribute with the blanks in front of it. -/
structure SpelledAttribute where
  gap : List Char
  name : List Char
  value : Option SpelledValue
deriving DecidableEq

/-- A text of nothing but blanks. -/
def AllBlank (text : List Char) : Prop := ∀ c ∈ text, isBlank c = true

instance : DecidablePred AllBlank := fun text => List.decidableBAll (fun c => isBlank c = true) text

instance : DecidablePred IsAttributeChar :=
  fun c => inferInstanceAs (Decidable (isBlank c = false ∧ _))

namespace SpelledAttribute

/-- What stands behind the name. -/
def behindName (spelled : SpelledAttribute) : List Char :=
  (spelled.value.map fun value => value.lead ++ value.text.token).getD []

/-- The attribute as it is written. -/
def render (spelled : SpelledAttribute) : List Char := spelled.gap ++ spelled.name ++ spelled.behindName

/-- An attribute that can be told from what surrounds it. -/
structure Valid (spelled : SpelledAttribute) : Prop where
  gap_ne_nil : spelled.gap ≠ []
  gap_blank : AllBlank spelled.gap
  name_ne_nil : spelled.name ≠ []
  name_chars : ∀ c ∈ spelled.name, IsAttributeChar c
  value_valid : ∀ value ∈ spelled.value,
    AllBlank value.before ∧ AllBlank value.behind ∧ value.text.Valid

instance : DecidablePred Valid := fun spelled =>
  have := List.decidableBAll IsAttributeChar spelled.name
  decidable_of_iff (spelled.gap ≠ [] ∧ AllBlank spelled.gap ∧ spelled.name ≠ [] ∧
      (∀ c ∈ spelled.name, IsAttributeChar c) ∧ ∀ value ∈ spelled.value,
        AllBlank value.before ∧ AllBlank value.behind ∧ value.text.Valid)
    ⟨fun ⟨hne, hgap, hname, hchars, hvalue⟩ => ⟨hne, hgap, hname, hchars, hvalue⟩,
      fun ⟨hne, hgap, hname, hchars, hvalue⟩ => ⟨hne, hgap, hname, hchars, hvalue⟩⟩

/-- The value can be decoded, and read as an expression if the attribute is a directive. -/
def IsReadable (spelled : SpelledAttribute) : Prop :=
  ∀ value ∈ spelled.value, ∃ text, decodeText value.text.content = .ok text ∧
    (DirectiveKey.parse? spelled.name ≠ none → ∃ expression, readExpression text = .ok expression)

/-- The attribute that is spelled behind a text which begins at a place: a directive exactly if its name is
one, with the place of the name, the decoded value, and the place of the value. -/
def IsReadAs (position : Position) (front : List Char) (spelled : SpelledAttribute)
    (written : Attribute) : Prop :=
  let place := position.advance (front ++ spelled.gap)
  match DirectiveKey.parse? spelled.name, spelled.value with
  | none, none => written = .plain spelled.name none place
  | some key, none => written = .directive key none place
  | none, some value =>
    ∃ text, decodeText value.text.content = .ok text ∧
      written = .plain spelled.name
        (some ⟨text, position.advance (front ++ spelled.gap ++ spelled.name ++ value.lead)⟩) place
  | some key, some value =>
    ∃ text expression, decodeText value.text.content = .ok text ∧
      StartTag.boundExpression key text = .ok expression ∧
      written = .directive key
        (some ⟨expression, position.advance (front ++ spelled.gap ++ spelled.name ++ value.lead)⟩) place

end SpelledAttribute

/-- What stands before the closing bracket: blanks, or blanks and a slash. -/
structure TagEnding where
  blanks : List Char
  slash : Bool
deriving DecidableEq

namespace TagEnding

/-- The ending without the bracket. -/
def inside (ending : TagEnding) : List Char := ending.blanks ++ if ending.slash then ['/'] else []

/-- Only blanks stand there, and one at least in front of a slash. -/
def Valid (ending : TagEnding) : Prop :=
  AllBlank ending.blanks ∧ (ending.slash = true → ending.blanks ≠ [])

instance : DecidablePred Valid := fun ending =>
  inferInstanceAs (Decidable (AllBlank ending.blanks ∧ _))

end TagEnding

/-- A start tag as it is written. -/
def spelledTag (name : List Char) (attributes : List SpelledAttribute) (ending : TagEnding) : List Char :=
  '<' :: name ++ attributes.flatMap SpelledAttribute.render ++ ending.inside ++ ['>']

private theorem isAttributeChar_of_isAttributeChar {c : Char} (hchar : IsAttributeChar c) :
    StartTag.isAttributeChar c = true := by
  obtain ⟨hblank, _, _, hslash, hbracket, hsign⟩ := hchar
  simp [StartTag.isAttributeChar, StartTag.isNameChar, hblank, hslash, hbracket, hsign]

private theorem startsAttribute_of_isAttributeChar {c : Char} (hchar : IsAttributeChar c) :
    StartTag.startsAttribute c = true := by
  have hinside := isAttributeChar_of_isAttributeChar hchar
  obtain ⟨_, hdouble, hsingle, _⟩ := hchar
  simp [StartTag.startsAttribute, hinside, hdouble, hsingle]

private theorem isAttributeChar_of_isBlank {c : Char} (hblank : isBlank c = true) :
    StartTag.isAttributeChar c = false := by
  simp [StartTag.isAttributeChar, StartTag.isNameChar, hblank]

private theorem dropWhile_allBlank {blanks : List Char} (hblanks : AllBlank blanks) (rest : List Char) :
    (blanks ++ rest).dropWhile isBlank = rest.dropWhile isBlank :=
  List.dropWhile_append_of_pos hblanks

/-- What can stand behind an attribute: nothing, or something that begins with a blank and has no equals
sign behind its blanks. -/
structure BehindAttribute (tail : List Char) : Prop where
  blank : ∀ c ∈ tail.head?, isBlank c = true
  no_sign : ∀ rest, tail.dropWhile isBlank ≠ '=' :: rest

namespace BehindAttribute

/-- An attribute ends at blanks, if no sign of a value follows them. -/
private theorem of_blanks {blanks rest : List Char} (hblanks : AllBlank blanks) (hne : blanks ≠ [])
    (hrest : ∀ c ∈ rest.head?, isBlank c = false ∧ c ≠ '=') : BehindAttribute (blanks ++ rest) := by
  obtain ⟨c, blanks, rfl⟩ := List.exists_cons_of_ne_nil hne
  constructor
  · intro d hd
    obtain rfl : c = d := by simpa using hd
    exact hblanks c List.mem_cons_self
  · intro behind hdrop
    rw [dropWhile_allBlank hblanks] at hdrop
    cases rest with
    | nil => cases hdrop
    | cons d rest =>
      obtain ⟨hblank, hsign⟩ := hrest d rfl
      rw [List.dropWhile_cons_of_neg (by simp [hblank])] at hdrop
      exact hsign (List.cons.inj hdrop).1

/-- An attribute ends where its tag does. -/
private theorem inside {ending : TagEnding} (hending : ending.Valid) : BehindAttribute ending.inside := by
  obtain ⟨blanks, slash⟩ := ending
  obtain ⟨hblanks, hslash⟩ := hending
  unfold TagEnding.inside
  by_cases hnil : blanks = []
  · have hnone : slash = false := by
      cases slash with
      | false => rfl
      | true => exact absurd hnil (hslash rfl)
    simp only [hnil, hnone]
    exact ⟨nofun, nofun⟩
  · apply of_blanks hblanks hnil
    cases slash with
    | false => exact nofun
    | true => simp; decide

/-- Attributes with such a text behind them are such a text themselves. -/
theorem render {attributes : List SpelledAttribute} (hvalid : ∀ spelled ∈ attributes, spelled.Valid)
    {tail : List Char} (htail : BehindAttribute tail) :
    BehindAttribute (attributes.flatMap SpelledAttribute.render ++ tail) := by
  cases attributes with
  | nil => exact htail
  | cons spelled later =>
    obtain ⟨hne, hgap, hname, hchars, _⟩ := hvalid spelled List.mem_cons_self
    obtain ⟨c, name, hsplit⟩ := List.exists_cons_of_ne_nil hname
    rw [List.flatMap_cons, SpelledAttribute.render, List.append_assoc, List.append_assoc,
      List.append_assoc]
    apply of_blanks hgap hne
    intro d hd
    rw [hsplit, List.cons_append, List.head?_cons, Option.mem_some_iff] at hd
    obtain rfl := hd
    obtain ⟨hblank, _, _, _, _, hsign⟩ := hchars c (hsplit ▸ List.mem_cons_self)
    exact ⟨hblank, hsign⟩

end BehindAttribute

namespace StartTag

/-- The token of a spelled value is found whole. -/
private theorem token?_spelled {text : SpelledText} (htext : text.Valid) {tail : List Char}
    (htail : BehindAttribute tail) : token? (text.token ++ tail) = some (text.token, tail) := by
  cases text with
  | quoted quote inner =>
    obtain ⟨hquote, hinner⟩ := htext
    have hsource : SpelledText.token (.quoted quote inner) ++ tail =
        quote :: (inner ++ quote :: tail) := by simp [SpelledText.token]
    rw [hsource, token?_quote hquote, quotedToken?_append_quote hinner, Option.some_or]
    rfl
  | bare text =>
    obtain ⟨hne, hchars, hfirst⟩ := htext
    have hinside : ∀ c ∈ text, isBareValueChar c = true := by
      intro c hc
      obtain ⟨hblank, hbracket⟩ := hchars c hc
      simp [isBareValueChar, hblank, hbracket]
    have hend : ∀ c ∈ tail.head?, isBareValueChar c = false := by
      intro c hc
      simp [isBareValueChar, htail.blank c hc]
    have hhead : ∀ c ∈ (text ++ tail).head?, ¬IsQuote c := by
      obtain ⟨c, rest, rfl⟩ := List.exists_cons_of_ne_nil hne
      simpa using (hfirst c rfl).1
    change token? (text ++ tail) = some (text, tail)
    rw [token?_bare hhead, bareToken?_append_of_head hne hinside hend]

/-- No blank stands in front of the token of a spelled value. -/
private theorem isBlank_head_token {text : SpelledText} (htext : text.Valid) (tail : List Char) :
    (text.token ++ tail).dropWhile isBlank = text.token ++ tail := by
  have hhead : ∃ c rest, text.token = c :: rest ∧ isBlank c = false := by
    cases text with
    | quoted quote inner =>
      refine ⟨quote, inner ++ [quote], rfl, ?_⟩
      rcases htext.1 with rfl | rfl <;> decide
    | bare text =>
      obtain ⟨hne, hchars, _⟩ := htext
      obtain ⟨c, rest, rfl⟩ := List.exists_cons_of_ne_nil hne
      exact ⟨c, rest, rfl, (hchars c List.mem_cons_self).1⟩
  obtain ⟨c, rest, hsplit, hblank⟩ := hhead
  rw [hsplit, List.cons_append, List.dropWhile_cons_of_neg (by simp [hblank])]

private theorem value?_tail {tail : List Char} (htail : BehindAttribute tail) : value? tail = none := by
  unfold value?
  split
  · rename_i rest hsign
    exact absurd hsign (htail.no_sign rest)
  · rfl

/-- A spelled value is found with everything between it and the name. -/
private theorem value?_spelled {value : SpelledValue} (hbefore : AllBlank value.before)
    (hbehind : AllBlank value.behind) (htext : value.text.Valid) {tail : List Char}
    (htail : BehindAttribute tail) :
    value? (value.lead ++ value.text.token ++ tail) = some (value.lead, value.text.token, tail) := by
  obtain ⟨before, behind, text⟩ := value
  have hsign : isBlank '=' = false := by decide
  have hsource : SpelledValue.lead ⟨before, behind, text⟩ ++ text.token ++ tail =
      before ++ '=' :: (behind ++ (text.token ++ tail)) := by simp [SpelledValue.lead]
  obtain ⟨htake, hdrop⟩ := takeWhile_append_of_head hbefore ('=' :: (behind ++ (text.token ++ tail)))
    (by simpa using hsign)
  have hinner : (behind ++ (text.token ++ tail)).dropWhile isBlank = text.token ++ tail := by
    rw [dropWhile_allBlank hbehind, isBlank_head_token htext]
  have hblanks : (behind ++ (text.token ++ tail)).takeWhile isBlank = behind := by
    have hall := List.takeWhile_append_dropWhile (p := isBlank) (l := behind ++ (text.token ++ tail))
    rw [hinner] at hall
    exact List.append_cancel_right hall
  simp only [value?, hsource, hdrop, htake, hinner, hblanks, token?_spelled htext htail,
    Option.map_some]
  rfl

/-- Blanks between attributes only move them on. -/
private theorem rawAttributes_blanks {blanks : List Char} (hblanks : AllBlank blanks) (position : Position)
    (rest : List Char) :
    rawAttributes position (blanks ++ rest) = rawAttributes (position.advance blanks) rest := by
  induction blanks generalizing position with
  | nil => rfl
  | cons c blanks ih =>
    obtain ⟨hblank, hlater⟩ := List.forall_mem_cons.1 hblanks
    have hskip : startsAttribute c = false := by
      simp [startsAttribute, isAttributeChar_of_isBlank hblank]
    rw [List.cons_append, rawAttributes_skip hskip, ih hlater]
    rfl

/-- The attribute before decoding, if it is written at this place. -/
def rawAt (position : Position) (spelled : SpelledAttribute) : RawAttribute :=
  let place := position.advance spelled.gap
  ⟨spelled.name, place, spelled.value.map fun value =>
    (value.text.token, place.advance (spelled.name ++ value.lead))⟩

/-- An attribute is cut out where it is written. -/
theorem rawAttributes_spelled {spelled : SpelledAttribute} (hvalid : spelled.Valid) {tail : List Char}
    (htail : BehindAttribute tail) (position : Position) :
    rawAttributes position (spelled.render ++ tail) =
      rawAt position spelled :: rawAttributes (position.advance spelled.render) tail := by
  obtain ⟨gap, name, value⟩ := spelled
  obtain ⟨_, hgap, hname, hchars, hvalue⟩ := hvalid
  obtain ⟨c, rest, rfl⟩ := List.exists_cons_of_ne_nil hname
  have hstart := startsAttribute_of_isAttributeChar (hchars c List.mem_cons_self)
  have hinside : ∀ d ∈ rest, isAttributeChar d = true :=
    fun d hd => isAttributeChar_of_isAttributeChar (hchars d (List.mem_cons_of_mem c hd))
  rw [SpelledAttribute.render, List.append_assoc, List.append_assoc, rawAttributes_blanks hgap,
    List.cons_append]
  cases value with
  | none =>
    obtain ⟨htake, hdrop⟩ := takeWhile_append_of_head hinside tail
      fun d hd => isAttributeChar_of_isBlank (htail.blank d hd)
    have hnone : value? ((rest ++ tail).dropWhile isAttributeChar) = none := by
      rw [hdrop, value?_tail htail]
    change rawAttributes _ (c :: (rest ++ tail)) = _
    rw [rawAttributes_name hstart hnone, htake, hdrop]
    simp [rawAt, SpelledAttribute.behindName, Position.advance_append]
  | some value =>
    obtain ⟨hbefore, hbehind, htext⟩ := hvalue value rfl
    have hsource : SpelledAttribute.behindName ⟨gap, c :: rest, some value⟩ ++ tail =
        value.lead ++ value.text.token ++ tail := rfl
    have hhead : ∀ d ∈ (value.lead ++ value.text.token ++ tail).head?, isAttributeChar d = false := by
      intro d hd
      cases hsplit : value.before with
      | nil =>
        simp only [SpelledValue.lead, hsplit, List.nil_append, List.cons_append, List.head?_cons,
          Option.mem_some_iff] at hd
        rw [← hd]
        decide
      | cons b before =>
        simp only [SpelledValue.lead, hsplit, List.cons_append, List.head?_cons,
          Option.mem_some_iff] at hd
        rw [← hd]
        exact isAttributeChar_of_isBlank (hbefore b (hsplit ▸ List.mem_cons_self))
    obtain ⟨htake, hdrop⟩ := takeWhile_append_of_head hinside _ hhead
    have hsome : value? ((rest ++ (value.lead ++ value.text.token ++ tail)).dropWhile isAttributeChar) =
        some (value.lead, value.text.token, tail) := by
      rw [hdrop, value?_spelled hbefore hbehind htext htail]
    rw [hsource, rawAttributes_value hstart hsome, htake]
    simp [rawAt, SpelledAttribute.behindName, Position.advance_append]

/-- There are no attributes in the ending of a tag. -/
theorem rawAttributes_ending {ending : TagEnding} (hending : ending.Valid) (position : Position) :
    rawAttributes position ending.inside = [] := by
  rw [TagEnding.inside, rawAttributes_blanks hending.1]
  cases ending.slash with
  | false => exact rawAttributes_nil _
  | true =>
    change rawAttributes _ ['/'] = []
    rw [rawAttributes_skip (by decide), rawAttributes_nil]

/-- The attributes before decoding, if they are written one after another from this place on. -/
def spelledRaws (position : Position) : List SpelledAttribute → List RawAttribute
  | [] => []
  | spelled :: later => rawAt position spelled :: spelledRaws (position.advance spelled.render) later

/-- Attributes are cut out as they are written. -/
theorem rawAttributes_spelledAll {attributes : List SpelledAttribute}
    (hvalid : ∀ spelled ∈ attributes, spelled.Valid) {ending : TagEnding} (hending : ending.Valid)
    (position : Position) :
    rawAttributes position (attributes.flatMap SpelledAttribute.render ++ ending.inside) =
      spelledRaws position attributes := by
  induction attributes generalizing position with
  | nil => exact rawAttributes_ending hending position
  | cons spelled later ih =>
    obtain ⟨hfirst, hlater⟩ := List.forall_mem_cons.1 hvalid
    have htail := (BehindAttribute.inside hending).render hlater
    rw [List.flatMap_cons, List.append_assoc, rawAttributes_spelled hfirst htail, ih hlater]
    rfl

/-- The content of a spelled token is the text that it spells. -/
private theorem tokenContent_token {text : SpelledText} (htext : text.Valid) :
    tokenContent text.token = text.content := by
  cases text with
  | quoted quote inner =>
    obtain ⟨rfl | rfl, _⟩ := htext <;> simp [tokenContent, SpelledText.token, SpelledText.content]
  | bare text =>
    obtain ⟨hne, _, hfirst⟩ := htext
    obtain ⟨c, rest, rfl⟩ := List.exists_cons_of_ne_nil hne
    have hquote : ¬IsQuote c := (hfirst c rfl).1
    change tokenContent (c :: rest) = c :: rest
    unfold tokenContent
    split
    · rename_i hsplit
      exact absurd (.inl (List.cons.inj hsplit).1) hquote
    · rename_i hsplit
      exact absurd (.inr (List.cons.inj hsplit).1) hquote
    · rfl

/-- Whatever can be read as an expression can be bound. -/
theorem exists_boundExpression {value : List Char} {expression : Option Expression}
    (hread : readExpression value = .ok expression) (key : DirectiveKey) :
    ∃ bound, boundExpression key value = .ok bound := by
  rw [boundExpression, hread]
  cases expression with
  | none => exact ⟨none, rfl⟩
  | some expression =>
    by_cases hown : ownGrammarNames.contains key.name = true
    · exact ⟨_, if_pos hown⟩
    · exact ⟨_, if_neg hown⟩

/-- An attribute that can be read is decoded to what is spelled. -/
theorem exists_decode_rawAt {spelled : SpelledAttribute} (hvalid : spelled.Valid)
    (hreadable : spelled.IsReadable) (position : Position) (front : List Char) :
    ∃ written, (rawAt (position.advance front) spelled).decode = .ok written ∧
      spelled.IsReadAs position front written := by
  obtain ⟨gap, name, value⟩ := spelled
  cases value with
  | none =>
    simp only [RawAttribute.decode, rawAt, SpelledAttribute.IsReadAs, Option.map_none, pure_bind,
      Position.advance_append]
    cases DirectiveKey.parse? name <;> exact ⟨_, rfl, rfl⟩
  | some value =>
    obtain ⟨_, _, htext⟩ := hvalid.value_valid value rfl
    obtain ⟨text, hdecode, hexpression⟩ := hreadable value rfl
    simp only [RawAttribute.decode, rawAt, SpelledAttribute.IsReadAs, Option.map_some,
      tokenContent_token htext, hdecode, Position.advance_append]
    cases hkey : DirectiveKey.parse? name with
    | none => exact ⟨_, rfl, text, hdecode, rfl⟩
    | some key =>
      obtain ⟨expression, hread⟩ := hexpression (by simp [hkey])
      obtain ⟨bound, hbound⟩ := exists_boundExpression hread key
      refine ⟨_, ?_, text, bound, hdecode, hbound, rfl⟩
      simp only [bind, Except.bind, pure, Except.pure, hbound]

/-- Attributes that can be read are decoded one by one, each with what is written before it in front. -/
theorem exists_decode_spelledRaws {attributes : List SpelledAttribute}
    (hvalid : ∀ spelled ∈ attributes, spelled.Valid)
    (hreadable : ∀ spelled ∈ attributes, spelled.IsReadable) (position : Position)
    (front : List Char) :
    ∃ found, (spelledRaws (position.advance front) attributes).mapM RawAttribute.decode = .ok found ∧
      found.length = attributes.length ∧
      ∀ former spelled latter, attributes = former ++ spelled :: latter →
        ∃ written, found[former.length]? = some written ∧
          spelled.IsReadAs position (front ++ former.flatMap SpelledAttribute.render) written := by
  induction attributes generalizing front with
  | nil => exact ⟨[], rfl, rfl, by simp⟩
  | cons first later ih =>
    obtain ⟨hfirst, hlater⟩ := List.forall_mem_cons.1 hvalid
    obtain ⟨hfirstRead, hlaterRead⟩ := List.forall_mem_cons.1 hreadable
    obtain ⟨written, hwritten, hsays⟩ := exists_decode_rawAt hfirst hfirstRead position front
    obtain ⟨found, hfound, hlength, hall⟩ := ih hlater hlaterRead (front ++ first.render)
    rw [Position.advance_append] at hfound
    refine ⟨written :: found, ?_, by simp [hlength], ?_⟩
    · rw [spelledRaws, List.mapM_cons, hwritten, hfound]
      rfl
    · intro former spelled latter hsplit
      cases former with
      | nil =>
        obtain ⟨rfl, _⟩ := List.cons.inj hsplit
        exact ⟨written, rfl, by simpa using hsays⟩
      | cons _ former =>
        obtain ⟨rfl, hrest⟩ := List.cons.inj hsplit
        obtain ⟨other, hother, hreads⟩ := hall former spelled latter hrest
        refine ⟨other, by simpa using hother, ?_⟩
        rw [List.flatMap_cons, ← List.append_assoc]
        exact hreads

end StartTag

namespace Tag

variable {name : List Char} {attributes : List SpelledAttribute} {ending : TagEnding}

/-- The name ends where it is written to end. -/
theorem splitName_spelledTag (hname : name ≠ []) (hchars : ∀ c ∈ name, StartTag.isNameChar c = true)
    (hvalid : ∀ spelled ∈ attributes, spelled.Valid) (hending : ending.Valid) :
    splitName (spelledTag name attributes ending) =
      (name, attributes.flatMap SpelledAttribute.render ++ ending.inside ++ ['>']) := by
  have hsource : spelledTag name attributes ending =
      '<' :: (name ++ (attributes.flatMap SpelledAttribute.render ++ ending.inside ++ ['>'])) := by
    simp [spelledTag]
  have hbracket : StartTag.isNameChar '>' = false := by decide
  have htail : ∀ c ∈ (attributes.flatMap SpelledAttribute.render ++ ending.inside ++ ['>']).head?,
      StartTag.isNameChar c = false := by
    intro c hc
    have hbehind := (BehindAttribute.inside hending).render hvalid
    cases htext : attributes.flatMap SpelledAttribute.render ++ ending.inside with
    | nil =>
      rw [htext, List.nil_append, List.head?_cons, Option.mem_some_iff] at hc
      exact hc ▸ hbracket
    | cons d rest =>
      rw [htext, List.cons_append, List.head?_cons, Option.mem_some_iff] at hc
      have hblank := hbehind.blank d (by simp [htext])
      simp [← hc, StartTag.isNameChar, hblank]
  obtain ⟨htake, hdrop⟩ := takeWhile_append_of_head hchars _ htail
  have hempty : name.isEmpty = false := by simpa using hname
  rw [hsource]
  simp only [splitName, htake, hdrop, hempty, Bool.false_eq_true, if_false]

/-- The attributes that are found in a spelled tag are those that it spells, at their places. -/
theorem rawAttributes_spelledTag (hname : name ≠ [])
    (hchars : ∀ c ∈ name, StartTag.isNameChar c = true)
    (hvalid : ∀ spelled ∈ attributes, spelled.Valid) (hending : ending.Valid) (position : Position) :
    rawAttributes (spelledTag name attributes ending) position =
      StartTag.spelledRaws (position.advance ('<' :: name)) attributes := by
  have hempty : name.isEmpty = false := by simpa using hname
  simp only [rawAttributes, splitName_spelledTag hname hchars hvalid hending, hempty,
    Bool.false_eq_true, if_false]
  rw [dropBracket, List.getLast?_concat, if_pos rfl, List.dropLast_concat]
  exact StartTag.rawAttributes_spelledAll hvalid hending _

/-- Every spelling of a start tag is read back: the name as it is spelled, and the attributes in order, each
with its value decoded and with the places where its name and its value are written. -/
theorem parse_spelledTag (hname : name ≠ []) (hchars : ∀ c ∈ name, StartTag.isNameChar c = true)
    (hvalid : ∀ spelled ∈ attributes, spelled.Valid)
    (hreadable : ∀ spelled ∈ attributes, spelled.IsReadable) (hending : ending.Valid)
    (position : Position) :
    ∃ tag, Tag.parse (spelledTag name attributes ending) position = .ok tag ∧
      tag.rawName = name ∧ tag.position = position ∧ tag.attributes.length = attributes.length ∧
      ∀ former spelled latter, attributes = former ++ spelled :: latter →
        ∃ written, tag.attributes[former.length]? = some written ∧
          spelled.IsReadAs position
            ('<' :: name ++ former.flatMap SpelledAttribute.render) written := by
  obtain ⟨found, hfound, hlength, hall⟩ :=
    StartTag.exists_decode_spelledRaws hvalid hreadable position ('<' :: name)
  refine ⟨⟨name, position, found⟩, ?_, rfl, rfl, hlength, hall⟩
  rw [parse, rawAttributes_spelledTag hname hchars hvalid hending, hfound,
    splitName_spelledTag hname hchars hvalid hending]
  rfl

/-- Blanks on both sides of an equals sign, a bracket and a line feed between quotes, a directive, and a
slash in a value without quotes and another one behind it. -/
theorem parse_spelledTag_kinds :
    let attributes : List SpelledAttribute :=
      [⟨"  ".toList, "title".toList, some ⟨[' '], ['\n'], .quoted '"' "a>b\n='c'".toList⟩⟩,
        ⟨[' '], ":b".toList, some ⟨[], [], .quoted '\'' ['x']⟩⟩,
        ⟨['\n'], ['c'], some ⟨[], [' '], .bare "d/e=f".toList⟩⟩, ⟨[' '], "open".toList, none⟩]
    let source := "<El  title =\n\"a>b\n='c'\" :b='x'\nc= d/e=f open />".toList
    spelledTag "El".toList attributes ⟨[' '], true⟩ = source ∧
      (∀ spelled ∈ attributes, spelled.Valid ∧ spelled.IsReadable) ∧
      ∃ tag, Tag.parse source ⟨3, 7⟩ = .ok tag ∧ tag.rawName = "El".toList ∧
        tag.attributes.length = 4 ∧
        tag.attributes[2]? = some (.plain ['c'] (some ⟨"d/e=f".toList, ⟨6, 3⟩⟩) ⟨6, 0⟩) := by
  intro attributes source
  have hsource : spelledTag "El".toList attributes ⟨[' '], true⟩ = source := by rfl
  have hvalid : ∀ spelled ∈ attributes, spelled.Valid := by decide
  have hplain : ∀ spelled ∈ attributes, ∀ value ∈ spelled.value,
      decodeText value.text.content = .ok value.text.content := by
    have hclean : ∀ spelled ∈ attributes, ∀ value ∈ spelled.value,
        '&' ∉ value.text.content := by decide
    intro spelled hspelled value hvalue
    refine decodeText_plain fun c hc => ?_
    rintro rfl
    exact hclean spelled hspelled value hvalue hc
  have hreadable : ∀ spelled ∈ attributes, spelled.IsReadable := by
    intro spelled hspelled value hvalue
    refine ⟨_, hplain spelled hspelled value hvalue, fun hkey => ?_⟩
    have hread : ∀ spelled ∈ attributes, ∀ value ∈ spelled.value,
        DirectiveKey.parse? spelled.name ≠ none →
        (readExpression value.text.content).isOk = true := by decide +kernel
    have hok := hread spelled hspelled value hvalue hkey
    cases hexpression : readExpression value.text.content with
    | error error =>
      rw [hexpression] at hok
      cases hok
    | ok expression => exact ⟨expression, rfl⟩
  have hname : "El".toList ≠ [] := by decide
  have hchars : ∀ c ∈ "El".toList, StartTag.isNameChar c = true := List.all_eq_true.1 (by decide)
  have hending : TagEnding.Valid ⟨[' '], true⟩ := by decide
  obtain ⟨tag, hparse, hraw, _, hlength, hall⟩ :=
    parse_spelledTag hname hchars hvalid hreadable hending ⟨3, 7⟩
  obtain ⟨written, hwritten, text, hdecode, rfl⟩ := hall (attributes.take 2)
    ⟨['\n'], ['c'], some ⟨[], [' '], .bare "d/e=f".toList⟩⟩ (attributes.drop 3) rfl
  have hpath : text = "d/e=f".toList := by
    have hclean : '&' ∉ "d/e=f".toList := by decide
    have hsame : decodeText "d/e=f".toList = .ok "d/e=f".toList :=
      decodeText_plain fun c hc heq => hclean (heq ▸ hc)
    exact Except.ok.inj (hdecode.symm.trans hsame)
  rw [hsource] at hparse
  rw [hpath] at hwritten
  exact ⟨hsource, fun spelled hmem => ⟨hvalid spelled hmem, hreadable spelled hmem⟩, tag, hparse, hraw,
    hlength, hwritten⟩

end Tag

end BareStrings.Markup
