import BareStrings.Markup.Error
import BareStrings.Markup.Node
import BareStrings.Text.Blank

namespace BareStrings.Markup

open BareStrings.Text

/-- An attribute before decoding: its name, and its value token if it has one. A quoted token
includes its quotes. -/
structure RawAttribute where
  name : List Char
  position : Position
  token : Option (List Char × Position)
deriving DecidableEq

namespace StartTag

/-- A character that a tag's name may hold. -/
def isNameChar (c : Char) : Bool := !isBlank c && c != '/' && c != '>'

/-- A character that an attribute's name may hold. -/
def isAttributeChar (c : Char) : Bool := isNameChar c && c != '='

/-- A character that an attribute's name may begin with. -/
def startsAttribute (c : Char) : Bool := isAttributeChar c && c != '"' && c != '\''

/-- A character that a value without quotes may hold. -/
def isBareValueChar (c : Char) : Bool := !isBlank c && c != '>'

/-- A token up to the next quote of the kind that has just been passed, if there is one. -/
def quotedToken? (quote : Char) (text : List Char) : Option (List Char × List Char) :=
  match text.dropWhile (· != quote) with
  | [] => none
  | _ :: rest => some (quote :: text.takeWhile (· != quote) ++ [quote], rest)

/-- A token without quotes, which may however begin with a quote that is never closed. -/
def bareToken? (text : List Char) : Option (List Char × List Char) :=
  let token := text.takeWhile isBareValueChar
  if token.isEmpty then none else some (token, text.dropWhile isBareValueChar)

/-- The value token at the front of a text, and the rest. -/
def token? (text : List Char) : Option (List Char × List Char) :=
  match text with
  | '"' :: inner => (quotedToken? '"' inner).or (bareToken? text)
  | '\'' :: inner => (quotedToken? '\'' inner).or (bareToken? text)
  | _ => bareToken? text

/-- The value behind an attribute's name: what precedes the token, the token, and the rest. -/
def value? (text : List Char) : Option (List Char × List Char × List Char) :=
  match text.dropWhile isBlank with
  | '=' :: afterSign =>
    (token? (afterSign.dropWhile isBlank)).map fun (token, rest) =>
      (text.takeWhile isBlank ++ '=' :: afterSign.takeWhile isBlank, token, rest)
  | _ => none

/-- A quoted token and what is left behind it make up the text again. -/
private theorem quotedToken?_append {quote : Char} {text token rest : List Char}
    (h : quotedToken? quote text = some (token, rest)) : quote :: text = token ++ rest := by
  unfold quotedToken? at h
  split at h
  · cases h
  · rename_i c tail htail
    simp only [Option.some.injEq, Prod.mk.injEq] at h
    obtain ⟨rfl, rfl⟩ := h
    have hne : (text.dropWhile (· != quote)) ≠ [] := by simp [htail]
    have hhead := List.head_dropWhile_not (· != quote) hne
    simp only [htail, List.head_cons, bne_eq_false_iff_eq] at hhead
    have happend := List.takeWhile_append_dropWhile (p := (· != quote)) (l := text)
    rw [htail, hhead] at happend
    simp [happend]

/-- A value without a quote is the front of the text that it is taken from. -/
theorem bareToken?_append {text token rest : List Char}
    (h : bareToken? text = some (token, rest)) : text = token ++ rest := by
  unfold bareToken? at h
  simp only at h
  split at h
  · cases h
  · simp only [Option.some.injEq, Prod.mk.injEq] at h
    obtain ⟨rfl, rfl⟩ := h
    exact List.takeWhile_append_dropWhile.symm

/-- A token is a piece of the source. -/
theorem token?_append {text token rest : List Char} (h : token? text = some (token, rest)) :
    text = token ++ rest := by
  unfold token? at h
  split at h
  · rcases Option.or_eq_some_iff.1 h with hquoted | ⟨_, hbare⟩
    · exact quotedToken?_append hquoted
    · exact bareToken?_append hbare
  · rcases Option.or_eq_some_iff.1 h with hquoted | ⟨_, hbare⟩
    · exact quotedToken?_append hquoted
    · exact bareToken?_append hbare
  · exact bareToken?_append h

/-- Reading a value loses nothing. -/
theorem value?_append {text lead token rest : List Char}
    (h : value? text = some (lead, token, rest)) : text = lead ++ token ++ rest := by
  unfold value? at h
  split at h
  · rename_i afterSign hsign
    obtain ⟨⟨token', rest'⟩, htoken, heq⟩ := Option.map_eq_some_iff.1 h
    simp only [Prod.mk.injEq] at heq
    obtain ⟨rfl, rfl, rfl⟩ := heq
    have hafter := token?_append htoken
    have hsplit := List.takeWhile_append_dropWhile (p := isBlank) (l := afterSign)
    have htext := List.takeWhile_append_dropWhile (p := isBlank) (l := text)
    rw [hsign, ← hsplit, hafter] at htext
    simpa using htext.symm
  · cases h

private theorem length_afterName_lt (c : Char) (rest : List Char) :
    (rest.dropWhile isAttributeChar).length < (c :: rest).length :=
  Nat.lt_succ_of_le (List.dropWhile_sublist _).length_le

private theorem length_afterValue_le {text lead token rest : List Char}
    (h : value? text = some (lead, token, rest)) : rest.length ≤ text.length := by
  rw [value?_append h]
  simp only [List.length_append]
  omega

/-- Cuts the source of a tag, from a given place on, into attributes. Characters that begin no name
are passed over. -/
def rawAttributes (position : Position) (text : List Char) : List RawAttribute :=
  match text with
  | [] => []
  | c :: rest =>
    if startsAttribute c then
      let name := c :: rest.takeWhile isAttributeChar
      let after := rest.dropWhile isAttributeChar
      let behind := position.advance name
      match _hvalue : value? after with
      | none => { name, position, token := none } :: rawAttributes behind after
      | some (lead, token, afterValue) =>
        { name, position, token := some (token, behind.advance lead) } ::
          rawAttributes ((behind.advance lead).advance token) afterValue
    else rawAttributes (position.next c) rest
termination_by text.length
decreasing_by
  · exact length_afterName_lt c rest
  · exact Nat.lt_of_le_of_lt (length_afterValue_le _hvalue) (length_afterName_lt c rest)
  · exact Nat.lt_succ_self rest.length

/-- The inside of a value token: without the quotes, if it begins with one. -/
def tokenContent (token : List Char) : List Char :=
  match token with
  | '"' :: inner | '\'' :: inner => inner.dropLast
  | _ => token

/-- Directives whose value has a grammar of its own and is never read as a constant. -/
def ownGrammarNames : List (List Char) := ["on", "slot", "for"].map String.toList

/-- What a directive binds. -/
def boundExpression (key : DirectiveKey) (value : List Char) :
    Except MarkupError (Option Expression) := do
  match ← readExpression value with
  | none => return none
  | some expression =>
    if ownGrammarNames.contains key.name then return some (.dynamic (trim value))
    else return some expression

end StartTag

open StartTag

/-- Decodes an attribute. -/
def RawAttribute.decode (raw : RawAttribute) : Except MarkupError Attribute := do
  let value ← match raw.token with
    | none => pure none
    | some (token, place) => do pure (some ((← decodeText (tokenContent token)), place))
  match DirectiveKey.parse? raw.name, value with
  | none, none => return .plain raw.name none raw.position
  | none, some (text, place) => return .plain raw.name (some ⟨text, place⟩) raw.position
  | some key, none => return .directive key none raw.position
  | some key, some (text, place) =>
    return .directive key (some ⟨← boundExpression key text, place⟩) raw.position

namespace Tag

/-- The name at the front of a tag's source, and the source behind it. -/
def splitName (source : List Char) : List Char × List Char :=
  match source with
  | '<' :: rest =>
    if (rest.takeWhile isNameChar).isEmpty then ([], source)
    else (rest.takeWhile isNameChar, rest.dropWhile isNameChar)
  | _ => ([], source)

/-- The source without one closing bracket at its end. -/
def dropBracket (source : List Char) : List Char :=
  if source.getLast? = some '>' then source.dropLast else source

/-- The attributes of a tag before decoding. -/
def rawAttributes (source : List Char) (position : Position) : List RawAttribute :=
  let (name, rest) := splitName source
  let behind := if name.isEmpty then position else position.advance ('<' :: name)
  StartTag.rawAttributes behind (dropBracket rest)

/-- Reads the source of a start tag that begins at a place. -/
def parse (source : List Char) (position : Position) : Except MarkupError Tag := do
  let attributes ← (rawAttributes source position).mapM RawAttribute.decode
  return { rawName := (splitName source).1, position, attributes }

end Tag

end BareStrings.Markup
