import BareStrings.Proofs.Markup.Parts
import BareStrings.Proofs.Text.Ascii
import BareStrings.Proofs.Text.Position

namespace BareStrings.Markup

open BareStrings.Text StartTag

/-- A value token stands behind an attribute's name, as the token that is read there. -/
def TokenAt (source name : List Char) (position : Position) (token : List Char) (place : Position) :
    Prop :=
  StandsAt source token place ∧
    ∃ lead rest, value? (lead ++ token ++ rest) = some (lead, token, rest) ∧
      StandsAt source (name ++ (lead ++ token ++ rest)) position ∧
      place = position.advance (name ++ lead)

/-- An attribute stands where its place says, and its value is the one of the token that stands where
the value's place says. -/
def Attribute.StandsIn (source : List Char) : Attribute → Prop
  | .plain rawName value position =>
    StandsAt source rawName position ∧ ∀ written, value = some written →
      ∃ token, TokenAt source rawName position token written.position ∧
        decodeText (tokenContent token) = .ok written.text
  | .directive key value position =>
    StandsAt source key.rawName position ∧ ∀ bound, value = some bound →
      ∃ token text, TokenAt source key.rawName position token bound.position ∧
        decodeText (tokenContent token) = .ok text ∧
        boundExpression key text = .ok bound.expression

/-- A part stands where its places say. -/
def Part.StandsIn (source : List Char) : Part → Prop
  | .startTag tag =>
    StandsAt source ('<' :: tag.rawName) tag.position ∧
      ∀ written ∈ tag.attributes, written.StandsIn source
  | .text value position =>
    ∃ raw, raw ≠ [] ∧ StandsAt source raw position ∧ decodeText raw = .ok value
  | .interpolation expression position =>
    ∃ body text, StandsAt source (Piece.mustache body).raw position ∧ decodeText body = .ok text ∧
      readExpression text = .ok expression

/-- The places of an attribute: its own, and that of its value if it has one. -/
def Attribute.places : Attribute → List Position
  | .plain _ value position => position :: value.toList.map (·.position)
  | .directive _ value position => position :: value.toList.map (·.position)

/-- The places of a part. Those of a start tag are its own and then those of its attributes. -/
def Part.places : Part → List Position
  | .startTag tag => tag.position :: tag.attributes.flatMap Attribute.places
  | .text _ position => [position]
  | .interpolation _ position => [position]

private theorem TokenAt.extend {source name token : List Char} {position place : Position}
    (htoken : TokenAt source name position token place) (more : List Char) :
    TokenAt (source ++ more) name position token place := by
  obtain ⟨hstands, lead, rest, hvalue, hname, hplace⟩ := htoken
  exact ⟨hstands.extend more, lead, rest, hvalue, hname.extend more, hplace⟩

/-- An attribute stands in a source however much follows it. -/
private theorem Attribute.StandsIn.extend {source : List Char} {written : Attribute}
    (hstands : written.StandsIn source) (more : List Char) : written.StandsIn (source ++ more) := by
  cases written with
  | plain rawName value position =>
    obtain ⟨hname, hvalue⟩ := hstands
    refine ⟨hname.extend more, fun written hwritten => ?_⟩
    obtain ⟨token, htoken, hdecode⟩ := hvalue written hwritten
    exact ⟨token, htoken.extend more, hdecode⟩
  | directive key value position =>
    obtain ⟨hname, hvalue⟩ := hstands
    refine ⟨hname.extend more, fun bound hbound => ?_⟩
    obtain ⟨token, text, htoken, hdecode, hexpression⟩ := hvalue bound hbound
    exact ⟨token, text, htoken.extend more, hdecode, hexpression⟩

/-- A part stands in a source however much follows it. -/
theorem Part.StandsIn.extend {source : List Char} {part : Part} (hstands : part.StandsIn source)
    (more : List Char) : part.StandsIn (source ++ more) := by
  cases part with
  | startTag tag => exact ⟨hstands.1.extend more, fun written hmem => (hstands.2 written hmem).extend more⟩
  | text value position =>
    obtain ⟨raw, hne, hraw, hdecode⟩ := hstands
    exact ⟨raw, hne, hraw.extend more, hdecode⟩
  | interpolation expression position =>
    obtain ⟨body, text, hbody, hdecode, hexpression⟩ := hstands
    exact ⟨body, text, hbody.extend more, hdecode, hexpression⟩

/-- An attribute that has not been decoded stands where its place says, and so does its token. -/
def RawAttribute.StandsIn (source : List Char) (raw : RawAttribute) : Prop :=
  StandsAt source raw.name raw.position ∧
    ∀ token place, raw.token = some (token, place) → TokenAt source raw.name raw.position token place

/-- The places of an attribute that has not been decoded. -/
def RawAttribute.places (raw : RawAttribute) : List Position :=
  raw.position :: raw.token.toList.map (·.2)

/-- A key keeps the name that it was read from. -/
private theorem DirectiveKey.rawName_of_parse? {rawName : List Char} {key : DirectiveKey}
    (hkey : DirectiveKey.parse? rawName = some key) : key.rawName = rawName := by
  unfold DirectiveKey.parse? at hkey
  split at hkey
  · unfold DirectiveKey.ofLong? at hkey
    simp only at hkey
    split at hkey
    · cases hkey
    · split at hkey
      · cases hkey
        rfl
      · cases hkey
      · cases hkey
        rfl
  · cases hkey
    rfl
  · cases hkey
    rfl
  · cases hkey
    rfl
  · cases hkey

/-- Decoding an attribute keeps its places. -/
theorem RawAttribute.decode_stands {raw : RawAttribute} {written : Attribute}
    (hdecode : raw.decode = .ok written) :
    written.places = raw.places ∧
      ∀ source, raw.StandsIn source → written.StandsIn source := by
  obtain ⟨name, position, token⟩ := raw
  cases token with
  | none =>
    simp only [RawAttribute.decode, pure_bind] at hdecode
    cases hkey : DirectiveKey.parse? name with
    | none =>
      simp only [hkey] at hdecode
      cases hdecode
      exact ⟨rfl, fun source hstands => ⟨hstands.1, by simp⟩⟩
    | some key =>
      simp only [hkey] at hdecode
      cases hdecode
      refine ⟨rfl, fun source hstands => ⟨?_, by simp⟩⟩
      rw [DirectiveKey.rawName_of_parse? hkey]
      exact hstands.1
  | some token =>
    obtain ⟨token, place⟩ := token
    simp only [RawAttribute.decode, pure_bind, bind_eq_ok_iff] at hdecode
    obtain ⟨text, htext, hwritten⟩ := hdecode
    cases hkey : DirectiveKey.parse? name with
    | none =>
      simp only [hkey] at hwritten
      cases hwritten
      refine ⟨rfl, fun source hstands => ⟨hstands.1, ?_⟩⟩
      rintro _ ⟨⟩
      exact ⟨token, hstands.2 token place rfl, htext⟩
    | some key =>
      simp only [hkey, bind_eq_ok_iff] at hwritten
      obtain ⟨expression, hexpression, hwritten⟩ := hwritten
      cases hwritten
      have hname := DirectiveKey.rawName_of_parse? hkey
      refine ⟨rfl, fun source hstands => ⟨by rw [hname]; exact hstands.1, ?_⟩⟩
      rintro _ ⟨⟩
      rw [hname]
      exact ⟨token, text, hstands.2 token place rfl, htext, hexpression⟩

/-- No token of a value is empty. -/
private theorem token?_ne_nil {text token rest : List Char} (htoken : token? text = some (token, rest)) :
    token ≠ [] := by
  have hquoted : ∀ (quote : Char) (inner : List Char),
      quotedToken? quote inner = some (token, rest) → token ≠ [] := by
    intro quote inner hquoted
    unfold quotedToken? at hquoted
    split at hquoted
    · cases hquoted
    · cases hquoted
      simp
  have hbare : bareToken? text = some (token, rest) → token ≠ [] := by
    intro hbare
    simp only [bareToken?] at hbare
    split at hbare
    · cases hbare
    · rename_i hne
      cases hbare
      simpa using hne
  unfold token? at htoken
  split at htoken
  · rcases Option.or_eq_some_iff.1 htoken with h | ⟨_, h⟩
    · exact hquoted _ _ h
    · exact hbare h
  · rcases Option.or_eq_some_iff.1 htoken with h | ⟨_, h⟩
    · exact hquoted _ _ h
    · exact hbare h
  · exact hbare htoken

private theorem value?_token_ne_nil {text lead token rest : List Char}
    (hvalue : value? text = some (lead, token, rest)) : token ≠ [] := by
  unfold value? at hvalue
  split at hvalue
  · obtain ⟨⟨found, after⟩, htoken, heq⟩ := Option.map_eq_some_iff.1 hvalue
    simp only [Prod.mk.injEq] at heq
    obtain ⟨_, rfl, rfl⟩ := heq
    exact token?_ne_nil htoken
  · cases hvalue

namespace StartTag

/-- Nothing holds no attributes. -/
theorem rawAttributes_nil (position : Position) : rawAttributes position [] = [] := by
  rw [rawAttributes.eq_def]

/-- A character that begins no attribute is passed over. -/
theorem rawAttributes_skip {c : Char} (hskip : startsAttribute c = false) (position : Position)
    (rest : List Char) :
    rawAttributes position (c :: rest) = rawAttributes (position.next c) rest := by
  rw [rawAttributes.eq_def]
  simp only
  rw [if_neg (by simp [hskip])]

/-- A name with no value behind it is an attribute by itself. -/
theorem rawAttributes_name {c : Char} {rest : List Char} (hstart : startsAttribute c = true)
    (hvalue : value? (rest.dropWhile isAttributeChar) = none) (position : Position) :
    rawAttributes position (c :: rest) =
      ⟨c :: rest.takeWhile isAttributeChar, position, none⟩ ::
        rawAttributes (position.advance (c :: rest.takeWhile isAttributeChar))
          (rest.dropWhile isAttributeChar) := by
  rw [rawAttributes.eq_def]
  simp only
  rw [if_pos hstart]
  split
  · rfl
  · rename_i hsome
    rw [hvalue] at hsome
    cases hsome

/-- A name with a value behind it is an attribute with the place of that value. -/
theorem rawAttributes_value {c : Char} {rest lead token after : List Char}
    (hstart : startsAttribute c = true)
    (hvalue : value? (rest.dropWhile isAttributeChar) = some (lead, token, after))
    (position : Position) :
    let place := (position.advance (c :: rest.takeWhile isAttributeChar)).advance lead
    rawAttributes position (c :: rest) =
      ⟨c :: rest.takeWhile isAttributeChar, position, some (token, place)⟩ ::
        rawAttributes (place.advance token) after := by
  rw [rawAttributes.eq_def]
  simp only
  rw [if_pos hstart]
  split
  · rename_i hnone
    rw [hvalue] at hnone
    cases hnone
  · rename_i hsome
    rw [hvalue] at hsome
    cases hsome
    rfl

end StartTag

/-- The attributes that are cut out of a text stand where they are cut out. -/
theorem rawAttributes_standIn {source text : List Char} {position : Position}
    (hstands : StandsAt source text position) :
    ∀ raw ∈ StartTag.rawAttributes position text, raw.StandsIn source := by
  fun_induction StartTag.rawAttributes position text with
  | case1 => simp
  | case2 position c rest hstart name after behind hvalue ih =>
    have hsplit : c :: rest = name ++ after := by simp [name, after, List.takeWhile_append_dropWhile]
    rw [hsplit] at hstands
    intro raw hraw
    rcases List.mem_cons.1 hraw with rfl | hlater
    · exact ⟨hstands.left, by simp⟩
    · exact ih hstands.right raw hlater
  | case3 position c rest hstart name after behind lead token afterValue hvalue ih =>
    have hsplit : c :: rest = name ++ after := by simp [name, after, List.takeWhile_append_dropWhile]
    have hafter : after = lead ++ token ++ afterValue := value?_append hvalue
    rw [hsplit] at hstands
    have htoken : StandsAt source (token ++ afterValue) (behind.advance lead) := by
      have hright := hstands.right
      rw [hafter, List.append_assoc] at hright
      exact hright.right
    intro raw hraw
    rcases List.mem_cons.1 hraw with rfl | hlater
    · refine ⟨hstands.left, ?_⟩
      rintro _ _ ⟨⟩
      refine ⟨htoken.left, lead, afterValue, ?_, ?_, ?_⟩
      · rw [← hafter]
        exact hvalue
      · rw [← hafter]
        exact hstands
      · exact (Position.advance_append ..).symm
    · exact ih htoken.right raw hlater
  | case4 position c rest hstart ih =>
    have hright : StandsAt source rest (position.next c) := by
      have hsplit : c :: rest = [c] ++ rest := rfl
      rw [hsplit] at hstands
      exact hstands.right
    exact ih hright

/-- Their places follow one another inside the text. -/
theorem rawAttributes_ascending (position : Position) (text : List Char) :
    Ascending position (position.advance text)
      ((StartTag.rawAttributes position text).flatMap RawAttribute.places) := by
  fun_induction StartTag.rawAttributes position text with
  | case1 => exact .nil
  | case2 position c rest hstart name after behind hvalue ih =>
    have hsplit : c :: rest = name ++ after := by simp [name, after, List.takeWhile_append_dropWhile]
    have hname : name ≠ [] := by simp [name]
    rw [hsplit, List.flatMap_cons]
    exact (Ascending.singleton position hname).append_advance ih
  | case3 position c rest hstart name after behind lead token afterValue hvalue ih =>
    have hsplit : c :: rest = name ++ (lead ++ (token ++ afterValue)) := by
      rw [← List.append_assoc lead, ← value?_append hvalue]
      simp [name, after, List.takeWhile_append_dropWhile]
    have hname : name ≠ [] := by simp [name]
    have htoken := Ascending.singleton (behind.advance lead) (value?_token_ne_nil hvalue)
    rw [hsplit, List.flatMap_cons]
    exact (Ascending.singleton position hname).append_advance
      (Ascending.nil.append_advance (htoken.append_advance ih))
  | case4 position c rest hstart ih =>
    have hskip : Ascending position (position.advance [c]) [] := .nil
    exact hskip.append_advance ih

/-- Decoding attributes one after another keeps all their places. -/
theorem mapM_decode_stands {raws : List RawAttribute} {attributes : List Attribute}
    (hdecode : raws.mapM RawAttribute.decode = .ok attributes) :
    attributes.flatMap Attribute.places = raws.flatMap RawAttribute.places ∧
      ∀ source, (∀ raw ∈ raws, raw.StandsIn source) →
        ∀ written ∈ attributes, written.StandsIn source := by
  induction raws generalizing attributes with
  | nil =>
    cases hdecode
    exact ⟨rfl, by simp⟩
  | cons raw raws ih =>
    rw [List.mapM_cons, bind_eq_ok_iff] at hdecode
    obtain ⟨written, hwritten, hdecode⟩ := hdecode
    rw [bind_eq_ok_iff] at hdecode
    obtain ⟨later, hlater, hdecode⟩ := hdecode
    cases hdecode
    obtain ⟨hplaces, hstands⟩ := RawAttribute.decode_stands hwritten
    obtain ⟨hmore, hall⟩ := ih hlater
    refine ⟨by rw [List.flatMap_cons, List.flatMap_cons, hplaces, hmore], ?_⟩
    intro source hraws
    have hfirst := hstands source (hraws raw List.mem_cons_self)
    have hrest := hall source fun raw hraw => hraws raw (List.mem_cons_of_mem _ hraw)
    simpa using ⟨hfirst, hrest⟩

/-- The source of a start tag is its bracket, its name and the rest, when a letter follows the
bracket. -/
theorem splitName_append {c : Char} (hletter : c.isAlpha = true) (rest : List Char) :
    ∃ name behind, Tag.splitName ('<' :: c :: rest) = (name, behind) ∧ name ≠ [] ∧
      '<' :: c :: rest = '<' :: name ++ behind := by
  have hname : isNameChar c = true := by
    have hslash : c ≠ '/' := ne_of_isAlpha hletter rfl
    have hbracket : c ≠ '>' := ne_of_isAlpha hletter rfl
    simp [isNameChar, isBlank_of_isAlpha hletter, hslash, hbracket]
  refine ⟨(c :: rest).takeWhile isNameChar, (c :: rest).dropWhile isNameChar, ?_, ?_, ?_⟩
  · simp [Tag.splitName, hname]
  · simp [hname]
  · rw [List.cons_append, List.takeWhile_append_dropWhile]

private theorem dropBracket_append (source : List Char) :
    ∃ bracket, source = Tag.dropBracket source ++ bracket ∧ ∀ c ∈ bracket, c = '>' := by
  unfold Tag.dropBracket
  split
  · rename_i hlast
    obtain ⟨inside, rfl⟩ := List.getLast?_eq_some_iff.1 hlast
    exact ⟨['>'], by simp⟩
  · exact ⟨[], (List.append_nil _).symm, nofun⟩

/-- The source of a start tag is its bracket, its name, the part that its attributes are cut out of, and
a closing bracket or nothing. -/
theorem Tag.exists_rawAttributes {raw : List Char}
    (hopen : ∃ c rest, raw = '<' :: c :: rest ∧ c.isAlpha = true) (position : Position) :
    ∃ inside bracket, raw = '<' :: (Tag.splitName raw).1 ++ (inside ++ bracket) ∧
      (∀ c ∈ bracket, c = '>') ∧ Tag.rawAttributes raw position =
        StartTag.rawAttributes (position.advance ('<' :: (Tag.splitName raw).1)) inside := by
  obtain ⟨c, rest, hraw, hletter⟩ := hopen
  obtain ⟨name, behind, hsplit, hname, happend⟩ := splitName_append hletter rest
  rw [← hraw] at hsplit happend
  obtain ⟨bracket, hbracket, hchars⟩ := dropBracket_append behind
  have hempty : name.isEmpty = false := by simpa using hname
  refine ⟨dropBracket behind, bracket, ?_, hchars, ?_⟩
  · rw [hsplit, happend, ← hbracket]
  · simp only [Tag.rawAttributes, hsplit, hempty, Bool.false_eq_true, if_false]

/-- The attributes of a start tag stand in a source that the tag stands in. -/
theorem Tag.rawAttributes_standIn {source raw : List Char} {position : Position}
    (hopen : ∃ c rest, raw = '<' :: c :: rest ∧ c.isAlpha = true)
    (hstands : StandsAt source raw position) :
    ∀ written ∈ Tag.rawAttributes raw position, written.StandsIn source := by
  obtain ⟨inside, bracket, happend, _, hraws⟩ := Tag.exists_rawAttributes hopen position
  rw [happend] at hstands
  rw [hraws]
  exact Markup.rawAttributes_standIn hstands.right.left

/-- A start tag that is read from its source stands in that source, and its places follow one another
inside the tag. -/
theorem Tag.parse_stands {raw : List Char} {position : Position} {tag : Tag}
    (hopen : ∃ c rest, raw = '<' :: c :: rest ∧ c.isAlpha = true)
    (hparse : Tag.parse raw position = .ok tag) :
    Ascending position (position.advance raw) (Part.startTag tag).places ∧
      ∀ source, StandsAt source raw position → (Part.startTag tag).StandsIn source := by
  obtain ⟨inside, bracket, happend, _, hraws⟩ := Tag.exists_rawAttributes hopen position
  rw [Tag.parse, bind_eq_ok_iff] at hparse
  obtain ⟨attributes, hattributes, htag⟩ := hparse
  cases htag
  obtain ⟨hplaces, hstands⟩ := mapM_decode_stands hattributes
  have hinside :=
    rawAttributes_ascending (position.advance ('<' :: (Tag.splitName raw).1)) inside
  rw [← hraws, ← hplaces] at hinside
  have hfirst := Ascending.singleton position (List.cons_ne_nil '<' (Tag.splitName raw).1)
  constructor
  · rw [happend]
    refine hfirst.append_advance (hinside.widen ?_)
    rw [Position.advance_append]
    exact Position.le_advance _ bracket
  · intro source hsource
    have hraw := Tag.rawAttributes_standIn hopen hsource
    rw [happend] at hsource
    exact ⟨hsource.left, hstands source hraw⟩

/-- The pieces of a source hold exactly its characters. -/
theorem Piece.rawOf_ofSource (source : List Char) :
    (Piece.ofSource source).flatMap Piece.raw = source := by
  fun_induction Piece.ofSource source with
  | case1 source hcut =>
    unfold Piece.ofText
    split
    · rename_i hempty
      simpa using hempty.symm
    · simp [Piece.raw]
  | case2 source before body after hcut hshorter ih =>
    have hsplit := Piece.cut?_eq_some hcut
    have hbefore : (Piece.ofText before).flatMap Piece.raw = before := by
      unfold Piece.ofText
      split
      · rename_i hempty
        simpa using hempty.symm
      · simp [Piece.raw]
    rw [List.flatMap_append, List.flatMap_cons, hbefore, ih, hsplit]
    simp

/-- No piece of a source is empty. -/
theorem Piece.raw_ne_nil {source : List Char} {piece : Piece} (hpiece : piece ∈ Piece.ofSource source) :
    piece.raw ≠ [] := by
  have htext : ∀ raw, piece ∈ Piece.ofText raw → piece.raw ≠ [] := by
    intro raw hmem
    unfold Piece.ofText at hmem
    split at hmem
    · cases hmem
    · rename_i hne
      obtain rfl := List.mem_singleton.1 hmem
      simpa [Piece.raw] using hne
  fun_induction Piece.ofSource source with
  | case1 source hcut => exact htext source hpiece
  | case2 source before body after hcut hshorter ih =>
    rcases List.mem_append.1 hpiece with hbefore | hlater
    · exact htext before hbefore
    · rcases List.mem_cons.1 hlater with rfl | hafter
      · simp [Piece.raw, Piece.opening]
      · exact ih hafter

/-- The node of a piece that is not empty stands where the piece does. -/
theorem Piece.toNode_stands {piece : Piece} (hraw : piece.raw ≠ []) {position : Position} {node : Node}
    (hnode : piece.toNode position = .ok node) :
    (nodesParts [node]).flatMap Part.places = [position] ∧
      ∀ source, StandsAt source piece.raw position →
        ∀ part ∈ nodesParts [node], part.StandsIn source := by
  cases piece with
  | text raw =>
    rw [Piece.toNode, bind_eq_ok_iff] at hnode
    obtain ⟨value, hvalue, hnode⟩ := hnode
    cases hnode
    refine ⟨rfl, fun source hsource => ?_⟩
    simpa [nodesParts, Node.parts] using ⟨raw, hraw, hsource, hvalue⟩
  | mustache body =>
    simp only [Piece.toNode, bind_eq_ok_iff] at hnode
    obtain ⟨text, htext, expression, hexpression, hnode⟩ := hnode
    cases hnode
    refine ⟨rfl, fun source hsource => ?_⟩
    simpa [nodesParts, Node.parts] using ⟨body, text, hsource, htext, hexpression⟩

/-- The parts of the nodes of a text come in order, and each stands where it says. -/
private theorem Piece.toNodes_stands {pieces : List Piece} (hraw : ∀ piece ∈ pieces, piece.raw ≠ [])
    {position : Position} {nodes : List Node} (hnodes : Piece.toNodes position pieces = .ok nodes) :
    Ascending position (position.advance (pieces.flatMap Piece.raw))
        ((nodesParts nodes).flatMap Part.places) ∧
      ∀ source, StandsAt source (pieces.flatMap Piece.raw) position →
        ∀ part ∈ nodesParts nodes, part.StandsIn source := by
  induction pieces generalizing position nodes with
  | nil =>
    cases hnodes
    exact ⟨.nil, by simp [nodesParts]⟩
  | cons piece pieces ih =>
    simp only [Piece.toNodes, bind_eq_ok_iff] at hnodes
    obtain ⟨node, hnode, later, hlater, hnodes⟩ := hnodes
    cases hnodes
    have hpiece := hraw piece List.mem_cons_self
    obtain ⟨hplaces, hstands⟩ := Piece.toNode_stands hpiece hnode
    obtain ⟨hmore, hall⟩ := ih (fun p hp => hraw p (List.mem_cons_of_mem _ hp)) hlater
    have hsplit : nodesParts (node :: later) = nodesParts [node] ++ nodesParts later := by
      simp [nodesParts]
    rw [hsplit, List.flatMap_append, List.flatMap_cons, hplaces]
    refine ⟨(Ascending.singleton position hpiece).append_advance hmore, ?_⟩
    intro source hsource part hpart
    rcases List.mem_append.1 hpart with hfirst | hrest
    · exact hstands source hsource.left part hfirst
    · exact hall source hsource.right part hrest

/-- The nodes of a text stand where their pieces do, one after another inside the text. -/
theorem textNodes_stands {position : Position} {raw : List Char} {nodes : List Node}
    (hnodes : textNodes position raw = .ok nodes) :
    Ascending position (position.advance raw) ((nodesParts nodes).flatMap Part.places) ∧
      ∀ source, StandsAt source raw position → ∀ part ∈ nodesParts nodes, part.StandsIn source := by
  have hstands := Piece.toNodes_stands (fun piece => Piece.raw_ne_nil) hnodes
  rwa [Piece.rawOf_ofSource] at hstands

end BareStrings.Markup
