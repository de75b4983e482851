import BareStrings.Yaml.Node
import BareStrings.Yaml.Tag
import BareStrings.Yaml.Token

namespace BareStrings.Yaml

open BareStrings.Text

namespace Document

/-- What is left of the tokens while nodes are read, what tag handles and anchors stand for, and the
nodes so far. -/
structure Source where
  tokens : List Token
  handles : List (List Char × List Char)
  anchors : List (List Char × Nat)
  nodes : Array Node

/-- A reader of nodes. -/
abbrev Read := StateT Source (Except LoadError)

/-- The next token, if the text has not ended. -/
def peek : Read (Option Token) := do
  match (← get).tokens with
  | .broken cause :: _ => throw cause
  | tokens => return tokens.head?

/-- Passes over the next token. -/
def skip : Read Unit := modify fun source => { source with tokens := source.tokens.tail }

/-- Passes over the next token if it is the given one, and tells whether it was. -/
def skipIf (token : Token) : Read Bool := do
  if (← peek) = some token then
    skip
    return true
  else return false

/-- Whether the next token is among some. -/
def isNext (tokens : List Token) : Read Bool := return (← peek).any tokens.contains

/-- Adds a node, for which an anchor may stand. No anchor is used twice. -/
def add (anchor : Option (List Char)) (node : Node) : Read Nat := do
  let source ← get
  if anchor.any fun name => (source.anchors.lookup name).isSome then throw .malformed
  let place := source.nodes.size
  set { source with
    anchors := anchor.toList.map (·, place) ++ source.anchors
    nodes := source.nodes.push node }
  return place

/-- Adds the node that stands where a node is missing. -/
def addMissing : Read Nat := add none ⟨kindTag "null", .scalar []⟩

/-- Sets what a node holds. -/
def fill (place : Nat) (content : Content) : Read Unit :=
  modify fun source =>
    { source with nodes := source.nodes.modify place fun node => { node with content } }

/-- The node that an alias stands for. -/
def anchored (name : List Char) : Read Nat := do
  match (← get).anchors.lookup name with
  | some place => return place
  | none => throw .malformed

/-- The whole tag with a name. -/
def wholeTag (name : TagName) : Read (List Char) := do
  match name.handle with
  | none => return name.suffix
  | some handle =>
    match (← get).handles.lookup handle with
    | some start => return start ++ name.suffix
    | none => throw .malformed

/-- The anchor and the tag before a node, in either order. -/
def properties : Read (Option (List Char) × Option (List Char)) := do
  match ← peek with
  | some (.anchor name) =>
    skip
    match ← peek with
    | some (.tag tag) =>
      skip
      return (some name, some (← wholeTag tag))
    | _ => return (some name, none)
  | some (.tag tag) =>
    skip
    match ← peek with
    | some (.anchor name) =>
      skip
      return (some name, some (← wholeTag tag))
    | _ => return (none, some (← wholeTag tag))
  | _ => return (none, none)

/-- Where a node stands. In a flow collection it cannot be a block collection; as part of a block
mapping it can also be a sequence that is not indented. -/
inductive Context where
  | flow
  | block
  | mappingPart
deriving DecidableEq

mutual

/-- A node. -/
def read : Nat → Context → Read Nat
  | 0, _ => throw .malformed
  | fuel + 1, context => do
    match ← peek with
    | some (.alias name) =>
      skip
      anchored name
    | _ =>
      let (anchor, tag) ← properties
      content fuel context anchor tag

/-- A node behind its properties. With properties it may be missing. -/
def content (fuel : Nat) (context : Context) (anchor tag : Option (List Char)) : Read Nat := do
  match fuel with
  | 0 => throw .malformed
  | fuel + 1 =>
    match ← peek with
    | some (.scalar text isPlain) =>
      skip
      add anchor ⟨scalarTag tag text isPlain, .scalar text⟩
    | some .flowSequenceStart =>
      skip
      let place ← add anchor ⟨collectionTag tag "seq", .sequence []⟩
      fill place (.sequence (← flowItems fuel true))
      return place
    | some .flowMappingStart =>
      skip
      let place ← add anchor ⟨collectionTag tag "map", .mapping []⟩
      fill place (.mapping (← flowEntries fuel true))
      return place
    | token =>
      if token = some .blockSequenceStart ∧ context ≠ .flow then
        skip
        let place ← add anchor ⟨collectionTag tag "seq", .sequence []⟩
        fill place (.sequence (← blockItems fuel))
        return place
      else if token = some .blockMappingStart ∧ context ≠ .flow then
        skip
        let place ← add anchor ⟨collectionTag tag "map", .mapping []⟩
        fill place (.mapping (← blockEntries fuel))
        return place
      else if token = some .blockEntry ∧ context = .mappingPart then
        let place ← add anchor ⟨collectionTag tag "seq", .sequence []⟩
        fill place (.sequence (← unindentedItems fuel))
        return place
      else if anchor.isSome || tag.isSome then add anchor ⟨scalarTag tag [] true, .scalar []⟩
      else throw .malformed

/-- A node unless one of the given tokens shows that it is missing. -/
def optional (fuel : Nat) (context : Context) (ends : List Token) : Read Nat := do
  match fuel with
  | 0 => throw .malformed
  | fuel + 1 => if ← isNext ends then addMissing else read fuel context

/-- The value behind a colon, if there is one. -/
def valuePart (fuel : Nat) (context : Context) (ends : List Token) : Read Nat := do
  match fuel with
  | 0 => throw .malformed
  | fuel + 1 => if ← skipIf .value then optional fuel context ends else addMissing

/-- The items of a block sequence. -/
def blockItems : Nat → Read (List Nat)
  | 0 => throw .malformed
  | fuel + 1 => do
    if ← skipIf .blockEntry then
      let item ← optional fuel .block [.blockEntry, .blockEnd]
      return item :: (← blockItems fuel)
    else if ← skipIf .blockEnd then return []
    else throw .malformed

/-- The items of a sequence that is indented no more than the mapping around it. -/
def unindentedItems : Nat → Read (List Nat)
  | 0 => throw .malformed
  | fuel + 1 => do
    if ← skipIf .blockEntry then
      let item ← optional fuel .block [.blockEntry, .key, .value, .blockEnd]
      return item :: (← unindentedItems fuel)
    else return []

/-- The entries of a block mapping. -/
def blockEntries : Nat → Read (List (Nat × Nat))
  | 0 => throw .malformed
  | fuel + 1 => do
    if ← skipIf .key then
      let key ← optional fuel .mappingPart [.key, .value, .blockEnd]
      let value ← valuePart fuel .mappingPart [.key, .value, .blockEnd]
      return (key, value) :: (← blockEntries fuel)
    else if ← skipIf .blockEnd then return []
    else throw .malformed

/-- The items of a flow sequence. A key makes a mapping of one entry. -/
def flowItems (fuel : Nat) (isFirst : Bool) : Read (List Nat) := do
  match fuel with
  | 0 => throw .malformed
  | fuel + 1 =>
    if ← skipIf .flowSequenceEnd then return []
    else
      if !isFirst then
        if !(← skipIf .flowEntry) then throw .malformed
      if ← skipIf .flowSequenceEnd then return []
      else
        let item ←
          if ← skipIf .key then do
            let place ← add none ⟨kindTag "map", .mapping []⟩
            let key ← optional fuel .flow [.value, .flowEntry, .flowSequenceEnd]
            let value ← valuePart fuel .flow [.flowEntry, .flowSequenceEnd]
            fill place (.mapping [(key, value)])
            pure place
          else read fuel .flow
        return item :: (← flowItems fuel false)

/-- The entries of a flow mapping. A node that is no key has an empty value. -/
def flowEntries (fuel : Nat) (isFirst : Bool) : Read (List (Nat × Nat)) := do
  match fuel with
  | 0 => throw .malformed
  | fuel + 1 =>
    if ← skipIf .flowMappingEnd then return []
    else
      if !isFirst then
        if !(← skipIf .flowEntry) then throw .malformed
      if ← skipIf .flowMappingEnd then return []
      else
        let entry ←
          if ← skipIf .key then do
            let key ← optional fuel .flow [.value, .flowEntry, .flowMappingEnd]
            let value ← valuePart fuel .flow [.flowEntry, .flowMappingEnd]
            pure (key, value)
          else do
            let key ← read fuel .flow
            let value ← addMissing
            pure (key, value)
        return entry :: (← flowEntries fuel false)

end

/-- What tag handles stand for when no directive says otherwise. -/
def defaultHandles : List (List Char × List Char) :=
  [(['!'], ['!']), (['!', '!'], "tag:yaml.org,2002:".toList)]

/-- The directives before a document. Only one may name the version, which must be one of the first
kind, and each handle may be set once. -/
def directives (hasVersion : Bool) (handles : List (List Char × List Char)) :
    List Token → Except LoadError (List (List Char × List Char) × List Token)
  | .directive (.version major) :: rest =>
    if hasVersion || major != 1 then .error .malformed else directives true handles rest
  | .directive (.handle name start) :: rest =>
    if (handles.lookup name).isSome then .error .malformed
    else directives hasVersion ((name, start) :: handles) rest
  | .directive .unknown :: rest => directives hasVersion handles rest
  | tokens => .ok (handles ++ defaultHandles, tokens)

/-- The content of a document behind its start mark. -/
def afterMark (fuel : Nat) : Read Nat := do
  match ← peek with
  | none | some (.directive _) | some .documentStart | some .documentEnd => addMissing
  | _ => read fuel .block

/-- Passes over the marks at the end of a document, behind which nothing may follow. -/
def finish : List Token → Except LoadError Unit
  | [] => .ok ()
  | .documentEnd :: rest => finish rest
  | .broken cause :: _ => .error cause
  | .directive directive :: rest => do
    let _ ← directives false [] (.directive directive :: rest)
    throw .malformed
  | _ => .error .malformed

/-- The document that tokens describe, if there is one. A second document is refused. -/
def ofTokens? (tokens : List Token) : Except LoadError (Option Document) := do
  let fuel := 4 * tokens.length + 8
  let document (reader : Read Nat) (rest : List Token) (handles : List (List Char × List Char)) :
      Except LoadError (Option Document) := do
    let (root, source) ← reader.run ⟨rest, handles, [], #[]⟩
    finish source.tokens
    return some ⟨root, source.nodes⟩
  match tokens with
  | [] => return none
  | .directive _ :: _ | .documentStart :: _ =>
    match ← directives false [] tokens with
    | (handles, .documentStart :: rest) => document (afterMark fuel) rest handles
    | (_, .broken cause :: _) => throw cause
    | _ => throw .malformed
  | _ => document (read fuel .block) tokens defaultHandles

end Document

end BareStrings.Yaml
