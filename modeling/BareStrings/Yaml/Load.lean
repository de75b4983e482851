import BareStrings.Yaml.Atom
import BareStrings.Yaml.Document
import BareStrings.Yaml.Token.Scan

namespace BareStrings.Yaml

open BareStrings.Config BareStrings.Text

/-- The kinds of data that collections stand for. The entries of pairs are mappings of one entry
each. -/
inductive CollectionKind where
  | list
  | mapping
  | set
  | pairs
deriving DecidableEq

/-- The kinds of data that nodes stand for. -/
inductive Kind where
  | atom (kind : AtomKind)
  | collection (kind : CollectionKind)
deriving DecidableEq

/-- The names of the kinds in tags. -/
def kinds : List (String × Kind) :=
  [("null", .atom .null), ("bool", .atom .truth), ("int", .atom .integer),
    ("float", .atom .float), ("binary", .atom .bytes), ("timestamp", .atom .time),
    ("str", .atom .text), ("seq", .collection .list), ("map", .collection .mapping),
    ("set", .collection .set), ("omap", .collection .pairs), ("pairs", .collection .pairs)]

/-- The kind that a tag names. -/
def kindOf? (tag : List Char) : Option Kind :=
  (kinds.find? fun known => kindTag known.1 == tag).map (·.2)

/-- What has been made of a document: its nodes as they are by now, the values of nodes, the
collections, and the nodes of collections that are still to be filled. A collection is filled only after
the values around it are known, so that it may hold itself. -/
structure Loading where
  nodes : Array Node
  values : Array (Option Value)
  collections : Array Collection
  waiting : List (Nat × Nat × CollectionKind)

/-- A step of loading. -/
abbrev Load := StateT Loading (Except LoadError)

namespace Loading

/-- Nothing has been made of a document. -/
def start (nodes : Array Node) : Loading :=
  ⟨nodes, Array.replicate nodes.size none, #[], []⟩

/-- Remembers the value of a node. -/
def remember (place : Nat) (value : Value) (loading : Loading) : Loading :=
  { loading with values := loading.values.setIfInBounds place (some value) }

/-- Makes an empty collection for a node, to be filled later. -/
def reserve (place : Nat) (kind : CollectionKind) (loading : Loading) : Value × Loading :=
  let value := Value.collection loading.collections.size
  (value, { loading.remember place value with
    collections := loading.collections.push (.list [])
    waiting := loading.waiting ++ [(place, loading.collections.size, kind)] })

end Loading

/-- A node. -/
def nodeAt (place : Nat) : Load Node := do
  match (← get).nodes[place]? with
  | some node => return node
  | none => throw .malformed

/-- The entries of a node, which must be a mapping. -/
def entriesAt (place : Nat) : Load (List (Nat × Nat)) := do
  match (← nodeAt place).content with
  | .mapping entries => return entries
  | _ => throw .malformed

/-- The items of a node, which must be a sequence. -/
def itemsAt (place : Nat) : Load (List Nat) := do
  match (← nodeAt place).content with
  | .sequence items => return items
  | _ => throw .malformed

/-- Changes a node. -/
def change (place : Nat) (f : Node → Node) : Load Unit :=
  modify fun loading => { loading with nodes := loading.nodes.modify place f }

/-- Sets a collection. -/
def setCollection (place : Nat) (collection : Collection) : Load Unit :=
  modify fun loading =>
    { loading with collections := loading.collections.setIfInBounds place collection }

/-- Adds a collection. -/
def addCollection (collection : Collection) : Load Value :=
  modifyGet fun loading =>
    (.collection loading.collections.size,
      { loading with collections := loading.collections.push collection })

/-- Whether a node has a tag. -/
def hasTag (name : String) (place : Nat) : Load Bool := do
  return (← get).nodes[place]?.any fun node => node.tag == kindTag name

/-- The text of a node: its own, or in a mapping what is under the sign of a value. The fuel bounds
how deep such mappings are nested. -/
def textAt : Nat → Nat → Load (List CodePoint)
  | 0, _ => throw .malformed
  | fuel + 1, place => do
    match (← nodeAt place).content with
    | .scalar text => return text
    | .sequence _ => throw .malformed
    | .mapping entries =>
      match ← entries.findM? fun entry => hasTag "value" entry.1 with
      | some entry => textAt fuel entry.2
      | none => throw .malformed

/-- What a node of some kind of scalar stands for. -/
def atom (place : Nat) (kind : AtomKind) : Load Value := do
  let node ← nodeAt place
  let text ← textAt ((← get).nodes.size + 1) place
  match kind, node.content with
  | .time, .mapping _ => throw .timeNotScalar
  | _, _ => kind.value (place + 1) text

/-- The value of a node. That of a collection is filled later. -/
def valueAt (place : Nat) : Load Value := do
  match (← get).values[place]? with
  | some (some value) => return value
  | _ =>
    match kindOf? (← nodeAt place).tag with
    | none => throw .malformed
    | some (.atom kind) =>
      let value ← atom place kind
      modify (·.remember place value)
      return value
    | some (.collection kind) => modifyGet (·.reserve place kind)

/-- Takes the sign of a value for plain text where it is a key. -/
def readSignAsText (place : Nat) : Load Unit := do
  if ← hasTag "value" place then change place fun node => { node with tag := kindTag "str" }

/-- Replaces those entries of a mapping from `start` on that ask to enter the entries of other
mappings. What is entered comes before all other entries, and the other mappings are treated in the
same way first. Of several mappings the first wins, so it comes last. The fuel bounds the number of
entries that are replaced. -/
def enterMerged : Nat → Nat → Nat → List (Nat × Nat) → Load Unit
  | 0, _, _, _ => throw .malformed
  | fuel + 1, place, start, merged => do
    let entries ← entriesAt place
    let rest := entries.drop start
    let nodes := (← get).nodes
    let isOwn (entry : Nat × Nat) : Bool :=
      !nodes[entry.1]?.any fun node => node.tag == kindTag "merge"
    let own := rest.takeWhile isOwn
    own.forM fun entry => readSignAsText entry.1
    match rest.drop own.length with
    | [] => change place fun node => { node with content := .mapping (merged ++ entries) }
    | (_, source) :: others =>
      let before := entries.take start ++ own
      change place fun node => { node with content := .mapping (before ++ others) }
      let entered ← match (← nodeAt source).content with
        | .mapping _ => do
          enterMerged fuel source 0 []
          entriesAt source
        | .sequence items => do
          let found ← items.mapM fun item => do
            let _ ← entriesAt item
            enterMerged fuel item 0 []
            entriesAt item
          pure found.reverse.flatten
        | .scalar _ => throw .malformed
      enterMerged fuel place before.length (merged ++ entered)

/-- The entries of a mapping as values. Collections are no keys. -/
def mappingAt (place : Nat) : Load (List (Value × Value)) := do
  let _ ← entriesAt place
  enterMerged (entryCount (← get).nodes + 1) place 0 []
  let pairs ← (← entriesAt place).mapM fun (key, value) => do
    let key ← valueAt key
    if !key.isKey then throw .malformed
    return (key, ← valueAt value)
  return Value.entriesOf pairs

/-- The pair that a mapping of one entry stands for. -/
def pairAt (place : Nat) : Load Value := do
  match ← entriesAt place with
  | [(key, value)] =>
    let first ← valueAt key
    let second ← valueAt value
    addCollection (.pair first second)
  | _ => throw .malformed

/-- What the node of a collection holds. -/
def contentAt (place : Nat) : CollectionKind → Load Collection
  | .list => return .list (← (← itemsAt place).mapM valueAt)
  | .mapping => return .mapping (← mappingAt place)
  | .set => return .set ((← mappingAt place).map (·.1))
  | .pairs => return .list (← (← itemsAt place).mapM pairAt)

/-- Fills collections in the order in which they were met. Each node is filled at most once, so the
number of nodes bounds the steps. -/
def fillAll : Nat → Load Unit
  | 0 => return
  | fuel + 1 => do
    match (← get).waiting with
    | [] => return
    | (place, reserved, kind) :: waiting =>
      modify fun loading => { loading with waiting }
      setCollection reserved (← contentAt place kind)
      fillAll fuel

/-- The data of a document. -/
def Document.data (document : Document) : Except LoadError Data := do
  let load : Load Value := do
    let root ← valueAt document.root
    fillAll (document.nodes.size + 1)
    return root
  let (root, loading) ← load.run (Loading.start document.nodes)
  return ⟨root, loading.collections⟩

/-- The data of a text, or nothing if it holds no document. -/
def load (text : List Char) : Except LoadError Data := do
  match ← Document.ofTokens? (tokens text) with
  | some document => document.data
  | none => return ⟨.null, #[]⟩

end BareStrings.Yaml
