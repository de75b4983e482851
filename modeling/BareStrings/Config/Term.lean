import BareStrings.Config.Value

namespace BareStrings.Config

open BareStrings.Number BareStrings.Text

/-- A term. Its numbers that are none differ from each other. -/
inductive Term where
  | null
  | boolean (value : Bool)
  | integer (value : Int)
  | float (value : Binary64)
  | text (value : List CodePoint)
  | list (items : List Term)
  | mapping (entries : List (Term × Term))

namespace Term

/-- What has been gathered of terms: their collections, and how many doubles. -/
structure Gathered where
  collections : Array Collection
  floatCount : Nat

/-- A step of gathering. -/
abbrev Gather := StateM Gathered

/-- Adds a collection to the table. -/
def add (collection : Collection) : Gather Value :=
  modifyGet fun gathered =>
    (.collection gathered.collections.size,
      { gathered with collections := gathered.collections.push collection })

/-- A double as a value, with a label of its own if it is not a number. -/
def addFloat (x : Binary64) : Gather Value :=
  modifyGet fun gathered =>
    (.ofBinary64 gathered.floatCount x, { gathered with floatCount := gathered.floatCount + 1 })

mutual

/-- The value of a term. Its collections are added to what has been gathered. -/
def value : Term → Gather Value
  | .null => return .null
  | .boolean value => return .boolean value
  | .integer value => return .integer value
  | .float value => addFloat value
  | .text value => return .text value
  | .list items => do add (.list (← values items))
  | .mapping entries => do add (.mapping (Value.entriesOf (← pairs entries)))

/-- The values of terms. -/
def values : List Term → Gather (List Value)
  | [] => return []
  | item :: items => do return (← item.value) :: (← values items)

/-- The values of the keys and values of entries. -/
def pairs : List (Term × Term) → Gather (List (Value × Value))
  | [] => return []
  | (key, value) :: entries => do return (← key.value, ← value.value) :: (← pairs entries)

end

/-- The data that a term is. -/
def data (term : Term) : Data :=
  let (root, gathered) := term.value.run ⟨#[], 0⟩
  ⟨root, gathered.collections⟩

end Term

end BareStrings.Config
