import BareStrings.Calendar.Moment
import BareStrings.Number.Line
import BareStrings.Text.CodePoint

namespace BareStrings.Config

open BareStrings.Calendar BareStrings.Number BareStrings.Text

/-- A value. What is not a number is equal only to itself, so a label tells such values apart. A
collection is known by its place in the table of collections. -/
inductive Value where
  | null
  | boolean (value : Bool)
  | integer (value : Int)
  | float (value : Binary64)
  | nan (label : Nat)
  | text (codes : List CodePoint)
  | bytes (content : List UInt8)
  | date (value : Date)
  | moment (value : Moment)
  | collection (place : Nat)
deriving DecidableEq

/-- A collection of values. A mapping keeps the order of its entries. -/
inductive Collection where
  | list (items : List Value)
  | mapping (entries : List (Value × Value))
  | set (members : List Value)
  | pair (first second : Value)
deriving DecidableEq

/-- A value with the table of the collections that it refers to. A collection may be part of several others,
and even of itself. -/
structure Data where
  root : Value
  collections : Array Collection

namespace Value

/-- A double as a value. The label is used if it is not a number. -/
def ofBinary64 (label : Nat) (x : Binary64) : Value := if x.isNan then .nan label else .float x

/-- A text as a value. -/
def ofText (text : List Char) : Value := .text (codePoints text)

/-- The number that a value counts as. Truth values count as one and zero. -/
def number? : Value → Option Point
  | .boolean value => some (.ofInt (if value then 1 else 0))
  | .integer value => some (.ofInt value)
  | .float value => Point.ofBinary64? value
  | _ => none

/-- Whether two values are the same key. Numbers of different kinds are the same if they are equal,
and moments if they are the same instant; a collection is no key. -/
def sameKey : Value → Value → Bool
  | .moment a, .moment b => a.isSame b
  | .collection _, _ => false
  | a, b =>
    match a.number?, b.number? with
    | some m, some n => m.isSame n
    | _, _ => a == b

/-- Whether a value can be a key. -/
def isKey : Value → Bool
  | .collection _ => false
  | _ => true

/-- Enters a value for a key. A key that is there keeps its place and its form. -/
def enter (key value : Value) : List (Value × Value) → List (Value × Value)
  | [] => [(key, value)]
  | (found, old) :: rest =>
    if sameKey found key then (found, value) :: rest else (found, old) :: enter key value rest

/-- Entries with each key once: where it first occurs, with its last value. -/
def entriesOf (pairs : List (Value × Value)) : List (Value × Value) :=
  pairs.foldl (fun found pair => enter pair.1 pair.2 found) []

/-- The value under a text as key. -/
def lookup? (name : List Char) (entries : List (Value × Value)) : Option Value :=
  (entries.find? fun entry => sameKey entry.1 (ofText name)).map (·.2)

/-- The collection that a value refers to. -/
def collection? (collections : Array Collection) : Value → Option Collection
  | .collection place => collections[place]?
  | _ => none

end Value

/-- The word for the kind of a collection. -/
def Collection.kind : Collection → List Char
  | .list _ => "list".toList
  | .mapping _ => "dict".toList
  | .set _ => "set".toList
  | .pair .. => "tuple".toList

/-- The word for the kind of a value. -/
def Value.kind (collections : Array Collection) (value : Value) : List Char :=
  match value with
  | .null => "NoneType".toList
  | .boolean _ => "bool".toList
  | .integer _ => "int".toList
  | .float _ | .nan _ => "float".toList
  | .text _ => "str".toList
  | .bytes _ => "bytes".toList
  | .date _ => "datetime.date".toList
  | .moment _ => "datetime.datetime".toList
  | .collection _ => ((value.collection? collections).map Collection.kind).getD []

end BareStrings.Config
