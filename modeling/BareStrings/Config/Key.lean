import BareStrings.Config.Error
import BareStrings.Config.Value

namespace BareStrings.Config

open BareStrings.Calendar BareStrings.Number BareStrings.Text

/-- The keys that options have. -/
def allowedKeys : List (List Char) := ["whitelist", "attributes", "directives"].map String.toList

/-- Whether a value is a number or what stands for none. -/
def isNumeric : Value → Bool
  | .nan _ => true
  | value => value.number?.isSome

/-- The least number among some values, or the first value if none is a number. -/
def leastNumber? (values : List Value) : Option Value :=
  values.foldl (fun least value =>
    match least with
    | none => some value
    | some found => if isBelow value found then some value else some found) none
where
  /-- Whether a number is below another. -/
  isBelow (a b : Value) : Bool :=
    match a.number?, b.number? with
    | some m, some n => m.isBelow n
    | _, _ => false

/-- The moments that some values are, unless one is something else. -/
def moments? (values : List Value) : Option (List Moment) :=
  values.mapM fun
    | .moment value => some value
    | _ => none

/-- The texts that some values are, unless one is something else. -/
def texts? (values : List Value) : Option (List (List CodePoint)) :=
  values.mapM fun
    | .text codes => some codes
    | _ => none

/-- Whether a value is a day or a moment. -/
def isDated : Value → Bool
  | .date _ | .moment _ => true
  | _ => false

/-- What is wrong with unknown keys that are not all texts. If they can be ordered, the first is
told; of two kinds without an order between them the later key is told first. -/
def disorder (collections : Array Collection) (keys : List Value) : OptionsError :=
  let kinds := keys.map (Value.kind collections)
  match kinds with
  | [] => .keyNotText []
  | kind :: others =>
    if keys.all isNumeric then
      .keyNotText (((leastNumber? keys).map (Value.kind collections)).getD kind)
    else if keys.all isDated && others.any (· != kind) then .daysAndMoments
    else if let some moments := moments? keys then
      let isAware := moments.map (·.zone.isSome)
      if isAware.any id && !isAware.all id then .clocksNotComparable else .keyNotText kind
    else
      match others with
      | [] => .keyNotText kind
      | second :: _ =>
        let isOrdered := others.all (· == kind) && kind != "NoneType".toList
        if isOrdered then .keyNotText kind else .keysNotOrdered second kind

/-- Refuses keys that options do not have. -/
def checkKeys (collections : Array Collection) (keys : List Value) : Except OptionsError Unit :=
  let unknown := keys.filter fun key => !allowedKeys.any fun name => key.sameKey (.ofText name)
  if unknown.isEmpty then .ok ()
  else
    match texts? unknown with
    | some names => .error (.unknownKeys (sortedCodes names))
    | none => .error (disorder collections unknown)

/-- The values of which each is the first of its kind of key. -/
def distinctKeys (values : List Value) : List Value :=
  values.eraseDupsBy Value.sameKey

/-- Values as keys, of which none may be a collection that can change. -/
def hashable (collections : Array Collection) (values : List Value) :
    Except OptionsError (List Value) :=
  match values.find? (!·.isKey) with
  | some value => .error (.keyNotHashable (value.kind collections))
  | none => .ok (distinctKeys values)

/-- The keys of a value: those of a mapping, the members of another collection, or the characters of
a text. -/
def keysOf (collections : Array Collection) (value : Value) : Except OptionsError (List Value) :=
  match value, value.collection? collections with
  | _, some (.mapping entries) => .ok (entries.map (·.1))
  | _, some (.list items) => hashable collections items
  | _, some (.set members) => .ok members
  | _, some (.pair first second) => hashable collections [first, second]
  | .text codes, none => .ok (distinctKeys (codes.map fun code => .text [code]))
  | .bytes content, none => .ok (distinctKeys (content.map fun byte => .integer byte.toNat))
  | _, none => .error (.noKeys (value.kind collections))

end BareStrings.Config
