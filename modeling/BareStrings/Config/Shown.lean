import BareStrings.Config.Value
import BareStrings.Number.Integer
import BareStrings.Number.Shortest
import BareStrings.Text.Order

namespace BareStrings.Config

open BareStrings.Calendar BareStrings.Number BareStrings.Text

/-- Parts in parentheses behind the name of what they make. -/
def madeOf (name : String) (parts : List (List Char)) : List Char :=
  name.toList ++ '(' :: joinWith [',', ' '] parts ++ [')']

/-- A day as messages show it. -/
def shownDate (date : Date) : List Char :=
  madeOf "datetime.date" ([date.year, date.month, date.day].map decimal)

/-- A distance from universal time as messages show it. -/
def shownZone (minutes : Int) : List Char :=
  if minutes = 0 then "datetime.timezone.utc".toList
  else madeOf "datetime.timezone" [durationText minutes]

/-- A moment as messages show it. Seconds and microseconds are left out if nothing but zeros is left
out. -/
def shownMoment (moment : Moment) : List Char :=
  let seconds :=
    if moment.microsecond ≠ 0 then [moment.second, moment.microsecond]
    else if moment.second ≠ 0 then [moment.second]
    else []
  let numbers :=
    [moment.date.year, moment.date.month, moment.date.day, moment.hour, moment.minute] ++ seconds
  let zone := moment.zone.toList.map fun minutes => "tzinfo=".toList ++ shownZone minutes
  madeOf "datetime.datetime" (numbers.map decimal ++ zone)

/-- An integer as messages show it, unless it has too many digits. -/
def shownInteger? (value : Int) : Option (List Char) :=
  let digits := decimal value.natAbs
  if digitLimit < digits.length then none
  else some (if value < 0 then '-' :: digits else digits)

namespace Collection

/-- What encloses a collection with some parts. -/
def brackets : Collection → List Char × List Char
  | .list _ => (['['], [']'])
  | .mapping _ => (['\x7b'], ['\x7d'])
  | .set [] => ("set(".toList, [')'])
  | .set _ => (['\x7b'], ['\x7d'])
  | .pair .. => (['('], [')'])

/-- What stands for a collection inside itself. -/
def dots (collection : Collection) : List Char :=
  match collection with
  | .set _ => "set(...)".toList
  | _ => collection.brackets.1 ++ "...".toList ++ collection.brackets.2

/-- Values in the order of numbers, if all are numbers, and otherwise as they are. -/
def ordered (members : List Value) : List Value :=
  if members.all (·.number?.isSome) then
    members.mergeSort fun a b =>
      match a.number?, b.number? with
      | some m, some n => !n.isBelow m
      | _, _ => true
  else members

/-- The parts of a collection as messages show them, each in turn. -/
def shownParts? (show? : Value → Option (List Char)) :
    Collection → Option (List (List Char))
  | .list items => items.mapM show?
  | .mapping entries =>
    entries.mapM fun entry => do
      return (← show? entry.1) ++ ':' :: ' ' :: (← show? entry.2)
  | .set members => (ordered members).mapM show?
  | .pair first second => [first, second].mapM show?

end Collection

namespace Value

/-- A value inside the collections at some places as messages show it, unless an integer in it has
too many digits. The fuel bounds how deep collections are nested without recurring. -/
def shownWithin? (collections : Array Collection) :
    Nat → List Nat → Value → Option (List Char)
  | _, _, .null => some "None".toList
  | _, _, .boolean value => some (if value then "True".toList else "False".toList)
  | _, _, .integer value => shownInteger? value
  | _, _, .float value => some value.numeral
  | _, _, .nan _ => some "nan".toList
  | _, _, .text codes => some (quotedCodes codes)
  | _, _, .bytes content => some (quotedBytes content)
  | _, _, .date value => some (shownDate value)
  | _, _, .moment value => some (shownMoment value)
  | 0, _, .collection _ => some []
  | fuel + 1, outer, .collection place =>
    match collections[place]? with
    | none => some []
    | some found =>
      if outer.contains place then some found.dots
      else do
        let parts ← found.shownParts? (shownWithin? collections fuel (place :: outer))
        return found.brackets.1 ++ joinWith [',', ' '] parts ++ found.brackets.2

/-- A value as messages show it, unless an integer in it has too many digits. -/
def shown? (collections : Array Collection) (value : Value) : Option (List Char) :=
  value.shownWithin? collections (collections.size + 1) []

end Value

end BareStrings.Config
