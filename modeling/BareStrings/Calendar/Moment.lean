import BareStrings.Calendar.Date
import BareStrings.Text.Split

namespace BareStrings.Calendar

open BareStrings.Text

/-- A moment by some clock. `zone` counts the minutes that the clock is ahead. -/
structure Moment where
  date : Date
  hour : Nat
  minute : Nat
  second : Nat
  microsecond : Nat
  zone : Option Int
deriving DecidableEq

/-- A span of whole minutes as messages show it: in days, of which a negative span has one more
below zero, and the seconds that go beyond them. -/
def durationText (minutes : Int) : List Char :=
  let days := minutes / 1440
  let seconds := minutes % 1440 * 60
  let parts :=
    (if days = 0 then [] else ["days=".toList ++ signedDecimal days]) ++
      (if seconds = 0 then [] else ["seconds=".toList ++ signedDecimal seconds])
  "datetime.timedelta(".toList ++
    (if parts.isEmpty then ['0'] else joinWith [',', ' '] parts) ++ [')']

/-- The wording of a time error. -/
def TimeError.text : TimeError → List Char
  | .year number => "year ".toList ++ decimal number ++ " is out of range".toList
  | .month => "month must be in 1..12".toList
  | .day => "day is out of range for month".toList
  | .hour => "hour must be in 0..23".toList
  | .minute => "minute must be in 0..59".toList
  | .second => "second must be in 0..59".toList
  | .zone minutes =>
    "offset must be a timedelta strictly between -timedelta(hours=24) and ".toList ++
      "timedelta(hours=24), not ".toList ++ durationText minutes ++ ['.']

namespace Moment

/-- The moment of a day, checked from the hour down. -/
def ofParts (date : Date) (hour minute second microsecond : Nat) (zone : Option Int) :
    Except TimeError Moment :=
  if 24 ≤ hour then .error .hour
  else if 60 ≤ minute then .error .minute
  else if 60 ≤ second then .error .second
  else .ok ⟨date, hour, minute, second, microsecond, zone⟩

/-- A distance from universal time, which is less than a day. -/
def checkedZone (minutes : Int) : Except TimeError Int :=
  if minutes.natAbs < 1440 then .ok minutes else .error (.zone minutes)

/-- The microseconds up to a moment by its own clock. -/
def localTime (moment : Moment) : Nat :=
  (((moment.date.dayNumber * 24 + moment.hour) * 60 + moment.minute) * 60 + moment.second) *
    1000000 + moment.microsecond

/-- The microseconds up to a moment, by the clock of universal time if the distance from it is
known. -/
def instant (moment : Moment) : Int :=
  moment.localTime - moment.zone.getD 0 * 60000000

/-- Whether two moments are the same. One whose distance from universal time is not known is never
the same as one whose distance is. -/
def isSame (a b : Moment) : Bool :=
  a.zone.isSome == b.zone.isSome && a.instant == b.instant

end Moment

end BareStrings.Calendar
