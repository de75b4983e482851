import BareStrings.Config.Value
import BareStrings.Text.Numeral
import BareStrings.Yaml.Error

namespace BareStrings.Yaml

open BareStrings.Calendar BareStrings.Config BareStrings.Text

/-- How a scalar spells a distance from universal time. -/
inductive ZoneText where
  | universal
  | distance (isBehind : Bool) (hours minutes : List Char)

/-- How a scalar spells the time of the day. -/
structure ClockText where
  hour : List Char
  minute : List Char
  second : List Char
  fraction : List Char
  zone : Option ZoneText

/-- How a scalar spells a day or a moment. -/
structure TimeText where
  year : List Char
  month : List Char
  day : List Char
  clock : Option ClockText

/-- Digits at the head of a text, no fewer than `least` and no more than `most`, and what follows
them. -/
def digitRun? (least most : Nat) (text : List Char) : Option (List Char × List Char) :=
  let run := (text.take most).takeWhile (isDigitOf 10)
  if least ≤ run.length then some (run, text.drop run.length) else none

/-- A text behind the sign at its head. -/
def behind? (sign : Char) : List Char → Option (List Char)
  | c :: rest => if c = sign then some rest else none
  | [] => none

/-- A blank inside a timestamp. -/
def isGapBlank (c : Char) : Bool := c == ' ' || c == '\t'

namespace ZoneText

/-- The distance from universal time that makes up the whole text. -/
def ofText? : List Char → Option ZoneText
  | ['Z'] => some .universal
  | sign :: rest => do
    if sign ≠ '+' ∧ sign ≠ '-' then none
    let (hours, rest) ← digitRun? 1 2 rest
    if rest.isEmpty then return .distance (sign == '-') hours []
    let (minutes, rest) ← digitRun? 2 2 (← behind? ':' rest)
    if rest.isEmpty then return .distance (sign == '-') hours minutes else none
  | [] => none

/-- The minutes by which a clock is ahead. -/
def minutes : ZoneText → Int
  | .universal => 0
  | .distance isBehind hours minutes =>
    let total : Int := ofDigits 10 hours * 60 + ofDigits 10 minutes
    if isBehind then -total else total

end ZoneText

namespace ClockText

/-- The time of the day that makes up the whole text. -/
def ofText? (text : List Char) : Option ClockText := do
  let (hour, rest) ← digitRun? 1 2 text
  let (minute, rest) ← digitRun? 2 2 (← behind? ':' rest)
  let (second, rest) ← digitRun? 2 2 (← behind? ':' rest)
  let (fraction, rest) := match rest with
    | '.' :: rest => (rest.takeWhile (isDigitOf 10), rest.dropWhile (isDigitOf 10))
    | rest => ([], rest)
  if rest.isEmpty then return ⟨hour, minute, second, fraction, none⟩
  let zone ← ZoneText.ofText? (rest.dropWhile isGapBlank)
  return ⟨hour, minute, second, fraction, some zone⟩

/-- The microseconds of a fraction of a second. What is finer is cut off. -/
def microsecond (clock : ClockText) : Nat :=
  ofDigits 10 (clock.fraction.take 6 ++ List.replicate (6 - clock.fraction.length) '0')

end ClockText

namespace TimeText

/-- A text behind what stands between the day and the time of the day. -/
def behindGap? : List Char → Option (List Char)
  | 'T' :: rest | 't' :: rest => some rest
  | c :: rest => if isGapBlank c then some (rest.dropWhile isGapBlank) else none
  | [] => none

/-- The day or moment that makes up the whole text. -/
def ofText? (text : List Char) : Option TimeText := do
  let (year, rest) ← digitRun? 4 4 text
  let (month, rest) ← digitRun? 1 2 (← behind? '-' rest)
  let (day, rest) ← digitRun? 1 2 (← behind? '-' rest)
  if rest.isEmpty then return ⟨year, month, day, none⟩
  let clock ← ClockText.ofText? (← behindGap? rest)
  return ⟨year, month, day, some clock⟩

/-- Whether a plain scalar with this spelling is taken for a day or a moment. A day by itself needs
all its digits. -/
def isPlainForm (time : TimeText) : Bool :=
  time.clock.isSome || time.month.length == 2 && time.day.length == 2

/-- The day that is spelled. -/
def date (time : TimeText) : Except TimeError Date :=
  Date.ofParts (ofDigits 10 time.year) (ofDigits 10 time.month) (ofDigits 10 time.day)

/-- The day or moment that is spelled. The distance from universal time is checked first. -/
def value (time : TimeText) : Except TimeError Value := do
  match time.clock with
  | none => return .date (← time.date)
  | some clock =>
    let zone ← clock.zone.mapM fun zone => Moment.checkedZone zone.minutes
    return .moment (← Moment.ofParts (← time.date) (ofDigits 10 clock.hour)
      (ofDigits 10 clock.minute) (ofDigits 10 clock.second) clock.microsecond zone)

end TimeText

end BareStrings.Yaml
