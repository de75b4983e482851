import BareStrings.Report.Basic

namespace BareStrings.Report

open BareStrings.Text

/-- A JSON value. -/
inductive Json where
  | null
  | boolean (value : Bool)
  | number (value : Nat)
  | string (value : List Char)
  | array (items : List Json)
  | object (members : List (List Char × Json))

namespace Json

/-- One character inside a JSON string. Only the quote, the backslash and controls are escaped. -/
def escapedChar (c : Char) : List Char :=
  if c = '"' ∨ c = '\\' then ['\\', c]
  else if c = '\n' then ['\\', 'n']
  else if c = '\r' then ['\\', 'r']
  else if c = '\t' then ['\\', 't']
  else if c = '\x08' then ['\\', 'b']
  else if c = '\x0C' then ['\\', 'f']
  else if c.toNat < 0x20 then '\\' :: 'u' :: hexadecimal 4 c.toNat
  else [c]

/-- A JSON string. -/
def stringText (text : List Char) : List Char := '"' :: text.flatMap escapedChar ++ ['"']

/-- The beginning of a line at a depth. -/
def newLine (depth : Nat) : List Char := '\n' :: List.replicate (2 * depth) ' '

mutual

/-- The text of a value whose lines are indented by two blanks for each depth. -/
def textAt (depth : Nat) : Json → List Char
  | .null => "null".toList
  | .boolean value => if value then "true".toList else "false".toList
  | .number value => decimal value
  | .string value => stringText value
  | .array [] => ['[', ']']
  | .array items => '[' :: itemsText (depth + 1) items ++ newLine depth ++ [']']
  | .object [] => ['\x7b', '\x7d']
  | .object members => '\x7b' :: membersText (depth + 1) members ++ newLine depth ++ ['\x7d']

/-- The items of an array, each on lines of its own. -/
def itemsText (depth : Nat) : List Json → List Char
  | [] => []
  | [item] => newLine depth ++ textAt depth item
  | item :: items => newLine depth ++ textAt depth item ++ ',' :: itemsText depth items

/-- The members of an object, each on lines of its own. -/
def membersText (depth : Nat) : List (List Char × Json) → List Char
  | [] => []
  | [(name, value)] => newLine depth ++ stringText name ++ ':' :: ' ' :: textAt depth value
  | (name, value) :: members =>
    newLine depth ++ stringText name ++ ':' :: ' ' :: textAt depth value ++
      ',' :: membersText depth members

end

/-- The text of a value. -/
def text (value : Json) : List Char := textAt 0 value

end Json

/-- The JSON object of a finding. -/
def Finding.toJson (finding : Finding) : Json :=
  .object [
    ("kind".toList, .string (kindWord finding.kind)),
    ("path".toList, .string finding.path),
    ("line".toList, .number finding.line),
    ("column".toList, .number finding.column),
    ("severity".toList, .string finding.severity.word),
    ("rule".toList, .string finding.rule),
    ("attribute".toList, match finding.owner with
      | none => .null
      | some owner => .string owner),
    ("message_id".toList, .string finding.messageId),
    ("message".toList, .string finding.message)]

/-- The JSON object of the counts. -/
def Summary.toJson (summary : Summary) : Json :=
  .object [("error".toList, .number summary.error), ("warning".toList, .number summary.warning)]

/-- The JSON object of a report. -/
def toJson (report : Report) : Json :=
  .object [
    ("summary".toList, report.summary.toJson),
    ("files".toList, .array (report.files.map .string)),
    ("findings".toList, .array (report.findings.map Finding.toJson)),
    ("passed".toList, .boolean report.passed)]

end BareStrings.Report
