import BareStrings.Text.Split

namespace BareStrings.Markup

open BareStrings.Text

/-- The parts of a directive's name. -/
structure DirectiveKey where
  name : List Char
  argument : Option (List Char)
  modifiers : List (List Char)
  rawName : List Char
deriving DecidableEq

namespace DirectiveKey

/-- The directive with its leading `v-`, whichever way it was written. -/
def directiveName (key : DirectiveKey) : List Char := 'v' :: '-' :: key.name

/-- A character that ends a directive's name. -/
def endsName (c : Char) : Bool := c == ':' || c == '.' || c == '['

/-- The inside of a bracket that the text opens with, brackets included, if an end or a modifier
follows the bracket; and what follows it. -/
def bracketed? : List Char → Option (List Char × List Char)
  | '[' :: text =>
    match text.dropWhile (· != ']') with
    | [] => none
    | _ :: rest =>
      if rest.head?.all (· == '.') then some ('[' :: text.takeWhile (· != ']') ++ [']'], rest)
      else none
  | _ => none

/-- An argument and the modifiers behind it. A bracketed argument may hold dots. -/
def splitArgument (text : List Char) : List Char × List Char :=
  (bracketed? text).getD (text.takeWhile (· != '.'), text.dropWhile (· != '.'))

/-- The non-empty modifiers of a text in which a dot precedes each. -/
def modifiersOf (text : List Char) : List (List Char) :=
  (splitOn '.' text).filter fun modifier => !modifier.isEmpty

/-- The key with an argument and modifiers still to be told apart. -/
def ofArgument (name rawName text : List Char) : DirectiveKey :=
  let (argument, modifiers) := splitArgument text
  { name, rawName
    argument := if argument.isEmpty then none else some argument
    modifiers := modifiersOf modifiers }

/-- Reads a directive whose leading `v-` has been passed. -/
def ofLong? (rawName text : List Char) : Option DirectiveKey :=
  let name := text.takeWhile fun c => !endsName c
  if name.isEmpty then none
  else match text.dropWhile fun c => !endsName c with
    | ':' :: rest => some (ofArgument name rawName rest)
    | '[' :: _ => none
    | modifiers => some { name, rawName, argument := none, modifiers := modifiersOf modifiers }

/-- Reads a name as that of a directive. Any other name gives nothing. -/
def parse? (rawName : List Char) : Option DirectiveKey :=
  match rawName with
  | 'v' :: '-' :: text => ofLong? rawName text
  | ':' :: text => some (ofArgument ['b', 'i', 'n', 'd'] rawName text)
  | '@' :: text => some (ofArgument ['o', 'n'] rawName text)
  | '#' :: text => some (ofArgument ['s', 'l', 'o', 't'] rawName text)
  | _ => none

end DirectiveKey

end BareStrings.Markup
