import BareStrings.Yaml.Scalar.Block
import BareStrings.Yaml.Scalar.Plain
import BareStrings.Yaml.Scalar.Quoted
import BareStrings.Yaml.Token.Name

namespace BareStrings.Yaml

open BareStrings.Text

/-- A place in a text: the lines before it, the characters before it in its line, and all the
characters before it. -/
structure Place where
  line : Nat
  column : Nat
  offset : Nat

/-- The place behind a character. -/
def Place.next (place : Place) (c : Char) : Place :=
  if isBreak c then ⟨place.line + 1, 0, place.offset + 1⟩
  else ⟨place.line, nextColumn place.column c, place.offset + 1⟩

/-- A place where a key may have begun: the number of tokens before it, and whether only a key may
stand there. -/
structure PossibleKey where
  place : Place
  tokensBefore : Nat
  isRequired : Bool

/-- A text that has been cut into tokens in part: the tokens so far with the latest first, the
columns of the open block collections with the innermost first, and the possible keys of the open
flow collections, innermost first, and of the block collections around them. A key of a mapping needs
no sign of its own, so it is known for one only when the colon behind it is reached. -/
structure Scan where
  place : Place
  rest : List Char
  tokens : List Token
  columns : List Nat
  keys : List (Option PossibleKey)
  allowsKey : Bool

namespace Scan

/-- Nothing but a byte order mark has been read. -/
def ofText (text : List Char) : Scan :=
  let hasMark := text.head? == some '\uFEFF'
  { place := ⟨0, 0, if hasMark then 1 else 0⟩
    rest := if hasMark then text.tail else text
    tokens := []
    columns := []
    keys := [none]
    allowsKey := true }

/-- Whether the place is inside a flow collection. -/
def inFlow (scan : Scan) : Bool := 1 < scan.keys.length

/-- The least column of what belongs to the innermost block collection. -/
def least (scan : Scan) : Nat := (scan.columns.head?.map (· + 1)).getD 0

/-- Moves the place to where only `rest` follows. -/
def moveTo (scan : Scan) (rest : List Char) : Scan :=
  let passed := scan.rest.take (scan.rest.length - rest.length)
  { scan with place := passed.foldl Place.next scan.place, rest }

/-- Adds a token. -/
def add (token : Token) (scan : Scan) : Scan := { scan with tokens := token :: scan.tokens }

/-- Enters a token behind the first `before` ones. -/
def insert (before : Nat) (token : Token) (scan : Scan) : Scan :=
  { scan with tokens := scan.tokens.insertIdx (scan.tokens.length - before) token }

/-- Allows or forbids that a key begins at the next token. -/
def allowKey (allowed : Bool) (scan : Scan) : Scan := { scan with allowsKey := allowed }

/-- The text behind blanks, line ends and comments, and whether a line end is among them. -/
def skipGap (inComment : Bool) : List Char → Bool × List Char
  | [] => (false, [])
  | c :: rest =>
    if isBreak c then (true, (skipGap false rest).2)
    else if inComment || c == ' ' then skipGap inComment rest
    else if c == '#' then skipGap true rest
    else (false, c :: rest)

/-- Moves to the next token. Outside flow collections a key may begin on a new line. -/
def toToken (scan : Scan) : Scan :=
  let (crossesLine, rest) := skipGap false scan.rest
  (scan.moveTo rest).allowKey (scan.allowsKey || (crossesLine && !scan.inFlow))

/-- Whether a key that begins at a possible place can no longer end: keys stay on one line and are
not longer than 1024 characters. -/
def isStale (scan : Scan) (key : PossibleKey) : Bool :=
  key.place.line != scan.place.line || key.place.offset + 1024 < scan.place.offset

/-- Gives up possible keys that can no longer end. -/
def dropStaleKeys (scan : Scan) : Except LoadError Scan :=
  if scan.keys.any (·.any fun key => scan.isStale key && key.isRequired) then .error .malformed
  else .ok { scan with keys := scan.keys.map (·.filter fun key => !scan.isStale key) }

/-- Gives up the possible key of the innermost collection. -/
def dropKey (scan : Scan) : Except LoadError Scan :=
  match scan.keys with
  | some key :: keys =>
    if key.isRequired then .error .malformed else .ok { scan with keys := none :: keys }
  | _ => .ok scan

/-- Remembers that a key may begin here. -/
def saveKey (scan : Scan) : Except LoadError Scan := do
  if !scan.allowsKey then return scan
  let isRequired := !scan.inFlow && scan.columns.head? == some scan.place.column
  let key : PossibleKey := ⟨scan.place, scan.tokens.length, isRequired⟩
  let scan ← scan.dropKey
  return { scan with keys := some key :: scan.keys.tail }

/-- Closes the block collections that begin at a column or behind it. -/
def closeFrom (column : Nat) (scan : Scan) : Scan :=
  if scan.inFlow then scan
  else
    let closed := scan.columns.takeWhile (column ≤ ·)
    { scan with
      columns := scan.columns.dropWhile (column ≤ ·)
      tokens := closed.map (fun _ => Token.blockEnd) ++ scan.tokens }

/-- Opens a block collection at a column unless one is open there. Its start token is entered behind
the first `before` tokens. -/
def openBlock (column before : Nat) (start : Token) (scan : Scan) : Scan :=
  if scan.columns.head?.all (· < column) then
    { scan with columns := column :: scan.columns }.insert before start
  else scan

/-- Reads some characters as one token. -/
def take (size : Nat) (token : Token) (scan : Scan) : Scan :=
  (scan.moveTo (scan.rest.drop size)).add token

/-- Reads a mark between documents or what else closes all block collections. -/
def closeAll (scan : Scan) : Except LoadError Scan := do
  return (← (scan.closeFrom 0).dropKey).allowKey false

/-- Reads the opening bracket of a flow collection. -/
def openFlow (token : Token) (scan : Scan) : Except LoadError Scan := do
  let scan ← scan.saveKey
  return { scan with keys := none :: scan.keys, allowsKey := true }.take 1 token

/-- Reads the closing bracket of a flow collection. -/
def closeFlow (token : Token) (scan : Scan) : Except LoadError Scan := do
  let scan ← scan.dropKey
  let keys := match scan.keys with
    | _ :: key :: keys => key :: keys
    | keys => keys
  return { scan with keys, allowsKey := false }.take 1 token

/-- Reads the sign of an item or of a key. Outside flow collections it may open a block. -/
def sign (token start : Token) (allowsKey : Bool) (scan : Scan) : Except LoadError Scan := do
  if !scan.inFlow && !scan.allowsKey then throw .malformed
  let scan :=
    if scan.inFlow then scan else scan.openBlock scan.place.column scan.tokens.length start
  return ((← scan.dropKey).allowKey allowsKey).take 1 token

/-- Reads the colon before a value. If a key may have begun before, it has. -/
def readValue (scan : Scan) : Except LoadError Scan := do
  match scan.keys with
  | some key :: keys =>
    let scan := { scan with keys := none :: keys, allowsKey := false }.insert key.tokensBefore .key
    let scan :=
      if scan.inFlow then scan
      else scan.openBlock key.place.column key.tokensBefore .blockMappingStart
    return scan.take 1 .value
  | _ => scan.sign .value .blockMappingStart (!scan.inFlow)

/-- Reads a token that may begin a key: it may be one itself, but none begins right behind it. -/
def readKeyed (scan : Scan) (read : Except LoadError (Token × List Char)) :
    Except LoadError Scan := do
  let scan ← scan.saveKey
  let (token, rest) ← read
  return ((scan.allowKey false).moveTo rest).add token

/-- Reads a plain scalar. A key may begin behind one that ends with its line. -/
def readPlain (scan : Scan) : Except LoadError Scan := do
  let scan ← scan.saveKey
  let scalar := plainScalar scan.inFlow scan.least scan.place.column scan.rest
  let scan := (scan.allowKey scalar.crossesLine).moveTo scalar.rest
  return scan.add (.scalar (codePoints scalar.text) true)

/-- Reads a block scalar behind its sign. -/
def readBlock (folded : Bool) (text : List Char) (scan : Scan) : Except LoadError Scan := do
  let scan ← (scan.allowKey true).dropKey
  let (value, rest) ← blockScalar folded scan.least text
  return (scan.moveTo rest).add (.scalar (codePoints value) false)

/-- Reads the token that begins with a character. -/
def readToken (scan : Scan) (c : Char) (rest : List Char) : Except LoadError Scan := do
  let isSign := scan.inFlow || endsToken rest.head?
  if scan.place.column = 0 && c == '%' then
    let scan ← scan.closeAll
    let (directive, rest) ← readDirective rest
    return (scan.moveTo rest).add (.directive directive)
  else if scan.place.column = 0 && atMark (c :: rest) then
    return (← scan.closeAll).take 3 (if c = '-' then .documentStart else .documentEnd)
  else if c = '[' then scan.openFlow .flowSequenceStart
  else if c = '\x7b' then scan.openFlow .flowMappingStart
  else if c = ']' then scan.closeFlow .flowSequenceEnd
  else if c = '\x7d' then scan.closeFlow .flowMappingEnd
  else if c = ',' then return ((← scan.dropKey).allowKey true).take 1 .flowEntry
  else if c = '-' && endsToken rest.head? then scan.sign .blockEntry .blockSequenceStart true
  else if c = '?' && isSign then scan.sign .key .blockMappingStart (!scan.inFlow)
  else if c = ':' && isSign then scan.readValue
  else if c = '*' then
    scan.readKeyed ((readAnchor rest).map fun (name, rest) => (.alias name, rest))
  else if c = '&' then
    scan.readKeyed ((readAnchor rest).map fun (name, rest) => (.anchor name, rest))
  else if c = '!' then
    scan.readKeyed ((readTag rest).map fun (name, rest) => (.tag name, rest))
  else if (c = '|' || c = '>') && !scan.inFlow then scan.readBlock (c == '>') rest
  else if c = '\'' || c = '"' then
    scan.readKeyed ((quotedScalar c rest).map fun (text, rest) => (.scalar text false, rest))
  else if startsPlain scan.inFlow c rest.head? then scan.readPlain
  else throw .malformed

/-- The tokens that are certain, latest first: those before the earliest place where a key may have
begun. -/
def certain (scan : Scan) : List Token :=
  let pending := scan.keys.filterMap fun key => key.filter fun key => !scan.isStale key
  let count := pending.foldl (fun least key => min least key.tokensBefore) scan.tokens.length
  scan.tokens.drop (scan.tokens.length - count)

/-- Reads the tokens of what is left, latest first. Where one cannot be read the tokens end behind
the certain ones. The fuel bounds their number. -/
def run : Nat → Scan → List Token
  | 0, scan => .broken .malformed :: scan.certain
  | fuel + 1, scan =>
    match step scan with
    | .error cause => .broken cause :: scan.certain
    | .ok (scan, true) => scan.tokens
    | .ok (scan, false) => run fuel scan
where
  /-- One token, and whether the text has ended. -/
  step (scan : Scan) : Except LoadError (Scan × Bool) := do
    let scan ← scan.toToken.dropStaleKeys
    let scan := scan.closeFrom (scan.place.column + 1)
    match scan.rest with
    | [] => return (← scan.closeAll, true)
    | c :: rest => return (← scan.readToken c rest, false)

end Scan

/-- The tokens of a text, up to where none can be read. -/
def tokens (text : List Char) : List Token :=
  if text.all isAllowed then ((Scan.ofText text).run (text.length + 1)).reverse
  else [.broken .malformed]

end BareStrings.Yaml
