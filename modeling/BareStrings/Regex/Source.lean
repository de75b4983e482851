import BareStrings.Regex.Error

namespace BareStrings.Regex

open BareStrings.Text

/-- A code point of the source, with its offset and whether a backslash precedes it. The offset is
that of the backslash then. -/
structure Token where
  offset : Nat
  escaped : Bool
  code : CodePoint
deriving DecidableEq

namespace Token

/-- The token as it is written. -/
def source (token : Token) : List CodePoint :=
  if token.escaped then ['\\', token.code] else [token.code]

/-- The character that a token is, if it is one without a backslash. -/
def plain? (token : Token) : Option Char := if token.escaped then none else token.code.toChar?

/-- Whether a token is this character without a backslash. -/
def isPlain (token : Token) (c : Char) : Bool := !token.escaped && token.code == c

/-- The tokens of a text that begins at an offset. A backslash at its very end belongs to none. -/
def ofText (offset : Nat) : List CodePoint → List Token
  | [] => []
  | [code] => if code = '\\' then [] else [⟨offset, false, code⟩]
  | code :: next :: rest =>
    if code = '\\' then ⟨offset, true, next⟩ :: ofText (offset + 2) rest
    else ⟨offset, false, code⟩ :: ofText (offset + 1) (next :: rest)

end Token

/-- What is still to be read of a source. -/
structure Source where
  text : List CodePoint
  tokens : List Token
  dangling : Bool

/-- Whether a text ends in a backslash that escapes nothing. -/
def endsDangling (text : List CodePoint) : Bool :=
  (text.reverse.takeWhile (· == CodePoint.ofChar '\\')).length % 2 == 1

/-- A source from its beginning. -/
def Source.ofText (text : List CodePoint) : Source := ⟨text, Token.ofText 0 text, endsDangling text⟩

/-- The offset of the next token. -/
def Source.offset (source : Source) : Nat :=
  match source.tokens with
  | [] => source.text.length
  | token :: _ => token.offset

/-- Reading of a source. -/
abbrev Scan := StateT Source (Except SyntaxError)

namespace Scan

/-- Refuses the source for something that has no place in it. -/
def refuse {α : Type} (error : SyntaxError) : Scan α := fun _ => .error error

/-- Refuses the source for a fault at an offset. -/
def failAt {α : Type} (offset : Nat) (fault : Fault) : Scan α := fun source =>
  .error (.fault fault (some offset) source.text)

/-- Refuses the source for a fault a number of characters before the next token. -/
def fail {α : Type} (fault : Fault) (back : Nat) : Scan α := fun source =>
  .error (.fault fault (some (source.offset - back)) source.text)

/-- Refuses a source that goes on with nothing but a backslash. -/
def checkDangling : Scan Unit := fun source =>
  if source.tokens.isEmpty && source.dangling then
    .error (.fault .danglingEscape (some (source.text.length - 1)) source.text)
  else .ok ((), source)

/-- The next token, which stays. -/
def peek : Scan (Option Token) := fun source => .ok (source.tokens.head?, source)

/-- The offset of the next token. -/
def here : Scan Nat := fun source => .ok (source.offset, source)

/-- Takes the next token. -/
def next : Scan (Option Token) := fun source =>
  match source.tokens with
  | [] => .ok (none, source)
  | token :: rest => do
    let ((), source) ← checkDangling { source with tokens := rest }
    return (some token, source)

/-- Takes the next token if it is this character. -/
def eat (c : Char) : Scan Bool := do
  match ← peek with
  | some token => if token.isPlain c then do let _ ← next; return true else return false
  | none => return false

/-- Takes up to a number of plain characters that satisfy a condition. -/
def run (condition : Char → Bool) : Nat → Scan (List Char)
  | 0 => return []
  | limit + 1 => do
    match ← peek with
    | some token =>
      match token.plain?.filter condition with
      | some c => do
        let _ ← next
        return c :: (← run condition limit)
      | none => return []
    | none => return []

/-- Takes plain characters that satisfy a condition for as long as there are any. -/
def runAll (condition : Char → Bool) : Scan (List Char) := do
  run condition (← get).tokens.length

/-- The source of the tokens up to a closing character, which is taken too. `found` is what has
been read, `missing` the fault if there is nothing. -/
def nameUntil (closing : Char) (missing : Fault) (found : List CodePoint) :
    Nat → Scan (List CodePoint)
  | 0 => ended
  | fuel + 1 => do
    match ← next with
    | none => ended
    | some token =>
      if token.isPlain closing then
        if found.isEmpty then fail missing 1 else return found
      else nameUntil closing missing (found ++ token.source) fuel
where
  /-- The source ends before the closing character. -/
  ended : Scan (List CodePoint) :=
    if found.isEmpty then fail missing 0
    else fail (.unterminatedName closing) found.length

/-- A group's name up to a closing character. -/
def groupName (closing : Char) : Scan (List CodePoint) := do
  nameUntil closing .missingGroupName [] ((← get).tokens.length + 1)

/-- A character's name in braces. -/
def characterName : Scan (List CodePoint) := do
  if ← eat '\x7b' then
    nameUntil '\x7d' .missingCharacterName [] ((← get).tokens.length + 1)
  else fail .missingBrace 0

end Scan

end BareStrings.Regex
