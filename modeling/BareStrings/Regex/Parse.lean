import BareStrings.Regex.Branches
import BareStrings.Regex.Defect
import BareStrings.Regex.Escape
import BareStrings.Regex.Search
import BareStrings.Unicode.Identifier

namespace BareStrings.Regex

open BareStrings.Number BareStrings.Text BareStrings.Unicode

/-- What has been read as one thing. A bracket that neither captures nor changes options is one
thing to a repetition behind it, but its items belong to the sequence around it. -/
inductive Piece where
  | item (regex : Regex)
  | bracket (items : List Regex)

/-- The items of a sequence of pieces. -/
def Piece.items : Piece → List Regex
  | .item regex => [regex]
  | .bracket items => items

/-- The expression that a repetition of a piece repeats. -/
def Piece.regex (piece : Piece) : Regex := sequence piece.items

/-- What an open group becomes when it closes. A look behind remembers where an outer one began, a
conditional the group that it asks for. -/
inductive GroupKind where
  | bracket
  | flagged
  | capture (index : Nat)
  | lookAhead (negated : Bool)
  | lookBehind (negated : Bool) (outerStart : Option Nat)
  | atomic
  | conditional (index : Nat)

/-- An open group and what has been read around it: the finished branches and the pieces of the
unfinished one, each with the latest first. -/
structure OpenGroup where
  kind : GroupKind
  offset : Nat
  flags : Flags
  branches : List (List Regex)
  pieces : List Piece

/-- What has been read: the options in force, the finished branches and the pieces of the unfinished
one, latest first; the open groups, innermost first; the groups known; and the groups that
conditionals ask for, with the offsets of their names. An opening parenthesis pushes what has been
read around it, and a closing one makes an expression of what has been read inside. -/
structure ParseState where
  flags : Flags := {}
  branches : List (List Regex) := []
  pieces : List Piece := []
  openGroups : List OpenGroup := []
  groups : Groups := {}
  asked : List (Nat × Nat) := []

namespace ParseState

/-- Adds a piece. -/
def pushPiece (state : ParseState) (piece : Piece) : ParseState :=
  { state with pieces := piece :: state.pieces }

/-- Adds an item. -/
def push (state : ParseState) (item : Regex) : ParseState := state.pushPiece (.item item)

/-- The items of the unfinished branch. -/
def branchItems (state : ParseState) : List Regex := state.pieces.reverse.flatMap Piece.items

/-- The items of the innermost open group so far. -/
def items (state : ParseState) : List Regex :=
  joinBranches state.flags.caseRule (state.branchItems :: state.branches).reverse

/-- The expression of the innermost open group so far. -/
def body (state : ParseState) : Regex := sequence state.items

/-- Opens a group. -/
def enter (state : ParseState) (kind : GroupKind) (offset : Nat) (flags : Flags) : ParseState :=
  { state with
    flags, branches := [], pieces := []
    openGroups :=
      ⟨kind, offset, state.flags, state.branches, state.pieces⟩ :: state.openGroups }

/-- Whether the innermost open group is a conditional that has both of its branches. -/
def isFull (state : ParseState) : Bool :=
  match state.openGroups, state.branches with
  | ⟨.conditional _, _, _, _, _⟩ :: _, _ :: _ => true
  | _, _ => false

end ParseState

/-- Whether a piece is a condition on the place, which cannot be repeated. -/
def Piece.isAnchor : Piece → Bool
  | .item (.anchor _) => true
  | _ => false

/-- Whether a piece is a repetition already. -/
def Piece.isRepeated : Piece → Bool
  | .item (.repeated ..) => true
  | _ => false

namespace Scan

/-- A member of a set, whose first token is given. -/
def setMember (flags : Flags) (token : Token) : Scan SetItem :=
  if token.escaped then setEscapedCode flags token.code else return .one token.code

/-- A range between two members whose first tokens are given. -/
def setRange (first last : Token) (low high : SetItem) : Scan SetItem :=
  let fault := Fault.badRange first.source last.source
  let back := first.source.length + 1 + last.source.length
  match low, high with
  | .one a, .one b => if b < a then fail fault back else return .range a b
  | _, _ => fail fault back

/-- The members of a set that begins at an offset, up to its bracket. A bracket that comes first is
a member. -/
def setItems (flags : Flags) (offset : Nat) (found : List SetItem) : Nat → Scan (List SetItem)
  | 0 => failAt offset .unterminatedSet
  | fuel + 1 => do
    match ← next with
    | none => failAt offset .unterminatedSet
    | some token =>
      if token.isPlain ']' && !found.isEmpty then return found.reverse
      else
        let low ← setMember flags token
        if ← eat '-' then
          match ← next with
          | none => failAt offset .unterminatedSet
          | some last =>
            if last.isPlain ']' then return (.one (CodePoint.ofChar '-') :: low :: found).reverse
            else
              let high ← setMember flags last
              setItems flags offset ((← setRange token last low high) :: found) fuel
        else setItems flags offset (low :: found) fuel

/-- A set whose opening bracket has been read. A set of one character is that character. -/
def charSet (flags : Flags) (offset : Nat) : Scan Regex := do
  let negated ← eat '^'
  let items ← setItems flags offset [] ((← get).tokens.length + 1)
  match items.eraseDups with
  | [.one code] => return flags.char code negated
  | items => return .set items negated flags.caseRule

/-- The one greater than every number that a group may have. -/
def groupLimit : Nat := 1073741823

/-- A repetition count. -/
def count (digits : List Char) : Scan Nat := fun source =>
  if digitLimit < digits.length then .error (.countTooLong digits.length)
  else
    let value := ofDigits 10 digits
    if countLimit ≤ value then .error .countTooLarge else .ok (value, source)

/-- The counts in braces of which the opening one has been read, or nothing if the brace opens no
counts and is a character like others. -/
def bracedCounts? : Scan (Option (Nat × Option Nat)) := do
  let start ← get
  match ← peek with
  | some token => if token.isPlain '\x7d' then return none
  | none => pure ()
  let least ← runAll isAsciiDigit
  let most ← if ← eat ',' then runAll isAsciiDigit else pure least
  if !(← eat '\x7d') then
    MonadStateOf.set start
    return none
  else
    let low ← if least.isEmpty then pure 0 else count least
    if most.isEmpty then return some (low, none)
    else
      let high ← count most
      if high < low then failAt start.offset .reversedCounts else return some (low, some high)

/-- How a repetition that has just been read chooses its count. -/
def greed : Scan Greed := do
  if ← eat '?' then return .lazy
  else if ← eat '+' then return .possessive
  else return .greedy

/-- Repeats the latest item. The sign of the repetition stands at an offset. -/
def repeatLatest (state : ParseState) (offset least : Nat) (most : Option Nat) :
    Scan ParseState := do
  match state.pieces with
  | [] => failAt offset .nothingToRepeat
  | piece :: pieces =>
    if piece.isAnchor then failAt offset .nothingToRepeat
    else if piece.isRepeated then failAt offset .multipleRepeat
    else
      let repetition := Regex.repeated least most (← greed) piece.regex
      return { state with pieces := .item repetition :: pieces }

/-- A repetition whose sign has been read. -/
def repetition (state : ParseState) (sign : Char) (offset : Nat) : Scan ParseState := do
  if sign = '?' then repeatLatest state offset 0 (some 1)
  else if sign = '*' then repeatLatest state offset 0 none
  else if sign = '+' then repeatLatest state offset 1 none
  else
    match ← bracedCounts? with
    | none => return state.push (state.flags.char (CodePoint.ofChar sign) false)
    | some (least, most) => repeatLatest state offset least most

/-- The option that a letter names. -/
def flag? (c : Char) : Option Flags :=
  if c = 'i' then some { ignoreCase := true }
  else if c = 'm' then some { multiline := true }
  else if c = 's' then some { dotAll := true }
  else if c = 'x' then some { verbose := true }
  else if c = 'a' then some { ascii := true }
  else if c = 'u' then some { unicode := true }
  else if c = 't' then some { unrepeated := true }
  else none

/-- Options of which any of two sets holds. -/
def joinFlags (a b : Flags) : Flags :=
  { ignoreCase := a.ignoreCase || b.ignoreCase
    multiline := a.multiline || b.multiline
    dotAll := a.dotAll || b.dotAll
    verbose := a.verbose || b.verbose
    ascii := a.ascii || b.ascii
    unicode := a.unicode || b.unicode
    unrepeated := a.unrepeated || b.unrepeated }

/-- Options in a group that turns some on and others off. -/
def changeFlags (flags on off : Flags) : Flags :=
  { flags with
    ignoreCase := (flags.ignoreCase || on.ignoreCase) && !off.ignoreCase
    multiline := (flags.multiline || on.multiline) && !off.multiline
    dotAll := (flags.dotAll || on.dotAll) && !off.dotAll
    verbose := (flags.verbose || on.verbose) && !off.verbose
    ascii := (flags.ascii && !on.unicode) || on.ascii }

/-- Whether some option is in both sets. -/
def flagsOverlap (a b : Flags) : Bool :=
  a.ignoreCase && b.ignoreCase || a.multiline && b.multiline || a.dotAll && b.dotAll ||
    a.verbose && b.verbose

/-- The option that a token names. `missing` is the fault when there is no letter, `locale` the one
when the letter asks for the rules of a locale. -/
def flagLetter (token : Option Token) (missing locale : Fault) : Scan Flags := do
  match token with
  | none => fail missing 0
  | some token =>
    match token.plain?.bind flag? with
    | some flags => return flags
    | none =>
      if token.isPlain 'L' then fail locale 0
      else if !token.escaped && isLetter token.code then fail .unknownFlag 1
      else fail missing token.source.length

/-- Options to turn on, of which some have been read, and the character behind them. -/
def flagsOn (found : Flags) : Nat → Scan (Flags × Char)
  | 0 => fail .flagsNotEnded 0
  | fuel + 1 => do
    if found.ascii && found.unicode then fail .incompatibleFlags 0
    else
      let token ← next
      match (token.bind Token.plain?).filter [')', '-', ':'].contains with
      | some ending => return (found, ending)
      | none => flagsOn (joinFlags found (← flagLetter token .flagsNotEnded .localeFlag)) fuel

/-- Options to turn off, of which some have been read, up to a colon. -/
def flagsOff (found : Flags) : Nat → Scan Flags
  | 0 => fail .missingColon 0
  | fuel + 1 => do
    if found.ascii || found.unicode then fail .kindFlagOff 0
    else
      let token ← next
      match token.filter (·.isPlain ':') with
      | some _ => return found
      | none => flagsOff (joinFlags found (← flagLetter token .missingColon .kindFlagOff)) fuel

/-- Opens a group whose options begin with a token, or takes the options as those of the whole
expression, which must not have begun. -/
def flagGroup (state : ParseState) (offset : Nat) (token : Token) : Scan ParseState := do
  let fuel := (← get).tokens.length + 1
  let (on, ending) ←
    if token.isPlain '-' then pure (({} : Flags), '-')
    else flagsOn (← flagLetter (some token) .flagsNotEnded .localeFlag) fuel
  if ending = ')' then
    if state.openGroups.isEmpty && state.branches.isEmpty && state.pieces.isEmpty then
      return { state with flags := joinFlags state.flags on }
    else failAt offset .misplacedFlags
  else if on.unrepeated then fail .wholeFlagOn 1
  else
    let off ←
      if ending = '-' then do flagsOff (← flagLetter (← next) .missingFlag .kindFlagOff) fuel
      else pure {}
    if off.unrepeated then fail .wholeFlagOff 1
    else if flagsOverlap on off then fail .flagOnAndOff 1
    else return state.enter .flagged offset (changeFlags state.flags on off)

/-- Opens a group that captures what it matches. -/
def captureGroup (state : ParseState) (offset : Nat) (name : Option (List Char)) :
    Scan ParseState := do
  let index := state.groups.count
  let names ← match name with
    | none => pure state.groups.names
    | some name =>
      match state.groups.names.lookup name with
      | some earlier => fail (.redefinedGroup name index earlier) (name.length + 1)
      | none => pure (state.groups.names ++ [(name, index)])
  let groups := { state.groups with names, widths := state.groups.widths ++ [none] }
  return { state with groups }.enter (.capture index) offset state.flags

/-- The identifier that a name is, if it is one. -/
def identifier? (name : List CodePoint) : Option (List Char) :=
  (spelledText? name).filter isIdentifier

/-- A reference to a group by name, of which everything before the name has been read. -/
def namedBackref (state : ParseState) : Scan ParseState := do
  let name ← groupName ')'
  let back := name.length + 1
  match identifier? name with
  | none => fail (.badGroupName name) back
  | some name =>
    match state.groups.names.lookup name with
    | none => fail (.unknownGroup name) back
    | some index =>
      if !state.groups.isClosed index then fail .openGroup back
      else
        checkLookBehind state.groups index
        return state.push (.backref index state.flags.caseRule)

/-- The forms that a `?P` begins: a named group, and a reference to one. -/
def extension (state : ParseState) (offset : Nat) : Scan ParseState := do
  if ← eat '<' then
    let name ← groupName '>'
    match identifier? name with
    | none => fail (.badGroupName name) (name.length + 1)
    | some name => captureGroup state offset (some name)
  else if ← eat '=' then namedBackref state
  else match ← next with
    | none => fail .unexpectedEnd 0
    | some token =>
      fail (.unknownExtension (wording "?P" ++ token.source)) (token.source.length + 2)

/-- Passes over a comment. -/
def comment (offset : Nat) : Nat → Scan Unit
  | 0 => failAt offset .unterminatedComment
  | fuel + 1 => do
    match ← next with
    | none => failAt offset .unterminatedComment
    | some token => if token.isPlain ')' then return () else comment offset fuel

/-- Opens a look behind. -/
def lookBehindGroup (state : ParseState) (offset : Nat) : Scan ParseState := do
  match ← next with
  | none => fail .unexpectedEnd 0
  | some token =>
    if token.isPlain '=' || token.isPlain '!' then
      let outer := state.groups.lookBehindStart
      let groups :=
        { state.groups with lookBehindStart := outer.or (some state.groups.count) }
      return { state with groups }.enter (.lookBehind (token.isPlain '!') outer) offset state.flags
    else fail (.unknownExtension (wording "?<" ++ token.source)) (token.source.length + 2)

/-- The number of a group that a conditional asks for. It is written as integers are, not only by
plain digits. -/
def askedNumber (name : List CodePoint) : Scan Nat := do
  let back := name.length + 1
  match (spelledText? name).bind fun text => (Integer.ofText 10 text).toOption with
  | none => fail (.badGroupName name) back
  | some value =>
    if value < 0 then fail (.badGroupName name) back
    else if value = 0 then fail .badGroupNumber back
    else if groupLimit ≤ value.toNat then fail (.invalidGroup value.toNat) back
    else return value.toNat

/-- Opens a group that matches one thing if another group has matched and otherwise another. -/
def conditionalGroup (state : ParseState) (offset : Nat) : Scan ParseState := do
  let name ← groupName ')'
  let back := name.length + 1
  let (index, asked) ←
    match identifier? name with
    | some name =>
      match state.groups.names.lookup name with
      | some index => pure (index, state.asked)
      | none => fail (.unknownGroup name) back
    | none =>
      let index ← askedNumber name
      if (state.asked.lookup index).isSome then pure (index, state.asked)
      else pure (index, state.asked ++ [(index, (← here) - back)])
  checkLookBehind state.groups index
  return { state with asked }.enter (.conditional index) offset state.flags

/-- Opens the group whose parenthesis has been read at an offset. -/
def group (state : ParseState) (offset : Nat) : Scan ParseState := do
  if !(← eat '?') then captureGroup state offset none
  else match ← next with
    | none => fail .unexpectedEnd 0
    | some token =>
      if token.isPlain 'P' then extension state offset
      else if token.isPlain ':' then return state.enter .bracket offset state.flags
      else if token.isPlain '#' then
        comment offset ((← get).tokens.length + 1)
        return state
      else if token.isPlain '=' then return state.enter (.lookAhead false) offset state.flags
      else if token.isPlain '!' then return state.enter (.lookAhead true) offset state.flags
      else if token.isPlain '<' then lookBehindGroup state offset
      else if token.isPlain '(' then conditionalGroup state offset
      else if token.isPlain '>' then return state.enter .atomic offset state.flags
      else if token.isPlain '-' || token.isPlain 'L' ||
          (token.plain?.bind flag?).isSome then flagGroup state offset token
      else fail (.unknownExtension (wording "?" ++ token.source)) (token.source.length + 1)

/-- Ends a branch. -/
def branch (state : ParseState) : ParseState :=
  { state with branches := state.branchItems :: state.branches, pieces := [] }

/-- Closes the innermost open group. -/
def close (state : ParseState) (opened : OpenGroup) (outer : List OpenGroup) : ParseState :=
  let body := state.body
  let width := body.width state.groups.width
  let around : ParseState :=
    { state with
      flags := opened.flags, branches := opened.branches, pieces := opened.pieces
      openGroups := outer }
  match opened.kind with
  | .bracket => around.pushPiece (.bracket state.items)
  | .flagged => around.push (.group none body)
  | .capture index =>
    let widths := state.groups.widths.set (index - 1) (some width)
    { around with groups := { state.groups with widths } }.push (.group (some index) body)
  | .lookAhead negated => around.push (.lookAhead negated body)
  | .lookBehind negated outerStart =>
    { around with groups := { state.groups with lookBehindStart := outerStart } }.push
      (.lookBehind negated width.1 width.2 body)
  | .atomic => around.push (.atomic body)
  | .conditional index =>
    match state.branches with
    | present :: _ =>
      around.push (.conditional index (sequence present) (sequence state.branchItems))
    | [] => around.push (.conditional index (sequence state.branchItems) .empty)

/-- A blank that a verbose expression ignores. -/
def isIgnored (c : Char) : Bool :=
  c == ' ' || c == '\t' || c == '\n' || c == '\r' || c == '\x0B' || c == '\x0C'

/-- Passes over the rest of a line. -/
def restOfLine : Scan Unit := do
  let _ ← dropLine ((← get).tokens.length + 1)
where
  /-- Takes tokens up to a line feed. -/
  dropLine : Nat → Scan Unit
    | 0 => return ()
    | fuel + 1 => do
      match ← next with
      | none => return ()
      | some token => if token.isPlain '\n' then return () else dropLine fuel

/-- What a character without a backslash adds, which stands at an offset. -/
def sign (state : ParseState) (c : Char) (offset : Nat) : Scan ParseState := do
  let flags := state.flags
  if flags.verbose && isIgnored c then return state
  else if flags.verbose && c == '#' then
    restOfLine
    return state
  else if c = '[' then return state.push (← charSet flags offset)
  else if c = '?' ∨ c = '*' ∨ c = '+' ∨ c = '\x7b' then repetition state c offset
  else if c = '.' then return state.push (.any flags.dotAll)
  else if c = '(' then group state offset
  else if c = '^' then return state.push (.anchor (.lineStart flags.multiline))
  else if c = '$' then return state.push (.anchor (.lineEnd flags.multiline))
  else return state.push (flags.char c false)

/-- What one token, which has been taken, adds. It neither ends a branch nor closes a group. -/
def step (state : ParseState) (token : Token) : Scan ParseState := do
  if token.escaped then
    return state.push (← escapedCode state.flags state.groups token.code)
  else
    match token.code.toChar? with
    | some c => sign state c token.offset
    | none => return state.push (state.flags.char token.code false)

/-- Reads tokens up to the end of the source, or to a parenthesis that closes nothing, which is not
taken. -/
def steps (state : ParseState) : Nat → Scan ParseState
  | 0 => return state
  | fuel + 1 => do
    match ← peek with
    | none => return state
    | some token =>
      if token.isPlain '|' then
        if state.isFull then fail .tooManyBranches 0
        else
          let _ ← next
          steps (branch state) fuel
      else if token.isPlain ')' then
        match state.openGroups with
        | [] => return state
        | opened :: outer =>
          let _ ← next
          steps (close state opened outer) fuel
      else
        let _ ← next
        steps (← step state token) fuel

/-- Refuses an expression that cannot be used. -/
def checkUse (flags : Flags) (regex : Regex) : Scan Unit := fun source =>
  match regex.defect? flags.unrepeated with
  | some fault => .error (.fault fault none source.text)
  | none => if regex.looksTooFarBehind then .error .lookBehindTooLong else .ok ((), source)

/-- The expression that has been read, at the end of the source. -/
def finish (state : ParseState) : Scan Pattern := do
  match state.openGroups with
  | opened :: _ => failAt opened.offset .unterminatedGroup
  | [] =>
    if state.flags.ascii && state.flags.unicode then refuse .clashingKinds
    else if (← peek).isSome then fail .unbalancedParenthesis 0
    else match state.asked.find? fun (index, _) => state.groups.count ≤ index with
      | some (index, offset) => failAt offset (.invalidGroup index)
      | none =>
        let body := state.body
        checkUse state.flags body
        return ⟨body, (body.width state.groups.width).1, state.flags.ascii⟩

end Scan

/-- Reads an expression under some options. -/
def parse (flags : Flags) (text : List CodePoint) : Except SyntaxError Pattern :=
  let read : Scan Pattern := do
    Scan.checkDangling
    let state ← Scan.steps { flags } text.length
    Scan.finish state
  (read (Source.ofText text)).map Prod.fst

end BareStrings.Regex
