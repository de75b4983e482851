import BareStrings.Config.Key
import BareStrings.Config.Shown
import BareStrings.Rule.Options

namespace BareStrings.Config

open BareStrings.Number BareStrings.Rule BareStrings.Text

/-- The error that tells a value, or the one that comes up if it cannot be told. -/
def telling (collections : Array Collection) (value : Value)
    (error : List Char → OptionsError) : OptionsError :=
  match value.shown? collections with
  | some shown => error shown
  | none => .integerTooLong

/-- The texts of a list in which each occurs once. `seen` are the ones before. -/
def distinctTexts (collections : Array Collection) (label : List Char)
    (seen : List (List CodePoint)) : List Value → Except OptionsError (List (List CodePoint))
  | [] => .ok []
  | .text entry :: rest => do
    if seen.contains entry then throw (.duplicateEntry label entry)
    else return entry :: (← distinctTexts collections label (entry :: seen) rest)
  | entry :: _ => .error (telling collections entry (.entryNotText label))

/-- A value that must be a list of different texts. -/
def textList (collections : Array Collection) (label : List Char) (value : Value) :
    Except OptionsError (List (List CodePoint)) :=
  match value.collection? collections with
  | some (.list items) => distinctTexts collections label [] items
  | _ => .error (.notTextList label)

/-- A small letter of ASCII. -/
def isSmallLetter (code : CodePoint) : Bool := 'a' ≤ code && code ≤ 'z'

/-- Whether a text has the form of a selector: no blanks, or slashes around anything but line feeds
and small letters behind them. -/
def isSelectorForm (text : List CodePoint) : Bool :=
  let slash := CodePoint.ofChar '/'
  let letters := text.reverse.takeWhile isSmallLetter
  let body := text.reverse.drop letters.length
  let isSlashed := body.head? == some slash && 2 ≤ body.length && text.head? == some slash &&
    !text.contains '\n'
  !text.isEmpty && text.all (fun code => !isBlankCode code) || isSlashed

/-- Whether a text may select tags. One line feed at its end is passed over. -/
def isSelector (text : List CodePoint) : Bool :=
  isSelectorForm text || text.getLast? == some (CodePoint.ofChar '\n') && isSelectorForm text.dropLast

/-- Refuses a selector whose pattern is no regular expression. Patterns beyond the limits of
expressions are not blamed on the selector. -/
def checkPattern (selector : List CodePoint) : Except OptionsError Unit :=
  if Selector.isPattern selector then
    match Selector.compile selector with
    | .ok _ => .ok ()
    | .error (.pattern .countTooLarge) => .error (.patternTooLarge .countTooLarge)
    | .error (.pattern .lookBehindTooLong) => .error (.patternTooLarge .lookBehindTooLong)
    | .error cause => .error (.invalidPattern selector cause)
  else .ok ()

/-- The label of a selector's attribute names. -/
def namesLabel (selector : List CodePoint) : List Char :=
  "attributes[".toList ++ quotedCodes selector ++ [']']

/-- One entry of the table of attributes. -/
def attributeEntry (collections : Array Collection) (entry : Value × Value) :
    Except OptionsError (List CodePoint × List (List CodePoint)) := do
  match entry.1 with
  | .text selector =>
    if !isSelector selector then throw (telling collections entry.1 .invalidSelector)
    else
      checkPattern selector
      return (selector, ← textList collections (namesLabel selector) entry.2)
  | _ => throw (telling collections entry.1 .invalidSelector)

/-- The table of attributes. -/
def attributeTable (collections : Array Collection) (value : Value) :
    Except OptionsError (List (List CodePoint × List (List CodePoint))) :=
  match value.collection? collections with
  | some (.mapping entries) => entries.mapM (attributeEntry collections)
  | _ => .error .attributesNotMapping

/-- What the name of every directive begins with. -/
def directiveStart : List CodePoint := wording "v-"

/-- The directives, whose names must begin as directives do. -/
def directiveList (collections : Array Collection) (value : Value) :
    Except OptionsError (List (List CodePoint)) := do
  let names ← textList collections "directives".toList value
  match names.find? fun name => !directiveStart.isPrefixOf name with
  | some name => throw (.directiveName name)
  | none => return names

/-- The texts that need no translation. -/
def whitelist (collections : Array Collection) (value : Value) :
    Except OptionsError (List (List CodePoint)) :=
  textList collections "whitelist".toList value

/-- What is under a key, read in its way, or a default if the key is missing. -/
def entryOr {α : Type} (entries : List (Value × Value)) (name : List Char) (fallback : α)
    (read : Value → Except OptionsError α) : Except OptionsError α :=
  match Value.lookup? name entries with
  | some value => read value
  | none => .ok fallback

/-- The options that the entries of a mapping give. Missing keys have their defaults. -/
def optionsOfEntries (collections : Array Collection) (entries : List (Value × Value)) :
    Except OptionsError Options := do
  checkKeys collections (entries.map (·.1))
  let whitelist ← entryOr entries "whitelist".toList Options.defaultWhitelist
    (whitelist collections)
  let attributes ← entryOr entries "attributes".toList Options.defaultAttributes
    (attributeTable collections)
  let directives ← entryOr entries "directives".toList Options.defaultDirectives
    (directiveList collections)
  return { whitelist, attributes, directives }

/-- Whether a value counts as none: nothing, zero, or what holds nothing. -/
def isVoid (collections : Array Collection) (value : Value) : Bool :=
  match value, value.collection? collections with
  | _, some (.list items) => items.isEmpty
  | _, some (.mapping entries) => entries.isEmpty
  | _, some (.set members) => members.isEmpty
  | .text codes, _ => codes.isEmpty
  | .bytes content, _ => content.isEmpty
  | .null, _ => true
  | value, _ => value.number?.any (Point.isSame (.ofInt 0))

/-- The options that data give, or the defaults if the data count as none. Only a mapping has values
for its keys, so other data with no unknown key are refused after their keys. -/
def optionsOf (data : Data) : Except OptionsError Options := do
  if isVoid data.collections data.root then return Options.default
  match data.root.collection? data.collections with
  | some (.mapping entries) => optionsOfEntries data.collections entries
  | _ =>
    checkKeys data.collections (← keysOf data.collections data.root)
    throw (.keysWithoutValues (data.root.kind data.collections))

end BareStrings.Config
