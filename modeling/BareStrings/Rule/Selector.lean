import BareStrings.Regex.Parse

namespace BareStrings.Rule

open BareStrings.Text

/-- Why a selector is refused. -/
inductive SelectorError where
  | pattern (cause : Regex.SyntaxError)
  | flag (flag : CodePoint) (selector : List CodePoint)
deriving DecidableEq

/-- The wording of a selector error. -/
def SelectorError.text : SelectorError → List CodePoint
  | .pattern cause => cause.text
  | .flag letter selector =>
    wording "Invalid regular expression flag " ++ codePoints (quotedCodes [letter]) ++ wording " in " ++
      selector

/-- A selector error as it is printed. -/
def SelectorError.message (error : SelectorError) : String := printed error.text

namespace Selector

/-- Body and flags of a selector that is written as a pattern. The last slash ends the body, which
may not be empty; there may be no line feed. -/
def patternParts? (selector : List CodePoint) : Option (List CodePoint × List CodePoint) :=
  match selector with
  | [] => none
  | first :: rest =>
    let flags := (rest.reverse.takeWhile (· != CodePoint.ofChar '/')).reverse
    match rest.reverse.dropWhile (· != CodePoint.ofChar '/') with
    | [] => none
    | _ :: body =>
      if first != '/' || body.isEmpty || selector.contains '\n' then none
      else some (body.reverse, flags)

/-- Whether a selector is written as a pattern. -/
def isPattern (selector : List CodePoint) : Bool := (patternParts? selector).isSome

/-- The flags that a pattern may have. Some of them change nothing. -/
def knownFlags : List CodePoint := codePoints ['i', 'm', 's', 'g', 'u', 'd', 'v', 'y']

/-- The body with the flag for a match at the very start taken into account. -/
def anchoredBody (body flags : List CodePoint) : List CodePoint :=
  if flags.contains 'y' then wording "\\A(?:" ++ body ++ wording ")" else body

/-- The options that flags ask for. -/
def optionsOf (flags : List CodePoint) : Regex.Flags :=
  { ignoreCase := flags.contains 'i', multiline := flags.contains 'm',
    dotAll := flags.contains 's' }

/-- The expression that matches a name and nothing else, but for one line feed behind it. -/
def exactSource (name : List CodePoint) : List CodePoint :=
  .ofChar '^' :: (Regex.escapeText name ++ [.ofChar '$'])

/-- The expression of a selector. A name selects by itself. -/
def compile (selector : List CodePoint) : Except SelectorError Regex.Pattern :=
  match patternParts? selector with
  | none => (Regex.parse {} (exactSource selector)).mapError .pattern
  | some (body, flags) =>
    match flags.find? fun flag => !knownFlags.contains flag with
    | some flag => .error (.flag flag selector)
    | none => (Regex.parse (optionsOf flags) (anchoredBody body flags)).mapError .pattern

end Selector

end BareStrings.Rule
