import BareStrings.Markup.Walk
import BareStrings.Rule.Targets
import BareStrings.Rule.Whitelist

namespace BareStrings.Rule

open BareStrings.Markup BareStrings.Text

/-- Where a bare string stands: in text, or in the value of an attribute or directive. -/
inductive FindingKind where
  | inText
  | inAttribute
deriving DecidableEq

/-- A bare string: what it stands in, where, and the name of the attribute or directive that owns
it. -/
structure BareString where
  kind : FindingKind
  position : Position
  owner : Option (List Char)
deriving DecidableEq

/-- Events in an order that no tree has. -/
inductive TraversalError where
  | attributeOutside
  | exitOutside
deriving DecidableEq

/-- The wording of a traversal error. -/
def TraversalError.message : TraversalError → String
  | .attributeOutside => "Attribute visited outside of any open element"
  | .exitOutside => "Element exited with no open element"

/-- Why an analysis breaks off: an event is out of order, or the attributes to check on an element
cannot be told. -/
inductive AnalysisError where
  | traversal (cause : TraversalError)
  | search (cause : Regex.MatchError)
deriving DecidableEq

/-- The wording of an analysis error. -/
def AnalysisError.message : AnalysisError → String
  | .traversal cause => cause.message
  | .search cause => cause.message

/-- An element that has been entered. -/
structure Entered where
  name : List Char
  attributes : List (List CodePoint)
deriving DecidableEq

/-- The state of an analysis: what to look for, and the elements entered and not yet left, innermost
first. -/
structure Analyzer where
  whitelist : Whitelist
  directives : List (List CodePoint)
  resolver : Resolver
  stack : List Entered

/-- The string that a bound value holds, if its expression is a string constant. -/
def stringOf? (value : BoundValue) : Option (List CodePoint) :=
  match value.expression with
  | some (.literal (.string codes) _) => some codes
  | _ => none

namespace Analyzer

/-- The element entered last and not yet left. -/
def current (analyzer : Analyzer) : Except TraversalError Entered :=
  match analyzer.stack with
  | [] => .error .attributeOutside
  | entered :: _ => .ok entered

/-- What a plain attribute with a value amounts to inside an element with the given attributes to
check. -/
def checkPlain (whitelist : Whitelist) (names : List (List CodePoint)) (rawName : List Char)
    (value : AttributeValue) : List BareString :=
  if names.contains (codePoints rawName) && whitelist.isBare (codePoints value.text) then
    [⟨.inAttribute, value.position, some rawName⟩]
  else []

/-- What a directive with a value amounts to. Only string constants count. -/
def checkDirective (whitelist : Whitelist) (directives : List (List CodePoint)) (key : DirectiveKey)
    (value : BoundValue) : List BareString :=
  if directives.contains (codePoints key.directiveName) && (stringOf? value).any whitelist.isBare then
    [⟨.inAttribute, value.position, some key.directiveName⟩]
  else []

/-- What a text amounts to. -/
def checkText (whitelist : Whitelist) (text : List Char) (position : Position) :
    List BareString :=
  if whitelist.isBare (codePoints text) then [⟨.inText, position, none⟩] else []

/-- Takes in an event: the state after it, and the bare strings found. -/
def step (analyzer : Analyzer) (event : Event) :
    Except AnalysisError (Analyzer × List BareString) := do
  match event with
  | .enter name =>
    let (attributes, resolver) ← (analyzer.resolver.resolve name).mapError .search
    return ({ analyzer with resolver, stack := ⟨name, attributes⟩ :: analyzer.stack }, [])
  | .exit _ =>
    match analyzer.stack with
    | [] => .error (.traversal .exitOutside)
    | _ :: stack => return ({ analyzer with stack }, [])
  | .text value position => return (analyzer, checkText analyzer.whitelist value position)
  | .interpolation .. => return (analyzer, [])
  | .attr (.plain _ none _) => return (analyzer, [])
  | .attr (.directive _ none _) => return (analyzer, [])
  | .attr (.plain rawName (some value) _) =>
    let entered ← analyzer.current.mapError .traversal
    return (analyzer, checkPlain analyzer.whitelist entered.attributes rawName value)
  | .attr (.directive key (some value) _) =>
    return (analyzer, checkDirective analyzer.whitelist analyzer.directives key value)

/-- Takes in events until one breaks off the analysis: the state and the bare strings up to there,
and the error. -/
def run (analyzer : Analyzer) : List Event → Analyzer × List BareString × Option AnalysisError
  | [] => (analyzer, [], none)
  | event :: events =>
    match analyzer.step event with
    | .error error => (analyzer, [], some error)
    | .ok (next, found) =>
      let (last, more, error) := run next events
      (last, found ++ more, error)

end Analyzer

end BareStrings.Rule
