import BareStrings.Rule.Options
import BareStrings.Rule.Selector
import BareStrings.Rule.TagName

namespace BareStrings.Rule

open BareStrings.Regex BareStrings.Text

/-- Attribute names by exact tag names, and by patterns. -/
structure Targets where
  exact : List (List CodePoint × List (List CodePoint))
  patterns : List (Pattern × List (List CodePoint))

namespace Targets

/-- No attributes on any tag. -/
def empty : Targets := ⟨[], []⟩

/-- Enters the attributes for one selector. -/
def add (targets : Targets) (selector : List CodePoint) (names : List (List CodePoint)) :
    Except SelectorError Targets := do
  if Selector.isPattern selector then
    return { targets with patterns := targets.patterns ++ [(← Selector.compile selector, names)] }
  else return { targets with exact := targets.exact ++ [(selector, names)] }

/-- The targets of a table by selectors. The first selector that is refused decides the error. -/
def ofAttributes (attributes : List (List CodePoint × List (List CodePoint))) :
    Except SelectorError Targets :=
  attributes.foldlM (fun targets entry => targets.add entry.1 entry.2) empty

/-- The attributes that a pattern gives to a name. -/
def ofPattern (name : List Char) (entry : Pattern × List (List CodePoint)) :
    Except MatchError (List (List CodePoint)) :=
  return if ← entry.1.occursIn (codePoints name) then entry.2 else []

/-- The attributes that a name gets by itself. -/
def ofName (targets : Targets) (name : List Char) : Except MatchError (List (List CodePoint)) :=
  return (targets.exact.lookup (codePoints name)).getD [] ++
    (← targets.patterns.mapM (ofPattern name)).flatten

/-- The attributes to check on a tag. The Pascal case of its name is looked up too, but not the
Pascal case of that. -/
def ofTag (targets : Targets) (tag : List Char) : Except MatchError (List (List CodePoint)) := do
  let names ← targets.ofName tag
  let pascal := TagName.pascalCase tag
  if TagName.isKebabCase tag && pascal != tag then return names ++ (← targets.ofName pascal)
  else return names

end Targets

/-- Targets together with what has been found for tags so far, in the order of the questions. -/
structure Resolver where
  targets : Targets
  known : List (List Char × List (List CodePoint))

namespace Resolver

/-- A resolver that has been asked nothing. -/
def ofTargets (targets : Targets) : Resolver := ⟨targets, []⟩

/-- The attributes to check on a tag, and the resolver that remembers them. -/
def resolve (resolver : Resolver) (tag : List Char) :
    Except MatchError (List (List CodePoint) × Resolver) := do
  match resolver.known.lookup tag with
  | some names => return (names, resolver)
  | none =>
    let names ← resolver.targets.ofTag tag
    return (names, { resolver with known := resolver.known ++ [(tag, names)] })

end Resolver

end BareStrings.Rule
