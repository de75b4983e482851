import BareStrings.Rule.Analyzer

namespace BareStrings.Rule

open BareStrings.Markup BareStrings.Regex BareStrings.Text

/-- What is looked for. -/
structure Criteria where
  whitelist : Whitelist
  directives : List (List CodePoint)
  targets : Targets

namespace Criteria

/-- The bare string of an attribute, if it has one, where the attributes to check have the given
names. A plain attribute must be one of those, and a directive must bind a string constant. -/
def ofAttribute (criteria : Criteria) (names : List (List CodePoint)) : Attribute → List BareString
  | .plain rawName (some value) _ =>
    if codePoints rawName ∈ names ∧ criteria.whitelist.isBare (codePoints value.text) then
      [⟨.inAttribute, value.position, some rawName⟩]
    else []
  | .directive key (some ⟨some (.literal (.string codes) _), position⟩) _ =>
    if codePoints key.directiveName ∈ criteria.directives ∧ criteria.whitelist.isBare codes then
      [⟨.inAttribute, position, some key.directiveName⟩]
    else []
  | _ => []

mutual

/-- The bare strings of a node and all below it. The attributes to check on an element go by its own
name. -/
def ofNode (criteria : Criteria) : Node → Except MatchError (List BareString)
  | .element tag children => do
    let names ← criteria.targets.ofTag tag.rawName
    return tag.attributes.flatMap (criteria.ofAttribute names) ++ (← criteria.ofNodes children)
  | .text value position =>
    return if criteria.whitelist.isBare (codePoints value) then [⟨.inText, position, none⟩] else []
  | .interpolation .. => return []

/-- The bare strings of nodes one after another. -/
def ofNodes (criteria : Criteria) : List Node → Except MatchError (List BareString)
  | [] => return []
  | node :: nodes => return (← criteria.ofNode node) ++ (← criteria.ofNodes nodes)

end

/-- The bare strings of a tree. -/
def ofTree (criteria : Criteria) : Tree → Except MatchError (List BareString)
  | .document root => criteria.ofNodes root.children
  | .node root => criteria.ofNode root

end Criteria

end BareStrings.Rule
