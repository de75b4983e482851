import BareStrings.Proofs.Markup.Parts
import BareStrings.Proofs.Regex.Capture
import BareStrings.Proofs.Rule.Targets
import BareStrings.Rule.Findings

namespace BareStrings

open BareStrings.Markup BareStrings.Regex BareStrings.Text

namespace Markup

/-- The parts of a tree. -/
def Tree.parts : Tree → List Part
  | .document root => root.parts
  | .node root => root.parts

end Markup

namespace Rule

namespace Targets

variable {targets : Targets}

/-- The attributes to check can be told on every element that the parts of a tree begin. -/
def Tell (targets : Targets) (parts : List Part) : Prop :=
  ∀ tag, .startTag tag ∈ parts → ∃ names, targets.ofTag tag.rawName = .ok names

private theorem tell_append {first second : List Part} :
    targets.Tell (first ++ second) ↔ targets.Tell first ∧ targets.Tell second := by
  simp only [Tell, List.mem_append, or_imp, forall_and]

private theorem tell_startTag {tag : Tag} {parts : List Part} :
    targets.Tell (.startTag tag :: parts) ↔
      (∃ names, targets.ofTag tag.rawName = .ok names) ∧ targets.Tell parts := by
  simp [Tell, or_imp, forall_and]

/-- Selectors that capture nothing give attributes for every name. -/
theorem exists_ofName (hfree : ∀ entry ∈ targets.patterns, entry.1.regex.captures = false)
    (name : List Char) : ∃ names, targets.ofName name = .ok names :=
  exists_ofName_iff.2 fun entry hentry => Pattern.exists_occursIn (hfree entry hentry) (codePoints name)

/-- Patterns that note no groups tell the attributes to check on any tag. -/
theorem exists_ofTag (hfree : ∀ entry ∈ targets.patterns, entry.1.regex.captures = false)
    (tag : List Char) : ∃ names, targets.ofTag tag = .ok names := by
  obtain ⟨names, hnames⟩ := exists_ofName hfree tag
  obtain ⟨more, hmore⟩ := exists_ofName hfree (TagName.pascalCase tag)
  rw [ofTag, hnames]
  simp only [hmore, bind, Except.bind]
  split
  · exact ⟨names ++ more, rfl⟩
  · exact ⟨names, rfl⟩

end Targets

namespace Criteria

variable {criteria : Criteria}

mutual

/-- A node has findings exactly if the targets tell the attributes of all its tags. -/
private theorem exists_ofNode_iff (node : Node) :
    (∃ found, criteria.ofNode node = .ok found) ↔ criteria.targets.Tell node.parts := by
  match node with
  | .text value position => simp [ofNode, Node.parts, Targets.Tell, pure, Except.pure]
  | .interpolation expression position =>
    simp [ofNode, Node.parts, Targets.Tell, pure, Except.pure]
  | .element tag children =>
    have hchildren := exists_ofNodes_iff children
    rw [ofNode, Node.parts, Targets.tell_startTag, ← hchildren]
    simp only [bind_eq_ok_iff]
    constructor
    · rintro ⟨_, names, hnames, inside, hinside, _⟩
      exact ⟨⟨names, hnames⟩, inside, hinside⟩
    · rintro ⟨⟨names, hnames⟩, inside, hinside⟩
      exact ⟨_, names, hnames, inside, hinside, rfl⟩

/-- The same for a list of nodes. -/
private theorem exists_ofNodes_iff (nodes : List Node) :
    (∃ found, criteria.ofNodes nodes = .ok found) ↔ criteria.targets.Tell (nodesParts nodes) := by
  match nodes with
  | [] => simp [ofNodes, nodesParts, Targets.Tell, pure, Except.pure]
  | node :: nodes =>
    have hnode := exists_ofNode_iff node
    have hnodes := exists_ofNodes_iff nodes
    rw [ofNodes, nodesParts, Targets.tell_append, ← hnode, ← hnodes]
    simp only [bind_eq_ok_iff]
    constructor
    · rintro ⟨_, first, hfirst, later, hlater, _⟩
      exact ⟨⟨first, hfirst⟩, later, hlater⟩
    · rintro ⟨⟨first, hfirst⟩, later, hlater⟩
      exact ⟨_, first, hfirst, later, hlater, rfl⟩

end

/-- A tree has bare strings that can be told exactly if the attributes to check can be told on all of
its elements. -/
theorem exists_ofTree_iff (criteria : Criteria) (tree : Tree) :
    (∃ found, criteria.ofTree tree = .ok found) ↔ criteria.targets.Tell tree.parts := by
  cases tree with
  | document root => exact exists_ofNodes_iff root.children
  | node root => exact exists_ofNode_iff root

end Criteria

end Rule

end BareStrings
