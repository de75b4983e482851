import BareStrings.Proofs.Rule.Resolver
import BareStrings.Rule.Findings

namespace BareStrings.Rule

open BareStrings.Markup BareStrings.Regex BareStrings.Text

namespace Analyzer

/-- What an analyzer looks for, without what it has met and remembered. -/
def criteria (analyzer : Analyzer) : Criteria :=
  ⟨analyzer.whitelist, analyzer.directives, analyzer.resolver.targets⟩

/-- A run over events that are all in order: the state behind them and what has been found. -/
def Finds (analyzer : Analyzer) (events : List Event) (found : List BareString)
    (last : Analyzer) : Prop :=
  analyzer.run events = (last, found, none)

private theorem finds_nil (analyzer : Analyzer) : analyzer.Finds [] [] analyzer := rfl

/-- A single step finds what it says. -/
private theorem Finds.of_step {analyzer next : Analyzer} {event : Event} {found : List BareString}
    (hstep : analyzer.step event = .ok (next, found)) : analyzer.Finds [event] found next := by
  simp [Finds, run, hstep]

/-- A run over events of which one asks for the attributes of an element that cannot be told. -/
def BreaksOff (analyzer : Analyzer) (events : List Event) (cause : MatchError) : Prop :=
  ∃ last found, analyzer.run events = (last, found, some (.search cause))

/-- Behind a run over events that are all in order the run goes on from the state that it left. -/
theorem Finds.run_append {first middle : Analyzer} {earlier : List Event} {found : List BareString}
    (hearlier : first.Finds earlier found middle) (later : List Event) :
    first.run (earlier ++ later) =
      ((middle.run later).1, found ++ (middle.run later).2.1, (middle.run later).2.2) := by
  induction earlier generalizing first found with
  | nil =>
    simp only [Finds, run, Prod.mk.injEq] at hearlier
    obtain ⟨rfl, rfl, _⟩ := hearlier
    rfl
  | cons event events ih =>
    unfold Finds run at hearlier
    split at hearlier
    · cases hearlier
    · rename_i next reported hstep
      simp only [Prod.mk.injEq] at hearlier
      obtain ⟨hmiddle, rfl, hnone⟩ := hearlier
      have hrest : next.Finds events (next.run events).2.1 middle := by
        rw [Finds, ← hmiddle, ← hnone]
      simp [run, hstep, ih hrest, List.append_assoc]

/-- One run after another is a run over all the events, and reports everything that either does. -/
theorem Finds.append {first middle last : Analyzer} {earlier later : List Event}
    {found more : List BareString} (hearlier : first.Finds earlier found middle)
    (hlater : middle.Finds later more last) : first.Finds (earlier ++ later) (found ++ more) last := by
  rw [Finds, hearlier.run_append, hlater]

private theorem Finds.breaksOff {first middle : Analyzer} {earlier later : List Event}
    {found : List BareString} {cause : MatchError} (hearlier : first.Finds earlier found middle)
    (hlater : middle.BreaksOff later cause) : first.BreaksOff (earlier ++ later) cause := by
  obtain ⟨last, more, hrun⟩ := hlater
  exact ⟨last, found ++ more, by rw [hearlier.run_append, hrun]⟩

/-- What breaks off a run is not mended by further events. -/
theorem BreaksOff.append {analyzer : Analyzer} {earlier : List Event} {cause : MatchError}
    (hearlier : analyzer.BreaksOff earlier cause) (later : List Event) :
    analyzer.BreaksOff (earlier ++ later) cause := by
  obtain ⟨last, found, hrun⟩ := hearlier
  refine ⟨last, found, ?_⟩
  induction earlier generalizing analyzer found with
  | nil => cases hrun
  | cons event events ih =>
    unfold run at hrun
    split at hrun
    · rename_i error hstep
      rw [List.cons_append, run, hstep]
      exact hrun
    · rename_i next reported hstep
      simp only [Prod.mk.injEq] at hrun
      obtain ⟨hlast, rfl, herror⟩ := hrun
      have hnext : next.run events = (last, (next.run events).2.1, some (.search cause)) := by
        rw [← hlast, ← herror]
      have hrest := ih _ hnext
      rw [List.cons_append, run, hstep]
      simp only [hrest]

/-- The state inside an element: the element on top of the stack, with the attributes to check on
it. -/
def inside (analyzer : Analyzer) (tag : List Char) (names : List (List CodePoint)) (resolver : Resolver) :
    Analyzer :=
  { analyzer with resolver, stack := ⟨tag, names⟩ :: analyzer.stack }

private theorem finds_enter (analyzer : Analyzer) {tag : List Char} {names : List (List CodePoint)}
    {resolver : Resolver} (hresolve : analyzer.resolver.resolve tag = .ok (names, resolver)) :
    analyzer.Finds [.enter tag] [] (analyzer.inside tag names resolver) := by
  apply Finds.of_step
  simp only [step, hresolve]
  rfl

private theorem breaksOff_enter (analyzer : Analyzer) {tag : List Char} {cause : MatchError}
    (hresolve : analyzer.resolver.resolve tag = .error cause) :
    analyzer.BreaksOff [.enter tag] cause := by
  have hstep : analyzer.step (.enter tag) = .error (.search cause) := by
    simp only [step, hresolve]
    rfl
  exact ⟨analyzer, [], by rw [run, hstep]⟩

private theorem finds_exit (analyzer : Analyzer) (names : List (List CodePoint)) (resolver : Resolver)
    (tag : List Char) :
    (analyzer.inside tag names resolver).Finds [.exit tag] [] { analyzer with resolver } :=
  Finds.of_step rfl

/-- The check of a plain attribute reports what the criteria say about it. -/
theorem checkPlain_eq (criteria : Criteria) (names : List (List CodePoint)) (rawName : List Char)
    (value : AttributeValue) (position : Position) :
    checkPlain criteria.whitelist names rawName value =
      criteria.ofAttribute names (.plain rawName (some value) position) := by
  simp only [checkPlain, Criteria.ofAttribute, Bool.and_eq_true, List.contains_iff_mem]

/-- The check of a directive reports what the criteria say about it. -/
theorem checkDirective_eq (criteria : Criteria) (names : List (List CodePoint)) (key : DirectiveKey)
    (value : BoundValue) (position : Position) :
    checkDirective criteria.whitelist criteria.directives key value =
      criteria.ofAttribute names (.directive key (some value) position) := by
  obtain ⟨expression, place⟩ := value
  match expression with
  | none => simp [checkDirective, stringOf?, Criteria.ofAttribute]
  | some (.dynamic source) => simp [checkDirective, stringOf?, Criteria.ofAttribute]
  | some (.literal constant raw) =>
    cases constant with
    | string codes =>
      simp only [checkDirective, stringOf?, Criteria.ofAttribute, Option.any_some,
        Bool.and_eq_true, List.contains_iff_mem]
    | number value => simp [checkDirective, stringOf?, Criteria.ofAttribute]
    | boolean value => simp [checkDirective, stringOf?, Criteria.ofAttribute]
    | null => simp [checkDirective, stringOf?, Criteria.ofAttribute]

/-- Inside an element, an attribute is judged by the attributes to check there and changes nothing. -/
theorem finds_attribute (analyzer : Analyzer) (tag : List Char) (names : List (List CodePoint))
    (resolver : Resolver) (written : Attribute) :
    (analyzer.inside tag names resolver).Finds [.attr written]
      (analyzer.criteria.ofAttribute names written) (analyzer.inside tag names resolver) := by
  apply Finds.of_step
  match written with
  | .plain _ none _ => rfl
  | .directive _ none _ => rfl
  | .plain rawName (some value) position =>
    rw [← checkPlain_eq analyzer.criteria names rawName value position]
    rfl
  | .directive key (some value) position =>
    rw [← checkDirective_eq analyzer.criteria names key value position]
    rfl

private theorem finds_attributes (analyzer : Analyzer) (tag : List Char) (names : List (List CodePoint))
    (resolver : Resolver) (attributes : List Attribute) :
    (analyzer.inside tag names resolver).Finds (attributes.map .attr)
      (attributes.flatMap (analyzer.criteria.ofAttribute names))
      (analyzer.inside tag names resolver) := by
  induction attributes with
  | nil => exact finds_nil _
  | cons written attributes ih =>
    exact (finds_attribute analyzer tag names resolver written).append ih

/-- An analyzer goes over events without getting out of order, reports `found`, and is then as it was
but for what it remembers. -/
def Returns (analyzer : Analyzer) (events : List Event) (found : List BareString) : Prop :=
  ∃ resolver : Resolver, resolver.Faithful ∧ resolver.targets = analyzer.resolver.targets ∧
    analyzer.Finds events found { analyzer with resolver }

/-- An analyzer reports over events what the tree has by itself, or breaks off for the same cause. -/
def Meets (analyzer : Analyzer) (events : List Event) (result : Except MatchError (List BareString)) :
    Prop :=
  match result with
  | .ok found => analyzer.Returns events found
  | .error cause => analyzer.BreaksOff events cause

/-- What is met along two lists of events is met along them side by side. -/
private theorem Meets.append {analyzer : Analyzer} {earlier later : List Event}
    {first second : Except MatchError (List BareString)} (hearlier : analyzer.Meets earlier first)
    (hlater : ∀ resolver : Resolver, resolver.Faithful →
      resolver.targets = analyzer.resolver.targets →
      Meets { analyzer with resolver } later second) :
    analyzer.Meets (earlier ++ later) (do return (← first) ++ (← second)) := by
  cases first with
  | error cause => exact BreaksOff.append hearlier later
  | ok found =>
    obtain ⟨middle, hmiddle, htargets, hfound⟩ := hearlier
    have hrest := hlater middle hmiddle htargets
    cases second with
    | error cause => exact hfound.breaksOff hrest
    | ok more =>
      obtain ⟨last, hlast, hsame, hmore⟩ := hrest
      exact ⟨last, hlast, hsame.trans htargets, hfound.append hmore⟩

/-- The walk over an element whose attributes to check can be told, given the walk over its
children. -/
theorem meets_element (analyzer : Analyzer) {tag : Tag} {names : List (List CodePoint)} {inner : Resolver}
    (hresolve : analyzer.resolver.resolve tag.rawName = .ok (names, inner))
    (htargets : inner.targets = analyzer.resolver.targets) {events : List Event}
    {result : Except MatchError (List BareString)}
    (hinside : (analyzer.inside tag.rawName names inner).Meets events result) :
    analyzer.Meets
      (.enter tag.rawName :: (tag.attributes.map .attr ++ (events ++ [.exit tag.rawName])))
      (do return tag.attributes.flatMap (analyzer.criteria.ofAttribute names) ++ (← result)) := by
  have henter := finds_enter analyzer hresolve
  have hattributes := finds_attributes analyzer tag.rawName names inner tag.attributes
  cases result with
  | error cause => exact henter.breaksOff (hattributes.breaksOff (BreaksOff.append hinside _))
  | ok found =>
    obtain ⟨last, hlast, hsame, hchildren⟩ := hinside
    have hexit := finds_exit analyzer names last tag.rawName
    refine ⟨last, hlast, hsame.trans htargets, ?_⟩
    simpa using henter.append (hattributes.append (hchildren.append hexit))

mutual

/-- The walk over a node, from any state of the stack and any faithful memory. -/
theorem meets_events (analyzer : Analyzer) (hfaithful : analyzer.resolver.Faithful) (node : Node) :
    analyzer.Meets node.events (analyzer.criteria.ofNode node) := by
  match node with
  | .text value position =>
    refine ⟨analyzer.resolver, hfaithful, rfl, Finds.of_step ?_⟩
    rfl
  | .interpolation expression position =>
    exact ⟨analyzer.resolver, hfaithful, rfl, Finds.of_step rfl⟩
  | .element tag children =>
    rw [Node.events, Criteria.ofNode]
    cases hnames : analyzer.criteria.targets.ofTag tag.rawName with
    | error cause =>
      exact (breaksOff_enter analyzer (hfaithful.resolve_eq_error hnames)).append _
    | ok names =>
      obtain ⟨inner, hresolve, hinner, htargets⟩ := hfaithful.resolve_eq_ok hnames
      have hchildren :=
        meets_nodesEvents (analyzer.inside tag.rawName names inner) hinner children
      have hcriteria : (analyzer.inside tag.rawName names inner).criteria = analyzer.criteria := by
        simp only [criteria, inside, htargets]
      rw [hcriteria] at hchildren
      exact meets_element analyzer hresolve htargets hchildren

/-- The walk over nodes one after another. -/
theorem meets_nodesEvents (analyzer : Analyzer) (hfaithful : analyzer.resolver.Faithful)
    (nodes : List Node) : analyzer.Meets (nodesEvents nodes) (analyzer.criteria.ofNodes nodes) := by
  match nodes with
  | [] => exact ⟨analyzer.resolver, hfaithful, rfl, finds_nil _⟩
  | node :: nodes =>
    apply (meets_events analyzer hfaithful node).append
    intro resolver hresolver htargets
    have hrest := meets_nodesEvents { analyzer with resolver } hresolver nodes
    simpa only [criteria, htargets] using hrest

end

/-- The walk over a whole tree. -/
theorem meets_treeEvents (analyzer : Analyzer) (hfaithful : analyzer.resolver.Faithful)
    (tree : Tree) : analyzer.Meets tree.events (analyzer.criteria.ofTree tree) := by
  cases tree with
  | document root => exact meets_nodesEvents analyzer hfaithful root.children
  | node root => exact meets_events analyzer hfaithful root

end Analyzer

end BareStrings.Rule
