import BareStrings.Proofs.Rule.Scan
import BareStrings.Rule.Callback

namespace BareStrings

open BareStrings.Markup BareStrings.Regex BareStrings.Text

namespace Markup.Event

/-- An element is entered. -/
def isEnter : Event → Bool
  | .enter _ => true
  | _ => false

/-- An element is left. -/
def isExit : Event → Bool
  | .exit _ => true
  | _ => false

/-- The names of the elements that are entered and not left, innermost first, behind one more event. -/
def openNames (names : List (List Char)) : Event → List (List Char)
  | .enter name => name :: names
  | .exit _ => names.tail
  | _ => names

end Markup.Event

namespace Rule

namespace Session

/-- The names of the elements that events enter and do not leave, innermost first. -/
def unclosed (events : List Event) : List (List Char) := events.foldl Event.openNames []

/-- The state of a session that looks for something, by the events that it has completed and the elements
that these have entered and not left. -/
structure Follows (goal : Criteria) (events : List Event) (session : Session) : Prop where
  criteria : session.analyzer.criteria = goal
  faithful : session.analyzer.resolver.Faithful
  names : session.analyzer.stack.map Entered.name = unclosed events
  attributes : ∀ entered ∈ session.analyzer.stack,
    goal.targets.ofTag entered.name = .ok entered.attributes
  depth : session.analyzer.stack.length + events.countP Event.isExit = events.countP Event.isEnter

end Session

namespace Callback

variable (session : Session)

/-- Resolving a tag gives what the resolver does, and keeps what it remembers. -/
private theorem run_resolve (tag : List Char) :
    (resolve tag).run session =
      match session.analyzer.resolver.resolve tag with
      | .ok (names, resolver) => .ok names { session with analyzer.resolver := resolver }
      | .error cause => .error (.search cause) session := by
  unfold Resolver.resolve
  cases hknown : session.analyzer.resolver.known.lookup tag with
  | some names =>
    simp only [resolve, EStateM.run_bind, EStateM.run_get, hknown]
    rfl
  | none =>
    simp only [resolve, EStateM.run_bind, EStateM.run_get, hknown]
    cases session.analyzer.resolver.targets.ofTag tag <;> rfl

/-- The callback of an attribute inside an element. -/
theorem run_take_plain (rawName : List Char) (value : AttributeValue) (position : Position)
    {entered : Entered} {stack : List Entered} (hstack : session.analyzer.stack = entered :: stack) :
    (take (.attr (.plain rawName (some value) position))).run session =
      .ok () (session.add
        (Analyzer.checkPlain session.analyzer.whitelist entered.attributes rawName value)) := by
  by_cases hnamed : codePoints rawName ∈ entered.attributes
  · by_cases hbare : session.analyzer.whitelist.isBare (codePoints value.text) = true
    · simp [take, current, report, hstack, Analyzer.checkPlain, hnamed, hbare]
    · simp [take, current, hstack, Analyzer.checkPlain, hnamed, hbare]
  · simp [take, current, hstack, Analyzer.checkPlain, hnamed]

/-- Taking in a directive adds what the check of it finds. -/
private theorem run_take_directive (key : DirectiveKey) (value : BoundValue) (position : Position) :
    (take (.attr (.directive key (some value) position))).run session =
      .ok () (session.add (Analyzer.checkDirective session.analyzer.whitelist
        session.analyzer.directives key value)) := by
  by_cases hnamed : codePoints key.directiveName ∈ session.analyzer.directives
  · cases hstring : stringOf? value with
    | none => simp [take, Analyzer.checkDirective, hnamed, hstring]
    | some codes =>
      by_cases hbare : session.analyzer.whitelist.isBare codes = true
      · simp [take, report, Analyzer.checkDirective, hnamed, hstring, hbare]
      · simp [take, Analyzer.checkDirective, hnamed, hstring, hbare]
  · simp [take, Analyzer.checkDirective, hnamed]

private theorem run_take_text (value : List Char) (position : Position) :
    (take (.text value position)).run session =
      .ok () (session.add (Analyzer.checkText session.analyzer.whitelist value position)) := by
  by_cases hbare : session.analyzer.whitelist.isBare (codePoints value) = true
  · simp [take, report, Analyzer.checkText, hbare]
  · simp [take, Analyzer.checkText, hbare]

/-- A callback does what a step of the analyzer does. One that breaks off has changed nothing. -/
theorem run_take (event : Event) :
    (take event).run session =
      match session.analyzer.step event with
      | .ok (next, found) => .ok () ({ session with analyzer := next }.add found)
      | .error cause => .error cause session := by
  match event with
  | .enter name =>
    simp only [take, push, EStateM.run_bind, run_resolve, Analyzer.step]
    cases session.analyzer.resolver.resolve name with
    | error cause => rfl
    | ok found => exact congrArg (EStateM.Result.ok ()) (Session.add_nil _).symm
  | .exit name =>
    cases hstack : session.analyzer.stack with
    | nil => simp [take, pop, Analyzer.step, hstack]
    | cons entered stack => simp [take, pop, Analyzer.step, hstack, pure, Except.pure]
  | .text value position => exact run_take_text session value position
  | .interpolation expression position => exact congrArg (EStateM.Result.ok ()) (Session.add_nil session).symm
  | .attr (.plain _ none _) => exact congrArg (EStateM.Result.ok ()) (Session.add_nil session).symm
  | .attr (.directive _ none _) => exact congrArg (EStateM.Result.ok ()) (Session.add_nil session).symm
  | .attr (.plain rawName (some value) position) =>
    cases hstack : session.analyzer.stack with
    | nil =>
      simp [take, current, Analyzer.step, Analyzer.current, hstack]
      rfl
    | cons entered stack =>
      rw [run_take_plain session rawName value position hstack, Analyzer.step, Analyzer.current, hstack]
      rfl
  | .attr (.directive key (some value) position) =>
    exact run_take_directive session key value position

end Callback

namespace Analyzer

variable {analyzer next : Analyzer} {event : Event} {found : List BareString} {cause : AnalysisError}

/-- Only three things break off a step: to leave an element outside of all, to ask for the attributes to check
there, and to enter one whose attributes to check cannot be told. -/
theorem step_eq_error_iff :
    analyzer.step event = .error cause ↔
      (∃ name, event = .exit name ∧ analyzer.stack = [] ∧ cause = .traversal .exitOutside) ∨
      (∃ rawName value position, event = .attr (.plain rawName (some value) position) ∧
        analyzer.stack = [] ∧ cause = .traversal .attributeOutside) ∨
      ∃ name why, event = .enter name ∧ analyzer.resolver.resolve name = .error why ∧
        cause = .search why := by
  match event with
  | .enter name =>
    cases hresolve : analyzer.resolver.resolve name with
    | error why =>
      have hstep : analyzer.step (.enter name) = .error (.search why) := by
        simp only [step, hresolve]
        rfl
      rw [hstep, Except.error.injEq]
      constructor
      · rintro rfl
        exact .inr (.inr ⟨name, why, rfl, hresolve, rfl⟩)
      · rintro (⟨_, hother, _⟩ | ⟨_, _, _, hother, _⟩ | ⟨_, _, hname, hcause, rfl⟩)
        · cases hother
        · cases hother
        · cases hname
          rw [Except.error.inj (hresolve.symm.trans hcause)]
    | ok found => simp [step, hresolve, Except.mapError, bind, Except.bind, pure, Except.pure]
  | .exit name => cases hstack : analyzer.stack <;> simp [step, hstack, pure, Except.pure, eq_comm]
  | .text value position => simp [step, pure, Except.pure]
  | .interpolation expression position => simp [step, pure, Except.pure]
  | .attr (.plain _ none _) => simp [step, pure, Except.pure]
  | .attr (.directive _ none _) => simp [step, pure, Except.pure]
  | .attr (.directive _ (some _) _) => simp [step, pure, Except.pure]
  | .attr (.plain rawName (some value) position) =>
    cases hstack : analyzer.stack <;>
      simp [step, current, hstack, Except.mapError, bind, Except.bind, pure, Except.pure, eq_comm]

/-- An attribute changes nothing, and is judged by the attributes to check on the innermost element. Outside
of all elements only a directive can be taken in, which is judged without them. -/
theorem step_attribute {written : Attribute} (hstep : analyzer.step (.attr written) = .ok (next, found)) :
    next = analyzer ∧ found = analyzer.criteria.ofAttribute
      ((analyzer.stack.head?.map Entered.attributes).getD []) written := by
  match written with
  | .plain _ none _ =>
    cases hstep
    exact ⟨rfl, rfl⟩
  | .directive _ none _ =>
    cases hstep
    exact ⟨rfl, rfl⟩
  | .plain rawName (some value) position =>
    obtain ⟨entered, hcurrent, hstep⟩ := bind_eq_ok_iff.1 hstep
    cases hstack : analyzer.stack with
    | nil =>
      rw [current, hstack] at hcurrent
      cases hcurrent
    | cons innermost stack =>
      rw [current, hstack] at hcurrent
      cases hcurrent
      cases hstep
      exact ⟨rfl, checkPlain_eq analyzer.criteria _ rawName value position⟩
  | .directive key (some value) position =>
    cases hstep
    exact ⟨rfl, checkDirective_eq analyzer.criteria _ key value position⟩

/-- A step that is done has entered an element, left the innermost one, or changed nothing. -/
theorem step_cases (hstep : analyzer.step event = .ok (next, found)) :
    (∃ name names resolver, event = .enter name ∧
      analyzer.resolver.resolve name = .ok (names, resolver) ∧
        next = analyzer.inside name names resolver) ∨
    (∃ name entered stack, event = .exit name ∧ analyzer.stack = entered :: stack ∧
      next = { analyzer with stack }) ∨
    (event.isEnter = false ∧ event.isExit = false ∧ next = analyzer) := by
  match event with
  | .enter name =>
    cases hresolve : analyzer.resolver.resolve name with
    | error why =>
      simp only [step, hresolve] at hstep
      cases hstep
    | ok found =>
      simp only [step, hresolve] at hstep
      cases hstep
      exact .inl ⟨name, found.1, found.2, rfl, hresolve, rfl⟩
  | .exit name =>
    cases hstack : analyzer.stack with
    | nil =>
      simp only [step, hstack] at hstep
      cases hstep
    | cons entered stack =>
      simp only [step, hstack] at hstep
      cases hstep
      exact .inr (.inl ⟨name, entered, stack, rfl, rfl, rfl⟩)
  | .text value position =>
    cases hstep
    exact .inr (.inr ⟨rfl, rfl, rfl⟩)
  | .interpolation expression position =>
    cases hstep
    exact .inr (.inr ⟨rfl, rfl, rfl⟩)
  | .attr written =>
    exact .inr (.inr ⟨rfl, rfl, (step_attribute hstep).1⟩)

end Analyzer

/-- What an attribute amounts to by itself and by the name of the innermost element around it. -/
def Criteria.ofVisit (criteria : Criteria) (innermost : Option (List Char)) (written : Attribute) :
    List BareString :=
  match innermost.map criteria.targets.ofTag with
  | some (.ok names) => criteria.ofAttribute names written
  | _ => criteria.ofAttribute [] written

namespace Session

variable {session : Session} {event : Event} {cause : AnalysisError}

private theorem raised?_eq_some_iff :
    session.raised? event = some cause ↔ session.analyzer.step event = .error cause := by
  rw [raised?, Callback.run_take]
  cases session.analyzer.step event <;> simp

private theorem raised?_eq_none_iff :
    session.raised? event = none ↔ ∃ next found, session.analyzer.step event = .ok (next, found) := by
  rw [raised?, Callback.run_take]
  rcases session.analyzer.step event with _ | ⟨next, found⟩ <;> simp

private theorem after_of_raised (hraised : session.raised? event = some cause) :
    session.after event = session := by
  rw [after, Callback.run_take, raised?_eq_some_iff.1 hraised]

private theorem after_of_step {next : Analyzer} {found : List BareString}
    (hstep : session.analyzer.step event = .ok (next, found)) :
    session.after event = { session with analyzer := next }.add found := by
  rw [after, Callback.run_take, hstep]

/-- Without the events whose callbacks break off the session comes to the same. -/
theorem afterAll_completed (events : List Event) :
    session.afterAll (session.completed events) = session.afterAll events := by
  induction events generalizing session with
  | nil => rfl
  | cons event events ih =>
    rw [completed]
    cases hraised : session.raised? event with
    | none => exact ih
    | some cause =>
      rw [after_of_raised hraised, ih]
      exact congrArg (·.afterAll events) (after_of_raised hraised).symm

/-- Among the other events none breaks off. -/
theorem completed_completed (events : List Event) :
    session.completed (session.completed events) = session.completed events := by
  induction events generalizing session with
  | nil => rfl
  | cons event events ih =>
    rw [completed]
    cases hraised : session.raised? event with
    | none =>
      rw [completed, hraised]
      exact congrArg (event :: ·) ih
    | some cause =>
      rw [after_of_raised hraised]
      exact ih

private theorem unclosed_append (events : List Event) (event : Event) :
    unclosed (events ++ [event]) = event.openNames (unclosed events) := by
  simp [unclosed]

variable {goal : Criteria} {events : List Event}

/-- A session that takes in one event more follows the events with it. -/
private theorem Follows.step (hfollows : Follows goal events session) {next : Analyzer}
    {found : List BareString} (hstep : session.analyzer.step event = .ok (next, found)) :
    Follows goal (events ++ [event]) (session.after event) := by
  obtain ⟨hcriteria, hfaithful, hnames, hattributes, hdepth⟩ := hfollows
  rw [after_of_step hstep]
  obtain ⟨name, names, resolver, rfl, hresolve, rfl⟩ | ⟨name, entered, stack, rfl, hstack, rfl⟩ |
    ⟨henter, hexit, rfl⟩ := Analyzer.step_cases hstep
  · obtain ⟨hname, hnext, htargets⟩ := hfaithful.of_resolve_eq_ok hresolve
    refine ⟨?_, hnext, ?_, ?_, ?_⟩
    · rw [← hcriteria]
      simp only [add, Analyzer.criteria, Analyzer.inside, htargets]
    · simp [add, Analyzer.inside, unclosed_append, Event.openNames, hnames]
    · intro entered hentered
      rcases List.mem_cons.1 hentered with rfl | hentered
      · rw [← hcriteria]
        exact hname
      · exact hattributes entered hentered
    · simp only [add, Analyzer.inside, Event.isEnter, Event.isExit, List.length_cons, List.countP_append,
        List.countP_singleton, if_true, Bool.false_eq_true, if_false]
      omega
  · rw [hstack] at hnames hattributes hdepth
    refine ⟨hcriteria, hfaithful, ?_, ?_, ?_⟩
    · simp [add, unclosed_append, Event.openNames, ← hnames]
    · exact fun inner hinner => hattributes inner (List.mem_cons_of_mem entered hinner)
    · simp only [add, Event.isEnter, Event.isExit, List.length_cons, List.countP_append,
        List.countP_singleton, if_true, Bool.false_eq_true, if_false] at hdepth ⊢
      omega
  · refine ⟨hcriteria, hfaithful, ?_, hattributes, ?_⟩
    · rw [unclosed_append, ← hnames]
      cases event with
      | enter name => cases henter
      | exit name => cases hexit
      | text value position => rfl
      | interpolation expression position => rfl
      | attr written => rfl
    · simpa [add, henter, hexit] using hdepth

/-- A session that takes in any events follows those that it could complete. -/
private theorem Follows.afterAll (hfollows : Follows goal events session) (later : List Event) :
    Follows goal (events ++ session.completed later) (session.afterAll later) := by
  induction later generalizing session events with
  | nil => simpa [completed, Session.afterAll] using hfollows
  | cons event later ih =>
    rw [completed]
    cases hraised : session.raised? event with
    | none =>
      obtain ⟨next, found, hstep⟩ := raised?_eq_none_iff.1 hraised
      have hnext := ih (hfollows.step hstep)
      rwa [List.append_assoc] at hnext
    | some cause =>
      -- What breaks off is not among the completed events, and the session behind it is the one before.
      have hnext := ih hfollows
      rw [Session.afterAll, List.foldl_cons, after_of_raised hraised]
      exact hnext

/-- A fresh session is at the beginning. -/
theorem follows_nil {analyzer : Analyzer} (hfaithful : analyzer.resolver.Faithful)
    (hstack : analyzer.stack = []) (reported : List BareString) :
    Follows analyzer.criteria [] ⟨analyzer, reported⟩ :=
  ⟨rfl, hfaithful, by simp [hstack, unclosed], by simp [hstack], by simp [hstack]⟩

/-- What breaks off the next callback is told by the completed events. -/
theorem Follows.raised?_eq_some_iff (hfollows : Follows goal events session) :
    session.raised? event = some cause ↔
      (∃ name, event = .exit name ∧ session.analyzer.stack = [] ∧ cause = .traversal .exitOutside) ∨
      (∃ rawName value position, event = .attr (.plain rawName (some value) position) ∧
        session.analyzer.stack = [] ∧ cause = .traversal .attributeOutside) ∨
      ∃ name why, event = .enter name ∧ goal.targets.ofTag name = .error why ∧
        cause = .search why := by
  rw [Session.raised?_eq_some_iff, Analyzer.step_eq_error_iff, ← hfollows.criteria]
  simp only [hfollows.faithful.resolve_eq_error_iff]
  rfl

/-- What the visit of an attribute reports is told by its node and by the element that it is in. -/
theorem Follows.reported_attribute (hfollows : Follows goal events session) {written : Attribute}
    (hraised : session.raised? (.attr written) = none) :
    (session.after (.attr written)).reported =
      session.reported ++ goal.ofVisit (unclosed events).head? written := by
  obtain ⟨next, found, hstep⟩ := raised?_eq_none_iff.1 hraised
  obtain ⟨rfl, rfl⟩ := Analyzer.step_attribute hstep
  rw [after_of_step hstep, hfollows.criteria, ← hfollows.names]
  cases hstack : session.analyzer.stack with
  | nil => rfl
  | cons entered stack =>
    have htold := hfollows.attributes entered (by simp [hstack])
    simp [add, Criteria.ofVisit, htold]

end Session

variable {rule : Rule} {analyzer : Analyzer}

private theorem analyzer_eq_ok (hanalyzer : rule.analyzer = .ok analyzer) :
    analyzer.resolver.Faithful ∧ analyzer.stack = [] := by
  obtain ⟨targets, _, hfresh⟩ := bind_eq_ok_iff.1 hanalyzer
  cases hfresh
  exact ⟨Resolver.faithful_ofTargets targets, rfl⟩

private theorem Session.follows_completed (hanalyzer : rule.analyzer = .ok analyzer) (events : List Event) :
    Follows analyzer.criteria ((⟨analyzer, []⟩ : Session).completed events)
      ((⟨analyzer, []⟩ : Session).afterAll events) := by
  obtain ⟨hfaithful, hstack⟩ := analyzer_eq_ok hanalyzer
  simpa using (follows_nil hfaithful hstack []).afterAll events

/-- Callbacks do what the steps of an analyzer do, and may come in any order. The depth is the number of
elements entered less that of those left again, not counting what breaks off. Outside of all elements, the
exit of one and a plain attribute with a value break off, and nothing else does anywhere but to enter an
element in whose name a search has no answer, which needs a pattern that notes groups. What breaks off
changes nothing, and might as well not have been called. The report of an attribute goes by the innermost
element that has been entered and not left. -/
theorem callbacks_any_order (hanalyzer : rule.analyzer = .ok analyzer) :
    let fresh : Session := ⟨analyzer, []⟩
    (∀ session event, (Callback.take event).run session =
      match session.analyzer.step event with
      | .ok (next, found) => .ok () ({ session with analyzer := next }.add found)
      | .error cause => .error cause session) ∧
    (∀ events, (fresh.afterAll events).analyzer.stack.length +
        (fresh.completed events).countP Event.isExit = (fresh.completed events).countP Event.isEnter) ∧
    (∀ events event cause, (fresh.afterAll events).raised? event = some cause ↔
      (∃ name, event = .exit name ∧ (fresh.afterAll events).analyzer.stack = [] ∧
        cause = .traversal .exitOutside) ∨
      (∃ rawName value position, event = .attr (.plain rawName (some value) position) ∧
        (fresh.afterAll events).analyzer.stack = [] ∧ cause = .traversal .attributeOutside) ∨
      ∃ name why, event = .enter name ∧ analyzer.resolver.targets.ofTag name = .error why ∧
        cause = .search why) ∧
    ((∀ entry ∈ analyzer.resolver.targets.patterns, entry.1.regex.captures = false) →
      ∀ name, ∃ names, analyzer.resolver.targets.ofTag name = .ok names) ∧
    (∀ session event cause last, (Callback.take event).run session = .error cause last →
      last = session) ∧
    (∀ events, fresh.completed (fresh.completed events) = fresh.completed events ∧
      fresh.afterAll (fresh.completed events) = fresh.afterAll events) ∧
    ∀ events written, (fresh.afterAll events).raised? (.attr written) = none →
      ((fresh.afterAll events).after (.attr written)).reported = (fresh.afterAll events).reported ++
        analyzer.criteria.ofVisit (Session.unclosed (fresh.completed events)).head? written := by
  intro fresh
  have hfollows := Session.follows_completed hanalyzer
  refine ⟨Callback.run_take, fun events => (hfollows events).depth, ?_, Targets.exists_ofTag, ?_, ?_, ?_⟩
  · exact fun events event cause => (hfollows events).raised?_eq_some_iff
  · intro session event cause last hraised
    rw [Callback.run_take] at hraised
    cases hstep : session.analyzer.step event with
    | ok found =>
      rw [hstep] at hraised
      cases hraised
    | error why =>
      rw [hstep] at hraised
      cases hraised
      rfl
  · exact fun events => ⟨Session.completed_completed events, Session.afterAll_completed events⟩
  · exact fun events written => (hfollows events).reported_attribute

/-- An element is left that was never entered, and an attribute stands outside of all, before and behind an
element with an attribute to report. -/
theorem callbacks_any_order_outside :
    let options : Options := ⟨[], [(wording "p", [wording "title"])], []⟩
    let title : Attribute := .plain "title".toList (some ⟨"Hi".toList, ⟨1, 9⟩⟩) ⟨1, 3⟩
    let events : List Event :=
      [.exit "p".toList, .attr title, .enter "p".toList, .attr title, .exit "p".toList, .attr title]
    ∃ rule : Rule, ofOptions options .error = .ok rule ∧ ∃ analyzer, rule.analyzer = .ok analyzer ∧
      let fresh : Session := ⟨analyzer, []⟩
      (fresh.afterAll events).analyzer.stack = [] ∧
        (fresh.afterAll events).raised? (.exit "p".toList) = some (.traversal .exitOutside) ∧
        (fresh.afterAll events).reported = [⟨.inAttribute, ⟨1, 9⟩, some "title".toList⟩] := by
  intro options title events
  have hlast : ((ofOptions options .error).toOption.bind fun rule =>
      rule.analyzer.toOption.map fun analyzer =>
        let last := (⟨analyzer, []⟩ : Session).afterAll events
        (last.analyzer.stack, last.reported)) =
      some ([], [⟨.inAttribute, ⟨1, 9⟩, some "title".toList⟩]) := by
    decide +kernel
  obtain ⟨rule, hrule, _⟩ := ofOptions_eq_ok options .error
  refine ⟨rule, hrule, ?_⟩
  simp only [hrule, Except.toOption, Option.bind_some] at hlast
  cases hanalyzer : rule.analyzer with
  | error cause =>
    rw [hanalyzer] at hlast
    cases hlast
  | ok analyzer =>
    rw [hanalyzer] at hlast
    obtain ⟨hstack, hreported⟩ := Prod.mk.inj (Option.some.inj hlast)
    obtain ⟨_, _, hraised, _⟩ := callbacks_any_order hanalyzer
    exact ⟨analyzer, rfl, hstack, (hraised events _ _).2 (.inl ⟨_, rfl, hstack, rfl⟩), hreported⟩

/-- A table of one pattern, which compiles, and an element that cannot be entered because the search for it
in its name has no answer. -/
theorem callback_without_search_result :
    let options : Options := ⟨[], [(wording "/((x)|y|z)*+/", [wording "title"])], []⟩
    ∃ rule : Rule, ofOptions options .error = .ok rule ∧ ∃ analyzer, rule.analyzer = .ok analyzer ∧
      (⟨analyzer, []⟩ : Session).raised? (.enter "xyz".toList) = some (.search .reversedGroup) := by
  intro options
  obtain ⟨targets, htargets, hcause⟩ := exists_ofTag_eq_error
  obtain ⟨rule, hrule, hoptions, _⟩ := ofOptions_eq_ok options .error
  refine ⟨rule, hrule, ⟨rule.whitelist, rule.options.directives, .ofTargets targets, []⟩, ?_, ?_⟩
  · rw [Rule.analyzer, hoptions, htargets]
    rfl
  · rw [Session.raised?_eq_some_iff, Analyzer.step_eq_error_iff]
    have hresolve := (Resolver.faithful_ofTargets targets).resolve_eq_error_iff.2 hcause
    exact .inr (.inr ⟨_, _, rfl, hresolve, rfl⟩)

end Rule

end BareStrings
