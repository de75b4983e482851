import BareStrings.Rule.Analyzer

namespace BareStrings.Rule

open BareStrings.Markup BareStrings.Text

/-- An analyzer at work, and all that it has reported. -/
structure Session where
  analyzer : Analyzer
  reported : List BareString

/-- The session with more reported. -/
def Session.add (session : Session) (found : List BareString) : Session :=
  { session with reported := session.reported ++ found }

/-- Reporting nothing leaves a session as it is. -/
@[simp]
theorem Session.add_nil (session : Session) : session.add [] = session := by
  simp [Session.add]

/-- A callback or a part of one. -/
abbrev Callback := EStateM AnalysisError Session

namespace Callback

/-- Reports a bare string. -/
def report (found : BareString) : Callback Unit := modify (·.add [found])

/-- The attributes to check on a tag. They are worked out at the first question and then remembered. -/
def resolve (tag : List Char) : Callback (List (List CodePoint)) := do
  let resolver := (← get).analyzer.resolver
  match resolver.known.lookup tag with
  | some names => return names
  | none =>
    match resolver.targets.ofTag tag with
    | .ok names =>
      modify fun session =>
        { session with analyzer.resolver.known := session.analyzer.resolver.known ++ [(tag, names)] }
      return names
    | .error cause => throw (.search cause)

/-- Puts an element onto the stack. -/
def push (entered : Entered) : Callback Unit :=
  modify fun session => { session with analyzer.stack := entered :: session.analyzer.stack }

/-- Takes the innermost element off the stack. -/
def pop : Callback Unit := do
  match (← get).analyzer.stack with
  | [] => throw (.traversal .exitOutside)
  | _ :: stack => modify fun session => { session with analyzer.stack := stack }

/-- The innermost element of the stack. -/
def current : Callback Entered := do
  match (← get).analyzer.stack with
  | [] => throw (.traversal .attributeOutside)
  | entered :: _ => return entered

/-- Takes in an event. -/
def take : Event → Callback Unit
  | .enter name => do push ⟨name, ← resolve name⟩
  | .exit _ => pop
  | .text value position => do
    if (← get).analyzer.whitelist.isBare (codePoints value) then
      report ⟨.inText, position, none⟩
  | .interpolation .. => return
  | .attr (.plain _ none _) => return
  | .attr (.directive _ none _) => return
  | .attr (.plain rawName (some value) _) => do
    let entered ← current
    if entered.attributes.contains (codePoints rawName) then
      if (← get).analyzer.whitelist.isBare (codePoints value.text) then
        report ⟨.inAttribute, value.position, some rawName⟩
  | .attr (.directive key (some value) _) => do
    if (← get).analyzer.directives.contains (codePoints key.directiveName) then
      if let some codes := stringOf? value then
        if (← get).analyzer.whitelist.isBare codes then
          report ⟨.inAttribute, value.position, some key.directiveName⟩

end Callback

namespace Session

/-- The session behind an event, whether its callback has broken off or not. -/
def after (session : Session) (event : Event) : Session :=
  match (Callback.take event).run session with
  | .ok _ next => next
  | .error _ next => next

/-- Why the callback for an event breaks off, if it does. -/
def raised? (session : Session) (event : Event) : Option AnalysisError :=
  match (Callback.take event).run session with
  | .ok .. => none
  | .error cause _ => some cause

/-- The session behind events one after another. -/
def afterAll (session : Session) (events : List Event) : Session := events.foldl after session

/-- The events whose callbacks do not break off. -/
def completed (session : Session) : List Event → List Event
  | [] => []
  | event :: events =>
    match session.raised? event with
    | none => event :: (session.after event).completed events
    | some _ => (session.after event).completed events

end Session

end BareStrings.Rule
