import Xmpp.Event

/-!
# Pipelines

What is to happen when a request is resolved is built up step by step before
it is sent. It starts with the raw reply. Each further step either looks at
the value reached so far (`respond`) or makes another one of it (`map`, and
`tryMap` for what may fail).

`Pipeline.run` resolves a pipeline. An error skips all transformations and
reaches all handlers that come after it. What a run does to the world is a
list of effects: events to be published, futures to be settled, and the calls
of handlers and transformations.
-/

namespace Xmpp

/-- **A value** on its way through a pipeline. -/
inductive Value where
  /-- An element, at first the reply. -/
  | element (element : Element)
  /-- A text. -/
  | text (text : String)
  /-- A number. -/
  | number (number : Int)
  /-- A registration form. -/
  | form (form : Form)
  /-- An address. -/
  | jid (jid : Jid)
  /-- A list of features. -/
  | features (features : List String)
deriving DecidableEq

/-- What a request comes to: a value or an error. -/
abbrev Outcome := Except RequestError Value

instance : DecidableEq Outcome
  | .ok a, .ok b => if h : a = b then isTrue (by rw [h]) else isFalse (by simpa using h)
  | .error a, .error b => if h : a = b then isTrue (by rw [h]) else isFalse (by simpa using h)
  | .ok _, .error _ => isFalse (by simp)
  | .error _, .ok _ => isFalse (by simp)

/-- The name under which calls to code of the application are recorded. -/
structure Mark where
  /-- Who attached it. -/
  owner : String
  /-- What it is called. -/
  label : String
deriving DecidableEq

/-- **A handler** that looks at the value of a step. The application may
attach any function that publishes finitely many events, or wait for the
value; the rest belong to the requests of the library. -/
inductive Handler where
  /-- A handler of the application. -/
  | listener (mark : Mark) (publish : Outcome → List Event)
  /-- A future, by its ticket. -/
  | waiter (ticket : Nat)
  /-- Publishes how binding a resource went. -/
  | bind
  /-- Publishes how asking for the registration form went. -/
  | registrationForm
  /-- Publishes how submitting the registration form went. -/
  | registration
  /-- Publishes the roster. -/
  | roster
  /-- Publishes the features of an entity. -/
  | discovery (jid : Jid)

/-- **An effect** of resolving a pipeline. -/
inductive Effect where
  /-- An event is published. -/
  | fired (event : Event)
  /-- A future is settled. -/
  | settled (ticket : Nat) (outcome : Outcome)
  /-- A handler of the application was called. -/
  | called (mark : Mark) (outcome : Outcome)
  /-- A transformation ran on a value; `fallible` if it may fail. -/
  | transformed (mark : Option Mark) (fallible : Bool) (value : Value)
deriving DecidableEq

namespace Handler

/-- The events a handler publishes. -/
def events : Handler → Outcome → List Event
  | .listener _ publish, outcome => publish outcome
  | .waiter _, _ => []
  | .bind, .ok (.jid jid) => [.bound jid false]
  | .bind, .ok _ => []
  | .bind, .error e => [.bindFailed e]
  | .registrationForm, .ok (.form form) => [.formReceived form]
  | .registrationForm, .ok _ => []
  | .registrationForm, .error e => [.registrationFailed e]
  | .registration, .ok _ => [.registered]
  | .registration, .error e => [.registrationFailed e]
  | .roster, .ok (.element query) => [.roster query]
  | .roster, _ => []
  | .discovery jid, .ok (.features features) => [.discovered jid features]
  | .discovery _, _ => []

/-- The effects of a handler. -/
def effects : Handler → Outcome → List Effect
  | .listener mark publish, outcome => .called mark outcome :: (publish outcome).map .fired
  | .waiter ticket, outcome => [.settled ticket outcome]
  | handler, outcome => (handler.events outcome).map .fired

end Handler

/-- **What is to happen with a reply.** A transformation of the application
has a mark, one of the library has none. -/
inductive Pipeline where
  /-- The raw reply. -/
  | reply
  /-- Shows the value to a handler. -/
  | respond (before : Pipeline) (handler : Handler)
  /-- Makes another value. -/
  | map (before : Pipeline) (mark : Option Mark) (transform : Value → Value)
  /-- Makes another value or fails. -/
  | tryMap (before : Pipeline) (mark : Option Mark)
    (transform : Value → Except TransformError Value)

namespace Pipeline

/-- **Resolving a pipeline**: the value it ends with, and the effects in
the order in which they come about. -/
def run : Pipeline → Outcome → Outcome × List Effect
  | .reply, outcome => (outcome, [])
  | .respond before handler, outcome =>
    let (value, effects) := before.run outcome
    (value, effects ++ handler.effects value)
  | .map before mark transform, outcome =>
    match before.run outcome with
    | (.error e, effects) => (.error e, effects)
    | (.ok value, effects) =>
      (.ok (transform value), effects ++ [.transformed mark false value])
  | .tryMap before mark transform, outcome =>
    match before.run outcome with
    | (.error e, effects) => (.error e, effects)
    | (.ok value, effects) =>
      ((transform value).mapError .transform, effects ++ [.transformed mark true value])

/-- The handlers in the order in which they were attached. -/
def handlers : Pipeline → List Handler
  | .reply => []
  | .respond before handler => before.handlers ++ [handler]
  | .map before _ _ => before.handlers
  | .tryMap before _ _ => before.handlers

/-- The futures that wait for the pipeline. -/
def tickets (p : Pipeline) : List Nat :=
  p.handlers.filterMap fun
    | .waiter ticket => some ticket
    | _ => none

end Pipeline

end Xmpp
