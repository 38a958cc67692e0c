import Xmpp.Session.Basic

/-!
# Workload

A client works until nothing is left to do, and this file bounds how much
that can be. Each event costs one step of the client, in which the controller
may publish further events and send further requests. Their handlers publish
events in turn, but the ways of the controller lead downwards: binding a
resource can lead to `ready`, but nothing leads back to binding. So every
event has a *cost*, more than the cost of all that its handling can entail,
and so has every handler.

The handlers of the application are not covered by this, since they may
publish whatever they like. But each of them is called only once, so it is
enough to know how many there are.
-/

namespace Xmpp

/-- The sum of costs. -/
def total : List Nat → Nat
  | [] => 0
  | cost :: rest => cost + total rest

@[simp] theorem total_append (a b : List Nat) : total (a ++ b) = total a + total b := by
  induction a with
  | nil => simp [total]
  | cons cost rest ih => simp [total, ih, Nat.add_assoc]

/-- **The cost of an event**: a bound on the number of steps it can
entail, itself included. -/
def Event.cost : Event → Nat
  | .features | .authSucceeded _ _ | .managementFailed _ => 6
  | .bound _ _ => 5
  | .formReceived _ => 3
  | .streamError _ _ _ | .parseError _ | .authFailed _ | .bindFailed _ | .resumed _ _
  | .registered | .registrationFailed _ => 2
  | .connector _ _ | .authStarted _ | .managementEnabled _ _ _ | .ready | .stopped _
  | .reconnect _ _ _ | .discovered _ _ | .roster _ | .message _ | .presence _ => 1

/-- **The cost of a handler** of the library: the most that any event it
publishes can cost. -/
def Handler.cost : Handler → Nat
  | .listener _ _ | .waiter _ => 0
  | .bind => 5
  | .registrationForm => 3
  | .registration => 2
  | .roster | .discovery _ => 1

/-- Whether a handler was attached by the application and may publish
anything. -/
def Handler.isListener : Handler → Bool
  | .listener _ _ => true
  | _ => false

namespace Request

/-- The handlers that have not been called yet. -/
def handlers (r : Request) : List Handler :=
  match r.pipeline with
  | some p => p.handlers
  | none => []

/-- The cost of resolving a request. -/
def cost (r : Request) : Nat :=
  total (r.handlers.map Handler.cost)

/-- How many handlers of the application wait for a request. -/
def listeners (r : Request) : Nat :=
  r.handlers.countP Handler.isListener

end Request

/-- The cost of delivering an item: closing the stream is an event. -/
def Outgoing.cost : Outgoing → Nat
  | .element _ (some r) => r.cost
  | .element _ none | .restart => 0
  | .close => 1

namespace Session

/-- The requests that are not resolved yet. -/
def openRequests (s : Session) : List Request :=
  s.outbox.filterMap Outgoing.request? ++ s.registry.requests

/-- **The workload of a session**: the cost of all that is left to do or may
come of its requests, handlers of the application left aside. -/
def workload (s : Session) : Nat :=
  total (s.events.map Event.cost) + total (s.outbox.map Outgoing.cost)
    + total (s.registry.requests.map Request.cost)

/-- How many handlers of the application wait to be called. -/
def listeners (s : Session) : Nat :=
  total (s.openRequests.map Request.listeners)

end Session

end Xmpp
