import Xmpp.Delivery
import Xmpp.Resumption.Payload

/-!
# The resumable session

Both sides of a stream count the stanzas that cross it, and each tells the
other from time to time how far it has counted. What we have sent and the
peer has not confirmed is kept, so that it can be sent again when the
session is resumed on another connection.

The counters have 32 bits and wrap. A report `h` of the peer is compared
with our own counter by the distance `outgoing − h`, again in 32 bits: up to
half the range it is the number of stanzas that are still unconfirmed, beyond
that the report exceeds what was sent, and is ignored. The unconfirmed ones
are always the last of the queue, so whatever stands before them is
confirmed. So that this stays unambiguous the queue never holds more than half
the range, and a full one gives up its oldest stanza.

The context has three phases. It is *pending* from the moment the request to
enable stream management goes out, since that is where the peer starts to
count, *active* while the session is live, and *inactive* between two
connections.
-/

namespace Xmpp.Resumption

open Delivery

/-- **The phases** of a resumable session. -/
inductive Status where
  /-- Asked for, the answer outstanding. -/
  | pending
  /-- Negotiated, on the live connection. -/
  | active
  /-- Negotiated, on a connection that is gone. -/
  | inactive
deriving DecidableEq

/-- **Counters, queue and resumption data** of a session. -/
structure Context where
  /-- The phase. -/
  status : Status := .pending
  /-- The name of the session, if the server gave one. -/
  id : Option String := none
  /-- Where the server would like the session to be resumed. -/
  location : Option String := none
  /-- For how many seconds the session can be resumed. -/
  max : Option UInt32 := none
  /-- Whether the server allows resumption. -/
  resume : Bool := false
  /-- The number of stanzas sent. -/
  outgoing : UInt32 := 0
  /-- The number of stanzas received. -/
  incoming : UInt32 := 0
  /-- The number of stanzas received as last reported. -/
  lastReported : Option UInt32 := none
  /-- The stanzas sent and not confirmed, oldest first. -/
  unacked : List Entry := []
deriving DecidableEq

namespace Context

/-- The context right after stream management was asked for. -/
def start : Context := {}

/-- Stream management was enabled. Whatever was counted so far stays. -/
def enable (c : Context) (e : Enabled) : Context :=
  { c with
    status := .active, id := e.id, location := e.location, max := e.max, resume := e.resume }

/-- What is needed to resume the session: its name and the number of
stanzas received. There is nothing to resume before the session was
enabled, and nothing if the server gave no name or does not allow it. -/
def resumeInfo? (c : Context) : Option (String × UInt32) :=
  if c.status ≠ .pending ∧ c.resume then c.id.map fun id => (id, c.incoming) else none

/-- The connection went away. -/
def deactivate (c : Context) : Context :=
  if c.status = .active then { c with status := .inactive } else c

/-- How many stanzas are kept at most. The counters wrap, and a longer queue
could not be told from a report that exceeds what was sent. -/
def capacity : Nat := 0x7FFFFFFE

/-- The stanzas that are given up for one more that was sent: the oldest one
of a full queue. -/
def evicted (c : Context) (entry : Entry) : List Entry :=
  if entry.stanza.isStanza ∧ c.status ≠ .inactive ∧ capacity ≤ c.unacked.length then
    c.unacked.take 1
  else []

/-- Counts a stanza that was sent and keeps it until it is confirmed. A full
queue gives up its oldest stanza for it. Between two connections a stanza is
counted without being kept; anything but a stanza is neither counted nor
kept. -/
def recordSent (c : Context) (entry : Entry) : Context :=
  if entry.stanza.isStanza then
    { c with
      outgoing := c.outgoing + 1
      unacked :=
        if c.status = .inactive then c.unacked
        else c.unacked.drop (c.evicted entry).length ++ [entry] }
  else c

/-- Counts a stanza that was received, while the session is live. -/
def recordReceived (c : Context) : Context :=
  if c.status = .active then { c with incoming := c.incoming + 1 } else c

/-- The number of received stanzas to report, if it should be reported:
while the session is live, and unless `force` is set only if it is not the
number last reported. -/
def report? (c : Context) (force : Bool) : Option UInt32 :=
  if c.status = .active ∧ (force = true ∨ c.lastReported ≠ some c.incoming) then some c.incoming
  else none

/-- The number of received stanzas has been reported. -/
def recordReport (c : Context) : Context :=
  { c with lastReported := some c.incoming }

/-- How many stanzas of the queue a report of the peer confirms. -/
def confirmedBy (c : Context) (h : UInt32) : Nat :=
  let unconfirmed := (c.outgoing - h).toNat
  if unconfirmed < 0x80000000 then c.unacked.length - unconfirmed else 0

/-- The peer reported how many stanzas it has handled. -/
def acknowledge (c : Context) (h : UInt32) : Context :=
  { c with unacked := c.unacked.drop (c.confirmedBy h) }

/-- The stanzas a report of the peer confirms. -/
def confirmed (c : Context) (h : UInt32) : List Entry :=
  c.unacked.take (c.confirmedBy h)

/-- The session was resumed: counting goes on from the report of the peer,
and the queue is empty since what was left of it is sent again. -/
def resumeAt (c : Context) (h : UInt32) : Context :=
  { c with status := .active, outgoing := h, unacked := [] }

/-- The stanzas to be sent again when the session is resumed. -/
def unconfirmed (c : Context) (h : UInt32) : List Entry :=
  (c.acknowledge h).unacked

/-- A report parts the queue in what it confirms and what it does not. -/
theorem confirmed_append_unconfirmed (c : Context) (h : UInt32) :
    c.confirmed h ++ c.unconfirmed h = c.unacked :=
  List.take_append_drop _ _

end Context

end Xmpp.Resumption
