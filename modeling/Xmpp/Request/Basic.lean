import Xmpp.Request.Pipeline

/-!
# Requests

A request is a stanza we send together with what is to happen with the
reply. It is known by its *key*, the name of the stanza and its id. An `iq`
is answered by the peer; a message or a presence never is, and counts as
answered by itself once it was handed to the transport.

A request is resolved at most once: resolving it runs its pipeline and uses
it up, and any later attempt has no effect.
-/

namespace Xmpp

/-- **The key of a request**: name and id of its stanza. -/
structure RequestKey where
  /-- The name of the stanza. -/
  name : String
  /-- The id of the stanza. -/
  id : String
deriving DecidableEq

namespace RequestKey

/-- The key of the request an element would answer. Only an element with an
id can answer one. -/
def of? (e : Element) : Option RequestKey :=
  (e.attr "id").map fun id => ⟨e.name, id⟩

/-- Keys are ordered by name, those of one name by id. -/
def before (a b : RequestKey) : Bool :=
  a.name < b.name || (a.name == b.name && a.id < b.id)

instance : ToString RequestKey := ⟨fun key => key.name ++ ":" ++ key.id⟩

end RequestKey

/-- **A request.** Times are in milliseconds. -/
structure Request where
  /-- Name and id of the stanza. -/
  key : RequestKey
  /-- The recipient, if the stanza names one that is an address. -/
  recipient : Option Jid
  /-- A label for people. -/
  label : Option String
  /-- When it was made. -/
  created : Nat
  /-- How long to wait for a reply. -/
  timeout : Nat
  /-- The stanza. -/
  stanza : Element
  /-- What is to happen with the reply; nothing once it was resolved. -/
  pipeline : Option Pipeline

namespace Request

/-- Whether the request was resolved. -/
def isCompleted (r : Request) : Bool :=
  r.pipeline.isNone

/-- Whether the request is never answered by the peer. -/
def isFireAndForget (r : Request) : Bool :=
  r.key.name != "iq"

/-- Whether the reply should have arrived by now. -/
def isOutdated (r : Request) (now : Nat) : Bool :=
  r.created + r.timeout ≤ now

/-- The futures that wait for the request. -/
def tickets (r : Request) : List Nat :=
  match r.pipeline with
  | some p => p.tickets
  | none => []

/-- **Resolving a request.** Nothing happens to one that was resolved. -/
def complete? (r : Request) (outcome : Outcome) : Option (Request × List Effect) :=
  r.pipeline.map fun p => ({ r with pipeline := none }, (p.run outcome).2)

/-- A request can be resolved unless it was resolved before. -/
theorem complete?_eq_none_iff {r : Request} {outcome : Outcome} :
    r.complete? outcome = none ↔ r.isCompleted = true := by
  simp [complete?, isCompleted]

/-- Resolving a request uses it up. -/
theorem isCompleted_of_complete? {r r' : Request} {outcome : Outcome} {effects : List Effect}
    (h : r.complete? outcome = some (r', effects)) : r'.isCompleted = true := by
  obtain ⟨p, -, hp⟩ := Option.map_eq_some_iff.1 h
  obtain ⟨rfl, -⟩ := Prod.mk.inj hp
  rfl

/-- No reply arrived in time. -/
def expire? (r : Request) : Option (Request × List Effect) :=
  r.complete? (.error .timeout)

/-- The request was cancelled. -/
def cancel? (r : Request) : Option (Request × List Effect) :=
  r.complete? (.error .cancelled)

/-- The stanza was handed to the transport, which settles what the peer
never answers. -/
def markSent? (r : Request) : Option (Request × List Effect) :=
  if r.isFireAndForget then r.complete? (.ok (.element r.stanza)) else none

/-- What a reply comes to: the error it reports if it is of that type, and
otherwise itself. -/
def outcomeOf (reply : Element) : Outcome :=
  if reply.attr "type" = some "error" then
    let (condition, text) := StanzaError.ofReply reply
    .error (.stanza condition text)
  else .ok (.element reply)

/-- The peer replied. -/
def answer? (r : Request) (reply : Element) : Option (Request × List Effect) :=
  r.complete? (outcomeOf reply)

/-- The effects of an attempt to resolve a request. -/
def effectsOf (attempt : Option (Request × List Effect)) : List Effect :=
  match attempt with
  | some (_, effects) => effects
  | none => []

end Request

/-- **A request before it is sent**: everything but what its sending
decides, namely its id if the stanza has none, and the time. -/
structure Draft where
  /-- The stanza, possibly without an id. -/
  stanza : Element
  /-- How long to wait for a reply, if not as long as usual. -/
  timeout : Option Nat := none
  /-- A label for people. -/
  label : Option String := none
  /-- What is to happen with the reply. -/
  pipeline : Pipeline := .reply

namespace Draft

/-- A request to the recipient, or to the server, with this payload. -/
def iq (type : String) (recipient : Option Jid) (payload : Element) : Draft where
  stanza :=
    { name := "iq"
      ns := Namespace.client
      attributes := Element.present [("type", some type), ("to", recipient.map Jid.toString)]
      content := [.child payload] }

/-- A request for information. -/
def iqGet (recipient : Option Jid) (payload : Element) : Draft :=
  iq "get" recipient payload

/-- A request for an action. -/
def iqSet (recipient : Option Jid) (payload : Element) : Draft :=
  iq "set" recipient payload

/-- Attaches a handler. -/
def respond (d : Draft) (handler : Handler) : Draft :=
  { d with pipeline := .respond d.pipeline handler }

/-- Attaches a transformation of the library that may fail. -/
def tryMap (d : Draft) (transform : Value → Except TransformError Value) : Draft :=
  { d with pipeline := .tryMap d.pipeline none transform }

/-- Attaches the reading of the reply, which is the value reached so far.
Any other value stays as it is. -/
def interpret {α : Type} (d : Draft) (read : Element → Except ProtocolError α)
    (make : α → Value) : Draft :=
  d.tryMap fun
    | .element reply => ((read reply).map make).mapError .protocol
    | value => .ok value

/-- Labels the request. -/
def labelled (d : Draft) (label : String) : Draft :=
  { d with label := some label }

/-- The id of the stanza, if it has one. -/
def id? (d : Draft) : Option String :=
  (d.stanza.attr "id").filter fun id => !id.isEmpty

/-- **Making the request.** `usual` is how long to wait unless the draft
says so, `now` the time, and `drawn` the number of ids drawn so far; a
stanza without an id draws the next one. -/
def build (d : Draft) (usual now drawn : Nat) : Request × Nat :=
  let (id, stanza, drawn) := match d.id? with
    | some id => (id, d.stanza, drawn)
    | none =>
      let id := toString (drawn + 1)
      (id, d.stanza.setAttr "id" id, drawn + 1)
  ({ key := ⟨stanza.name, id⟩
     recipient := (stanza.attr "to").bind fun recipient => (Jid.parse recipient).toOption
     label := d.label
     created := now
     timeout := d.timeout.getD usual
     stanza
     pipeline := some d.pipeline }, drawn)

end Draft

end Xmpp
