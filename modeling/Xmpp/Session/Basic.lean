import Xmpp.Request.Registry
import Xmpp.Login.Mechanism
import Xmpp.Session.Action
import Xmpp.Session.Config

/-!
# Sessions

A session is everything that modules share while they handle elements and
events. What they write goes to an outbox, and what they publish to a queue
of events; the client empties both once a module has returned.

A session is a value and its operations are functions. Time, ids and the
states of delivery tokens are part of it: the owner of the client moves the
clock, ids are drawn from a counter, and tokens live on a board.
-/

namespace Xmpp

open Delivery

/-- **Something waiting to be handed to the transport.** -/
inductive Outgoing where
  /-- An element, with the request it belongs to if it is one. -/
  | element (entry : Entry) (request : Option Request)
  /-- The stream is to be restarted. -/
  | restart
  /-- The stream is to be closed. -/
  | close

/-- The element of an item of the outbox. -/
def Outgoing.entry? : Outgoing → Option Entry
  | .element entry _ => some entry
  | .restart | .close => none

/-- The request an item of the outbox belongs to. -/
def Outgoing.request? : Outgoing → Option Request
  | .element _ request => request
  | .restart | .close => none

/-- **How far the login exchanges have come.** A mechanism is held while its
exchange is under way. -/
structure Logins where
  /-- The mechanism of the first generation of the protocol. -/
  sasl : Option Login.Mechanism := none
  /-- The mechanism of the second generation of the protocol. -/
  sasl2 : Option Login.Mechanism := none
  /-- Whether a resource is to be bound along with the login. -/
  bindRequested : Bool := false
deriving DecidableEq

/-- **A session.** -/
structure Session where
  /-- What the application decided. -/
  config : Config
  /-- What the session remembers by name. -/
  properties : Properties := {}
  /-- The requests waiting for a reply. -/
  registry : Registry := {}
  /-- What waits to be handed to the transport, oldest first. -/
  outbox : List Outgoing := []
  /-- The events nobody has reacted to yet, oldest first. -/
  events : List Event := []
  /-- The states of all delivery tokens. -/
  board : Board := {}
  /-- How far the login exchanges have come. -/
  logins : Logins := {}
  /-- The features we tell when asked. -/
  advertised : List String := []
  /-- The descriptions of the modules of the application. -/
  catalogue : Catalogue := []
  /-- The futures that were settled, oldest first. -/
  settled : List (Nat × Outcome) := []
  /-- The record of calls to code of the application, oldest first. -/
  notes : List Note := []
  /-- The time in milliseconds. -/
  clock : Nat := 0
  /-- The number of ids drawn so far. -/
  drawn : Nat := 0

/-- What the sender of a request gets: its key and the token of its
stanza. -/
structure Sent where
  /-- The key of the request. -/
  key : RequestKey
  /-- The token of its stanza. -/
  token : Token
deriving DecidableEq

namespace Session

/-! ## Events and effects -/

/-- Publishes an event. -/
def fire (s : Session) (event : Event) : Session :=
  { s with events := s.events ++ [event] }

/-- Adds a line to the record. -/
def note (s : Session) (line : Note) : Session :=
  { s with notes := s.notes ++ [line] }

/-- Settles a future. -/
def settle (s : Session) (ticket : Nat) (outcome : Outcome) : Session :=
  { s with settled := s.settled ++ [(ticket, outcome)] }

/-- Carries out an effect of resolving a request. -/
def apply (s : Session) : Effect → Session
  | .fired event => s.fire event
  | .settled ticket outcome => s.settle ticket outcome
  | .called mark outcome => s.note (.called mark outcome)
  | .transformed (some mark) fallible _ => s.note (.transformed mark fallible)
  | .transformed none _ _ => s

/-- Carries out effects in order. -/
def perform (s : Session) (effects : List Effect) : Session :=
  effects.foldl apply s

/-! ## The outbox -/

/-- Puts something into the outbox. -/
def push (s : Session) (item : Outgoing) : Session :=
  { s with outbox := s.outbox ++ [item] }

/-- Makes an entry for an element, with a token of its own. -/
def track (s : Session) (element : Element) : Entry × Session :=
  let (token, board) := s.board.issue
  (⟨element, token⟩, { s with board })

/-- Puts an element into the outbox, with the request it belongs to if it is
one, and tells its token. -/
def enqueue (s : Session) (element : Element) (request : Option Request) : Token × Session :=
  let (entry, s) := s.track element
  (entry.token, s.push (.element entry request))

/-- **Writing an element** without waiting for a reply. -/
def write (s : Session) (element : Element) : Session :=
  (s.enqueue element none).2

/-- Makes the request of a draft at this moment. -/
def makeRequest (s : Session) (draft : Draft) : Request × Session :=
  let (request, drawn) := draft.build s.config.requestTimeout s.clock s.drawn
  (request, { s with drawn })

/-- **Sending a request.** -/
def send (s : Session) (draft : Draft) : Sent × Session :=
  let (request, s) := s.makeRequest draft
  let (token, s) := s.enqueue request.stanza (some request)
  (⟨request.key, token⟩, s)

/-- Sends a request whose key and token nobody asks for. -/
def post (s : Session) (draft : Draft) : Session :=
  (s.send draft).2

/-- Puts entries into the outbox again. -/
def resend (s : Session) (entries : List Entry) : Session :=
  { s with outbox := s.outbox ++ entries.map fun entry => .element entry none }

/-- Restarts the stream once everything written so far was sent. -/
def restart (s : Session) : Session :=
  s.push .restart

/-- Closes the stream once everything written so far was sent. -/
def close (s : Session) : Session :=
  s.push .close

/-! ## Properties -/

/-- Sets a property of the session. -/
def setProperty {α : Type} [Storable α] (s : Session) (scope : Scope) (key : String)
    (value : α) : Session :=
  { s with properties := s.properties.set scope key value }

/-- Remembers how far the login has come. -/
def setAuthState (s : Session) (state : AuthState) : Session :=
  s.setProperty .connection Properties.authKey state

/-- The stanzas a property keeps that were not confirmed. -/
def keptBy (entry : PropertyEntry) : List Entry :=
  match entry.value with
  | .resumption context => context.unacked
  | _ => []

/-- **Clearing a scope.** Unconfirmed stanzas that are forgotten with it are
dropped. -/
def clear (s : Session) (scope : Scope) : Session :=
  { s with
    board := s.board.setAll ((s.properties.cleared scope).flatMap keptBy) .dropped
    properties := s.properties.clear scope }

/-! ## The registry -/

/-- Sets the address replies of our own account are judged by. -/
def setOwnJid (s : Session) (jid : Option Jid) : Session :=
  { s with registry := { s.registry with ownJid := jid } }

/-- Registers a request. One with the same key is forgotten; whoever waits
for it learns that it was. -/
def register (s : Session) (request : Request) : Session :=
  let forgotten := ((s.registry.find? request.key).map Request.tickets).getD []
  let s := { s with registry := s.registry.register request }
  s.perform (forgotten.map fun ticket => .settled ticket (.error .abandoned))

/-- What is left after requests were swept out of the registry. -/
def swept (s : Session) (result : Registry.Swept) : Session :=
  ({ s with registry := result.registry } : Session).perform result.effects

/-- Fails all requests with a timeout. -/
def timeoutAll (s : Session) : Session :=
  s.swept (s.registry.timeoutAll none)

end Session

end Xmpp
