import Xmpp.Client.Controller
import Xmpp.Client.Transport
import Xmpp.Client.Workload
import Xmpp.Module.Installation

/-!
# Clients

A client puts a session, its modules and a controller to work on a
transport. Whatever happens, in the end it *comes to rest*: the outbox is
handed to the transport, the controller reacts to the oldest event, which is
then published, and so on until nothing is left in either.

The run is bounded in advance. As long as no handler of the application is
called, the workload of the session bounds the number of steps; when one is
called, the workload is taken anew, and this happens at most once for each
of them.
-/

namespace Xmpp

open Delivery

/-- **A client.** -/
structure Client where
  /-- What the modules share. -/
  session : Session
  /-- The modules. -/
  modules : Modules := {}
  /-- What takes the session to the point where it can be used. -/
  controller : Controller := {}
  /-- The transport, while there is one. -/
  transport : Option Transport := none
  /-- The state of the transport as it was reported. -/
  connector : ConnectorState := .disconnected
  /-- The events that wait for the application, oldest first. -/
  published : List Event := []
  /-- What transports were asked for, oldest first. -/
  wire : List Frame := []

namespace Session

/-- Fails the request of an element that was not sent. -/
def failUnsent (s : Session) (request : Option Request) (error : RequestError) : Session :=
  match request with
  | some r => s.perform (Request.effectsOf (r.complete? (.error error)))
  | none => s

/-- Takes note that the request of an element was sent. One that is never
answered is resolved by it, any other waits for its reply. -/
def awaitReply (s : Session) (request : Option Request) : Session :=
  match request with
  | some r =>
    if r.isFireAndForget then s.perform (Request.effectsOf r.markSent?) else s.register r
  | none => s

end Session

namespace Client

/-! ## The transport -/

/-- Records frames. -/
def record (c : Client) (frames : List Frame) : Client :=
  { c with wire := c.wire ++ frames }

/-- The transport has a new state. Nothing happens if it is the old one. -/
def setConnector (c : Client) (new : ConnectorState) : Client :=
  if c.connector = new then c
  else { c with connector := new, session := c.session.fire (.connector c.connector new) }

/-- **Handing an element to the transport.** -/
def deliverElement (c : Client) (entry : Entry) (request : Option Request) : Client :=
  match c.transport with
  | none =>
    { c with session := (c.session.mark [entry] .dropped).failUnsent request .notConnected }
  | some transport =>
    match transport.send with
    | (some error, transport) =>
      { c.record [.failed .send] with
        transport := some transport
        session := (c.session.mark [entry] (.failed error)).failUnsent request (.send error) }
    | (none, transport) =>
      { c.record [.element entry] with
        transport := some transport
        session := ((c.session.mark [entry] .sent).awaitReply request).countSent entry }

/-- Restarting the stream, which forgets what belongs to it. -/
def deliverRestart (c : Client) : Client :=
  { c.record ((c.transport.map Transport.restartFrames).getD []) with
    session := c.session.clear .stream }

/-- Closing the stream, after which the transport is of no more use. -/
def deliverClose (c : Client) : Client :=
  ({ c.record ((c.transport.map Transport.closeFrames).getD []) with
    transport := none }).setConnector .disconnecting

/-- **Handing an item of the outbox to the transport.** -/
def deliver (c : Client) : Outgoing → Client
  | .element entry request => c.deliverElement entry request
  | .restart => c.deliverRestart
  | .close => c.deliverClose

/-- **Emptying the outbox.** -/
def flush (c : Client) : Client :=
  c.session.outbox.foldl deliver { c with session := { c.session with outbox := [] } }

/-! ## Coming to rest -/

/-- The controller reacts to an event, which is then published. -/
def handleEvent (c : Client) (event : Event) : Client :=
  let (controller, session) := c.controller.react c.session event
  { c with controller, session, published := c.published ++ [event] }

/-- Works off at most this many events, each after emptying the outbox. -/
def drain : Nat → Client → Client
  | 0, c => c.flush
  | n + 1, c =>
    let c := c.flush
    match c.session.events with
    | [] => c
    | event :: rest =>
      drain n (({ c with session := { c.session with events := rest } } : Client).handleEvent event)

/-- Works off the workload, and as many times again as given. -/
def drainAgain : Nat → Client → Client
  | 0, c => drain c.session.workload c
  | n + 1, c => drainAgain n (drain c.session.workload c)

/-- **Coming to rest.** -/
def run (c : Client) : Client :=
  drainAgain c.session.listeners c

/-- Whether a client is at rest. -/
def AtRest (c : Client) : Prop :=
  c.session.outbox = [] ∧ c.session.events = []

end Client

end Xmpp
