import Xmpp.Client.Basic

/-!
# Operations on a client

What the owner of a client can do with it. The client does not read from its
transport: the owner attaches one, feeds it the elements that come in,
reports what becomes of the connection, and calls it from time to time. The
client comes to rest before an operation returns.

An element that answers a request resolves it. Any other goes to the modules
whose criteria select it. A stanza that nobody handles, or that a module
refuses, is answered with an error unless it is an answer itself, and
anything else that nobody handles ends the stream.
-/

namespace Xmpp

open Delivery

/-- Whether the sender of a stanza expects an answer. -/
def Element.expectsReply (e : Element) : Bool :=
  e.isStanza && e.attr "type" != some "error" && e.attr "type" != some "result"

/-- The stanza error that reports an error of a module to the sender. -/
def Error.toStanzaError : Error → StanzaError
  | .stanza e => e
  | _ => .new .wait .internalServerError "en" "Internal error."

/-- The answer to a stanza nobody handles. -/
def StanzaError.unhandled : StanzaError :=
  .new .cancel .featureNotImplemented "en" "Feature not implemented."

namespace Client

/-! ## Setting up -/

/-- **Installing a batch** of modules. -/
def install (c : Client) (batch : List Descriptor) : Client × Option Error :=
  let (modules, session, error) := c.modules.install c.session batch
  (({ c with modules, session } : Client).run, error)

/-- A client before any module is installed. -/
def blank (config : Config) (catalogue : Catalogue) : Client where
  session := { config, catalogue, registry := { ownJid := some config.jid } }

/-- **A new client** with the built-in modules and those of a batch. -/
def create (config : Config) (catalogue : Catalogue) (batch : List Descriptor) :
    Except Error Client :=
  if config.password.isSome && config.jid.node.isNone then
    .error (.configuration .missingCredentials)
  else
    let builtIn := ModuleId.builtIn.map (Descriptor.default catalogue)
    match (blank config catalogue).install (builtIn ++ batch) with
    | (c, none) => .ok c
    | (_, some error) => .error error

/-! ## Sending -/

/-- Doing something with the session on behalf of a module. -/
def perform {α : Type} (c : Client) (f : Session → α × Session) : α × Client :=
  let (result, session) := f c.session
  (result, ({ c with session } : Client).run)

/-- **Writing an element** without waiting for a reply. -/
def write (c : Client) (element : Element) : Token × Client :=
  c.perform (·.enqueue element none)

/-- Sending a request that was made already. -/
def submit (c : Client) (request : Request) : Token × Client :=
  c.perform (·.enqueue request.stanza (some request))

/-- **Writing an entry** that was made elsewhere and has its token already,
with its request if it belongs to one. -/
def writeEntry (c : Client) (entry : Entry) (request : Option Request) : Client :=
  ({ c with session := c.session.push (.element entry request) } : Client).run

/-- **Sending a request.** -/
def send (c : Client) (draft : Draft) : Sent × Client :=
  let (request, session) := c.session.makeRequest draft
  let (token, c) := ({ c with session } : Client).submit request
  (⟨request.key, token⟩, c)

/-- **Cancelling a request.** Tells whether there was one that could be
cancelled. -/
def cancel (c : Client) (key : RequestKey) : Bool × Client :=
  match c.session.registry.cancel? key with
  | none => (false, c.run)
  | some (registry, effects) =>
    let session := { c.session with registry }.perform (effects.getD [])
    (effects.isSome, ({ c with session } : Client).run)

/-! ## The connection -/

/-- The transport is being set up. -/
def connecting (c : Client) : Client :=
  (c.setConnector .connecting).run

/-- **The stream is open.** -/
def connected (c : Client) (transport : Transport) : Client :=
  ({ c with transport := some transport }.setConnector .connected).run

/-- **The connection is gone.** -/
def lost (c : Client) : Client :=
  ({ c with transport := none }.setConnector .disconnected).run

/-- **Closing the stream** once everything written so far was sent. -/
def disconnect (c : Client) : Client × Option Error :=
  if c.transport.isNone then (c, some .notConnected)
  else (({ c with session := c.session.close } : Client).run, none)

/-- The transport could not make sense of what the server sent. -/
def parseError (c : Client) (message : String) : Client :=
  ({ c with session := c.session.fire (.parseError message) } : Client).run

/-! ## Receiving -/

/-- What becomes of an element nobody handles. -/
def turnAway (s : Session) (e : Element) : Session :=
  if e.expectsReply then s.write (e.refusal .unhandled)
  else if e.isStanza then s
  else (s.write (StreamError.toElement "unsupported-stanza-type")).close

/-- Hands an element to one module. The sender learns of the first error
only. -/
def routeTo (e : Element) (state : Session × Bool) (slot : Slot) : Session × Bool :=
  let (s, replied) := state
  match Modules.process slot s e with
  | (s, none) => (s, replied)
  | (s, some error) =>
    if !replied && e.expectsReply then (s.write (e.refusal error.toStanzaError), true)
    else (s, replied)

/-- **Routing an element** to the modules that handle it. -/
def route (c : Client) (s : Session) (e : Element) : Session :=
  match c.modules.targets e with
  | [] => turnAway s e
  | targets => (targets.foldl (routeTo e) (s, false)).1

/-- **Handling an element** from the server. -/
def receive (c : Client) (e : Element) : Client :=
  let s := c.session.countReceived e
  let session := match s.registry.resolve? e with
    | some (registry, effects) => { s with registry }.perform effects
    | none => c.route s e
  ({ c with session } : Client).run

/-- An element is handled by one module, whether or not it would be routed
there. -/
def process (c : Client) (id : ModuleId) (e : Element) : Client × Option Error :=
  match c.modules.require id with
  | .error error => (c, some (.configuration error))
  | .ok occupant =>
    let (error, c) := c.perform fun s => (s.handle id occupant.tag e).swap
    (c, error)

/-! ## Time -/

/-- The clock moves on. -/
def advance (c : Client) (duration : Nat) : Client :=
  { c with session := { c.session with clock := c.session.clock + duration } }

/-- **Housekeeping** at a point in time: fails overdue requests, and sees to
reports while there is a transport. -/
def tick (c : Client) (now : Nat) : Client :=
  let s := c.session.swept (c.session.registry.sweepOutdated now)
  ({ c with session := if c.transport.isSome then s.manage else s } : Client).run

/-! ## Delivery -/

/-- The state of an element that was written. -/
def state? (c : Client) (token : Token) : Option State :=
  c.session.board.state? token

/-- Whether an element is still looked after: it waits in the outbox, or was
sent and is kept until it is confirmed. -/
def isTracked (c : Client) (token : Token) : Bool :=
  c.session.outbox.any (fun item => item.entry?.any (·.token = token))
    || c.session.unconfirmed.any (·.token = token)

/-! ## What happened -/

/-- Takes all published events. -/
def takeEvents (c : Client) : List Event × Client :=
  (c.published, { c with published := [] })

/-- Takes the oldest published event. -/
def nextEvent (c : Client) : Option Event × Client :=
  match c.published with
  | [] => (none, c)
  | event :: rest => (some event, { c with published := rest })

/-- **The record** of what happened outside the client. -/
structure Record where
  /-- What transports were asked for. -/
  frames : List Frame
  /-- The calls to code of the application. -/
  notes : List Note
  /-- The futures that were settled. -/
  settled : List (Nat × Outcome)

/-- Takes the record since it was taken last. -/
def takeRecord (c : Client) : Record × Client :=
  (⟨c.wire, c.session.notes, c.session.settled⟩,
    { c with wire := [], session := { c.session with notes := [], settled := [] } })

end Client

end Xmpp
