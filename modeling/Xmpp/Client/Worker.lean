import Xmpp.Client.Operations

/-!
# Workers

A worker owns a client and carries out commands for it. Whoever holds the
worker only puts commands into a queue; the worker takes them one by one, in
the order in which they were given, and in between it does the client's
housekeeping whenever that is due. The events a command led to are forwarded
before the next one is taken.

An element written through a worker waits in the queue of commands before it
gets to the outbox of the client, so its holder knows it by a *slip*: the
number of elements written before it. Its entry is made, and gets its token,
when the command is taken, and the client puts it into its outbox as it is.

A worker can be stopped from outside, which takes the client away. What the
client kept is dropped, and whatever is written afterwards fails at once.
-/

namespace Xmpp

open Delivery

/-- **When housekeeping is due.** -/
structure Ticker where
  /-- The time between two rounds. -/
  interval : Nat
  /-- When the next round is due. -/
  due : Nat
deriving DecidableEq

namespace Ticker

/-- By how much a round may be late without putting off the next one. -/
def tolerance : Nat := 5

/-- Whether a round is due. -/
def isDue (t : Ticker) (now : Nat) : Bool :=
  t.due ≤ now

/-- The ticker after a round. A late round puts off all later ones. -/
def next (t : Ticker) (now : Nat) : Ticker :=
  { t with due := if now ≤ t.due + tolerance then t.due + t.interval else now + t.interval }

end Ticker

/-- **A command** for the client of a worker. -/
inductive Command where
  /-- The stream is open. -/
  | connected (transport : Transport)
  /-- An element came in. -/
  | received (element : Element)
  /-- The transport could not make sense of what the server sent. -/
  | parseError (message : String)
  /-- The connection is gone. -/
  | lost
  /-- The stream is to be closed. -/
  | disconnect
  /-- An element is to be written, with its request if it belongs to one. -/
  | write (element : Element) (request : Option Request)

/-- The request a command brings along. -/
def Command.request? : Command → Option Request
  | .write _ request => request
  | _ => none

namespace Client

/-- **Carrying out a command**: the token if an element was written, and the
client afterwards. Closing a stream that is not open has no effect. -/
def obey (c : Client) : Command → Option Token × Client
  | .connected transport => (none, c.connected transport)
  | .received element => (none, c.receive element)
  | .parseError message => (none, c.parseError message)
  | .lost => (none, c.lost)
  | .disconnect => (none, c.disconnect.1)
  | .write element request =>
    let (entry, session) := c.session.track element
    (some entry.token, ({ c with session } : Client).writeEntry entry request)

end Client

/-- **A worker.** -/
structure Worker where
  /-- The client. -/
  client : Client
  /-- When housekeeping is due. -/
  ticker : Ticker
  /-- The commands that wait, oldest first. -/
  queue : List Command := []
  /-- The tokens of the elements the client took, by their slips. -/
  taken : List Token := []
  /-- The number of elements written. -/
  written : Nat := 0
  /-- The events that were forwarded, oldest first. -/
  forwarded : List Event := []
  /-- Whether the client was taken away. -/
  stopped : Bool := false

namespace Worker

/-- How long a request waits for a reply if nothing is said about it. -/
def usualTimeout : Nat := 30000

/-- **A worker for a client.** The first round of housekeeping is due at
once. -/
def spawn (client : Client) : Worker where
  client := client
  ticker := { interval := client.session.config.tickInterval, due := client.session.clock }

/-! ## Holding a worker -/

/-- Gives a command. -/
def command (w : Worker) (command : Command) : Worker :=
  if w.stopped then w else { w with queue := w.queue ++ [command] }

/-- **Writing an element**, with its request if it belongs to one; tells the
slip. -/
def put (w : Worker) (element : Element) (request : Option Request) : Nat × Worker :=
  let counted := { w with written := w.written + 1 }
  if w.stopped then
    let session := w.client.session.failUnsent request .abandoned
    (w.written, { counted with client := { w.client with session } })
  else (w.written, counted.command (.write element request))

/-- **Sending a request.** -/
def send (w : Worker) (draft : Draft) : RequestKey × Nat × Worker :=
  let s := w.client.session
  let (request, drawn) := draft.build usualTimeout s.clock s.drawn
  let session := { s with drawn }
  let (slip, w) := { w with client := { w.client with session } }.put request.stanza (some request)
  (request.key, slip, w)

/-- **The state of an element** that was written: what its token says once
the client took it, and until then it is queued, unless the worker was
stopped. -/
def state? (w : Worker) (slip : Nat) : Option State :=
  match w.taken[slip]? with
  | some token => w.client.session.board.state? token
  | none =>
    if slip < w.written then some (if w.stopped then .dropped else .queued) else none

/-- Whether an element is still looked after. -/
def isTracked (w : Worker) (slip : Nat) : Bool :=
  match w.taken[slip]? with
  | some token => w.client.isTracked token
  | none => slip < w.written && !w.stopped

/-! ## Working -/

/-- Forwards the events the client published. -/
def forward (w : Worker) : Worker :=
  let (events, client) := w.client.takeEvents
  { w with client, forwarded := w.forwarded ++ events }

/-- **Taking the oldest command.** -/
def takeCommand (w : Worker) : Worker :=
  match w.queue with
  | [] => w
  | command :: queue =>
    let (token, client) := w.client.obey command
    ({ w with client, queue, taken := w.taken ++ token.toList } : Worker).forward

/-- **A round of housekeeping.** -/
def takeRound (w : Worker) : Worker :=
  let now := w.client.session.clock
  ({ w with client := w.client.tick now, ticker := w.ticker.next now } : Worker).forward

/-- Carries out the commands that wait. -/
def obeyAll (w : Worker) : Worker :=
  (List.range w.queue.length).foldl (fun w _ => w.takeCommand) w

/-- Does the rounds that are due, at most this many. -/
def takeRounds : Nat → Worker → Worker
  | 0, w => w
  | n + 1, w => if w.ticker.isDue w.client.session.clock then takeRounds n w.takeRound else w

/-- How many rounds can be due. Each puts the next one off by an interval,
which is not zero. -/
def roundsDue (w : Worker) : Nat :=
  w.client.session.clock + 1 - w.ticker.due

/-- **Working** until nothing is left to do. -/
def work (w : Worker) : Worker :=
  if w.stopped then w
  else
    let w := w.obeyAll
    takeRounds w.roundsDue w

/-- The clock moves on. -/
def advance (w : Worker) (duration : Nat) : Worker :=
  { w with client := w.client.advance duration }

/-- **Stopping the worker.** Elements that were not confirmed are dropped,
and whoever waits for a request learns that it was abandoned. A worker that
was stopped has nothing left to take away. -/
def stop (w : Worker) : Worker :=
  if w.stopped then w
  else
    let s := w.client.session
    let requests := w.queue.filterMap Command.request? ++ s.openRequests
    let session := s.resetManagement.perform
      ((requests.flatMap Request.tickets).map fun ticket => .settled ticket (.error .abandoned))
    { w with client := { w.client with session, transport := none }, queue := [], stopped := true }

/-- Takes the events that were forwarded. -/
def takeEvents (w : Worker) : List Event × Worker :=
  (w.forwarded, { w with forwarded := [] })

end Worker

end Xmpp
