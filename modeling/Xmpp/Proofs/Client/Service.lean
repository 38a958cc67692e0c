import Xmpp.Client.Worker
import Xmpp.Proofs.Client.Footing

/-!
# The service of a worker

A worker stands between a client and whoever calls it. A call does not reach the
client at once: it becomes a command, which waits until the commands before it were
carried out, and an element that is written has no token until then. In between the
worker does rounds of housekeeping, and time passes.

This file shows that none of this can be told from the outside (`Worker.faithful`).
A schedule is a list of `Turn`s: calls, commands that are taken, rounds, and time
that passes, in any order. What a schedule does to the client is a list of plain
operations (`Worker.operations`), and its calls are what these operations carry out,
each of them once and in the order of the calls.

The one thing that happens at a call and not when its command is taken is that a
request is made: it draws its id, and its time starts to run. So the operations of a
schedule have the id drawn where the call is made and the request submitted where
the command is taken.
-/

namespace Xmpp

open Delivery

/-! ## Plain operations -/

/-- Whether an operation is one that whoever holds a worker can call for. -/
def Operation.isCall : Operation → Bool
  | .connected _ | .receive _ | .parseError _ | .lost | .disconnect | .write _ | .submit _ => true
  | _ => false

/-- The token the caller of an operation gets, if an element is written. -/
def Operation.token? (c : Client) : Operation → Option Token
  | .write element => some (c.write element).1
  | .submit request => some (c.submit request).1
  | _ => none

/-- The events the caller of an operation gets, if they are taken. -/
def Operation.taken (c : Client) : Operation → List Event
  | .takeEvents => c.takeEvents.1
  | _ => []

namespace Client

/-- What the caller of operations gets from them, one after another. -/
def gets {α : Type} (answers : Client → Operation → List α) (c : Client) : List Operation → List α
  | [] => []
  | op :: rest => answers c op ++ (c.operate op).gets answers rest

/-- **The tokens** of the elements that are written in a run. -/
def tokens (c : Client) (ops : List Operation) : List Token :=
  c.gets (fun c op => (op.token? c).toList) ops

/-- **The events** that are taken in a run. -/
def collected (c : Client) (ops : List Operation) : List Event :=
  c.gets (fun c op => op.taken c) ops

theorem gets_append {α : Type} (answers : Client → Operation → List α) (c : Client)
    (ops more : List Operation) :
    c.gets answers (ops ++ more)
      = c.gets answers ops ++ (ops.foldl operate c).gets answers more := by
  induction ops generalizing c with
  | nil => rfl
  | cons op rest ih =>
    rw [List.cons_append, gets, gets, ih, List.append_assoc, List.foldl_cons]

/-- The entry and the client after an element got its token, before anything waits. -/
def tracked (c : Client) (element : Element) : Entry × Client :=
  ((c.session.track element).1, { c with session := (c.session.track element).2 })

/-- **Writing an entry that was made before** is writing its element. -/
theorem writeEntry_tracked (c : Client) (element : Element) :
    (c.tracked element).2.writeEntry (c.tracked element).1 none = (c.write element).2
      ∧ (c.tracked element).1.token = (c.write element).1 :=
  ⟨rfl, rfl⟩

/-- If it is the entry of a request, it is sending the request. -/
theorem writeEntry_tracked_stanza (c : Client) (request : Request) :
    (c.tracked request.stanza).2.writeEntry (c.tracked request.stanza).1 (some request)
        = (c.submit request).2
      ∧ (c.tracked request.stanza).1.token = (c.submit request).1 :=
  ⟨rfl, rfl⟩

end Client

/-! ## Commands -/

namespace Command

/-- The operation a command stands for. -/
def operation : Command → Operation
  | .connected transport => .connected transport
  | .received element => .receive element
  | .parseError message => .parseError message
  | .lost => .lost
  | .disconnect => .disconnect
  | .write element none => .write element
  | .write _ (some request) => .submit request

/-- Whether a command writes an element. -/
def isWrite : Command → Bool
  | .write _ _ => true
  | _ => false

/-- Whether what a command writes is the stanza of its request, if it has one. -/
def Genuine (command : Command) : Prop :=
  ∀ element request, command = .write element (some request) → element = request.stanza

theorem isCall_operation (command : Command) : command.operation.isCall = true := by
  rcases command with _ | _ | _ | _ | _ | ⟨element, _ | request⟩ <;> rfl

/-- **Carrying out a command** is the operation it stands for. -/
theorem Genuine.obey {command : Command} (h : command.Genuine) (c : Client) :
    c.obey command = (command.operation.token? c, c.operate command.operation) := by
  cases command with
  | write element request =>
    cases request with
    | none =>
      obtain ⟨hwrite, htoken⟩ := c.writeEntry_tracked element
      exact Prod.ext (congrArg some htoken) hwrite
    | some request =>
      obtain rfl := h _ _ rfl
      obtain ⟨hsubmit, htoken⟩ := c.writeEntry_tracked_stanza request
      exact Prod.ext (congrArg some htoken) hsubmit
  | _ => rfl

/-- No events are taken by it. -/
theorem taken_operation (command : Command) (c : Client) : command.operation.taken c = [] := by
  rcases command with _ | _ | _ | _ | _ | ⟨element, _ | request⟩ <;> rfl

/-- It makes a token if it writes an element. -/
theorem length_token? (command : Command) (c : Client) :
    (command.operation.token? c).toList.length = if command.isWrite then 1 else 0 := by
  rcases command with _ | _ | _ | _ | _ | ⟨element, _ | request⟩ <;> rfl

end Command

namespace Worker

/-! ## Turns -/

/-- **A call** of whoever holds a worker. -/
inductive Call where
  /-- The stream is open. -/
  | connected (transport : Transport)
  /-- An element came in. -/
  | received (element : Element)
  /-- What the server sent makes no sense. -/
  | parseError (message : String)
  /-- The connection is gone. -/
  | lost
  /-- The stream is to be closed. -/
  | disconnect
  /-- An element is to be written. -/
  | write (element : Element)
  /-- A request is to be sent. -/
  | send (draft : Draft)

/-- **A turn** of a worker and whoever holds it. -/
inductive Turn where
  /-- The worker is called. -/
  | call (call : Call)
  /-- The worker takes the oldest command. -/
  | take
  /-- The worker does a round of housekeeping. -/
  | round
  /-- Time passes. -/
  | pass (duration : Nat)

/-- Whether a turn is a call. -/
def Turn.isCall : Turn → Bool
  | .call _ => true
  | _ => false

/-- Whether the worker takes a command in a turn. -/
def Turn.isTake : Turn → Bool
  | .take => true
  | _ => false

variable (w : Worker)

/-- What the draft of a request comes to if a worker is called with it: the request,
and the number of ids that were drawn then. -/
def make (draft : Draft) : Request × Nat :=
  draft.build usualTimeout w.client.session.clock w.client.session.drawn

/-- Calling a worker. -/
def called : Call → Worker
  | .connected transport => w.command (.connected transport)
  | .received element => w.command (.received element)
  | .parseError message => w.command (.parseError message)
  | .lost => w.command .lost
  | .disconnect => w.command .disconnect
  | .write element => (w.put element none).2
  | .send draft => (w.send draft).2.2

/-- The command a call comes to. -/
def commandOf : Call → Command
  | .connected transport => .connected transport
  | .received element => .received element
  | .parseError message => .parseError message
  | .lost => .lost
  | .disconnect => .disconnect
  | .write element => .write element none
  | .send draft => .write (w.make draft).1.stanza (some (w.make draft).1)

/-- **A turn.** -/
def turn : Turn → Worker
  | .call call => w.called call
  | .take => w.takeCommand
  | .round => w.takeRound
  | .pass duration => w.advance duration

/-- The command that is given in a turn. -/
def given? : Turn → Option Command
  | .call call => some (w.commandOf call)
  | _ => none

/-- **What a turn does to the client**: plain operations. -/
def amounts : Turn → List Operation
  | .call (.send draft) => [.call [.draw (w.make draft).2]]
  | .call _ => []
  | .take =>
    match w.queue with
    | [] => []
    | command :: _ => [command.operation, .takeEvents]
  | .round => [.tick w.client.session.clock, .takeEvents]
  | .pass duration => [.advance duration]

/-- **The commands** that are given in a schedule, in the order of the calls. -/
def commands (w : Worker) : List Turn → List Command
  | [] => []
  | t :: rest => (w.given? t).toList ++ (w.turn t).commands rest

/-- **The operations** a schedule comes to for the client. -/
def operations (w : Worker) : List Turn → List Operation
  | [] => []
  | t :: rest => w.amounts t ++ (w.turn t).operations rest

/-! ## What a turn does -/

/-- **A worker that goes on**: it was not stopped, what it was given is genuine, and
its client is at rest. -/
structure Serves (w : Worker) : Prop where
  /-- It was not stopped. -/
  stopped : w.stopped = false
  /-- A request is written as its own stanza. -/
  genuine : ∀ command ∈ w.queue, command.Genuine
  /-- Its client is at rest. -/
  atRest : w.client.AtRest

/-- **What a worker does in the course of turns** in which these commands are given
and which come to these operations. -/
structure Service (w : Worker) (commands : List Command) (ops : List Operation) (w' : Worker) :
    Prop where
  /-- The client goes through the operations. -/
  client : w'.client = ops.foldl Client.operate w.client
  /-- The events that are taken on the way are forwarded. -/
  forwarded : w'.forwarded = w.forwarded ++ w.client.collected ops
  /-- The tokens that are made on the way are kept. -/
  taken : w'.taken = w.taken ++ w.client.tokens ops
  /-- Commands are carried out or wait, in their order. -/
  order : ops.filter Operation.isCall ++ w'.queue.map Command.operation
    = (w.queue ++ commands).map Command.operation
  /-- Every element that is written is counted. -/
  written : w'.written = w.written + commands.countP Command.isWrite
  /-- It has a token or waits. -/
  slips : (w.client.tokens ops).length + w'.queue.countP Command.isWrite
    = (w.queue ++ commands).countP Command.isWrite

namespace Service

variable {w w' w'' : Worker} {commands commands' : List Command} {ops ops' : List Operation}

theorem refl (w : Worker) : w.Service [] [] w where
  client := rfl
  forwarded := (List.append_nil _).symm
  taken := (List.append_nil _).symm
  order := by rw [List.append_nil]; rfl
  written := rfl
  slips := by rw [List.append_nil]; exact Nat.zero_add _

theorem trans (first : w.Service commands ops w') (second : w'.Service commands' ops' w'') :
    w.Service (commands ++ commands') (ops ++ ops') w'' where
  client := by rw [second.client, first.client, List.foldl_append]
  forwarded := by
    rw [second.forwarded, first.forwarded, first.client, List.append_assoc]
    exact congrArg (w.forwarded ++ ·) (Client.gets_append _ _ _ _).symm
  taken := by
    rw [second.taken, first.taken, first.client, List.append_assoc]
    exact congrArg (w.taken ++ ·) (Client.gets_append _ _ _ _).symm
  order := by
    rw [List.filter_append, List.append_assoc, second.order, List.map_append, ← List.append_assoc,
      first.order, ← List.map_append, List.append_assoc]
  written := by rw [second.written, first.written, List.countP_append, Nat.add_assoc]
  slips := by
    have hfirst := first.slips
    have hsecond := second.slips
    rw [first.client] at hsecond
    rw [Client.tokens, Client.gets_append, List.length_append]
    rw [Client.tokens] at hfirst hsecond
    simp only [List.countP_append] at hfirst hsecond ⊢
    omega

/-- A worker may do something of its own accord while the commands wait. -/
theorem unasked (queue : w'.queue = w.queue) (written : w'.written = w.written)
    (client : w'.client = ops.foldl Client.operate w.client)
    (forwarded : w'.forwarded = w.forwarded ++ w.client.collected ops)
    (taken : w'.taken = w.taken) (calls : ops.filter Operation.isCall = [])
    (tokens : w.client.tokens ops = []) : w.Service [] ops w' where
  client := client
  forwarded := forwarded
  taken := by rw [taken, tokens, List.append_nil]
  order := by rw [calls, queue, List.append_nil, List.nil_append]
  written := written
  slips := by
    rw [tokens, queue, List.append_nil]
    exact Nat.zero_add _

end Service

namespace Serves

variable {w : Worker}

theorem command (h : w.Serves) (command : Command) :
    w.command command = { w with queue := w.queue ++ [command] } := by
  unfold Worker.command
  rw [h.stopped]
  rfl

theorem put (h : w.Serves) (element : Element) (request : Option Request) :
    (w.put element request).2 =
      { w with queue := w.queue ++ [.write element request], written := w.written + 1 } := by
  unfold Worker.put Worker.command
  dsimp only
  rw [h.stopped]
  rfl

/-- **A call** puts its command last. A request is made on the spot, which draws ids. -/
theorem called (h : w.Serves) (call : Call) :
    w.called call =
      { w with
        client := (w.amounts (.call call)).foldl Client.operate w.client
        queue := w.queue ++ [w.commandOf call]
        written := w.written + if (w.commandOf call).isWrite then 1 else 0 } := by
  cases call with
  | write element => exact h.put element none
  | send draft =>
    let drawing := w.client.session.change (.draw (w.make draft).2)
    have drawn : (w.amounts (.call (.send draft))).foldl Client.operate w.client
        = { w.client with session := drawing } :=
      Client.AtRest.run (c := { w.client with session := drawing }) h.atRest
    have serves : Serves { w with client := { w.client with session := drawing } } :=
      ⟨h.stopped, h.genuine, h.atRest⟩
    rw [drawn]
    exact serves.put _ _
  | _ => exact h.command _

/-- **Taking a command** is the operation it stands for, after which the events are
taken. -/
theorem takeCommand {command : Command} {queue : List Command} (h : w.Serves)
    (hq : w.queue = command :: queue) :
    w.takeCommand =
      { w with
        client := (w.client.operate command.operation).takeEvents.2
        queue
        taken := w.taken ++ (command.operation.token? w.client).toList
        forwarded := w.forwarded ++ (w.client.operate command.operation).published } := by
  have genuine : command.Genuine := h.genuine command (hq ▸ List.mem_cons_self)
  unfold Worker.takeCommand
  rw [hq]
  dsimp only
  rw [genuine.obey]
  rfl

end Serves

/-! ### One turn -/

theorem genuine_commandOf (w : Worker) (call : Call) : (w.commandOf call).Genuine := by
  intro element request heq
  cases call <;> cases heq
  rfl

/-- The operations a call amounts to are not those it calls for. -/
theorem amounts_call (w : Worker) (call : Call) :
    (w.amounts (.call call)).filter Operation.isCall = []
      ∧ w.client.collected (w.amounts (.call call)) = []
      ∧ w.client.tokens (w.amounts (.call call)) = [] := by
  cases call <;> exact ⟨rfl, rfl, rfl⟩

namespace Serves

variable {w : Worker}

/-- **A turn** does what it amounts to. -/
theorem service (h : w.Serves) (t : Turn) :
    w.Service (w.given? t).toList (w.amounts t) (w.turn t) := by
  cases t with
  | call call =>
    obtain ⟨calls, collected, tokens⟩ := w.amounts_call call
    rw [show w.turn (.call call) = _ from h.called call]
    constructor
    · rfl
    · rw [collected, List.append_nil]
    · rw [tokens, List.append_nil]
    · rw [calls]
      rfl
    · show _ = w.written + List.countP Command.isWrite [w.commandOf call]
      rw [List.countP_singleton]
    · rw [tokens]
      exact Nat.zero_add _
  | take =>
    show w.Service [] (w.amounts .take) w.takeCommand
    cases hq : w.queue with
    | nil =>
      have htake : w.takeCommand = w := by
        unfold Worker.takeCommand
        rw [hq]
      have hnone : w.amounts .take = [] := by
        unfold amounts
        rw [hq]
      rw [htake, hnone]
      exact .refl w
    | cons command queue =>
      have hone : w.amounts .take = [command.operation, .takeEvents] := by
        unfold amounts
        rw [hq]
      have tokens : w.client.tokens [command.operation, .takeEvents]
          = (command.operation.token? w.client).toList := by
        show _ ++ ([] ++ []) = _
        rw [List.append_nil, List.append_nil]
      have collected : w.client.collected [command.operation, .takeEvents]
          = (w.client.operate command.operation).published := by
        show command.operation.taken w.client ++ (_ ++ []) = _
        rw [command.taken_operation, List.append_nil]
        rfl
      rw [hone, h.takeCommand hq]
      constructor
      · rfl
      · rw [collected]
      · rw [tokens]
      · rw [List.filter_cons_of_pos (command.isCall_operation), hq, List.append_nil]
        rfl
      · rfl
      · rw [tokens, command.length_token?, hq, List.append_nil, List.countP_cons]
        exact Nat.add_comm _ _
  | round =>
    refine .unasked rfl rfl rfl ?_ rfl rfl rfl
    exact congrArg (w.forwarded ++ ·) (List.append_nil _).symm
  | pass duration => exact .unasked rfl rfl rfl (List.append_nil _).symm rfl rfl rfl

/-- A worker still goes on after a turn. -/
theorem turn (h : w.Serves) (t : Turn) : (w.turn t).Serves := by
  have atRest : (w.turn t).client.AtRest := by
    rw [(h.service t).client]
    exact h.atRest.foldl_operate _
  cases t with
  | call call =>
    rw [show w.turn (.call call) = _ from h.called call] at atRest ⊢
    refine ⟨h.stopped, fun command hmem => ?_, atRest⟩
    rcases List.mem_append.1 hmem with hmem | hmem
    · exact h.genuine command hmem
    · exact List.mem_singleton.1 hmem ▸ w.genuine_commandOf call
  | take =>
    cases hq : w.queue with
    | nil =>
      show w.takeCommand.Serves
      unfold Worker.takeCommand
      rw [hq]
      exact h
    | cons command queue =>
      rw [show w.turn .take = _ from h.takeCommand hq] at atRest ⊢
      exact ⟨h.stopped, fun other hmem => h.genuine other (hq ▸ List.mem_cons_of_mem _ hmem),
        atRest⟩
  | round => exact ⟨h.stopped, h.genuine, atRest⟩
  | pass duration => exact ⟨h.stopped, h.genuine, atRest⟩

/-! ### A schedule -/

/-- **A schedule** does what its turns amount to. -/
theorem foldl_turn (h : w.Serves) (turns : List Turn) :
    w.Service (w.commands turns) (w.operations turns) (turns.foldl Worker.turn w) := by
  induction turns generalizing w with
  | nil => exact .refl w
  | cons t rest ih => exact (h.service t).trans (ih (h.turn t))

/-- A worker still goes on after a schedule. -/
theorem foldl (h : w.Serves) (turns : List Turn) : (turns.foldl Worker.turn w).Serves := by
  induction turns generalizing w with
  | nil => exact h
  | cons t rest ih => exact ih (h.turn t)

/-- If nobody calls, the worker works off the commands that wait. -/
theorem queue_foldl_turn (h : w.Serves) (turns : List Turn)
    (quiet : ∀ t ∈ turns, t.isCall = false) :
    (turns.foldl Worker.turn w).queue = w.queue.drop (turns.countP Turn.isTake) := by
  induction turns generalizing w with
  | nil => rfl
  | cons t rest ih =>
    have step : (w.turn t).queue = w.queue.drop (if t.isTake then 1 else 0) := by
      cases t with
      | call call => cases quiet _ List.mem_cons_self
      | take =>
        cases hq : w.queue with
        | nil =>
          show w.takeCommand.queue = _
          unfold Worker.takeCommand
          rw [hq]
          exact hq
        | cons command queue => exact congrArg (·.queue) (h.takeCommand hq)
      | _ => rfl
    rw [List.foldl_cons, ih (h.turn t) fun t hmem => quiet t (List.mem_cons_of_mem _ hmem), step,
      List.drop_drop, List.countP_cons, Nat.add_comm]

end Serves

theorem commands_append (w : Worker) (turns more : List Turn) :
    w.commands (turns ++ more) = w.commands turns ++ (turns.foldl turn w).commands more := by
  induction turns generalizing w with
  | nil => rfl
  | cons t rest ih =>
    rw [List.cons_append, commands, commands, ih, List.append_assoc, List.foldl_cons]

/-- No command is given if nobody calls. -/
theorem commands_of_quiet (w : Worker) {turns : List Turn}
    (quiet : ∀ t ∈ turns, t.isCall = false) : w.commands turns = [] := by
  induction turns generalizing w with
  | nil => rfl
  | cons t rest ih =>
    have hnone : w.given? t = none := by
      cases t with
      | call call => cases quiet _ List.mem_cons_self
      | _ => rfl
    rw [commands, hnone, ih _ fun t hmem => quiet t (List.mem_cons_of_mem _ hmem)]
    rfl

/-- A new worker for a client at rest goes on. -/
theorem serves_spawn {c : Client} (h : c.AtRest) : (spawn c).Serves :=
  ⟨rfl, List.forall_mem_nil _, h⟩

/-! ## Faithful workers -/

/-- **A worker is faithful to its client.** Whatever it is called with and in whichever
order the turns come, its client is what becomes of a plain one with the operations of
the schedule, with all that is handed to the transport and all that is settled on the
way, and it forwards the events that are taken after each of them. These operations are
those that were called for, once each and in the order of the calls, as far as they do
not wait. They wait no longer than it takes the worker to take as many commands, so once
nobody calls any more and it has taken the rest, each of them was carried out once. An
element that was written is in the state the plain client tells for its token, and before
it has one it is queued. Closing a stream that is not open has no effect. -/
theorem faithful {c : Client} (h : c.AtRest) (turns : List Turn) :
    let w := turns.foldl turn (spawn c)
    let ops := (spawn c).operations turns
    let commands := (spawn c).commands turns
    w.client = ops.foldl Client.operate c
      ∧ w.forwarded = c.collected ops
      ∧ ops.filter Operation.isCall ++ w.queue.map Command.operation
        = commands.map Command.operation
      ∧ (∀ rest : List Turn, (∀ t ∈ rest, t.isCall = false) →
          (rest.foldl turn w).queue = w.queue.drop (rest.countP Turn.isTake)
            ∧ (w.queue.length ≤ rest.countP Turn.isTake →
              ((spawn c).operations (turns ++ rest)).filter Operation.isCall
                = commands.map Command.operation))
      ∧ (c.tokens ops).length + w.queue.countP Command.isWrite = commands.countP Command.isWrite
      ∧ (∀ slip, w.state? slip =
          match (c.tokens ops)[slip]? with
          | some token => (ops.foldl Client.operate c).state? token
          | none => if slip < commands.countP Command.isWrite then some .queued else none)
      ∧ ∀ d : Client, d.transport = none → d.operate .disconnect = d := by
  intro w ops commands
  have service : (spawn c).Service commands ops w := (serves_spawn h).foldl_turn turns
  have serves : w.Serves := (serves_spawn h).foldl turns
  have client : w.client = ops.foldl Client.operate c := service.client
  have taken : w.taken = c.tokens ops := service.taken
  have written : w.written = commands.countP Command.isWrite :=
    service.written.trans (Nat.zero_add _)
  refine ⟨client, service.forwarded, service.order, fun rest quiet => ?_, service.slips,
    fun slip => ?_, fun d hd => ?_⟩
  · have hqueue := serves.queue_foldl_turn rest quiet
    refine ⟨hqueue, fun enough => ?_⟩
    have order := ((serves_spawn h).foldl_turn (turns ++ rest)).order
    rw [List.foldl_append, hqueue, List.drop_eq_nil_of_le enough, commands_append,
      commands_of_quiet _ quiet, List.map_nil, List.append_nil, List.append_nil] at order
    exact order
  · unfold state?
    rw [taken, written, client, serves.stopped]
    rfl
  · show d.disconnect.1 = d
    unfold Client.disconnect
    rw [hd]
    rfl

namespace Rehearsal

open Client.Rehearsal

/-- The worker is called in the middle of a login while it does other things. -/
def interleaves : List Turn :=
  [.call (.received welcomes), .call (.write { name := "presence", ns := Namespace.client }),
    .call (.send (.iqGet none { name := "ping", ns := "urn:xmpp:ping" })), .round, .take,
    .pass 5, .call .disconnect, .take, .round, .take, .take, .call .disconnect, .take]

end Rehearsal

open Rehearsal Client.Rehearsal

/-- In the rehearsal the elements that were written first and second got the tokens the
client made second and third, and both were sent. -/
theorem faithful_rehearsal :
    newcomer.AtRest
      ∧ newcomer.tokens ((spawn newcomer).operations interleaves) = [1, 2]
      ∧ (interleaves.foldl turn (spawn newcomer)).state? 0 = some .sent
      ∧ (interleaves.foldl turn (spawn newcomer)).state? 1 = some .sent := by
  have tokens : newcomer.tokens ((spawn newcomer).operations interleaves) = [1, 2] := by
    decide +kernel
  obtain ⟨-, -, -, -, -, states, -⟩ := faithful reachable_newcomer.atRest interleaves
  refine ⟨reachable_newcomer.atRest, tokens, ?_, ?_⟩
  · rw [states 0, tokens]
    decide +kernel
  · rw [states 1, tokens]
    decide +kernel

/-! ## Working -/

/-- **Working** is a schedule: all commands that wait are taken, and then rounds are
done. -/
theorem exists_work_eq {w : Worker} (h : w.stopped = false) :
    ∃ rounds, w.work =
      (List.replicate w.queue.length Turn.take ++ List.replicate rounds Turn.round).foldl
        turn w := by
  have takes (v : Worker) (n : Nat) :
      (List.range n).foldl (fun w _ => w.takeCommand) v
        = (List.replicate n Turn.take).foldl turn v := by
    induction n generalizing v with
    | zero => rfl
    | succ n ih =>
      rw [List.range_succ, List.foldl_append, ih, List.replicate_succ', List.foldl_append]
      rfl
  have rounds (n : Nat) (v : Worker) :
      ∃ m, takeRounds n v = (List.replicate m Turn.round).foldl turn v := by
    induction n generalizing v with
    | zero => exact ⟨0, rfl⟩
    | succ n ih =>
      unfold takeRounds
      split
      · obtain ⟨m, hm⟩ := ih v.takeRound
        exact ⟨m + 1, hm⟩
      · exact ⟨0, rfl⟩
  obtain ⟨m, hm⟩ := rounds w.obeyAll.roundsDue w.obeyAll
  refine ⟨m, ?_⟩
  unfold work
  rw [if_neg (by rw [h]; exact Bool.false_ne_true), List.foldl_append, ← takes]
  exact hm

/-- Nothing waits after working. -/
theorem Serves.queue_work {w : Worker} (h : w.Serves) : w.work.queue = [] := by
  obtain ⟨rounds, hwork⟩ := exists_work_eq h.stopped
  rw [hwork, h.queue_foldl_turn _ fun t hmem => ?_]
  · rw [List.countP_append, List.countP_replicate]
    exact List.drop_eq_nil_of_le (Nat.le_add_right _ _)
  · rcases List.mem_append.1 hmem with hmem | hmem
    · rw [List.eq_of_mem_replicate hmem]
      rfl
    · rw [List.eq_of_mem_replicate hmem]
      rfl

end Worker

end Xmpp
