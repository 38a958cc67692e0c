import Mathlib.Data.Prod.Lex
import Mathlib.Order.WellFounded
import Xmpp.Proofs.Client.Run

/-!
# What a client publishes

Every operation lets the client come to rest, and on the way it publishes events.
The main result, `Client.tells_blank`, is about all of them in any life of a client:
what its owner is handed, and what still waits to be handed out, are the events that
were fired, each once and in the order in which they were fired.

Two things could go wrong. The loop might not end, since a reaction of the controller
may send requests that fail at once, whose handlers fire events the controller reacts
to. `Client.wellFounded_follows` rules this out for every client there is, reachable or
not: with each move fewer handlers of the application are left to be called, or as many
with less work, or as much work with fewer items to hand over. And an event might be
skipped or told twice, since whatever is fired in the middle of a reaction has to wait
behind the events fired before it.

To say what was fired independently of where events end up, a *chronicle* notes down
the events of every single change and of every item handed over, and separately those
shown to the controller. `Client.Rests` compares the two.
-/

namespace Xmpp

open Delivery

/-! ## Firing -/

/-- The events that effects publish. -/
def Effect.published (effects : List Effect) : List Event :=
  effects.filterMap Effect.event?

namespace Session

variable {P : Session → Change → Prop} {s s' s'' : Session} {log log' : List Event}

/-- **The events a change fires**: its own, or those of the requests it resolves. -/
def fired (s : Session) : Change → List Event
  | .fire event => [event]
  | .answer reply => Effect.published (((s.registry.resolve? reply).map (·.2)).getD [])
  | .cancel key => Effect.published (((s.registry.cancel? key).bind (·.2)).getD [])
  | .sweep condition => Effect.published (s.registry.sweep condition).effects
  | _ => []

theorem events_perform (s : Session) (effects : List Effect) :
    (s.perform effects).events = s.events ++ Effect.published effects := by
  rw [perform_eq]
  rfl

/-- **What a change fires is put behind what waits already**, and nothing else
becomes of the events. -/
theorem events_change (s : Session) (change : Change) :
    (s.change change).events = s.events ++ s.fired change := by
  have still {s' : Session} (h : s'.events = s.events) : s'.events = s.events ++ [] := by
    rw [h, List.append_nil]
  cases change with
  | fire event => rfl
  | answer reply =>
    show (s.answer reply).events
      = s.events ++ Effect.published (((s.registry.resolve? reply).map (·.2)).getD [])
    unfold answer
    split
    · rename_i heq
      rw [events_perform, heq]
      rfl
    · rename_i heq
      rw [heq]
      exact still rfl
  | cancel key =>
    show (s.cancel key).events
      = s.events ++ Effect.published (((s.registry.cancel? key).bind (·.2)).getD [])
    unfold cancel
    split
    · rename_i heq
      rw [events_perform, heq]
      rfl
    · rename_i heq
      rw [heq]
      exact still rfl
  | sweep condition => exact events_perform _ _
  | abandon => exact still (congrArg (·.events) s.abandonResumption_eq)
  | reset => exact still (congrArg (·.events) s.resetManagement_eq)
  | acknowledge h => exact still (congrArg (·.events) (s.acknowledge_eq h))
  | resume h => exact still (congrArg (·.events) (s.continueFrom_eq h))
  | _ => exact still rfl

/-- **A course of changes with the events they fire**, in their order. -/
inductive Fires (P : Session → Change → Prop) (s : Session) : List Event → Session → Prop
  /-- Nothing happens. -/
  | refl : Fires P s [] s
  /-- Another change. -/
  | step {log : List Event} {s' : Session} (fires : Fires P s log s') (change : Change)
      (h : P s' change) : Fires P s (log ++ s'.fired change) (s'.change change)

/-- Every course fires some events. -/
theorem Course.fires (course : Course P s s') : ∃ log, Fires P s log s' := by
  induction course with
  | refl => exact ⟨[], .refl⟩
  | step _ change h ih =>
    obtain ⟨log, fires⟩ := ih
    exact ⟨_, fires.step change h⟩

theorem Fires.events (fires : Fires P s log s') : s'.events = s.events ++ log := by
  induction fires with
  | refl => exact (List.append_nil _).symm
  | step _ change _ ih => rw [events_change, ih, List.append_assoc]

/-- What is fired depends only on where it leads. -/
theorem Fires.unique (fires : Fires P s log s') (fires' : Fires P s log' s') : log = log' :=
  List.append_cancel_left (fires.events.symm.trans fires'.events)

/-- **A reaction of the controller** is a course of changes the library makes by
itself. -/
theorem fires_react (c : Controller) (s : Session) (event : Event) :
    ∃ log, s.Fires (fun _ change => change.Quiet) log (c.react s event).2 := by
  obtain ⟨k, -, steps⟩ := Steps.react c s event
  exact (Course.of_steps steps fun _ _ h => h).fires

end Session

/-- **What the modules of a catalogue do** in their course: the changes that meet every
condition all of their actions meet. -/
def Catalogue.May (catalogue : Catalogue) (change : Change) : Prop :=
  ∀ P, catalogue.Within P → P change

theorem Catalogue.within_may (catalogue : Catalogue) : catalogue.Within catalogue.May := by
  have closed (action : Action) (h : ∀ P, catalogue.Within P → action.Within P) :
      action.Within catalogue.May := by
    cases action with
    | request draft =>
      exact ⟨fun drawn P hP => (h P hP).1 drawn,
        fun usual now drawn P hP => (h P hP).2 usual now drawn⟩
    | fail error => trivial
    | _ => exact fun P hP => h P hP
  exact fun entry hentry =>
    ⟨fun action haction => closed action fun P hP => (hP entry hentry).1 action haction,
      fun e action haction => closed action fun P hP => (hP entry hentry).2 e action haction⟩

namespace Client

open Session

variable {c c' c'' : Client} {fired shown fired' shown' : List Event}

/-- **The events fired as an item is handed over**: the news that the stream is being
closed, or those of a request that failed or needs no reply. -/
def firedBy (c : Client) : Outgoing → List Event
  | .restart => []
  | .close =>
    if c.connector = .disconnecting then [] else [.connector c.connector .disconnecting]
  | .element _ none => []
  | .element _ (some r) =>
    match c.transport.map fun transport => transport.send.1 with
    | none => Effect.published (Request.effectsOf (r.complete? (.error .notConnected)))
    | some (some error) => Effect.published (Request.effectsOf (r.complete? (.error (.send error))))
    | some none => Effect.published (Request.effectsOf r.markSent?)

theorem events_countSent (s : Session) (entry : Entry) : (s.countSent entry).events = s.events :=
  congrArg (·.events) (s.countSent_eq entry)

theorem events_awaitReply (s : Session) (r : Request) :
    (s.awaitReply (some r)).events =
      s.events ++ Effect.published (Request.effectsOf r.markSent?) := by
  unfold awaitReply Request.markSent?
  dsimp only
  split
  · exact events_perform _ _
  · -- registering at most settles the futures of a request it replaces
    have settled (tickets : List Nat) : Effect.published (tickets.map fun ticket =>
        Effect.settled ticket (.error .abandoned)) = [] := by
      induction tickets with
      | nil => rfl
      | cons ticket rest ih => exact ih
    unfold register
    dsimp only
    rw [events_perform, settled]
    rfl

/-- What is fired as an item is handed over is put behind what waits already. -/
theorem events_deliver (c : Client) (item : Outgoing) :
    (c.deliver item).session.events = c.session.events ++ c.firedBy item := by
  cases item with
  | restart => exact (List.append_nil _).symm
  | close =>
    show (setConnector _ _).session.events = _
    unfold setConnector firedBy
    split
    · rename_i h
      rw [if_pos (show c.connector = .disconnecting from h)]
      exact (List.append_nil _).symm
    · rename_i h
      rw [if_neg (show ¬ c.connector = .disconnecting from h)]
      rfl
  | element entry request =>
    show (c.deliverElement entry request).session.events = _
    unfold deliverElement
    cases request with
    | none =>
      split
      · exact (List.append_nil _).symm
      · split
        · exact (List.append_nil _).symm
        · exact (events_countSent _ entry).trans (List.append_nil _).symm
    | some r =>
      unfold firedBy
      cases ht : c.transport with
      | none => exact events_perform _ _
      | some transport =>
        rcases hsend : transport.send with ⟨_ | error, transport'⟩
        · simp only [Option.map_some, hsend]
          exact (events_countSent _ entry).trans (events_awaitReply _ r)
        · simp only [Option.map_some, hsend]
          exact events_perform _ _

theorem published_setConnector (c : Client) (new : ConnectorState) :
    (c.setConnector new).published = c.published := by
  unfold setConnector
  split <;> rfl

/-- Nothing is published as an item is handed over. -/
theorem published_deliver (c : Client) (item : Outgoing) :
    (c.deliver item).published = c.published := by
  cases item with
  | restart => rfl
  | close => exact published_setConnector _ _
  | element entry request =>
    show (c.deliverElement entry request).published = _
    unfold deliverElement
    split
    · rfl
    · split <;> rfl

/-! ## Moves -/

/-- **A move**, with the events it fires and those it shows to the controller. An item
is handed over if there is one; if there is none, the controller is shown the oldest
event and reacts to it, and the event is put behind what is published. -/
inductive Move (c : Client) : List Event → List Event → Client → Prop
  /-- The oldest item of the outbox is handed over. -/
  | deliver {item : Outgoing} {rest : List Outgoing} (ho : c.session.outbox = item :: rest) :
      Move c (c.firedBy item) [] ((c.withOutbox rest).deliver item)
  /-- The controller is shown the oldest event. -/
  | react {event : Event} {rest log : List Event} (ho : c.session.outbox = [])
      (he : c.session.events = event :: rest)
      (fires : (c.withEvents rest).session.Fires (fun _ change => change.Quiet) log
        (c.controller.react (c.withEvents rest).session event).2) :
      Move c log [event]
        { c with
          controller := (c.controller.react (c.withEvents rest).session event).1
          session := (c.controller.react (c.withEvents rest).session event).2
          published := c.published ++ [event] }

/-- Whether a client comes right after another. -/
def Follows (c' c : Client) : Prop :=
  ∃ fired shown, c.Move fired shown c'

namespace Move

/-- **There is one move at a time**: where it leads and what it fires and shows is
determined. -/
theorem determined (move : c.Move fired shown c') (move' : c.Move fired' shown' c'') :
    c' = c'' ∧ fired = fired' ∧ shown = shown' := by
  cases move with
  | deliver ho =>
    cases move' with
    | deliver ho' =>
      obtain ⟨rfl, rfl⟩ := List.cons.inj (ho.symm.trans ho')
      exact ⟨rfl, rfl, rfl⟩
    | react ho' => cases ho.symm.trans ho'
  | react ho he fires =>
    cases move' with
    | deliver ho' => cases ho.symm.trans ho'
    | react _ he' fires' =>
      obtain ⟨rfl, rfl⟩ := List.cons.inj (he.symm.trans he')
      exact ⟨rfl, fires.unique fires', rfl⟩

/-- **Events are shown oldest first**, and what is fired is put behind what waits. -/
theorem events (move : c.Move fired shown c') :
    c.session.events ++ fired = shown ++ c'.session.events := by
  cases move with
  | @deliver item rest ho => exact ((c.withOutbox rest).events_deliver item).symm
  | @react event rest log ho he fires =>
    rw [he, fires.events]
    rfl

/-- **What was shown is published**, and nothing else is. -/
theorem published (move : c.Move fired shown c') : c'.published = c.published ++ shown := by
  cases move with
  | deliver ho => exact (published_deliver _ _).trans (List.append_nil _).symm
  | react => rfl

end Move

/-- **A client is at rest if and only if it has no move left.** -/
theorem atRest_iff : c.AtRest ↔ ∀ c' : Client, ¬ c'.Follows c := by
  constructor
  · rintro ⟨ho, he⟩ c' ⟨fired, shown, move⟩
    cases move with
    | deliver ho' => cases ho.symm.trans ho'
    | react _ he' => cases he.symm.trans he'
  · intro h
    cases ho : c.session.outbox with
    | cons item rest => exact absurd ⟨_, _, .deliver ho⟩ (h _)
    | nil =>
      cases he : c.session.events with
      | cons event rest =>
        obtain ⟨log, fires⟩ := fires_react c.controller (c.withEvents rest).session event
        exact absurd ⟨_, _, .react ho he fires⟩ (h _)
      | nil => exact ⟨ho, he⟩

/-- What decreases with every move: the handlers of the application left to be called,
then the work, then the items to hand over. -/
def remaining (c : Client) : Nat ×ₗ Nat ×ₗ Nat :=
  toLex (c.session.listeners, toLex (c.session.workload, c.session.outbox.length))

theorem remaining_lt_of_follows (h : c'.Follows c) : c'.remaining < c.remaining := by
  obtain ⟨fired, shown, move⟩ := h
  simp only [remaining, Prod.Lex.toLex_lt_toLex]
  cases move with
  | @deliver item rest ho =>
    have weighs := ((c.withOutbox rest).absorbs_deliver item).outweighs ho
    have hlength : ((c.withOutbox rest).deliver item).session.outbox.length
        < c.session.outbox.length := by
      rw [outbox_deliver, ho]
      exact Nat.lt_succ_self _
    rcases Nat.lt_or_eq_of_le weighs.listeners with hlt | heq
    · exact .inl hlt
    · rcases Nat.lt_or_eq_of_le (weighs.workload heq) with hlt' | heq'
      · exact .inr ⟨heq, .inl hlt'⟩
      · exact .inr ⟨heq, .inr ⟨heq', hlength⟩⟩
  | react ho he _ =>
    obtain ⟨hle, hwork⟩ := handleEvent_gains he
    rcases Nat.lt_or_eq_of_le hle with hlt | heq
    · exact .inl hlt
    · exact .inr ⟨heq, .inl (hwork heq)⟩

/-- **No client moves forever.** -/
theorem wellFounded_follows : WellFounded Follows :=
  Subrelation.wf remaining_lt_of_follows (InvImage.wf remaining wellFounded_lt)

/-! ## Chronicles -/

/-- **A chronicle**: moves one after another, with the events they fire and those they
show to the controller, both in their order. -/
inductive Chronicle (c : Client) : List Event → List Event → Client → Prop
  /-- Nothing happens. -/
  | refl : Chronicle c [] [] c
  /-- Another move. -/
  | move {fired shown fired' shown' : List Event} {c' c'' : Client}
      (chronicle : Chronicle c fired shown c') (move : c'.Move fired' shown' c'') :
      Chronicle c (fired ++ fired') (shown ++ shown') c''

namespace Chronicle

/-- **Fired and shown are the same queue**, one at its end and one at its front. -/
theorem events (chronicle : c.Chronicle fired shown c') :
    c.session.events ++ fired = shown ++ c'.session.events := by
  induction chronicle with
  | refl => exact List.append_nil _
  | move _ move ih =>
    rw [← List.append_assoc, ih, List.append_assoc, move.events, List.append_assoc]

theorem published (chronicle : c.Chronicle fired shown c') :
    c'.published = c.published ++ shown := by
  induction chronicle with
  | refl => exact (List.append_nil _).symm
  | move _ move ih => rw [move.published, ih, List.append_assoc]

/-- A chronicle can be kept of all moves. -/
theorem of_moves {log : List Request} (moves : Moves c log c') :
    ∃ fired shown, c.Chronicle fired shown c' := by
  induction moves with
  | refl => exact ⟨[], [], .refl⟩
  | deliver _ ho ih =>
    obtain ⟨fired, shown, chronicle⟩ := ih
    exact ⟨_, _, chronicle.move (.deliver ho)⟩
  | @react c' _ event rest _ ho he ih =>
    obtain ⟨fired, shown, chronicle⟩ := ih
    obtain ⟨log, fires⟩ := fires_react c'.controller (c'.withEvents rest).session event
    exact ⟨_, _, chronicle.move (.react ho he fires)⟩

theorem moves (chronicle : c.Chronicle fired shown c') : ∃ log, Moves c log c' := by
  induction chronicle with
  | refl => exact ⟨[], .refl⟩
  | move _ move ih =>
    obtain ⟨log, moves⟩ := ih
    cases move with
    | deliver ho => exact ⟨_, moves.deliver ho⟩
    | react ho he => exact ⟨_, moves.react ho he⟩

/-- **All chronicles end alike**: whoever keeps moving until nothing is left to do gets
where a run gets. -/
theorem eq_run (chronicle : c.Chronicle fired shown c') (h : ∀ c'' : Client, ¬ c''.Follows c') :
    c' = c.run := by
  obtain ⟨log, moves⟩ := chronicle.moves
  rw [moves.run_eq, (atRest_iff.2 h).run]

end Chronicle

/-! ## Operations -/

/-- The published events an operation hands out. -/
def handsOutIn (c : Client) : Operation → List Event
  | .takeEvents => c.takeEvents.1
  | .nextEvent => c.nextEvent.1.toList
  | _ => []

/-- What an operation hands out is no longer there, and the rest stays. -/
theorem published_prepare (c : Client) (op : Operation) :
    c.published = c.handsOutIn op ++ (c.prepare op).published := by
  cases op with
  | connecting => exact (published_setConnector c _).symm
  | connected transport =>
    exact (published_setConnector { c with transport := some transport } _).symm
  | lost => exact (published_setConnector { c with transport := none } _).symm
  | disconnect =>
    unfold prepare handsOutIn
    dsimp only
    split <;> rfl
  | process id element =>
    unfold prepare handsOutIn
    dsimp only
    split <;> rfl
  | takeEvents => exact (List.append_nil _).symm
  | nextEvent =>
    show _ = c.nextEvent.1.toList ++ c.nextEvent.2.published
    unfold nextEvent
    split <;> simp_all
  | _ => rfl

/-- **An operation comes to rest**, and these are the events fired in its course. -/
structure Rests (c : Client) (op : Operation) (fired : List Event) : Prop where
  /-- What the operation leaves to do comes to an end. -/
  ends : Acc Follows (c.prepare op)
  /-- Moving until nothing is left to do leads to one client only. -/
  only : ∀ fired' shown' c', (c.prepare op).Chronicle fired' shown' c' →
    (∀ c'' : Client, ¬ c''.Follows c') → c' = c.operate op
  /-- Nothing waits in the outbox or among the events. -/
  atRest : (c.operate op).AtRest
  /-- The events are those the operation itself fires and those its moves fire, and
  exactly these are shown to the controller, one by one in their order. -/
  shown : ∃ before during, fired = before ++ during ∧
    c.session.Fires (op.Allows c.session.catalogue.May) before (c.prepare op).session ∧
    (c.prepare op).Chronicle during fired (c.operate op)
  /-- What the operation does not hand out is still there, with these events behind. -/
  published : ∃ kept, c.published = c.handsOutIn op ++ kept ∧
    (c.operate op).published = kept ++ fired

/-- **Every operation of a client at rest comes to rest.** -/
theorem AtRest.rests (h : c.AtRest) (op : Operation) : ∃ fired, c.Rests op fired := by
  have hrun := operate_eq h op
  obtain ⟨before, fires⟩ := (Course.prepare c op c.session.catalogue.within_may).fires
  obtain ⟨log, moves⟩ := Moves.run (c.prepare op)
  obtain ⟨during, shown, chronicle⟩ := Chronicle.of_moves moves
  rw [← hrun] at chronicle
  -- both queues start and end empty, so all that was fired was shown
  have hshown : before ++ during = shown := by
    have hqueue := chronicle.events
    rwa [fires.events, h.2, (h.operate op).2, List.nil_append, List.append_nil] at hqueue
  refine ⟨before ++ during, wellFounded_follows.apply _, ?_, h.operate op,
    ⟨before, during, rfl, fires, hshown ▸ chronicle⟩,
    ⟨(c.prepare op).published, c.published_prepare op, hshown ▸ chronicle.published⟩⟩
  intro fired shown c' chronicle' hlast
  rw [hrun]
  exact chronicle'.eq_run hlast

/-! ## Lives -/

/-- What a client hands out in the course of operations. -/
def handsOut (c : Client) : List Operation → List Event
  | [] => []
  | op :: rest => c.handsOutIn op ++ (c.operate op).handsOut rest

/-- **Each of these operations comes to rest**, and these are the events fired in the
course of all. -/
def Tells (c : Client) : List Operation → List Event → Prop
  | [], fired => fired = []
  | op :: rest, fired =>
    ∃ now later, fired = now ++ later ∧ c.Rests op now ∧ (c.operate op).Tells rest later

/-- What a client at rest has to hand out during operations and after them is what it
had before, and then what is fired. -/
theorem AtRest.tells (h : c.AtRest) (ops : List Operation) :
    ∃ fired, c.Tells ops fired ∧
      c.handsOut ops ++ (ops.foldl Client.operate c).published = c.published ++ fired := by
  induction ops generalizing c with
  | nil => exact ⟨[], rfl, (List.append_nil _).symm⟩
  | cons op rest ih =>
    obtain ⟨now, rests⟩ := h.rests op
    obtain ⟨later, tells, hlater⟩ := ih (h.operate op)
    obtain ⟨kept, hkept, hnow⟩ := rests.published
    refine ⟨now ++ later, ⟨now, later, rfl, rests, tells⟩, ?_⟩
    rw [handsOut, List.foldl_cons, List.append_assoc, hlater, hnow, hkept]
    simp only [List.append_assoc]

end Client

end Xmpp
