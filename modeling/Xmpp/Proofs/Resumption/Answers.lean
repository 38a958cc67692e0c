import Xmpp.Proofs.Client.Footing
import Xmpp.Proofs.Resumption.Restored

/-!
# Answers nobody asked for

A peer that says `enabled` or `resumed` answers a question of the client, or so one should
think. This file says when such an answer takes effect, for every client that can be
reached: what was asked does not come into it. An answer that the session was resumed takes
effect whenever it makes sense and there is a session (`Client.receive_answer`): whatever
its phase is and whatever name the answer tells, the client goes on from the number it
reports, sends what that leaves unconfirmed once more, and takes the session to be ready.
An answer that stream management was enabled completes a session that waits for it, and
takes the place of any other one, whose stanzas are dropped. Only the answer that comes
along with a login is heard on condition that something was asked for.

So a live session can be resumed although nobody wanted that, and whatever is unconfirmed
is sent twice on one connection (`Client.not_forall_undisturbed`).
-/

namespace Xmpp

open Delivery Resumption

/-- **The session that was enabled**: the one that waited for it, or another one in the
place of the one there was. -/
def Session.upheld (s : Session) (enabled : Enabled) : Session :=
  if s.managementStatus? = some .pending then s.modifyResumption (·.enable enabled)
  else s.startResumption (Context.start.enable enabled)

/-- There is a session then, which is told. -/
theorem Session.takeEnabled_eq (s : Session) (enabled : Enabled) :
    ∃ context, (s.upheld enabled).resumption? = some context
      ∧ s.takeEnabled enabled = (s.upheld enabled).fire (enabledEvent context) := by
  unfold Session.takeEnabled Session.upheld
  by_cases hpending : s.managementStatus? = some .pending
  · obtain ⟨context, hcontext, -⟩ := Option.map_eq_some_iff.1 hpending
    have hs : (s.modifyResumption (·.enable enabled)).resumption?
        = some (context.enable enabled) := by
      rw [resumption?_modifyResumption, hcontext]
      rfl
    refine ⟨_, by rw [if_pos hpending]; exact hs, ?_⟩
    rw [if_pos hpending, hpending]
    dsimp only
    rw [hs]
  · have hs := s.resumption?_startResumption (Context.start.enable enabled)
    refine ⟨_, by rw [if_neg hpending]; exact hs, ?_⟩
    rw [if_neg hpending]
    generalize s.managementStatus? = status at hpending ⊢
    cases status with
    | none =>
      dsimp only
      rw [hs]
    | some status =>
      cases status with
      | pending => exact absurd rfl hpending
      | active | inactive =>
        dsimp only
        rw [hs]

namespace Client

/-! ## Handing over what nobody waits for -/

/-- Handing over an element without a request neither reads the events nor touches them. -/
theorem deliver_withEvents (c : Client) (events : List Event) (entry : Entry) :
    (c.withEvents events).deliver (.element entry none)
      = (c.deliver (.element entry none)).withEvents events := by
  have hcount (s : Session) : ({ s with events := events } : Session).countSent entry
      = { s.countSent entry with events := events } := by
    unfold Session.countSent
    split <;> rfl
  have ht : (c.withEvents events).transport = c.transport := rfl
  show (c.withEvents events).deliverElement entry none
    = (c.deliverElement entry none).withEvents events
  unfold deliverElement
  rw [ht]
  split
  · rfl
  · split
    · rfl
    · rename_i transport _
      exact congrArg (fun session =>
        { c.record [.element entry] with transport := some transport, session })
        (hcount (c.session.mark [entry] .sent))

/-- So does emptying an outbox that holds nothing else. -/
theorem flush_withEvents {c : Client} {entries : List Entry}
    (ho : c.session.outbox = entries.map fun entry => .element entry none) (events : List Event) :
    (c.withEvents events).flush = c.flush.withEvents events := by
  suffices h : ∀ (entries : List Entry) (c : Client),
      (entries.map fun entry => Outgoing.element entry none).foldl deliver (c.withEvents events)
        = ((entries.map fun entry => Outgoing.element entry none).foldl deliver c).withEvents
          events by
    show c.session.outbox.foldl deliver ((c.withOutbox []).withEvents events)
      = (c.session.outbox.foldl deliver (c.withOutbox [])).withEvents events
    rw [ho]
    exact h entries (c.withOutbox [])
  -- the client varies, since each entry that is handed over leaves another one
  intro entries
  induction entries with
  | nil => exact fun _ => rfl
  | cons entry rest ih =>
    intro c
    rw [List.map_cons, List.foldl_cons, List.foldl_cons, deliver_withEvents]
    exact ih _

/-- Nothing is published when the outbox is emptied. -/
theorem published_flush (c : Client) : c.flush.published = c.published := by
  have hdeliver (c : Client) (item : Outgoing) : (c.deliver item).published = c.published := by
    cases item with
    | restart => rfl
    | close =>
      show (Client.setConnector _ _).published = _
      unfold setConnector
      split <;> rfl
    | element entry request =>
      show (c.deliverElement entry request).published = _
      unfold deliverElement
      split
      · rfl
      · split <;> rfl
  suffices h : ∀ (items : List Outgoing) (c : Client),
      (items.foldl deliver c).published = c.published from h c.session.outbox (c.withOutbox [])
  intro items
  induction items with
  | nil => exact fun _ => rfl
  | cons item rest ih => exact fun c => (ih (c.deliver item)).trans (hdeliver c item)

/-- **An event the controller does not heed** is published, and nothing else happens. -/
theorem run_of_ignored {c : Client} {event : Event} (ho : c.session.outbox = [])
    (he : c.session.events = [event])
    (ignored : ∀ s, c.controller.react s event = (c.controller, s)) :
    c.run = { c.withEvents [] with published := c.published ++ [event] } := by
  have hreact : (c.withEvents []).handleEvent event
      = { c.withEvents [] with published := c.published ++ [event] } := by
    unfold handleEvent
    rw [show (c.withEvents []).controller = c.controller from rfl, ignored]
    rfl
  rw [run_react ho he, hreact]
  exact AtRest.run ⟨ho, rfl⟩

/-! ## The session goes on -/

/-- **The client goes on with its session** from the report of the peer: what that leaves
unconfirmed is handed over again, and the session is ready. -/
def goOn (c : Client) (resumed : Resumed) : Client :=
  let c' := ({ c with session := c.session.continueFrom resumed.h } : Client).flush
  { c' with
    controller := { c'.controller with resuming := false }
    published := c'.published ++ [.resumed resumed.h resumed.previd, .ready] }

/-- **The client has a session that was enabled**, and tells so. -/
def takeUp (c : Client) (enabled : Enabled) : Client :=
  { c with
    session := c.session.upheld enabled
    published := c.published
      ++ ((c.session.upheld enabled).resumption?.map Session.enabledEvent).toList }

/-- What waits after the session was resumed is what the report leaves unconfirmed. -/
theorem outbox_continueFrom {s : Session} {context : Context} (ho : s.outbox = [])
    (hs : s.resumption? = some context) (report : UInt32) :
    (s.continueFrom report).outbox
      = (context.unconfirmed report).map fun entry => .element entry none := by
  rw [Session.continueFrom, hs]
  show s.outbox ++ _ = _
  rw [ho, List.nil_append]

/-- **A client that was told that its session was resumed** comes to rest. -/
theorem run_continueFrom {c : Client} {context : Context} (atRest : c.AtRest)
    (hs : c.session.resumption? = some context) (resumed : Resumed) :
    ({ c with
        session := (c.session.continueFrom resumed.h).fire (.resumed resumed.h resumed.previd) }
      : Client).run = c.goOn resumed := by
  let c₁ : Client := { c with session := c.session.continueFrom resumed.h }
  let event : Event := .resumed resumed.h resumed.previd
  have ho := outbox_continueFrom atRest.1 hs resumed.h
  have hevents : (c.session.continueFrom resumed.h).events = [] := by
    rw [Session.continueFrom_eq]
    exact atRest.2
  have hflush (events : List Event) : (c₁.withEvents events).flush = c₁.flush.withEvents events :=
    flush_withEvents ho events
  have hrested : c₁.flush.withEvents [] = c₁.flush := by
    rw [← hflush]
    exact congrArg (c₁.withEvents · |>.flush) hevents.symm
  have hfired : ({ c with session := (c.session.continueFrom resumed.h).fire event } : Client)
      = c₁.withEvents [event] := by
    show ({ c with session := { c₁.session with events := _ ++ [event] } } : Client) = _
    rw [hevents]
    rfl
  let c₂ : Client := (c₁.flush.withEvents []).handleEvent event
  have hreact : (c₁.flush.withEvents [event]).run = c₂.run :=
    run_react (outbox_flush c₁) rfl
  -- the controller takes the session to be ready, and has nothing to say about that
  have hready : c₂.run = { c₂.withEvents [] with published := c₂.published ++ [.ready] } :=
    run_of_ignored (outbox_flush c₁) rfl fun _ => rfl
  obtain ⟨log, moves⟩ := Moves.flush (c₁.withEvents [event])
  rw [hfired, moves.run_eq, hflush, hreact, hready]
  have hpublished : c₂.published ++ [.ready] = c₁.flush.published ++ [event, .ready] :=
    List.append_assoc _ _ _
  show { c₁.flush.withEvents [] with
      controller := { c₁.flush.controller with resuming := false }
      published := c₂.published ++ [.ready] } = c.goOn resumed
  rw [hrested, hpublished]
  rfl

/-- **A client that was told that stream management was enabled** comes to rest. -/
theorem run_takeEnabled {c : Client} (atRest : c.AtRest) (enabled : Enabled) :
    ({ c with session := c.session.takeEnabled enabled } : Client).run = c.takeUp enabled := by
  obtain ⟨context, hs, htaken⟩ := c.session.takeEnabled_eq enabled
  have hrest : (c.session.upheld enabled).outbox = [] ∧ (c.session.upheld enabled).events = [] := by
    unfold Session.upheld
    split <;> exact atRest
  let c' : Client :=
    { c with session := (c.session.upheld enabled).fire (Session.enabledEvent context) }
  have hevents : c'.session.events = [Session.enabledEvent context] := by
    show (c.session.upheld enabled).events ++ _ = _
    rw [hrest.2, List.nil_append]
  have hsession : (c'.withEvents []).session = c.session.upheld enabled := by
    show { c.session.upheld enabled with events := [] } = _
    rw [← hrest.2]
  rw [htaken, run_of_ignored (c := c') hrest.1 hevents fun _ => rfl]
  show { c with
      session := (c'.withEvents []).session
      published := c.published ++ [Session.enabledEvent context] } = c.takeUp enabled
  rw [hsession, takeUp, hs]
  rfl

/-! ## When an answer takes effect -/

/-- **A client is undisturbed** by an element: the counters, the queue and the tokens stay as
they are, nothing is written, and the session does not become ready. -/
structure Undisturbed (c c' : Client) : Prop where
  resumption : c'.session.resumption? = c.session.resumption?
  board : c'.session.board = c.session.board
  wire : c'.wire = c.wire
  published : Event.ready ∉ c'.published.drop c.published.length

theorem Undisturbed.refl (c : Client) : c.Undisturbed c := by
  refine ⟨rfl, rfl, rfl, ?_⟩
  rw [List.drop_length]
  exact List.not_mem_nil

namespace Reachable

variable {c : Client} (h : c.Reachable) {e : Element}

include h

/-- An answer that makes no sense, or finds no session to resume, changes nothing. -/
theorem receive_resumed_of_none (entrusted : c.modules.Entrusts .streamManagement e)
    (hname : e.name = "resumed")
    (hnone : Resumed.read? e = none ∨ c.session.resumption? = none) : c.receive e = c := by
  have nonza := Element.not_isStanza_of_name hname (by decide)
  have handled (tag : Option String) :
      (c.session.handle .streamManagement tag e).1 = c.session := by
    show (c.session.handleManagement e).1 = _
    unfold Session.handleManagement
    rw [hname, if_neg (by decide), if_pos (by decide)]
    cases hread : Resumed.read? e with
    | none => rfl
    | some resumed =>
      have hs := hnone.resolve_left (by simp [hread])
      show (c.session.takeResumed resumed).1 = _
      unfold Session.takeResumed
      rw [hs]
  rw [h.receive_entrusted nonza entrusted handled]
  exact h.atRest.run

/-- Any other one has the client go on with its session. -/
theorem receive_resumed (entrusted : c.modules.Entrusts .streamManagement e) {resumed : Resumed}
    {context : Context} (hread : Resumed.read? e = some resumed)
    (hs : c.session.resumption? = some context) : c.receive e = c.goOn resumed := by
  have hname := Element.name_of_resumed hread
  have nonza := Element.not_isStanza_of_name hname (by decide)
  have handled (tag : Option String) : (c.session.handle .streamManagement tag e).1
      = (c.session.continueFrom resumed.h).fire (.resumed resumed.h resumed.previd) := by
    show (c.session.handleManagement e).1 = _
    unfold Session.handleManagement
    rw [hname, if_neg (by decide), if_pos (by decide), hread]
    show (c.session.takeResumed resumed).1 = _
    unfold Session.takeResumed Session.continueFrom
    rw [hs]
  rw [h.receive_entrusted nonza entrusted handled]
  exact run_continueFrom h.atRest hs resumed

/-- An answer that stream management was enabled need only make sense. -/
theorem receive_enabled (entrusted : c.modules.Entrusts .streamManagement e)
    (hname : e.name = "enabled") :
    c.receive e = match Enabled.read? e with
      | none => c
      | some enabled => c.takeUp enabled := by
  have nonza := Element.not_isStanza_of_name hname (by decide)
  have handled (tag : Option String) : (c.session.handle .streamManagement tag e).1
      = match Enabled.read? e with
        | none => c.session
        | some enabled => c.session.takeEnabled enabled := by
    show (c.session.handleManagement e).1 = _
    unfold Session.handleManagement
    rw [hname, if_pos (by decide)]
    cases Enabled.read? e <;> rfl
  rw [h.receive_entrusted nonza entrusted handled]
  cases Enabled.read? e with
  | none => exact h.atRest.run
  | some enabled => exact run_takeEnabled h.atRest enabled

/-- Along with a login nothing is answered, unless it was asked for. -/
theorem take_success2 (entrusted : c.modules.Entrusts .sasl2 e) (hname : e.name = "success")
    (unasked : c.session.logins.sasl2 = none ∨ c.session.logins.bindRequested = false) :
    (c.take e).resumption? = c.session.resumption? ∧ (c.take e).board = c.session.board := by
  have nonza := Element.not_isStanza_of_name hname (by decide)
  have handled (tag : Option String) : (c.session.handle .sasl2 tag e).1
      = (c.session.takeSuccess2 e).1 :=
    congrArg Prod.fst (c.session.handleSasl2_of_success hname)
  have settled (s : Session) (state : AuthState) :
      (s.setAuthState state).resumption? = s.resumption? :=
    s.properties.get?_set_of_ne .connection state (by decide)
  rw [h.take_entrusted nonza entrusted handled]
  unfold Session.takeSuccess2
  split
  · exact ⟨rfl, rfl⟩
  · rename_i mechanism hsasl
    have hbind := unasked.resolve_left (by simp [hsasl])
    dsimp only
    split
    · exact ⟨settled _ _, rfl⟩
    · split
      · exact ⟨rfl, rfl⟩
      · rw [hbind, Bool.false_and, if_neg Bool.false_ne_true]
        exact ⟨settled _ _, rfl⟩

end Reachable

/-- The session is ready once the client went on with it. -/
theorem not_undisturbed_goOn (c : Client) (resumed : Resumed) :
    ¬ c.Undisturbed (c.goOn resumed) := by
  intro h
  let c' : Client := { c with session := c.session.continueFrom resumed.h }
  have hpublished : (c.goOn resumed).published.drop c.published.length
      = [.resumed resumed.h resumed.previd, .ready] := by
    show (c'.flush.published ++ _).drop c.published.length = _
    rw [published_flush]
    exact List.drop_left
  have hready := h.published
  rw [hpublished] at hready
  exact hready (List.mem_cons_of_mem _ List.mem_cons_self)

/-- What the report leaves unconfirmed is handed over to a transport that takes it. -/
theorem wire_goOn {c : Client} {context : Context} (atRest : c.AtRest) (reliable : c.Reliable)
    (hs : c.session.resumption? = some context) (resumed : Resumed) :
    (c.goOn resumed).wire = c.wire ++ (context.unconfirmed resumed.h).map Frame.element := by
  obtain ⟨transport, ht, accepts⟩ := reliable
  let c' : Client := { c with session := c.session.continueFrom resumed.h }
  have hrefused : c'.NeverRefused := by
    intro transport' ht'
    obtain rfl := Option.some.inj (ht.symm.trans ht')
    exact accepts
  have htransport : c'.transport.isSome = true := Option.isSome_iff_exists.2 ⟨transport, ht⟩
  exact wire_flush hrefused htransport (outbox_continueFrom atRest.1 hs resumed.h)

/-- **What an answer takes**, in every client that can be reached. An answer that the session
was resumed takes effect if and only if it makes sense and there is a session, and then
the client goes on with that. An answer that stream management was enabled takes effect if
it makes sense; along with a login, only if something was to be done along with it. -/
theorem receive_answer {c : Client} (h : c.Reachable) :
    (∀ e : Element, c.modules.Entrusts .streamManagement e → e.name = "resumed" →
        (c.Undisturbed (c.receive e) ↔ Resumed.read? e = none ∨ c.session.resumption? = none)
          ∧ ∀ (resumed : Resumed) (context : Context), Resumed.read? e = some resumed →
            c.session.resumption? = some context →
              c.receive e = c.goOn resumed
                ∧ (c.Reliable → (c.receive e).wire
                  = c.wire ++ (context.unconfirmed resumed.h).map Frame.element))
      ∧ (∀ e : Element, c.modules.Entrusts .streamManagement e → e.name = "enabled" →
        (Enabled.read? e = none → c.receive e = c)
          ∧ ∀ enabled : Enabled, Enabled.read? e = some enabled → c.receive e = c.takeUp enabled)
      ∧ ∀ e : Element, c.modules.Entrusts .sasl2 e → e.name = "success" →
        c.session.logins.sasl2 = none ∨ c.session.logins.bindRequested = false →
          (c.take e).resumption? = c.session.resumption? ∧ (c.take e).board = c.session.board := by
  refine ⟨fun e entrusted hname => ⟨⟨fun undisturbed => ?_, fun hnone => ?_⟩, ?_⟩, ?_, ?_⟩
  · by_contra hboth
    obtain ⟨hread, hs⟩ := not_or.1 hboth
    obtain ⟨resumed, hread⟩ := Option.ne_none_iff_exists'.1 hread
    obtain ⟨context, hs⟩ := Option.ne_none_iff_exists'.1 hs
    rw [h.receive_resumed entrusted hread hs] at undisturbed
    exact c.not_undisturbed_goOn resumed undisturbed
  · rw [h.receive_resumed_of_none entrusted hname hnone]
    exact .refl c
  · intro resumed context hread hs
    have hreceive := h.receive_resumed entrusted hread hs
    exact ⟨hreceive, fun reliable => hreceive ▸ wire_goOn h.atRest reliable hs resumed⟩
  · intro e entrusted hname
    rw [h.receive_enabled entrusted hname]
    exact ⟨fun hread => by rw [hread], fun enabled hread => by rw [hread]⟩
  · exact fun e => h.take_success2

namespace Rehearsal

/-- A session that can be resumed is started, and two messages are written. -/
def corresponds : List Operation :=
  [.receive welcomes, .receive offersManagement, .receive (binds "1"), .receive enables,
    .write (Dialogue.Rehearsal.message "He jests"), .write (Dialogue.Rehearsal.message "at scars")]

/-- A client with a live session. -/
def correspondent : Client :=
  corresponds.foldl Client.operate newcomer

/-- The server resumes a session of another name. -/
def insists : Element where
  name := "resumed"
  ns := Namespace.streamManagement
  attributes := [("h", "1"), ("previd", "balcony")]

theorem reachable_correspondent : correspondent.Reachable := by
  refine reachable_newcomer.foldl_operate _ fun op hop => Operation.within_sound ?_
  exact List.all_eq_true.1 (by decide) op hop

theorem reliable_correspondent : correspondent.Reliable := by
  have hrefused : correspondent.NeverRefused := by
    refine neverRefused_newcomer.foldl_operate reachable_newcomer.atRest _ fun transport hmem => ?_
    simp [corresponds] at hmem
  exact hrefused.reliable (by decide +kernel)

/-- Nothing was to be resumed. -/
theorem unasked_correspondent {entry : Entry}
    (hmem : Frame.element entry ∈ correspondent.wire) : entry.stanza.name ≠ "resume" := by
  have hall : correspondent.wire.all (fun
      | .element entry => entry.stanza.name != "resume"
      | _ => true) = true := by
    decide +kernel
  simpa using List.all_eq_true.1 hall _ hmem

end Rehearsal

open Rehearsal in
/-- In the rehearsal one of the two messages is written again, on the connection it was
written on. -/
theorem receive_answer_rehearsal :
    correspondent.Reachable ∧ correspondent.session.managementStatus? = some .active
      ∧ ¬ correspondent.Undisturbed (correspondent.receive insists)
      ∧ ∃ entry : Entry, entry.token = 8 ∧ Frame.element entry ∈ correspondent.wire
        ∧ (correspondent.receive insists).wire = correspondent.wire ++ [Frame.element entry] := by
  obtain ⟨hresumed, -, -⟩ := receive_answer reachable_correspondent
  obtain ⟨hiff, htaken⟩ := hresumed insists (by unfold Modules.Entrusts; decide +kernel) rfl
  have hscene : (correspondent.session.resumption?.map fun context =>
      ((context.unconfirmed 1).map (·.token), (context.unconfirmed 1).all fun entry =>
        correspondent.wire.contains (.element entry))) = some ([8], true) := by
    decide +kernel
  obtain ⟨context, hs, heq⟩ := Option.map_eq_some_iff.1 hscene
  obtain ⟨htokens, hall⟩ := Prod.mk.inj heq
  obtain ⟨entry, hentry, htoken⟩ := List.map_eq_singleton_iff.1 htokens
  have hmem : Frame.element entry ∈ correspondent.wire :=
    List.contains_iff_mem.1 (List.all_eq_true.1 hall entry (hentry ▸ List.mem_cons_self))
  obtain ⟨-, hwire⟩ := htaken ⟨1, "balcony"⟩ context rfl hs
  refine ⟨reachable_correspondent, by decide +kernel, ?_, entry, htoken, hmem, ?_⟩
  · rw [hiff, hs]
    exact not_or.2 ⟨by decide, by simp⟩
  · rw [hwire reliable_correspondent]
    show _ ++ (context.unconfirmed 1).map Frame.element = _
    rw [hentry]
    rfl

open Rehearsal in
/-- **Answers that nobody asked for are not ignored.** -/
theorem not_forall_undisturbed :
    (¬ ∀ (c : Client) (e : Element), c.Reachable → e.name = "resumed" →
        (∀ entry : Entry, Frame.element entry ∈ c.wire → entry.stanza.name ≠ "resume") →
          c.Undisturbed (c.receive e))
      ∧ ¬ ∀ (c : Client) (e : Element), c.Reachable → e.name = "enabled" →
        (∀ entry : Entry, Frame.element entry ∈ c.wire → entry.stanza.name ≠ "enable") →
          (c.receive e).session.resumption? = c.session.resumption? := by
  constructor
  · intro h
    have undisturbed := h correspondent insists reachable_correspondent rfl
      fun _ => unasked_correspondent
    have hwire : (correspondent.receive insists).wire.length ≠ correspondent.wire.length := by
      decide +kernel
    exact hwire (congrArg List.length undisturbed.wire)
  · intro h
    have hall : newcomer.wire.all (fun
        | .element entry => entry.stanza.name != "enable"
        | _ => true) = true := by
      decide +kernel
    have hsame := h newcomer enables reachable_newcomer rfl
      fun entry hmem => by simpa using List.all_eq_true.1 hall _ hmem
    have hother : (newcomer.receive enables).session.resumption?.isSome
        ≠ newcomer.session.resumption?.isSome := by
      decide +kernel
    exact hother (congrArg Option.isSome hsame)

end Client

end Xmpp
