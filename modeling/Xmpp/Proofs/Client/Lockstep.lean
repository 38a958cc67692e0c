import Xmpp.Proofs.Client.Chronicle
import Xmpp.Proofs.Client.Stock
import Xmpp.Proofs.Session.Alike

/-!
# Clients in lockstep

Clients are alike if their sessions are, and everything else is the same but for
what went over the wire. Alike clients stay alike under whatever is done to both
of them (`Client.Alike.operate`), provided that the transport does with an
element what it does with any other: if it counted how many it was given, it
would notice the reports that one of them writes and the other does not.

They do not move at the same pace, since a report has to be handed over like any
other element. So the proof lets either of them get rid of its reports first, and
then both move together.
-/

namespace Xmpp

open Delivery

/-- **A steady transport** does the same with every element. One that breaks down
between two operations is another transport from then on. -/
def Transport.Steady (t : Transport) : Prop :=
  ∀ m n, t.refuses m = t.refuses n

/-- A transport, whatever it was asked for so far. -/
def Transport.fresh (t : Transport) : Transport :=
  { t with attempts := 0 }

namespace Session.Alike

/-- Handing over an idle element leaves no trace. -/
theorem countSent_idle (s : Session) {entry : Entry} (hidle : entry.stanza.isIdle = true) :
    (s.countSent entry).Alike s := by
  obtain ⟨hstanza, henable⟩ := Bool.and_eq_true_iff.1 hidle
  rw [Bool.not_eq_true'] at hstanza henable
  unfold Session.countSent
  rw [henable, if_neg Bool.false_ne_true]
  refine modify_counts (s.mark _ _) fun context => ?_
  unfold Resumption.Context.recordSent
  rw [hstanza, if_neg Bool.false_ne_true]

end Session.Alike

namespace Client

/-- **Clients are alike** if their sessions are and everything else is the same but
for the wire. Their transports are steady. -/
structure Alike (c d : Client) : Prop where
  /-- Their sessions are alike. -/
  session : c.session.Alike d.session
  /-- They have the same modules. -/
  modules : c.modules = d.modules
  /-- Their controllers remember the same. -/
  controller : c.controller = d.controller
  /-- Their connections are in the same state. -/
  connector : c.connector = d.connector
  /-- The same events wait for the application. -/
  published : c.published = d.published
  /-- They have the same transport. -/
  transport : c.transport.map Transport.fresh = d.transport.map Transport.fresh
  /-- It is steady. -/
  steady : ∀ transport, c.transport = some transport → transport.Steady

namespace Alike

variable {c d e : Client}

theorem refl (steady : ∀ transport, c.transport = some transport → transport.Steady) :
    c.Alike c :=
  ⟨.refl _, rfl, rfl, rfl, rfl, rfl, steady⟩

theorem symm (h : c.Alike d) : d.Alike c := by
  refine ⟨h.session.symm, h.modules.symm, h.controller.symm, h.connector.symm, h.published.symm,
    h.transport.symm, fun transport' htransport' => ?_⟩
  have hmap := h.transport
  rw [htransport'] at hmap
  obtain ⟨transport, htransport, hfresh⟩ := Option.map_eq_some_iff.1 hmap
  have hrefuses : transport.fresh.refuses = transport'.fresh.refuses := by rw [hfresh]
  intro m n
  rw [← show transport.refuses = transport'.refuses from hrefuses]
  exact h.steady transport htransport m n

theorem trans (h : c.Alike d) (h' : d.Alike e) : c.Alike e :=
  ⟨h.session.trans h'.session, h.modules.trans h'.modules, h.controller.trans h'.controller,
    h.connector.trans h'.connector, h.published.trans h'.published,
    h.transport.trans h'.transport, h.steady⟩

/-- Either both have a transport, and the same one, or none has. -/
theorem transport_cases (h : c.Alike d) :
    (c.transport = none ∧ d.transport = none)
      ∨ ∃ t t', c.transport = some t ∧ d.transport = some t' ∧ t.fresh = t'.fresh := by
  have hmap := h.transport
  cases hc : c.transport with
  | none =>
    rw [hc] at hmap
    exact .inl ⟨rfl, Option.map_eq_none_iff.1 hmap.symm⟩
  | some t =>
    rw [hc] at hmap
    obtain ⟨t', hd, ht⟩ := Option.map_eq_some_iff.1 hmap.symm
    exact .inr ⟨t, t', rfl, hd, ht.symm⟩

theorem isSome_transport (h : c.Alike d) : c.transport.isSome = d.transport.isSome := by
  rw [← Option.isSome_map (f := Transport.fresh), h.transport, Option.isSome_map]

/-- Alike clients with alike sessions. -/
theorem withSession (h : c.Alike d) {s t : Session} (hsession : s.Alike t) :
    Alike { c with session := s } { d with session := t } :=
  { h with session := hsession }

/-! ## Handing over -/

theorem setConnector (h : c.Alike d) (new : ConnectorState) :
    (c.setConnector new).Alike (d.setConnector new) := by
  unfold Client.setConnector
  rw [h.connector]
  split
  · exact h
  · exact { h with connector := rfl, session := h.session.fire _ }

theorem deliverElement (h : c.Alike d) {entry entry' : Entry} (hentry : entry.core = entry'.core)
    (request : Option Request) :
    (c.deliverElement entry request).Alike (d.deliverElement entry' request) := by
  obtain ⟨hc, hd⟩ | ⟨t, t', hc, hd, ht⟩ := h.transport_cases
  · unfold Client.deliverElement
    rw [hc, hd]
    exact { h with
      session := (h.session.mark _ _ _ _).failUnsent _ _
      transport := rfl
      steady := by rintro _ ⟨⟩ }
  · have hfresh : t.fresh.refuses = t'.fresh.refuses := by rw [ht]
    have hrefuses : t.refuses t.attempts = t'.refuses t'.attempts := by
      rw [show t.refuses = t'.refuses from hfresh]
      exact h.symm.steady t' hd _ _
    have sent : ({ t with attempts := t.attempts + 1 } : Transport).fresh
        = ({ t' with attempts := t'.attempts + 1 } : Transport).fresh := ht
    have steady : ∀ transport, some { t with attempts := t.attempts + 1 } = some transport →
        transport.Steady := by
      rintro _ ⟨⟩
      exact h.steady t hc
    unfold Client.deliverElement Transport.send
    rw [hc, hd]
    dsimp only
    rw [hrefuses]
    cases t'.refuses t'.attempts with
    | some error =>
      exact { h with
        session := (h.session.mark _ _ _ _).failUnsent _ _
        transport := congrArg some sent
        steady }
    | none =>
      exact { h with
        session := ((h.session.mark _ _ _ _).awaitReply _).countSent hentry
        transport := congrArg some sent
        steady }

/-- **Items of the same core are handed over alike.** -/
theorem deliver (h : c.Alike d) {item item' : Outgoing} (hitem : item.core? = item'.core?)
    (hawake : item.core? ≠ none) : (c.deliver item).Alike (d.deliver item') := by
  have hidle : item.isIdle = false := Bool.eq_false_iff.2 fun hidle => hawake (if_pos hidle)
  have hidle' : item'.isIdle = false := Bool.eq_false_iff.2 fun hidle' =>
    hawake (hitem.trans (if_pos hidle'))
  have hcore : item.core = item'.core := by
    rw [Outgoing.core?, Outgoing.core?, hidle, hidle'] at hitem
    exact Option.some.inj hitem
  cases item with
  | restart =>
    cases item' with
    | restart => exact { h with session := h.session.clear .stream }
    | _ => cases hcore
  | close =>
    cases item' with
    | close =>
      have closed : Alike
          { c.record ((c.transport.map Transport.closeFrames).getD []) with transport := none }
          { d.record ((d.transport.map Transport.closeFrames).getD []) with transport := none } :=
        { h with transport := rfl, steady := by rintro _ ⟨⟩ }
      exact closed.setConnector _
    | _ => cases hcore
  | element entry request =>
    cases item' with
    | element entry' request' =>
      obtain ⟨hentry, rfl⟩ := Outgoing.element.inj hcore
      exact h.deliverElement hentry request
    | _ => cases hcore

/-- **An idle item is handed over without a trace.** -/
theorem deliver_idle (steady : ∀ transport, c.transport = some transport → transport.Steady)
    {item : Outgoing} (hidle : item.core? = none) : (c.deliver item).Alike c := by
  have hidle : item.isIdle = true := by
    rw [Outgoing.core?] at hidle
    split at hidle
    · assumption
    · cases hidle
  cases item with
  | restart => cases hidle
  | close => cases hidle
  | element entry request =>
    cases request with
    | some r => cases hidle
    | none =>
      have h := Alike.refl steady
      show (c.deliverElement entry none).Alike c
      unfold Client.deliverElement Transport.send
      cases hc : c.transport with
      | none =>
        exact { h with
          transport := congrArg (Option.map _) hc.symm
          steady := by rintro _ ⟨⟩ }
      | some t =>
        have transport : some ({ t with attempts := t.attempts + 1 } : Transport).fresh
            = c.transport.map Transport.fresh := by
          rw [hc]
          rfl
        have steady : ∀ transport, some { t with attempts := t.attempts + 1 } = some transport →
            transport.Steady := by
          rintro _ ⟨⟩
          exact steady t hc
        dsimp only
        cases t.refuses t.attempts with
        | some error => exact { h with transport, steady }
        | none =>
          exact { h with
            session := Session.Alike.countSent_idle (c.session.mark _ _) hidle
            transport
            steady }

theorem handleEvent (h : c.Alike d) (event : Event) :
    (c.handleEvent event).Alike (d.handleEvent event) := by
  obtain ⟨hcontroller, hsession⟩ := h.session.react c.controller event
  rw [h.controller] at hcontroller hsession
  unfold Client.handleEvent
  rw [h.controller]
  exact { h with
    session := hsession
    controller := hcontroller
    published := congrArg (· ++ [event]) h.published }

/-! ## Coming to rest -/

theorem withOutbox (h : c.Alike d) {items items' : List Outgoing}
    (hitems : items.filterMap Outgoing.core? = items'.filterMap Outgoing.core?) :
    (c.withOutbox items).Alike (d.withOutbox items') :=
  h.withSession (h.session.withOutbox hitems)

theorem withEvents (h : c.Alike d) (events : List Event) :
    (c.withEvents events).Alike (d.withEvents events) :=
  h.withSession (h.session.withEvents events)

/-- Handing over an idle item first makes no difference. -/
theorem deliver_head (steady : ∀ transport, c.transport = some transport → transport.Steady)
    {item : Outgoing} {rest : List Outgoing} (ho : c.session.outbox = item :: rest)
    (hidle : item.core? = none) : ((c.withOutbox rest).deliver item).Alike c := by
  have hcores : rest.filterMap Outgoing.core? = c.session.outbox.filterMap Outgoing.core? := by
    rw [ho, List.filterMap_cons, hidle]
  exact (deliver_idle (c := c.withOutbox rest) steady hidle).trans ((refl steady).withOutbox hcores)

/-- **A client can get rid of its reports first.** -/
theorem exists_awake (h : c.Alike d) :
    ∃ d', d'.run = d.run ∧ c.Alike d'
      ∧ ∀ item ∈ d'.session.outbox.head?, item.core? ≠ none := by
  generalize hn : d.session.outbox.length = n
  induction n generalizing d with
  | zero =>
    refine ⟨d, rfl, h, fun item hitem => ?_⟩
    rw [List.length_eq_zero_iff.1 hn] at hitem
    cases hitem
  | succ n ih =>
    obtain ⟨item, rest, ho⟩ := List.exists_cons_of_length_eq_add_one hn
    by_cases hidle : item.core? = none
    · have hlength : ((d.withOutbox rest).deliver item).session.outbox.length = n := by
        rw [outbox_deliver]
        rw [ho] at hn
        exact Nat.succ.inj hn
      obtain ⟨d', hrun, halike, hhead⟩ :=
        ih (h.trans (deliver_head h.symm.steady ho hidle).symm) hlength
      exact ⟨d', hrun.trans (run_deliver ho).symm, halike, hhead⟩
    · refine ⟨d, rfl, h, fun other hother => ?_⟩
      rw [ho] at hother
      obtain rfl : item = other := Option.some.inj hother
      exact hidle

/-- **Alike clients come to rest alike.** -/
theorem run (h : c.Alike d) : c.run.Alike d.run := by
  induction c using wellFounded_follows.induction generalizing d with
  | h c ih =>
    have deliver : ∀ {item : Outgoing} {rest : List Outgoing}, c.session.outbox = item :: rest →
        ((c.withOutbox rest).deliver item).Follows c := fun ho => ⟨_, _, .deliver ho⟩
    obtain ⟨d', hrun, h, hhead⟩ := h.exists_awake
    rw [← hrun]
    have houtbox := h.session.outbox
    cases ho : c.session.outbox with
    | cons item rest =>
      rw [run_deliver ho]
      by_cases hidle : item.core? = none
      · exact ih _ (deliver ho) ((deliver_head h.steady ho hidle).trans h)
      · -- then the other has the same item at its head
        cases ho' : d'.session.outbox with
        | nil =>
          rw [ho, ho', List.filterMap_cons] at houtbox
          cases hcore : item.core? with
          | none => exact absurd hcore hidle
          | some core =>
            rw [hcore] at houtbox
            cases houtbox
        | cons item' rest' =>
          rw [run_deliver ho']
          have hidle' := hhead item' (by rw [ho']; rfl)
          obtain ⟨core, hcore⟩ := Option.ne_none_iff_exists'.1 hidle
          obtain ⟨core', hcore'⟩ := Option.ne_none_iff_exists'.1 hidle'
          rw [ho, ho', List.filterMap_cons, List.filterMap_cons, hcore, hcore'] at houtbox
          obtain ⟨rfl, hrest⟩ := List.cons.inj houtbox
          exact ih _ (deliver ho) ((h.withOutbox hrest).deliver (hcore.trans hcore'.symm) hidle)
    | nil =>
      have ho' : d'.session.outbox = [] := by
        cases ho' : d'.session.outbox with
        | nil => rfl
        | cons item' rest' =>
          obtain ⟨core', hcore'⟩ := Option.ne_none_iff_exists'.1 (hhead item' (by rw [ho']; rfl))
          rw [ho, ho', List.filterMap_cons, hcore'] at houtbox
          cases houtbox
      have hevents := h.session.events
      cases he : c.session.events with
      | cons event rest =>
        rw [he] at hevents
        obtain ⟨log, fires⟩ := Session.fires_react c.controller (c.withEvents rest).session event
        rw [run_react ho he, run_react ho' hevents.symm]
        exact ih _ ⟨_, _, .react ho he fires⟩ ((h.withEvents rest).handleEvent event)
      | nil =>
        rw [he] at hevents
        rw [AtRest.run ⟨ho, he⟩, AtRest.run ⟨ho', hevents.symm⟩]
        exact h

/-! ## Operations -/

theorem turnAway {s t : Session} (h : s.Alike t) (e : Element) :
    (Client.turnAway s e).Alike (Client.turnAway t e) := by
  unfold Client.turnAway
  split
  · exact h.write _
  · split
    · exact h
    · exact (h.write _).close

theorem process (slot : Slot) {s t : Session} (h : s.Alike t) (e : Element) :
    Session.AlikeWith (Modules.process slot s e) (Modules.process slot t e) := by
  unfold Modules.process
  split
  · exact ⟨h, rfl⟩
  · exact h.handle slot.id _ e

/-- A module is given an element alike, whether or not the sender was replied to. -/
theorem routeTo (slot : Slot) {p q : Session × Bool} (h : Session.AlikeWith p q) (e : Element) :
    Session.AlikeWith (Client.routeTo e p slot) (Client.routeTo e q slot) := by
  obtain ⟨s, replied⟩ := p
  obtain ⟨t, replied'⟩ := q
  obtain ⟨hsession, rfl : replied = replied'⟩ := h
  obtain ⟨hprocessed, herror⟩ := process slot (show s.Alike t from hsession) e
  unfold Client.routeTo
  dsimp only
  generalize Modules.process slot s e = p at hprocessed herror
  generalize Modules.process slot t e = q at hprocessed herror
  obtain ⟨s', error⟩ := p
  obtain ⟨t', error'⟩ := q
  obtain rfl : error = error' := herror
  cases error with
  | none => exact ⟨hprocessed, rfl⟩
  | some error =>
    dsimp only
    split
    · exact ⟨hprocessed.write _, rfl⟩
    · exact ⟨hprocessed, rfl⟩

/-- **An element is routed alike.** -/
theorem route (h : c.Alike d) {s t : Session} (hsession : s.Alike t) (e : Element) :
    (c.route s e).Alike (d.route t e) := by
  have folded : ∀ (slots : List Slot) {p q : Session × Bool}, Session.AlikeWith p q →
      Session.AlikeWith (slots.foldl (Client.routeTo e) p) (slots.foldl (Client.routeTo e) q) := by
    intro slots
    induction slots with
    | nil => exact id
    | cons slot rest ih => exact fun halike => ih (routeTo slot halike e)
  unfold Client.route
  rw [h.modules]
  split
  · exact turnAway hsession e
  · exact (folded _ (show Session.AlikeWith (s, false) (t, false) from ⟨hsession, rfl⟩)).1

theorem take (h : c.Alike d) (e : Element) : (c.take e).Alike (d.take e) := by
  have counted : (c.session.countReceived e).Alike (d.session.countReceived e) :=
    (Session.Alike.countReceived _ e).trans
      (h.session.trans (Session.Alike.countReceived _ e).symm)
  unfold Client.take
  dsimp only
  rw [counted.registry]
  split
  · exact counted.answer e
  · exact h.route counted e

theorem housekeep (h : c.Alike d) (now : Nat) : (c.housekeep now).Alike (d.housekeep now) := by
  have pruned := h.session.prune
  unfold Client.housekeep
  dsimp only
  rw [pruned.registry, h.isSome_transport]
  have swept := pruned.swept (d.session.prune.registry.sweep fun r => r.isOutdated now)
  split
  · exact (Session.Alike.manage _).trans (swept.trans (Session.Alike.manage _).symm)
  · exact swept

/-- **An operation prepares alike clients alike.** -/
theorem prepare (h : c.Alike d) {op : Operation} (hbatch : op.batch? = none)
    (attaches : ∀ transport, op = .connected transport → transport.Steady) :
    (c.prepare op).Alike (d.prepare op) := by
  cases op with
  | install batch => cases hbatch
  | write element => exact h.withSession (h.session.write element)
  | submit request => exact h.withSession (h.session.enqueue _ _)
  | send draft => exact h.withSession (h.session.send draft)
  | call changes => exact h.withSession (h.session.changes changes)
  | cancel key => exact h.withSession (h.session.cancel key)
  | connecting => exact h.setConnector _
  | connected transport =>
    have attached : Alike { c with transport := some transport }
        { d with transport := some transport } :=
      { h with
        transport := rfl
        steady := fun t ht => attaches t (congrArg Operation.connected (Option.some.inj ht)) }
    exact attached.setConnector _
  | lost =>
    have detached : Alike { c with transport := none } { d with transport := none } :=
      { h with transport := rfl, steady := by rintro _ ⟨⟩ }
    exact detached.setConnector _
  | disconnect =>
    have hnone : c.transport.isNone = d.transport.isNone := by
      rw [← Option.not_isSome, ← Option.not_isSome, h.isSome_transport]
    unfold Client.prepare
    dsimp only
    rw [hnone]
    split
    · exact h
    · exact h.withSession h.session.close
  | parseError message => exact h.withSession (h.session.fire _)
  | receive e => exact h.withSession (h.take e)
  | process id e =>
    have hrequire : c.modules.require id = d.modules.require id := by rw [h.modules]
    unfold Client.prepare
    dsimp only
    rw [hrequire]
    split
    · exact h
    · exact h.withSession (h.session.handle id _ e).1
  | advance duration => exact h.withSession (h.session.pass duration)
  | tick now => exact h.withSession (h.housekeep now)
  | takeEvents => exact { h with published := rfl }
  | nextEvent =>
    show c.nextEvent.2.Alike d.nextEvent.2
    unfold Client.nextEvent
    rw [h.published]
    split
    · exact h
    · exact { h with published := rfl }

/-- **Alike clients stay alike under every operation.** -/
theorem operate (h : c.Alike d) (hc : c.AtRest) (hd : d.AtRest) {op : Operation}
    (hbatch : op.batch? = none)
    (attaches : ∀ transport, op = .connected transport → transport.Steady) :
    (c.operate op).Alike (d.operate op) := by
  rw [operate_eq hc, operate_eq hd]
  exact (h.prepare hbatch attaches).run

end Alike

end Client

end Xmpp
