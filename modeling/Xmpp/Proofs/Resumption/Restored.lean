import Mathlib.Data.List.Nodup
import Xmpp.Proofs.Resumption.Dialogue

/-!
# Neither lost nor duplicated

When a session is resumed, the peer has counted some of its stanzas. Those should be
confirmed, and all others handed over again, in their order (`Dialogue.Restored`). This
file proves when that is so: if and only if every stanza of the session that was handed
over so far was kept until it was confirmed.

The invariant of a run has two halves. One is about the client and holds in any case:
what is kept and what waits are in order, and the phase of the session fits what the
peer may say next (`Linked`). The other compares the two sides and holds as long as
nothing was forgone: what the peer has counted, what is on its way and what waits to be
handed over again are together the stanzas of the session (`Agrees`).
-/

namespace Xmpp

open Delivery Resumption

/-! ## What the module does with the words of the peer -/

namespace Session

theorem handle_ack {e : Element} {report : UInt32} (h : readAck? e = some report) :
    e.isStanza = false ∧ ∀ (s : Session) (tag : Option String),
      s.handle .streamManagement tag e = (s.acknowledge report, none) := by
  have hname := Element.name_of_ack h
  refine ⟨Element.not_isStanza_of_name hname (by decide), fun s tag => ?_⟩
  show s.handleManagement e = _
  unfold handleManagement
  rw [hname, if_neg (by decide), if_neg (by decide), if_neg (by decide), if_pos (by decide), h]

theorem handle_resumed {e : Element} {report : UInt32}
    (h : (Resumed.read? e).map (·.h) = some report) :
    e.isStanza = false ∧ ∃ previd, ∀ (s : Session) (tag : Option String) (context : Context),
      s.resumption? = some context → s.handle .streamManagement tag e
        = ((s.continueFrom report).fire (.resumed report previd), none) := by
  obtain ⟨resumed, hread, rfl⟩ := Option.map_eq_some_iff.1 h
  have hname := Element.name_of_resumed hread
  refine ⟨Element.not_isStanza_of_name hname (by decide), resumed.previd,
    fun s tag context hs => ?_⟩
  show s.handleManagement e = _
  unfold handleManagement
  rw [hname, if_neg (by decide), if_pos (by decide), hread]
  show s.takeResumed resumed = _
  unfold takeResumed continueFrom
  rw [hs]

theorem handle_enabled {e : Element} (h : (Enabled.read? e).isSome = true) :
    e.isStanza = false ∧ ∃ enabled : Enabled, ∀ (s : Session) (tag : Option String)
      (context : Context), s.resumption? = some context → context.status = .pending →
      s.handle .streamManagement tag e
        = ((s.modifyResumption (·.enable enabled)).fire (enabledEvent (context.enable enabled)),
          none) := by
  obtain ⟨enabled, hread⟩ := Option.isSome_iff_exists.1 h
  have hname := Element.name_of_enabled hread
  refine ⟨Element.not_isStanza_of_name hname (by decide), enabled,
    fun s tag context hs hpending => ?_⟩
  have hstatus : s.managementStatus? = some .pending := by
    rw [managementStatus?, hs, Option.map_some, hpending]
  show s.handleManagement e = _
  unfold handleManagement
  rw [hname, if_pos (by decide), hread]
  show (s.takeEnabled enabled, none) = _
  unfold takeEnabled
  rw [hstatus]
  dsimp only
  rw [resumption?_modifyResumption, hs, Option.map_some]

end Session

/-! ## Losing the connection -/

namespace Client

/-- **A client that is losing its connection**: the transport is gone, and nothing is
left to do but to take note of that. -/
structure IsLosing (c : Client) : Prop where
  transport : c.transport = none
  outbox : c.session.outbox = []
  events : ∃ old, c.session.events = [.connector old .disconnected]

/-- A client at rest loses its connection. -/
theorem isLosing_prepare_lost {c : Client} (h : c.AtRest) (hc : c.connector ≠ .disconnected) :
    (c.prepare .lost).IsLosing := by
  have heq : c.prepare .lost
      = { c with
          transport := none
          connector := .disconnected
          session := c.session.fire (.connector c.connector .disconnected) } := by
    show Client.setConnector { c with transport := none } .disconnected = _
    unfold Client.setConnector
    rw [if_neg (show ¬ c.connector = .disconnected from hc)]
  rw [heq]
  refine ⟨rfl, h.1, c.connector, ?_⟩
  show c.session.events ++ [_] = _
  rw [h.2]
  rfl

/-- **A session that outlives the connection is inactive**. -/
theorem IsLosing.inactive {c : Client} (h : c.IsLosing) (hclean : c.session.properties.Clean)
    {event : Event} {rest : List Event} (he : c.session.events = event :: rest)
    {context : Context}
    (hs : ((c.withEvents rest).handleEvent event).session.resumption? = some context) :
    context.status = .inactive := by
  obtain ⟨old, hevents⟩ := h.events
  rw [hevents] at he
  obtain ⟨rfl, rfl⟩ := List.cons.inj he
  let s : Session := { c.session with events := [] }
  have hs : (s.followConnector old .disconnected).resumption? = some context := hs
  unfold Session.followConnector at hs
  dsimp only at hs
  split at hs
  · -- nothing of a session that cannot be resumed is left
    have hswept : s.timeoutAll.properties.Clean := by
      rw [Session.timeoutAll, Session.swept, Session.perform_eq]
      exact hclean
    have hclean : (s.timeoutAll.change .reset).properties.Clean :=
      Session.clean_change hswept (show Change.KeepsOff .reset from trivial)
    rw [show s.wrapUp.resumption? = none from hclean.resumption?_clear_of_le (by decide)] at hs
    cases hs
  · rename_i hresume
    have hclean : (s.change .deactivate).properties.Clean :=
      Session.clean_change hclean (show Change.KeepsOff .deactivate from trivial)
    rw [show s.suspend.resumption? = s.deactivateManagement.resumption? from
        hclean.resumption?_clear_of_not_le (by decide),
      Session.deactivateManagement, Session.resumption?_modifyResumption] at hs
    obtain ⟨before, hbefore, rfl⟩ := Option.map_eq_some_iff.1 hs
    have hcan : s.canResume = true := by
      cases hcan : s.canResume with
      | true => rfl
      | false => exact absurd (.inr hcan) hresume
    obtain ⟨info, hinfo⟩ := Option.isSome_iff_exists.1 hcan
    rw [Session.resumeInfo?, hbefore, Option.bind_some] at hinfo
    have hnot := Context.status_ne_pending_of_resumeInfo? hinfo
    unfold Context.deactivate
    split
    · rfl
    · rename_i hactive
      cases hstatus : before.status with
      | pending => exact absurd hstatus hnot
      | active => exact absurd hstatus hactive
      | inactive => rfl

/-- Only what is about the connection changes the transport. -/
theorem transport_prepare (c : Client) {op : Operation} (h : op.isConnection = false) :
    (c.prepare op).transport = c.transport := by
  cases op with
  | connected transport => cases h
  | lost => cases h
  | connecting => exact transport_setConnector _ _
  | disconnect =>
    unfold Client.prepare
    dsimp only
    split <;> rfl
  | process id element =>
    unfold Client.prepare
    dsimp only
    split <;> rfl
  | nextEvent =>
    show c.nextEvent.2.transport = _
    unfold Client.nextEvent
    split <;> rfl
  | _ => rfl

/-- What waits behind an item goes on waiting while the item is handed over. -/
theorem unsent_deliver (c : Client) (rest : List Outgoing) (item : Outgoing) :
    ((c.withOutbox rest).deliver item).session.unsent = rest.filterMap Outgoing.entry? := by
  rw [Session.unsent, outbox_deliver]
  rfl

/-- **What becomes of a session** when the transport takes an element. -/
theorem handedOver {c : Client} {transport : Transport} {entry : Entry} (request : Option Request)
    {context : Context} (h : c.NeverRefused) (ht : c.transport = some transport)
    (hne : entry.stanza.is "enable" Namespace.streamManagement = false)
    (hs : c.session.resumption? = some context) :
    (c.deliver (.element entry request)).session.resumption? = some (context.recordSent entry)
      ∧ (c.deliver (.element entry request)).session.board
          = (c.session.board.set entry.token .sent).setAll (context.evicted entry) .dropped
      ∧ (c.deliver (.element entry request)).transport.isSome = true := by
  have hawaited : ((c.session.mark [entry] .sent).awaitReply request).resumption?
      = some context := by
    rw [Session.awaitReply_eq]
    exact hs
  rw [deliver_of_accepts ht (h transport ht)]
  refine ⟨?_, ?_, rfl⟩
  · show (Session.countSent _ entry).resumption? = _
    rw [Session.resumption?_countSent, hne, if_neg (by decide), hawaited, Option.map_some]
  · show (Session.countSent _ entry).board = _
    unfold Session.countSent Session.evicted
    rw [hne, if_neg (by decide), hawaited]
    show Board.setAll ((c.session.mark [entry] .sent).awaitReply request).board _ _ = _
    rw [Session.awaitReply_eq]
    rfl

end Client

namespace Resumption

/-! ## The invariant -/

/-- **The two sides are linked**: the client is in a phase in which it can hear what
the peer said. -/
structure Linked (d : Dialogue) (context : Context) : Prop where
  underway : d.client.Underway
  /-- What waits to be handed over again does not wait in vain. -/
  again : ∀ entry ∈ d.client.session.unsent, entry ∈ d.stanzas →
    d.client.transport.isSome = true
  attached : d.attached = true → d.client.transport.isSome = true
  away : d.attached = false →
    d.downlink = [] ∧ (context.status = .inactive ∨ d.client.IsLosing)
  fits : ∀ word ∈ d.downlink, word.Fits context.status
  reports : ∀ word ∈ d.downlink.tail, word.isReport = true

/-- **The two sides agree**: what the peer says is no less than what is confirmed and
no more than it has counted, and what it has counted are the first stanzas of the
session. -/
structure Agrees (d : Dialogue) (l : Ledger) : Prop where
  counts : ((l.acked :: d.downlink.filterMap Word.count?) ++ [d.counted.length]).Pairwise (· ≤ ·)
  /-- While the session is live, the stanzas of the ledger were counted or are on their
  way. -/
  live : d.attached = true → d.downlink.any Word.isResumed = false →
    d.counted ++ d.uplink = l.stanzas
  /-- Until the client hears that the session was resumed, nothing is counted. -/
  back : d.attached = true → d.downlink.any Word.isResumed = true →
    d.uplink = [] ∧ d.counted <+: d.stanzas
      ∧ ∀ n ∈ d.downlink.filterMap Word.count?, n = d.counted.length
  /-- Between two connections, only what is late is counted. -/
  away : d.attached = false → d.uplink = [] ∧ d.counted ++ d.late <+: d.stanzas

/-- What was on its way when the connection is lost may still arrive late. -/
theorem Agrees.lose {d : Dialogue} {context : Context} {l : Ledger} (agrees : Agrees d l)
    (exact_ : Exact d.client.session d.stanzas context l) : Agrees d.lose l := by
  refine ⟨?_, fun ha => Bool.noConfusion ha, fun ha => Bool.noConfusion ha, fun _ => ⟨rfl, ?_⟩⟩
  · refine agrees.counts.sublist ?_
    exact List.Sublist.cons_cons _ (List.sublist_append_right ..)
  · show d.counted ++ (if d.attached then d.uplink else d.late) <+: d.stanzas
    split
    · rename_i ha
      cases hback : d.downlink.any Word.isResumed with
      | false =>
        rw [agrees.live ha hback, ← exact_.stanzas]
        exact List.prefix_append ..
      | true =>
        obtain ⟨hup, hprefix, -⟩ := agrees.back ha hback
        rw [hup, List.append_nil]
        exact hprefix
    · rename_i ha
      exact (agrees.away (by simpa using ha)).2

/-- **The invariant of a run.** -/
structure Holds (d : Dialogue) (context : Context) : Prop where
  orderly : Orderly d.client.session d.stanzas d.unkept context
  linked : Linked d context
  agrees : d.unkept = [] → ∃ l, Exact d.client.session d.stanzas context l ∧ Agrees d l

namespace Holds

variable {d : Dialogue} {context context' : Context}

/-- **The client drifts**, and the peer knows nothing of it. -/
theorem drift (h : Holds d context) {c : Client} (hd : d.client.session.Drifts c.session)
    (hs : c.session.resumption? = some context') (underway : c.Underway)
    (ht : d.client.transport.isSome = true → c.transport.isSome = true)
    (haway : d.attached = false → context'.status = .inactive ∨ c.IsLosing) :
    Holds { d with client := c } context' := by
  have drifts := h.orderly.context_drifts hd hs
  have linked : Linked { d with client := c } context' :=
    { underway
      again := fun entry hmem hsent =>
        ht (h.linked.again entry (h.orderly.mem_unsent hd hmem hsent) hsent)
      attached := fun ha => ht (h.linked.attached ha)
      away := fun ha => ⟨(h.linked.away ha).1, haway ha⟩
      fits := fun word hmem => by
        have hfits := h.linked.fits word hmem
        cases word with
        | enabled e he => exact drifts.pending hfits
        | ack e count he => trivial
        | resumed e count he => exact drifts.inactive hfits
      reports := h.linked.reports }
  refine ⟨h.orderly.drift hd hs, linked, fun hkept => ?_⟩
  obtain ⟨l, exact_, agrees⟩ := h.agrees hkept
  exact ⟨l, exact_.drift h.orderly hd hs, agrees.counts, agrees.live, agrees.back, agrees.away⟩

/-- Between two connections the session is inactive, unless the client is just losing
the last one. -/
theorem inactive (h : Holds d context) (ha : d.attached = false)
    (hc : ¬ d.client.IsLosing) : context.status = .inactive :=
  (h.linked.away ha).2.resolve_right hc

theorem not_isLosing_of_atRest {c : Client} (h : c.AtRest) : ¬ c.IsLosing := by
  intro losing
  obtain ⟨old, hevents⟩ := losing.events
  rw [h.2] at hevents
  cases hevents

/-- A client at rest has settled. -/
theorem settled (h : Holds d context) (rest : d.client.AtRest) : d.client.Settled :=
  h.linked.underway.settled rest

/-- The client begins with an operation. -/
theorem act (h : Holds d context) {op : Operation} (rest : d.client.AtRest)
    (tame : op.Within Change.Tame) (hop : op.isConnection = false)
    (hs : (d.client.prepare op).session.resumption? = some context') :
    Holds { d with client := d.client.prepare op } context' := by
  have discreet : op.Discreet := by
    refine ⟨tame.mono fun _ h => h.1, ?_⟩
    rintro transport rfl
    cases hop
  have hd := Client.drifts_prepare h.orderly.clean tame
  refine h.drift hd hs ((h.settled rest).underway discreet) ?_ fun ha => ?_
  · rw [Client.transport_prepare _ hop]
    exact id
  · have drifts := h.orderly.context_drifts hd hs
    exact .inl (drifts.inactive (h.inactive ha (not_isLosing_of_atRest rest)))

/-- The controller reacts to an event. -/
theorem react (h : Holds d context) {event : Event} {rest : List Event}
    (ho : d.client.session.outbox = []) (he : d.client.session.events = event :: rest)
    (hs : ((d.client.withEvents rest).handleEvent event).session.resumption? = some context') :
    Holds { d with client := (d.client.withEvents rest).handleEvent event } context' := by
  have skip : d.client.session.Drifts (d.client.withEvents rest).session :=
    .of_same h.orderly.clean rfl rfl rfl
  have hd := skip.trans (Session.drifts_react (s := (d.client.withEvents rest).session)
    h.orderly.clean d.client.controller event)
  refine h.drift hd hs (h.linked.underway.react ho he) id fun ha => ?_
  have drifts := h.orderly.context_drifts hd hs
  rcases (h.linked.away ha).2 with hinactive | losing
  · exact .inl (drifts.inactive hinactive)
  · exact .inl (losing.inactive h.orderly.clean he hs)

/-- The stream is restarted. -/
theorem restart (h : Holds d context) {rest : List Outgoing}
    (ho : d.client.session.outbox = .restart :: rest)
    (hs : ((d.client.withOutbox rest).deliver .restart).session.resumption? = some context') :
    Holds { d with client := (d.client.withOutbox rest).deliver .restart } context' := by
  have hunsent : (d.client.withOutbox rest).session.unsent = d.client.session.unsent := by
    rw [Session.unsent, Session.unsent, ho, List.filterMap_cons_none rfl]
    rfl
  have skip : d.client.session.Drifts (d.client.withOutbox rest).session :=
    ⟨h.orderly.clean, Nat.le_refl _, ⟨[], by rw [hunsent, List.append_nil], .nil⟩,
      fun context hs => ⟨context, hs, .refl context⟩, fun _ _ _ => rfl⟩
  have hd := skip.trans (Session.drifts_change (s := (d.client.withOutbox rest).session)
    h.orderly.clean (show Change.Tame (.clear .stream) from ⟨trivial, rfl⟩))
  refine h.drift hd hs (h.linked.underway.deliver ho) id fun ha => ?_
  have drifts := h.orderly.context_drifts hd hs
  refine .inl (drifts.inactive (h.inactive ha fun losing => ?_))
  rw [losing.outbox] at ho
  cases ho

/-- There is a new connection. -/
theorem connect (h : Holds d context) {transport : Transport} (rest : d.client.AtRest)
    (ht : d.client.transport = none) (accepts : transport.Accepts)
    (hs : (d.client.prepare (.connected transport)).session.resumption? = some context') :
    Holds { d with client := d.client.prepare (.connected transport) } context' := by
  have tame : (Operation.connected transport).Within Change.Tame := fun _ _ => ⟨trivial, rfl⟩
  have discreet : (Operation.connected transport).Discreet := by
    refine ⟨tame.mono fun _ h => h.1, ?_⟩
    rintro other hother
    obtain rfl := Operation.connected.inj hother
    exact accepts
  have hd := Client.drifts_prepare h.orderly.clean tame
  refine h.drift hd hs ((h.settled rest).underway discreet) ?_ fun ha => ?_
  · rw [ht]
    exact fun hsome => absurd hsome (by decide)
  · have drifts := h.orderly.context_drifts hd hs
    exact .inl (drifts.inactive (h.inactive ha (not_isLosing_of_atRest rest)))

/-- **The connection is lost.** -/
theorem lose (h : Holds d context) (rest : d.client.AtRest)
    (hs : d.lose.client.session.resumption? = some context') : Holds d.lose context' := by
  have tame : Operation.lost.Within Change.Tame := fun _ _ => ⟨trivial, rfl⟩
  have discreet : Operation.lost.Discreet :=
    ⟨tame.mono fun _ h => h.1, fun transport h => by cases h⟩
  have hd := Client.drifts_prepare h.orderly.clean tame
  have drifts := h.orderly.context_drifts hd hs
  have hunsent : d.client.session.unsent = [] := by
    rw [Session.unsent, rest.1]
    rfl
  have linked : Linked d.lose context' :=
    { underway := (h.settled rest).underway discreet
      again := fun entry hmem hsent => by
        -- what waits was written since, and is new
        have hmem := h.orderly.mem_unsent hd hmem hsent
        rw [hunsent] at hmem
        cases hmem
      attached := fun ha => Bool.noConfusion ha
      away := fun _ => by
        refine ⟨rfl, ?_⟩
        cases ha : d.attached with
        | true =>
          exact .inr (Client.isLosing_prepare_lost rest
            (h.linked.underway.fit.connected (h.linked.attached ha)))
        | false => exact .inl (drifts.inactive (h.inactive ha (not_isLosing_of_atRest rest)))
      fits := List.forall_mem_nil _
      reports := List.forall_mem_nil _ }
  refine ⟨h.orderly.drift hd hs, linked, fun hkept => ?_⟩
  obtain ⟨l, exact_, agrees⟩ := h.agrees hkept
  exact ⟨l, exact_.drift h.orderly hd hs, agrees.lose exact_⟩

/-! ### Handing over -/

/-- A client that has something to hand over is not losing its connection. -/
theorem inactive_of_outbox (h : Holds d context) (ha : d.attached = false) {item : Outgoing}
    {rest : List Outgoing} (ho : d.client.session.outbox = item :: rest) :
    context.status = .inactive := by
  refine h.inactive ha fun losing => ?_
  rw [losing.outbox] at ho
  cases ho

/-- What is no stanza of the session leaves the outbox. -/
theorem pop (h : Holds d context) {c : Client} {entry : Entry} {request : Option Request}
    {rest : List Outgoing} {state : State}
    (ho : d.client.session.outbox = .element entry request :: rest)
    (hnew : entry ∉ d.stanzas) (underway : c.Underway)
    (hs : c.session.resumption? = some context)
    (hunsent : c.session.unsent = rest.filterMap Outgoing.entry?)
    (hb : c.session.board = d.client.session.board.set entry.token state)
    (ht : c.transport.isSome = d.client.transport.isSome) :
    Holds { d with client := c } context := by
  have hold : d.client.session.unsent = entry :: rest.filterMap Outgoing.entry? := by
    rw [Session.unsent, ho]
    rfl
  have linked : Linked { d with client := c } context :=
    { underway
      again := fun other hmem hsent => by
        refine ht.trans (h.linked.again other ?_ hsent)
        rw [hold]
        exact List.mem_cons_of_mem _ (hunsent ▸ hmem)
      attached := fun ha => ht.trans (h.linked.attached ha)
      away := fun ha => ⟨(h.linked.away ha).1, .inl (h.inactive_of_outbox ha ho)⟩
      fits := h.linked.fits
      reports := h.linked.reports }
  refine ⟨h.orderly.pop hold underway.fit.clean hs hunsent hb, linked, fun hkept => ?_⟩
  obtain ⟨l, exact_, agrees⟩ := h.agrees hkept
  exact ⟨l, exact_.pop h.orderly hold hnew hunsent hb, agrees.counts, agrees.live, agrees.back,
    agrees.away⟩

/-- A stanza that is kept is handed over while the session is live, and is on its way
from then on. -/
theorem agrees_handOver (h : Holds d context) {entry : Entry} {request : Option Request}
    {rest : List Outgoing} (ho : d.client.session.outbox = .element entry request :: rest)
    (hst : entry.stanza.isStanza = true) (ht : d.client.transport.isSome = true)
    (hforgoes : context.forgoes entry = []) {l : Ledger} (agrees : Agrees d l) :
    Agrees (d.handOver entry request rest) (l.record entry) := by
  obtain ⟨hactive, -⟩ := context.of_forgoes_eq_nil hst hforgoes
  obtain ⟨hstanzas, hacked⟩ := l.record_of_isStanza hst
  unfold Dialogue.handOver
  rw [if_pos ⟨ht, hst⟩]
  refine ⟨?_, fun ha hback => ?_, fun ha hback => ?_, fun ha => ?_⟩
  · rw [hacked]
    exact agrees.counts
  · rw [hstanzas, ← agrees.live ha hback, List.append_assoc]
  · obtain ⟨word, hmem, hresumed⟩ := List.any_eq_true.1 hback
    cases word with
    | resumed e count he => exact absurd (h.linked.fits _ hmem) hactive
    | _ => cases hresumed
  · exact absurd (h.inactive_of_outbox ha ho) hactive

/-- A stanza is handed over to the transport. -/
theorem handOver_of_isStanza (h : Holds d context) {entry : Entry} {request : Option Request}
    {rest : List Outgoing} {transport : Transport}
    (ho : d.client.session.outbox = .element entry request :: rest)
    (hne : entry.stanza.is "enable" Namespace.streamManagement = false)
    (hst : entry.stanza.isStanza = true) (ht : d.client.transport = some transport) :
    Holds (d.handOver entry request rest) (context.recordSent entry) := by
  have underway := h.linked.underway.deliver ho
  have hsome : d.client.transport.isSome = true := by rw [ht]; rfl
  have hold : d.client.session.unsent = entry :: rest.filterMap Outgoing.entry? := by
    rw [Session.unsent, ho]
    rfl
  have hunsent := d.client.unsent_deliver rest (.element entry request)
  obtain ⟨hs, hb, ht'⟩ := Client.handedOver (c := d.client.withOutbox rest) request
    h.linked.underway.fit.neverRefused ht hne h.orderly.holds
  have agrees (l : Ledger) (hforgoes : context.forgoes entry = []) (agrees : Agrees d l) :=
    h.agrees_handOver ho hst hsome hforgoes agrees
  have hstatus := context.status_recordSent entry
  unfold Dialogue.handOver at agrees ⊢
  rw [if_pos ⟨hsome, hst⟩, h.orderly.holds] at agrees ⊢
  refine ⟨h.orderly.record hst hold underway.fit.clean hs hunsent hb,
    { underway
      again := fun _ _ _ => ht'
      attached := fun _ => ht'
      away := fun ha =>
        ⟨(h.linked.away ha).1, .inl (hstatus.trans (h.inactive_of_outbox ha ho))⟩
      fits := hstatus ▸ h.linked.fits
      reports := h.linked.reports }, fun hkept => ?_⟩
  obtain ⟨hbefore, hforgoes⟩ := List.append_eq_nil_iff.1 hkept
  obtain ⟨l, exact_, hagrees⟩ := h.agrees hbefore
  rw [(context.of_forgoes_eq_nil hst hforgoes).2] at hb
  exact ⟨l.record entry, exact_.record h.orderly hst hold hforgoes hunsent hb,
    agrees l hforgoes hagrees⟩

/-- What is no stanza is handed over to the transport. -/
theorem handOver_of_not_isStanza (h : Holds d context) {entry : Entry}
    {request : Option Request} {rest : List Outgoing} {transport : Transport}
    (ho : d.client.session.outbox = .element entry request :: rest)
    (hne : entry.stanza.is "enable" Namespace.streamManagement = false)
    (hst : entry.stanza.isStanza = false) (ht : d.client.transport = some transport) :
    Holds (d.handOver entry request rest) context := by
  have hnew : entry ∉ d.stanzas := by
    intro hsent
    rw [h.orderly.isStanza entry hsent] at hst
    cases hst
  have hevicted : context.evicted entry = [] := by
    unfold Context.evicted
    rw [if_neg (by simp [hst])]
  obtain ⟨hs, hb, ht'⟩ := Client.handedOver (c := d.client.withOutbox rest) request
    h.linked.underway.fit.neverRefused ht hne h.orderly.holds
  rw [Context.recordSent, if_neg (by simp [hst])] at hs
  rw [hevicted] at hb
  unfold Dialogue.handOver
  rw [if_neg (by simp [hst])]
  exact h.pop ho hnew (h.linked.underway.deliver ho) hs (d.client.unsent_deliver ..) hb
    (by rw [ht, ht']; rfl)

/-- Without a transport an element is lost, and it is no stanza of the session. -/
theorem handOver_of_transport_none (h : Holds d context) {entry : Entry}
    {request : Option Request} {rest : List Outgoing}
    (ho : d.client.session.outbox = .element entry request :: rest)
    (ht : d.client.transport = none) : Holds (d.handOver entry request rest) context := by
  have hnew : entry ∉ d.stanzas := by
    intro hsent
    have := h.linked.again entry (by rw [Session.unsent, ho]; exact List.mem_cons_self ..) hsent
    rw [ht] at this
    cases this
  have hdeliver := Client.deliver_of_transport_none (c := d.client.withOutbox rest) ht entry request
  have hb : ((d.client.withOutbox rest).deliver (.element entry request)).session.board
      = d.client.session.board.set entry.token .dropped := by
    rw [hdeliver, Session.failUnsent_eq]
    rfl
  unfold Dialogue.handOver
  rw [if_neg (by simp [ht])]
  refine h.pop ho hnew (h.linked.underway.deliver ho) ?_ (d.client.unsent_deliver ..) hb ?_
  · rw [hdeliver, Session.failUnsent_eq]
    exact h.orderly.holds
  · rw [hdeliver, ht]
    exact congrArg _ ht

/-- **An element is handed over.** -/
theorem handOver (h : Holds d context) {entry : Entry} {request : Option Request}
    {rest : List Outgoing} (ho : d.client.session.outbox = .element entry request :: rest)
    (hne : entry.stanza.is "enable" Namespace.streamManagement = false) :
    ∃ context', Holds (d.handOver entry request rest) context' := by
  cases ht : d.client.transport with
  | none => exact ⟨_, h.handOver_of_transport_none ho ht⟩
  | some transport =>
    cases hst : entry.stanza.isStanza with
    | false => exact ⟨_, h.handOver_of_not_isStanza ho hne hst ht⟩
    | true => exact ⟨_, h.handOver_of_isStanza ho hne hst ht⟩

/-! ### The peer -/

/-- The last of ascending numbers may grow. -/
theorem pairwise_grow {counts : List Nat} {n m : Nat} (h : (counts ++ [n]).Pairwise (· ≤ ·))
    (hle : n ≤ m) : (counts ++ [m]).Pairwise (· ≤ ·) := by
  obtain ⟨hcounts, -, hlast⟩ := List.pairwise_append.1 h
  refine List.pairwise_append.2 ⟨hcounts, List.pairwise_singleton _ _, fun a ha b hb => ?_⟩
  rw [List.mem_singleton.1 hb]
  exact Nat.le_trans (hlast a ha n (List.mem_singleton.2 rfl)) hle

/-- A stanza arrives. -/
theorem arrive (h : Holds d context) {entry : Entry} {rest : List Entry}
    (hu : d.uplink = entry :: rest) : Holds (d.arrive entry rest) context := by
  refine ⟨h.orderly, ⟨h.linked.underway, h.linked.again, h.linked.attached, h.linked.away,
    h.linked.fits, h.linked.reports⟩, fun hkept => ?_⟩
  obtain ⟨l, exact_, agrees⟩ := h.agrees hkept
  have ha : d.attached = true := by
    by_contra ha
    have := (agrees.away (by simpa using ha)).1
    rw [hu] at this
    cases this
  have hback : d.downlink.any Word.isResumed = false := by
    by_contra hback
    have := (agrees.back ha (by simpa using hback)).1
    rw [hu] at this
    cases this
  have hcounted : (d.arrive entry rest).counted = d.counted ++ [entry] := by
    show (if d.attached then _ else _) = _
    rw [ha, if_pos rfl]
  refine ⟨l, exact_, ?_, fun _ _ => ?_, fun _ hother => ?_, fun hother => ?_⟩
  · rw [hcounted, List.length_append]
    exact pairwise_grow agrees.counts (Nat.le_add_right ..)
  · rw [hcounted, ← agrees.live ha hback, hu, List.append_assoc]
    rfl
  · exact absurd (hback.symm.trans hother) (by decide)
  · exact absurd (ha.symm.trans hother) (by decide)

/-- A stanza arrives late. -/
theorem arriveLate (h : Holds d context) {entry : Entry} {rest : List Entry}
    (hl : d.late = entry :: rest) (ha : d.attached = false) :
    Holds (d.arriveLate entry rest) context := by
  refine ⟨h.orderly, ⟨h.linked.underway, h.linked.again, h.linked.attached, h.linked.away,
    h.linked.fits, h.linked.reports⟩, fun hkept => ?_⟩
  obtain ⟨l, exact_, agrees⟩ := h.agrees hkept
  obtain ⟨hup, hprefix⟩ := agrees.away ha
  refine ⟨l, exact_, ?_, fun hother => ?_, fun hother => ?_, fun _ => ⟨hup, ?_⟩⟩
  · show (_ ++ [(d.counted ++ [entry]).length]).Pairwise _
    rw [List.length_append]
    exact pairwise_grow agrees.counts (Nat.le_add_right ..)
  · exact absurd (ha.symm.trans hother) (by decide)
  · exact absurd (ha.symm.trans hother) (by decide)
  · show d.counted ++ [entry] ++ rest <+: d.stanzas
    rw [List.append_assoc, List.singleton_append, ← hl]
    exact hprefix

/-- The last of ascending numbers may be repeated. -/
theorem pairwise_repeat {counts : List Nat} {n : Nat} (h : (counts ++ [n]).Pairwise (· ≤ ·)) :
    (counts ++ [n] ++ [n]).Pairwise (· ≤ ·) := by
  refine List.pairwise_append.2 ⟨h, List.pairwise_singleton _ _, List.forall_mem_append.2
    ⟨(List.pairwise_append.1 h).2.2, ?_⟩⟩
  simp

/-- The peer reports how much it has counted. -/
theorem report (h : Holds d context) (e : Element)
    (he : readAck? e = some (.ofNat d.counted.length)) (ha : d.attached = true) :
    Holds { d with downlink := d.downlink ++ [.ack e d.counted.length he] } context := by
  have hreports : ∀ word ∈ (d.downlink ++ [Word.ack e d.counted.length he]).tail,
      word.isReport = true := by
    have hreports := h.linked.reports
    cases hd : d.downlink with
    | nil => exact List.forall_mem_nil _
    | cons first rest =>
      rw [hd] at hreports
      exact List.forall_mem_append.2 ⟨hreports, List.forall_mem_singleton.2 rfl⟩
  refine ⟨h.orderly, ⟨h.linked.underway, h.linked.again, h.linked.attached,
    fun hother => absurd (ha.symm.trans hother) (by decide),
    List.forall_mem_append.2 ⟨h.linked.fits, List.forall_mem_singleton.2 trivial⟩, hreports⟩,
    fun hkept => ?_⟩
  obtain ⟨l, exact_, agrees⟩ := h.agrees hkept
  have hany : (d.downlink ++ [Word.ack e d.counted.length he]).any Word.isResumed
      = d.downlink.any Word.isResumed := by
    rw [List.any_append]
    exact Bool.or_false _
  have hcounts : (d.downlink ++ [Word.ack e d.counted.length he]).filterMap Word.count?
      = d.downlink.filterMap Word.count? ++ [d.counted.length] := by
    rw [List.filterMap_append]
    rfl
  refine ⟨l, exact_, ?_, fun ha hback => agrees.live ha (hany ▸ hback), fun ha hback => ?_,
    agrees.away⟩
  · show ((l.acked :: (d.downlink ++ [_]).filterMap Word.count?) ++ [_]).Pairwise _
    rw [hcounts]
    exact pairwise_repeat agrees.counts
  · obtain ⟨hup, hprefix, hequal⟩ := agrees.back ha (hany ▸ hback)
    refine ⟨hup, hprefix, ?_⟩
    dsimp only
    rw [hcounts]
    exact List.forall_mem_append.2 ⟨hequal, List.forall_mem_singleton.2 rfl⟩

/-- The peer resumes the session. -/
theorem resume (h : Holds d context) (e : Element)
    (he : (Resumed.read? e).map (·.h) = some (.ofNat d.counted.length))
    (ha : d.attached = false) (ht : d.client.transport.isSome = true) :
    Holds { d with
      late := []
      downlink := d.downlink ++ [.resumed e d.counted.length he]
      attached := true } context := by
  have hinactive : context.status = .inactive := by
    refine h.inactive ha fun losing => ?_
    rw [losing.transport] at ht
    cases ht
  rw [(h.linked.away ha).1]
  refine ⟨h.orderly, ⟨h.linked.underway, h.linked.again, fun _ => ht,
    fun hother => (by cases hother), fun word hmem => ?_, fun _ hmem => (by cases hmem)⟩,
    fun hkept => ?_⟩
  · rw [List.mem_singleton.1 hmem]
    exact hinactive
  · obtain ⟨l, exact_, agrees⟩ := h.agrees hkept
    obtain ⟨hup, hprefix⟩ := agrees.away ha
    have hle : l.acked ≤ d.counted.length :=
      (List.pairwise_append.1 agrees.counts).2.2 _ (List.mem_cons_self ..) _
        (List.mem_singleton.2 rfl)
    refine ⟨l, exact_, ?_, fun _ hback => (by cases hback), fun _ _ => ⟨hup, ?_, fun n hmem => ?_⟩,
      fun hother => (by cases hother)⟩
    · show [l.acked, d.counted.length, d.counted.length].Pairwise _
      simp [hle]
    · exact (List.prefix_append ..).trans hprefix
    · exact List.mem_singleton.1 hmem

/-! ### Hearing -/

/-- What follows a word are reports. -/
theorem not_any_isResumed (h : Holds d context) {word : Word} {rest : List Word}
    (hd : d.downlink = word :: rest) : rest.any Word.isResumed = false := by
  have hreports := h.linked.reports
  rw [hd, List.tail_cons] at hreports
  refine List.any_eq_false.2 fun other hmem hresumed => ?_
  have := hreports other hmem
  cases other with
  | resumed e count he => cases this
  | _ => cases hresumed

theorem attached_of_downlink (h : Holds d context) {word : Word} {rest : List Word}
    (hd : d.downlink = word :: rest) : d.attached = true := by
  by_contra ha
  have := (h.linked.away (by simpa using ha)).1
  rw [hd] at this
  cases this

/-- What the module makes of a word is what becomes of the session. -/
theorem session_hear (h : Holds d context) {word : Word} {rest : List Word}
    (hears : d.Hears word rest) (nonza : word.element.isStanza = false) {s : Session}
    (handled : ∀ tag, d.client.session.handle .streamManagement tag word.element = (s, none)) :
    (d.hear word rest).client.session = s :=
  (h.settled hears.atRest).reachable.take_entrusted nonza hears.entrusted fun tag =>
    congrArg Prod.fst (handled tag)

/-- **The client hears a word**, which changes the session and nothing else. -/
theorem hears (h : Holds d context) {word : Word} {rest : List Word} (hears : d.Hears word rest)
    (nonza : word.element.isStanza = false) {s : Session}
    (handled : ∀ tag, d.client.session.handle .streamManagement tag word.element = (s, none))
    (orderly : Orderly s d.stanzas d.unkept context')
    (agrees : d.unkept = [] → ∃ l, Exact s d.stanzas context' l ∧ Agrees (d.hear word rest) l) :
    Holds (d.hear word rest) context' := by
  obtain rfl := h.session_hear hears nonza handled
  have ha := h.attached_of_downlink hears.next
  have discreet : (Operation.receive word.element).Discreet :=
    ⟨fun _ _ => Change.discreet_of_isVerdict, fun transport h => by cases h⟩
  have hreports := h.linked.reports
  rw [hears.next, List.tail_cons] at hreports
  refine ⟨orderly, ⟨(h.settled hears.atRest).underway discreet, fun _ _ _ => h.linked.attached ha,
    fun _ => h.linked.attached ha, fun hother => absurd (ha.symm.trans hother) (by decide),
    fun other hmem => ?_, fun other hmem => hreports other (List.mem_of_mem_tail hmem)⟩, agrees⟩
  have := hreports other hmem
  cases other with
  | ack e count he => trivial
  | enabled e he => cases this
  | resumed e count he => cases this

/-- What comes before the others is the least. -/
theorem counts_hear {word : Word} {rest : List Word} {acked n upTo : Nat}
    (hn : word.count? = some n)
    (h : ((acked :: (word :: rest).filterMap Word.count?) ++ [upTo]).Pairwise (· ≤ ·)) :
    acked ≤ n ∧ n ≤ upTo
      ∧ ((n :: rest.filterMap Word.count?) ++ [upTo]).Pairwise (· ≤ ·) := by
  rw [List.filterMap_cons_some hn] at h
  obtain ⟨hall, htail⟩ := List.pairwise_cons.1 h
  refine ⟨hall n (List.mem_cons_self ..), ?_, htail⟩
  exact (List.pairwise_cons.1 htail).1 upTo (List.mem_append_right _ (List.mem_singleton.2 rfl))

/-- Publishing an event leaves the books alone. -/
theorem orderly_fire {s : Session} {sent lost : List Entry} (h : Orderly s sent lost context)
    (event : Event) : Orderly (s.fire event) sent lost context :=
  h.drift (Session.drifts_change h.clean (show Change.Tame (.fire event) from ⟨trivial, rfl⟩))
    h.holds

theorem exact_fire {s : Session} {sent lost : List Entry} {l : Ledger}
    (h : Exact s sent context l) (ho : Orderly s sent lost context) (event : Event) :
    Exact (s.fire event) sent context l :=
  h.drift ho (Session.drifts_change ho.clean (show Change.Tame (.fire event) from ⟨trivial, rfl⟩))
    ho.holds

/-- The client hears a report. -/
theorem hear_ack (h : Holds d context) {e : Element} {n : Nat} {he : readAck? e = some (.ofNat n)}
    {rest : List Word} (hears : d.Hears (.ack e n he) rest) :
    Holds (d.hear (.ack e n he) rest) (context.acknowledge (.ofNat n)) := by
  obtain ⟨nonza, handled⟩ := Session.handle_ack he
  refine h.hears hears nonza (handled _) (h.orderly.acknowledge _) fun hkept => ?_
  obtain ⟨l, exact_, agrees⟩ := h.agrees hkept
  have ha := h.attached_of_downlink hears.next
  have hrest := h.not_any_isResumed hears.next
  have hlive : d.counted ++ d.uplink = l.stanzas := by
    refine agrees.live ha ?_
    rw [hears.next]
    exact hrest
  have hcounts := agrees.counts
  rw [hears.next] at hcounts
  obtain ⟨hlo, hle, hcounts⟩ := counts_hear rfl hcounts
  have hhi : n ≤ l.count := by
    rw [Ledger.count, ← hlive, List.length_append]
    exact Nat.le_trans hle (Nat.le_add_right ..)
  refine ⟨l.settle n hhi, exact_.acknowledge h.orderly hlo hhi UInt32.toNat_ofNat', hcounts,
    fun _ _ => hlive, fun _ hback => ?_, agrees.away⟩
  exact absurd (hrest.symm.trans hback) (by decide)

/-- The client hears that stream management was enabled. -/
theorem hear_enabled (h : Holds d context) {e : Element} {he : (Enabled.read? e).isSome = true}
    {rest : List Word} (hears : d.Hears (.enabled e he) rest) :
    ∃ context', Holds (d.hear (.enabled e he) rest) context' := by
  obtain ⟨nonza, enabled, handled⟩ := Session.handle_enabled he
  have hpending : context.status = .pending :=
    h.linked.fits (.enabled e he) (by rw [hears.next]; exact List.mem_cons_self ..)
  have orderly := h.orderly.modify (f := (·.enable enabled)) rfl
  refine ⟨context.enable enabled, h.hears hears nonza
    (fun tag => handled _ tag context h.orderly.holds hpending) (orderly_fire orderly _)
    fun hkept => ?_⟩
  obtain ⟨l, exact_, agrees⟩ := h.agrees hkept
  have hcounts := agrees.counts
  have hlive := agrees.live
  rw [hears.next] at hcounts hlive
  have enabled_ : Exact (d.client.session.modifyResumption (·.enable enabled)) d.stanzas
      (context.enable enabled) l := ⟨exact_.keeps.of_eq rfl rfl, exact_.stanzas, exact_.acked⟩
  refine ⟨l, exact_fire enabled_ orderly _, hcounts, hlive, fun _ hback => ?_, agrees.away⟩
  exact absurd ((h.not_any_isResumed hears.next).symm.trans hback) (by decide)

/-- **The client hears that the session was resumed.** -/
theorem hear_resumed (h : Holds d context) {e : Element} {n : Nat}
    {he : (Resumed.read? e).map (·.h) = some (.ofNat n)} {rest : List Word}
    (hears : d.Hears (.resumed e n he) rest) :
    Holds (d.hear (.resumed e n he) rest) (context.resumeAt (.ofNat n)) := by
  obtain ⟨nonza, previd, handled⟩ := Session.handle_resumed he
  obtain ⟨-, orderly⟩ := h.orderly.continueFrom hears.atRest.1 (.ofNat n)
  refine h.hears hears nonza (fun tag => handled _ tag context h.orderly.holds)
    (orderly_fire orderly _) fun hkept => ?_
  obtain ⟨l, exact_, agrees⟩ := h.agrees hkept
  have ha := h.attached_of_downlink hears.next
  have hcounts := agrees.counts
  have hback := agrees.back ha
  rw [hears.next] at hcounts hback
  obtain ⟨hlo, -, hcounts⟩ := counts_hear rfl hcounts
  obtain ⟨hup, hprefix, hequal⟩ := hback rfl
  -- nothing was counted since the peer resumed the session
  obtain rfl : n = d.counted.length := hequal n (List.mem_cons_self ..)
  have hstanzas := exact_.stanzas_eq hears.atRest.1
  have hhi : d.counted.length ≤ l.count := by
    rw [Ledger.count, hstanzas]
    exact hprefix.length_le
  obtain ⟨l', hstanzas', hacked', exact'⟩ := exact_.continueFrom h.orderly hears.atRest.1 hlo hhi
    UInt32.toNat_ofNat'
  refine ⟨l', exact_fire exact' orderly _, ?_, fun _ _ => ?_, fun _ hother => ?_,
    fun hother => absurd (ha.symm.trans hother) (by decide)⟩
  · rw [hacked']
    exact hcounts
  · show d.counted ++ d.uplink = l'.stanzas
    rw [hup, List.append_nil, hstanzas']
    exact List.prefix_iff_eq_take.1 hprefix
  · exact absurd ((h.not_any_isResumed hears.next).symm.trans hother) (by decide)

/-! ### Beginning -/

/-- Handing over an item makes no tokens. -/
theorem issued_deliver (c : Client) (item : Outgoing) :
    (c.deliver item).session.issued = c.session.issued := by
  have marked (s : Session) (entries : List Entry) (state : State) :
      (s.mark entries state).issued = s.issued := Board.length_setAll ..
  have delivers := c.delivers item
  generalize (c.deliver item).session = s' at delivers ⊢
  cases delivers with
  | restart => exact Board.length_setAll ..
  | close => rfl
  | closing => rfl
  | lost entry request state error _ =>
    rw [Session.failUnsent_eq]
    exact marked _ _ _
  | taken entry request _ =>
    have hawaited : ((c.session.mark [entry] .sent).awaitReply request).issued
        = c.session.issued := by
      rw [Session.awaitReply_eq]
      exact marked _ _ _
    unfold Session.countSent
    split
    · exact (marked _ _ _).trans hawaited
    · exact (marked _ _ _).trans hawaited

/-- What waits in the outbox was issued one after another, all along the moves of a
client. -/
theorem issued_moves {c c' : Client} {log : List Request} (fit : c.Fit)
    (h : Issued 0 c.session.issued c.session.unsent) (moves : Client.Moves c log c') :
    Issued 0 c'.session.issued c'.session.unsent := by
  induction moves with
  | refl => exact h
  | @deliver c' log item rest moves ho ih =>
    rw [issued_deliver, c'.unsent_deliver]
    refine ih.sublist ?_
    rw [Session.unsent, ho]
    exact (List.sublist_cons_self ..).filterMap _
  | @react c' log event rest moves ho he ih =>
    have hd := Session.drifts_react (s := (c'.withEvents rest).session)
      (fit.moves moves).clean c'.controller event
    obtain ⟨written, hwritten, hissued⟩ := hd.unsent
    show Issued 0 (c'.controller.react (c'.withEvents rest).session event).2.issued
      (c'.controller.react (c'.withEvents rest).session event).2.unsent
    rw [hwritten]
    exact ih.append hissued (Nat.zero_le _) hd.issued

/-- Nothing of a session was handed over yet. -/
theorem fresh {c : Client} {downlink : List Word} (underway : c.Underway)
    (ht : c.transport.isSome = true) (hs : c.session.resumption? = some context)
    (ho : context.outgoing = 0) (hu : context.unacked = [])
    (hissued : Issued 0 c.session.issued c.session.unsent)
    (hd : downlink = [] ∨ ∃ e he, downlink = [.enabled e he] ∧ context.status = .pending) :
    Holds { client := c, downlink } context := by
  have hwords : (∀ word ∈ downlink, word.Fits context.status) ∧ downlink.tail = []
      ∧ downlink.filterMap Word.count? = [] ∧ downlink.any Word.isResumed = false := by
    rcases hd with rfl | ⟨e, he, rfl, hpending⟩
    · exact ⟨List.forall_mem_nil _, rfl, rfl, rfl⟩
    · exact ⟨List.forall_mem_singleton.2 hpending, rfl, rfl, rfl⟩
  obtain ⟨hfits, htail, hcounts, hresumed⟩ := hwords
  have orderly : Orderly c.session [] [] context :=
    { clean := underway.fit.clean
      holds := hs
      room := by rw [hu]; exact Nat.zero_le _
      queue := by rw [hu]; exact hissued
      issued := .nil
      isStanza := List.forall_mem_nil _
      kept := by rw [hu]; exact List.forall_mem_nil _
      fresh := fun _ _ => .inr (List.forall_mem_nil _)
      missing := List.forall_mem_nil _
      gone := List.forall_mem_nil _ }
  have linked : Linked { client := c, downlink } context :=
    { underway
      again := fun _ _ hmem => absurd hmem List.not_mem_nil
      attached := fun _ => ht
      away := fun ha => Bool.noConfusion ha
      fits := hfits
      reports := by
        show ∀ word ∈ downlink.tail, _
        rw [htail]
        exact List.forall_mem_nil _ }
  have exact_ : Exact c.session [] context .empty :=
    { keeps := ⟨by rw [ho]; rfl, hu⟩
      stanzas := List.filter_eq_nil_iff.2 fun _ _ hmem => by simp at hmem
      acked := List.forall_mem_nil _ }
  have agrees : Agrees { client := c, downlink } .empty :=
    { counts := by
        show ((0 :: downlink.filterMap Word.count?) ++ [0]).Pairwise _
        rw [hcounts]
        decide
      live := fun _ _ => rfl
      back := fun _ hback => absurd (hresumed.symm.trans hback) (by decide)
      away := fun ha => Bool.noConfusion ha }
  exact ⟨orderly, linked, fun _ => ⟨.empty, exact_, agrees⟩⟩

/-- **A session begins in order.** -/
theorem begins (h : d.Begins) : ∃ context, Holds d context := by
  cases h with
  | @asked c₀ c log entry request rest op settled tame attaches moves ho is ht e he =>
    have discreet : op.Discreet := ⟨tame.mono fun _ h => h.1, attaches⟩
    have waiting : c.Underway := ⟨c₀, op, log, settled, discreet, moves⟩
    obtain ⟨transport, ht⟩ := Option.isSome_iff_exists.1 ht
    have hdeliver := Client.deliver_of_accepts (c := c.withOutbox rest) ht
      (waiting.fit.neverRefused transport ht) entry request
    -- the client came to rest before, so all that waits was written in this operation
    have hold : Issued 0 c.session.issued c.session.unsent := by
      refine issued_moves (settled.fit.prepare discreet) ?_ moves
      obtain ⟨written, hwritten, hissued⟩ := (Client.drifts_prepare settled.fit.clean tame).unsent
      rw [hwritten, show c₀.session.unsent = [] by rw [Session.unsent, settled.atRest.1]; rfl]
      exact ⟨hissued.sorted, fun entry hmem => ⟨Nat.zero_le _, (hissued.bounds entry hmem).2⟩⟩
    refine ⟨.start, fresh (waiting.deliver ho) (by rw [hdeliver]; rfl) ?_ rfl rfl ?_
      (.inr ⟨e, he, rfl, rfl⟩)⟩
    · rw [hdeliver]
      show (Session.countSent _ entry).resumption? = _
      rw [Session.resumption?_countSent, is, if_pos rfl]
    · rw [issued_deliver]
      refine hold.sublist ?_
      rw [c.unsent_deliver, Session.unsent, ho]
      exact (List.sublist_cons_self ..).filterMap _
  | @along c settled e enabled taken quiet ht =>
    have discreet : (Operation.receive e).Discreet :=
      ⟨fun _ _ => Change.discreet_of_isVerdict, fun transport h => by cases h⟩
    refine ⟨Context.start.enable enabled, fresh (settled.underway discreet) ht taken rfl rfl ?_
      (.inl rfl)⟩
    rw [show (c.prepare (.receive e)).session.unsent = [] by
      show (c.take e).outbox.filterMap _ = []
      rw [quiet]
      rfl]
    exact .nil

/-- **A turn preserves the invariant**, as long as the session lasts. -/
theorem turn (h : Holds d context) {d' : Dialogue} (turn : d.Turn d') (lasts : d'.Lasts) :
    ∃ context', Holds d' context' := by
  obtain ⟨context', hs⟩ := Option.isSome_iff_exists.1 lasts
  cases turn with
  | act op atRest tame hop => exact ⟨context', h.act atRest tame hop hs⟩
  | handOver ho hne => exact h.handOver ho hne
  | restart ho => exact ⟨context', h.restart ho hs⟩
  | react ho he => exact ⟨context', h.react ho he hs⟩
  | lose atRest => exact ⟨context', h.lose atRest hs⟩
  | connect transport atRest ht accepts => exact ⟨context', h.connect atRest ht accepts hs⟩
  | @hear word rest hears =>
    cases word with
    | enabled e he => exact h.hear_enabled hears
    | ack e n he => exact ⟨_, h.hear_ack hears⟩
    | resumed e n he => exact ⟨_, h.hear_resumed hears⟩
  | arrive hu => exact ⟨context, h.arrive hu⟩
  | arriveLate hl ha => exact ⟨context, h.arriveLate hl ha⟩
  | report e he ha => exact ⟨context, h.report e he ha⟩
  | resume e he ha ht => exact ⟨context, h.resume e he ha ht⟩

end Holds

/-- **The invariant holds throughout a run.** -/
theorem Dialogue.Run.holds {d : Dialogue} (run : d.Run) : ∃ context, Holds d context := by
  induction run with
  | begins h => exact Holds.begins h
  | turn _ turn lasts ih =>
    obtain ⟨context, h⟩ := ih
    exact h.turn turn lasts

/-! ## Restoring a session -/

/-- What is not among the first of distinct entries is among the others. -/
theorem filter_not_mem_take {entries : List Entry} (h : entries.Nodup) (n : Nat) :
    entries.filter (· ∉ entries.take n) = entries.drop n := by
  have hsplit := List.take_append_drop n entries
  generalize entries.take n = first at hsplit ⊢
  generalize entries.drop n = others at hsplit ⊢
  subst hsplit
  obtain ⟨-, -, hdisjoint⟩ := List.nodup_append.1 h
  rw [List.filter_append, List.filter_eq_nil_iff.2, List.filter_eq_self.2, List.nil_append]
  · exact fun entry hmem => by simpa using fun hfirst => hdisjoint entry hfirst entry hmem rfl
  · exact fun entry hmem => by simpa using hmem

/-- **What is to be handed over again is handed over**, in its order, when the client
empties its outbox. -/
theorem wire_flush {c : Client} (h : c.NeverRefused) (ht : c.transport.isSome = true)
    {entries : List Entry}
    (ho : c.session.outbox = entries.map fun entry => .element entry none) :
    c.flush.wire = c.wire ++ entries.map .element := by
  suffices hall : ∀ (entries : List Entry) (c : Client), c.NeverRefused →
      c.transport.isSome = true →
      ((entries.map fun entry => Outgoing.element entry none).foldl Client.deliver c).wire
        = c.wire ++ entries.map .element by
    show (c.session.outbox.foldl Client.deliver _).wire = _
    rw [ho]
    exact hall entries (c.withOutbox []) h ht
  -- the client varies, since each entry that is handed over leaves another one
  intro entries
  induction entries with
  | nil => exact fun c _ _ => (List.append_nil _).symm
  | cons entry rest ih =>
    intro c h ht
    obtain ⟨transport, htransport⟩ := Option.isSome_iff_exists.1 ht
    have hdeliver := Client.deliver_of_accepts htransport (h transport htransport) entry none
    rw [List.map_cons, List.foldl_cons, ih _ (h.deliver _) (by rw [hdeliver]; rfl), hdeliver,
      List.map_cons]
    show (c.wire ++ [.element entry]) ++ _ = _
    rw [List.append_assoc]
    rfl

namespace Dialogue

/-- **A session is restored**: what the transport gets next are the stanzas of the
session that the peer has not counted, each once and in their order, and those that it
has counted are confirmed. -/
structure Restored (d : Dialogue) : Prop where
  again : d.client.flush.wire
    = d.client.wire ++ (d.stanzas.filter (· ∉ d.counted)).map Frame.element
  acked : ∀ entry ∈ d.counted, d.client.state? entry.token = some .acked

/-- **Nothing was duplicated**: what the peer has counted are the first stanzas of the
session, and all of them are different. -/
structure Undoubled (d : Dialogue) : Prop where
  counted : d.counted <+: d.stanzas
  distinct : (d.stanzas.map (·.token)).Nodup

end Dialogue

namespace Holds

variable {d : Dialogue} {context : Context}

theorem distinct (h : Holds d context) : (d.stanzas.map (·.token)).Nodup :=
  h.orderly.issued.sorted.imp fun hlt => Nat.ne_of_lt hlt

theorem undoubled (h : Holds d context) (hkept : d.unkept = []) : d.Undoubled := by
  refine ⟨?_, h.distinct⟩
  obtain ⟨l, exact_, agrees⟩ := h.agrees hkept
  cases ha : d.attached with
  | false => exact (List.prefix_append ..).trans (agrees.away ha).2
  | true =>
    cases hback : d.downlink.any Word.isResumed with
    | true => exact (agrees.back ha hback).2.1
    | false =>
      rw [← exact_.stanzas, ← agrees.live ha hback, List.append_assoc]
      exact List.prefix_append ..

variable {e : Element} {n : Nat} {he : (Resumed.read? e).map (·.h) = some (.ofNat n)}
  {rest : List Word}

/-- What the client does when it hears that the session was resumed. -/
theorem hear_resumed_eq (h : Holds d context) (hears : d.Hears (.resumed e n he) rest) :
    (d.hear (.resumed e n he) rest).client.session.board
        = (d.client.session.continueFrom (.ofNat n)).board
      ∧ (d.hear (.resumed e n he) rest).client.flush.wire
        = d.client.wire ++ (context.unconfirmed (.ofNat n)).map Frame.element := by
  obtain ⟨nonza, previd, handled⟩ := Session.handle_resumed he
  have hsession := h.session_hear hears nonza fun tag => handled _ tag context h.orderly.holds
  refine ⟨by rw [hsession]; rfl, ?_⟩
  refine wire_flush (c := (d.hear (.resumed e n he) rest).client) h.linked.underway.fit.neverRefused
    (h.linked.attached (h.attached_of_downlink hears.next)) ?_
  rw [hsession]
  exact (h.orderly.continueFrom hears.atRest.1 _).1

/-- **With nothing forgone, a resumption restores the session.** -/
theorem restored_of_kept (h : Holds d context) (hears : d.Hears (.resumed e n he) rest)
    (hkept : d.unkept = []) : (d.hear (.resumed e n he) rest).Restored := by
  obtain ⟨hboard, hwire⟩ := h.hear_resumed_eq hears
  obtain ⟨l, exact_, agrees⟩ := h.agrees hkept
  have hcounts := agrees.counts
  have hback := agrees.back (h.attached_of_downlink hears.next)
  rw [hears.next] at hcounts hback
  obtain ⟨hlo, -, -⟩ := counts_hear rfl hcounts
  obtain ⟨-, hprefix, hequal⟩ := hback rfl
  have hn : n = d.counted.length := hequal n (List.mem_cons_self ..)
  have hcounted : d.counted = d.stanzas.take n := by
    rw [hn]
    exact List.prefix_iff_eq_take.1 hprefix
  have hhi : n ≤ l.count := by
    rw [Ledger.count, exact_.stanzas_eq hears.atRest.1, hn]
    exact hprefix.length_le
  obtain ⟨l', hstanzas, hacked, exact'⟩ := exact_.continueFrom h.orderly hears.atRest.1 hlo hhi
    UInt32.toNat_ofNat'
  -- what the ledger falls back to and what waits are all stanzas, and the first are `n`
  have hagain : context.unconfirmed (.ofNat n) = d.stanzas.drop n := by
    have hkept (entry : Entry) (hmem : entry ∈ context.unconfirmed (.ofNat n)) :
        entry ∈ d.stanzas := h.orderly.kept entry (List.mem_of_mem_drop hmem)
    have hsplit := exact'.stanzas
    rw [hstanzas, Session.unsent_of_outbox (h.orderly.continueFrom hears.atRest.1 _).1,
      List.filter_eq_self.2 fun entry hmem => decide_eq_true (hkept entry hmem)] at hsplit
    exact List.append_cancel_left (hsplit.trans (List.take_append_drop n d.stanzas).symm)
  constructor
  · rw [hwire, hagain]
    show _ = d.client.wire ++ (d.stanzas.filter (· ∉ d.counted)).map _
    rw [hcounted, filter_not_mem_take (List.Nodup.of_map _ h.distinct)]
  · intro entry hmem
    have hmem : entry ∈ d.counted := hmem
    show (d.hear (.resumed e n he) rest).client.session.board.state? entry.token = _
    rw [hboard]
    refine exact'.acked entry ?_
    rw [hacked, hstanzas, List.take_take, Nat.min_self, ← hcounted]
    exact hmem

/-- **A resumption that restores the session finds nothing forgone.** -/
theorem kept_of_restored (h : Holds d context) (hears : d.Hears (.resumed e n he) rest)
    (restored : (d.hear (.resumed e n he) rest).Restored) : d.unkept = [] := by
  obtain ⟨hboard, hwire⟩ := h.hear_resumed_eq hears
  obtain ⟨houtbox, orderly⟩ := h.orderly.continueFrom hears.atRest.1 (.ofNat n)
  have hagain : context.unconfirmed (.ofNat n) = d.stanzas.filter (· ∉ d.counted) := by
    have := List.append_cancel_left (hwire.symm.trans restored.again)
    exact (List.map_inj_right fun a b hab => by injection hab).1 this
  refine List.eq_nil_iff_forall_not_mem.2 fun entry hmem => ?_
  obtain ⟨hsent, hstate⟩ := orderly.missing entry hmem
  -- it is not confirmed, so it should have been handed over again, and it never is
  by_cases hcounted : entry ∈ d.counted
  · have := restored.acked entry hcounted
    rw [Client.state?, hboard] at this
    exact hstate this
  · refine orderly.gone entry hmem entry ?_ rfl
    rw [Session.unsent_of_outbox houtbox, hagain]
    exact List.mem_append_right _ (List.mem_filter.2 ⟨hsent, decide_eq_true hcounted⟩)

end Holds

/-- **When resuming restores the session.** In every run of a client and a peer that
counts truthfully, whatever is written, lost and confirmed, and in whatever order:
hearing that the session was resumed restores it if and only if every stanza of the
session was kept from when it was handed over until it was confirmed. As long as that
is so, nothing is duplicated at any time. -/
theorem restored_iff_of_run {d : Dialogue} (run : d.Run) :
    (d.unkept = [] → d.Undoubled)
      ∧ ∀ (e : Element) (n : Nat) (he : (Resumed.read? e).map (·.h) = some (.ofNat n))
          (rest : List Word), d.Hears (.resumed e n he) rest →
        ((d.hear (.resumed e n he) rest).Restored ↔ d.unkept = []) := by
  obtain ⟨context, h⟩ := run.holds
  exact ⟨h.undoubled, fun e n he rest hears =>
    ⟨h.kept_of_restored hears, h.restored_of_kept hears⟩⟩

/-! ## A rehearsal

A client that writes two messages, of which the peer gets one before the connection is
lost, and possibly a third one on the next connection before the session is resumed. -/

namespace Dialogue

/-- The next move of the client, if there is one that does not end the session. -/
def move? (d : Dialogue) : Option Dialogue :=
  match d.client.session.outbox, d.client.session.events with
  | .element entry request :: rest, _ =>
    if entry.stanza.is "enable" Namespace.streamManagement then none
    else some (d.handOver entry request rest)
  | .restart :: rest, _ => some { d with client := (d.client.withOutbox rest).deliver .restart }
  | .close :: _, _ => none
  | [], event :: rest => some { d with client := (d.client.withEvents rest).handleEvent event }
  | [], [] => none

theorem turn_of_move? {d d' : Dialogue} (h : d.move? = some d') : d.Turn d' := by
  unfold move? at h
  split at h
  · rename_i ho
    split at h
    · cases h
    · rename_i hne
      obtain rfl := Option.some.inj h
      exact .handOver ho (by simpa using hne)
  · rename_i ho
    obtain rfl := Option.some.inj h
    exact .restart ho
  · cases h
  · rename_i ho he
    obtain rfl := Option.some.inj h
    exact .react ho he
  · cases h

/-- What may happen in the rehearsal. -/
inductive Cue where
  /-- The client writes an element. -/
  | write (element : Element)
  /-- The connection is lost. -/
  | lose
  /-- There is a new connection. -/
  | connect
  /-- The client hears a word. -/
  | hear
  /-- A stanza arrives. -/
  | arrive
  /-- The peer resumes the session. -/
  | resume (element : Element)
  /-- The client moves. -/
  | move

/-- Whether the client is at rest. -/
def isQuiet (d : Dialogue) : Bool :=
  d.client.session.outbox.isEmpty && d.client.session.events.isEmpty

theorem atRest_of_isQuiet {d : Dialogue} (h : d.isQuiet = true) : d.client.AtRest := by
  obtain ⟨ho, he⟩ := Bool.and_eq_true_iff.1 h
  exact ⟨List.isEmpty_iff.1 ho, List.isEmpty_iff.1 he⟩

/-- Whether the module for stream management handles an element alone. -/
def entrusts (d : Dialogue) (e : Element) : Bool :=
  (d.client.modules.targets e).map (fun slot => (slot.id, slot.occupant.isSome))
    = [(.streamManagement, true)]

theorem entrusts_iff {d : Dialogue} {e : Element} :
    d.entrusts e = true ↔ d.client.modules.Entrusts .streamManagement e :=
  decide_eq_true_iff

/-- What a cue leads to, if it is possible. -/
def cue? (d : Dialogue) : Cue → Option Dialogue
  | .write element =>
    if d.isQuiet then some { d with client := d.client.prepare (.write element) } else none
  | .lose => if d.isQuiet then some d.lose else none
  | .connect =>
    match d.client.transport with
    | none => if d.isQuiet then some { d with client := d.client.prepare (.connected {}) } else none
    | some _ => none
  | .hear =>
    match d.downlink with
    | word :: rest => if d.isQuiet ∧ d.entrusts word.element then some (d.hear word rest) else none
    | [] => none
  | .arrive =>
    match d.uplink with
    | entry :: rest => some (d.arrive entry rest)
    | [] => none
  | .resume e =>
    if h : (Resumed.read? e).map (·.h) = some (.ofNat d.counted.length)
        ∧ d.attached = false ∧ d.client.transport.isSome = true then
      some { d with
        late := []
        downlink := d.downlink ++ [.resumed e d.counted.length h.1]
        attached := true }
    else none
  | .move => d.move?

theorem turn_of_cue? {d d' : Dialogue} {cue : Cue} (h : d.cue? cue = some d') : d.Turn d' := by
  cases cue with
  | write element =>
    obtain ⟨hquiet, heq⟩ := Option.ite_none_right_eq_some.1 h
    obtain rfl := Option.some.inj heq
    exact .act (.write element) (atRest_of_isQuiet hquiet) ⟨trivial, rfl⟩ rfl
  | lose =>
    obtain ⟨hquiet, heq⟩ := Option.ite_none_right_eq_some.1 h
    obtain rfl := Option.some.inj heq
    exact .lose (atRest_of_isQuiet hquiet)
  | connect =>
    unfold cue? at h
    dsimp only at h
    split at h
    · rename_i ht
      obtain ⟨hquiet, heq⟩ := Option.ite_none_right_eq_some.1 h
      obtain rfl := Option.some.inj heq
      exact .connect {} (atRest_of_isQuiet hquiet) ht fun _ => rfl
    · cases h
  | hear =>
    unfold cue? at h
    dsimp only at h
    split at h
    · rename_i hd
      obtain ⟨⟨hquiet, hentrusts⟩, heq⟩ := Option.ite_none_right_eq_some.1 h
      obtain rfl := Option.some.inj heq
      exact .hear ⟨atRest_of_isQuiet hquiet, hd, entrusts_iff.1 hentrusts⟩
    · cases h
  | arrive =>
    unfold cue? at h
    dsimp only at h
    split at h
    · rename_i hu
      obtain rfl := Option.some.inj h
      exact .arrive hu
    · cases h
  | resume e =>
    unfold cue? at h
    dsimp only at h
    split at h
    · rename_i hh
      obtain rfl := Option.some.inj h
      exact .resume e hh.1 hh.2.1 hh.2.2
    · cases h
  | move => exact turn_of_move? h

/-- What a list of cues leads to, if all are possible and the session lasts. -/
def play? (d : Dialogue) : List Cue → Option Dialogue
  | [] => some d
  | cue :: rest =>
    match d.cue? cue with
    | some d' => if d'.client.session.resumption?.isSome then d'.play? rest else none
    | none => none

theorem Run.play? {d d' : Dialogue} (run : d.Run) {cues : List Cue} (h : d.play? cues = some d') :
    d'.Run := by
  induction cues generalizing d with
  | nil => exact Option.some.inj h ▸ run
  | cons cue rest ih =>
    unfold Dialogue.play? at h
    split at h
    · rename_i hcue
      obtain ⟨lasts, hrest⟩ := Option.ite_none_right_eq_some.1 h
      exact ih (run.turn (turn_of_cue? hcue) lasts) hrest
    · cases h

namespace Rehearsal

/-- A client with the built-in modules, on its first connection. -/
def client : Client :=
  [Operation.install (ModuleId.builtIn.map (Descriptor.default [])), .connected {}].foldl
    Client.operate
    (Client.blank { jid := ⟨some "juliet", "capulet.lit", none⟩, userAgentId := "" } [])

theorem settled_client : client.Settled := by
  refine ⟨_, _, _, fun op hmem => ?_, rfl⟩
  rcases List.mem_cons.1 hmem with rfl | hmem
  · exact ⟨trivial, fun _ h => by cases h⟩
  · obtain rfl := List.mem_singleton.1 hmem
    refine ⟨fun _ _ => trivial, fun transport h => ?_⟩
    obtain rfl := Operation.connected.inj h
    exact fun _ => rfl

/-- The server enables stream management. -/
def enables : Element where
  name := "enabled"
  ns := Namespace.streamManagement
  attributes := [("id", "orchard"), ("resume", "true")]

/-- The server resumes the session, of which it has counted one stanza. -/
def resumes : Element where
  name := "resumed"
  ns := Namespace.streamManagement
  attributes := [("h", "1"), ("previd", "orchard")]

/-- A message of the application. -/
def message (line : String) : Element where
  name := "message"
  ns := Namespace.client
  content := Element.nodes [.ofText "body" Namespace.client line]

/-- The session after the request to enable stream management was handed over. -/
def opening : Dialogue where
  client := (((client.prepare (.write (enable none))).withOutbox []).deliver
    (.element ⟨enable none, 0⟩ none))
  downlink := [.enabled enables (by decide)]

theorem run_opening : opening.Run := by
  refine .begins (.asked (.write (enable none)) settled_client ⟨trivial, rfl⟩
    (fun _ h => by cases h) .refl ?_ (by decide) (by decide +kernel) enables (by decide))
  have hissued : client.session.board.states.length = 0 := by decide +kernel
  show client.session.outbox
    ++ [.element ⟨enable none, client.session.board.states.length⟩ none] = _
  rw [settled_client.atRest.1, hissued]
  rfl

/-- Two messages are written, one arrives, and there is another connection. -/
def scene : List Cue :=
  [.hear, .move, .write (message "He jests"), .move, .write (message "at scars"), .move, .arrive,
    .lose, .move, .connect, .move]

/-- Whether the client is about to hear that the session was resumed. -/
def isReady (d : Dialogue) : Bool :=
  d.isQuiet && d.downlink.head?.any fun word => word.isResumed && d.entrusts word.element

theorem exists_hears {d : Dialogue} (h : isReady d = true) :
    ∃ e n he rest, d.Hears (.resumed e n he) rest := by
  obtain ⟨hquiet, hhead⟩ := Bool.and_eq_true_iff.1 h
  cases hd : d.downlink with
  | nil =>
    rw [hd] at hhead
    cases hhead
  | cons word rest =>
    rw [hd] at hhead
    obtain ⟨hresumed, hentrusts⟩ := Bool.and_eq_true_iff.1 hhead
    cases word with
    | resumed e n he =>
      exact ⟨e, n, he, rest, atRest_of_isQuiet hquiet, hd, entrusts_iff.1 hentrusts⟩
    | _ => cases hresumed

/-- Without a third message the peer resumes the session and nothing was forgone. -/
theorem exists_kept : ∃ d : Dialogue, d.Run ∧ isReady d = true ∧ d.unkept = []
    ∧ d.stanzas.map (·.token) = [1, 2] ∧ d.counted.map (·.token) = [1] := by
  have hplay : ((opening.play? (scene ++ [.resume resumes])).map fun d =>
      (isReady d, d.unkept, d.stanzas.map (·.token), d.counted.map (·.token)))
        = some (true, [], [1, 2], [1]) := by
    decide +kernel
  obtain ⟨d, hd, heq⟩ := Option.map_eq_some_iff.1 hplay
  simp only [Prod.mk.injEq] at heq
  exact ⟨d, run_opening.play? hd, heq⟩

/-- A third message on the next connection is forgone. -/
theorem exists_unkept : ∃ d : Dialogue, d.Run ∧ isReady d = true
    ∧ d.unkept.map (·.token) = [3] := by
  have hplay : ((opening.play? (scene ++ [.write (message "a wound"), .move, .resume resumes])).map
      fun d => (isReady d, d.unkept.map (·.token))) = some (true, [3]) := by
    decide +kernel
  obtain ⟨d, hd, heq⟩ := Option.map_eq_some_iff.1 hplay
  exact ⟨d, run_opening.play? hd, Prod.mk.inj heq⟩

end Rehearsal

end Dialogue

open Dialogue.Rehearsal in
/-- In the rehearsal the session of two messages is restored. -/
theorem restored_iff_of_run_rehearsal :
    ∃ (d : Dialogue) (e : Element) (n : Nat)
      (he : (Resumed.read? e).map (·.h) = some (.ofNat n)) (rest : List Word),
      d.Run ∧ d.Hears (.resumed e n he) rest ∧ d.stanzas.map (·.token) = [1, 2]
        ∧ d.counted.map (·.token) = [1] ∧ d.Undoubled
        ∧ (d.hear (.resumed e n he) rest).Restored := by
  obtain ⟨d, run, hready, hkept, hstanzas, hcounted⟩ := exists_kept
  obtain ⟨e, n, he, rest, hears⟩ := exists_hears hready
  obtain ⟨hundoubled, hrestored⟩ := restored_iff_of_run run
  exact ⟨d, e, n, he, rest, run, hears, hstanzas, hcounted, hundoubled hkept,
    (hrestored e n he rest hears).2 hkept⟩

open Dialogue.Rehearsal in
/-- **Resuming does not always restore the session.** -/
theorem not_forall_restored :
    ¬ ∀ (d : Dialogue) (e : Element) (n : Nat)
        (he : (Resumed.read? e).map (·.h) = some (.ofNat n)) (rest : List Word),
        d.Run → d.Hears (.resumed e n he) rest → (d.hear (.resumed e n he) rest).Restored := by
  intro h
  obtain ⟨d, run, hready, hunkept⟩ := exists_unkept
  obtain ⟨e, n, he, rest, hears⟩ := exists_hears hready
  obtain ⟨context, holds⟩ := run.holds
  rw [holds.kept_of_restored hears (h d e n he rest run hears)] at hunkept
  cases hunkept

end Resumption

end Xmpp
