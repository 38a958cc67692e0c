import Xmpp.Proofs.Client.Reach
import Xmpp.Proofs.Resumption.Ledger

/-!
# A session over many connections

What resuming a session is good for shows only on both sides at once: the stanzas
that were handed over on all its connections, those the peer has counted, and those
that are handed over again. A `Dialogue` is a client together with a peer that counts
truthfully and with everything that is on its way between the two, in both directions
and from connections that are gone. Its turns are those of the client, one move at a
time, the loss of a connection and the arrival of a new one, and those of the peer, in
any order.

## Stanzas that are not kept

Resuming relies on the queue of the client to hold whatever was handed over and not
confirmed. That is so for the stanzas that are handed over while the session is live. A
stanza that is handed over on a new connection before the session was resumed is
counted and not kept, and the oldest stanza of a full queue is given up; the dialogue
remembers both (`Dialogue.unkept`). One such stanza spoils every resumption from then
on, and nothing else does (`Run.restored_iff`).
-/

namespace Xmpp.Resumption

open Delivery

/-! ## The two sides -/

/-- **What the peer says** about a session, with the number it had counted up to when
it said so. -/
inductive Word where
  /-- Stream management was enabled. -/
  | enabled (e : Element) (h : (Enabled.read? e).isSome = true)
  /-- So many stanzas were counted. -/
  | ack (e : Element) (count : Nat) (h : readAck? e = some (.ofNat count))
  /-- The session was resumed. -/
  | resumed (e : Element) (count : Nat)
      (h : (Resumed.read? e).map (·.h) = some (.ofNat count))

namespace Word

/-- The element that says it. -/
def element : Word → Element
  | .enabled e _ | .ack e _ _ | .resumed e _ _ => e

/-- The number it tells, if it does. -/
def count? : Word → Option Nat
  | .enabled _ _ => none
  | .ack _ count _ | .resumed _ count _ => some count

/-- Whether it says that the session was resumed. -/
def isResumed : Word → Bool
  | .resumed _ _ _ => true
  | .enabled _ _ | .ack _ _ _ => false

/-- Whether it is no answer to a question of the client. -/
def isReport : Word → Bool
  | .ack _ _ _ => true
  | .enabled _ _ | .resumed _ _ _ => false

/-- The phase of the session in which it is heard. -/
def Fits (status : Status) : Word → Prop
  | .enabled _ _ => status = .pending
  | .resumed _ _ _ => status = .inactive
  | .ack _ _ _ => True

end Word

/-- What a session will never send again once an entry was handed over: the entry
itself if it is counted without being kept, or what a full queue gives up for it. -/
def Context.forgoes (c : Context) (entry : Entry) : List Entry :=
  if entry.stanza.isStanza ∧ c.status = .inactive then [entry] else c.evicted entry

/-- The stanzas of a session once another one was handed over, which may have been one
of them already. -/
def noted (sent : List Entry) (entry : Entry) : List Entry :=
  if entry ∈ sent then sent else sent ++ [entry]

/-- **A client and its peer** in the course of a session. -/
structure Dialogue where
  /-- The client. -/
  client : Client
  /-- The stanzas of the session, in the order in which they were handed over for the
  first time. -/
  stanzas : List Entry := []
  /-- Those of them that are neither confirmed nor kept. -/
  unkept : List Entry := []
  /-- The stanzas on their way to the peer. -/
  uplink : List Entry := []
  /-- The stanzas that are still on their way over the connection the session was
  lost with. -/
  late : List Entry := []
  /-- What the peer said and the client has not heard. -/
  downlink : List Word := []
  /-- The stanzas the peer has counted. -/
  counted : List Entry := []
  /-- Whether the connection is one of the session, to the peer. -/
  attached : Bool := true

namespace Dialogue

/-- The stanzas that are about to be handed over again. -/
def again (d : Dialogue) : List Entry :=
  d.client.session.unsent.filter (· ∈ d.stanzas)

/-- Whether the session is still there. -/
def Lasts (d : Dialogue) : Prop :=
  d.client.session.resumption?.isSome = true

/-- **An element is handed over**, and is on its way if there is a transport and it is
a stanza. -/
def handOver (d : Dialogue) (entry : Entry) (request : Option Request) (rest : List Outgoing) :
    Dialogue :=
  let client := (d.client.withOutbox rest).deliver (.element entry request)
  if d.client.transport.isSome ∧ entry.stanza.isStanza then
    { d with
      client
      stanzas := noted d.stanzas entry
      unkept := d.unkept ++ (d.client.session.resumption?.map (·.forgoes entry)).getD []
      uplink := d.uplink ++ [entry] }
  else { d with client }

/-- **The connection is lost**, and with it what the peer said. What is on its way to
the peer may still arrive. -/
def lose (d : Dialogue) : Dialogue :=
  { d with
    client := d.client.prepare .lost
    late := if d.attached then d.uplink else d.late
    uplink := []
    downlink := []
    attached := false }

/-- **The client hears** what the peer said. -/
def hear (d : Dialogue) (word : Word) (rest : List Word) : Dialogue :=
  { d with client := d.client.prepare (.receive word.element), downlink := rest }

/-- **A stanza arrives**, and is counted if the connection is one of the session. -/
def arrive (d : Dialogue) (entry : Entry) (rest : List Entry) : Dialogue :=
  { d with
    uplink := rest
    counted := if d.attached then d.counted ++ [entry] else d.counted }

/-- A stanza arrives over the connection the session was lost with. -/
def arriveLate (d : Dialogue) (entry : Entry) (rest : List Entry) : Dialogue :=
  { d with late := rest, counted := d.counted ++ [entry] }

/-- Whether the client hears a word that the peer said: it is at rest, and leaves what
is said about stream management to the module of this name. -/
structure Hears (d : Dialogue) (word : Word) (rest : List Word) : Prop where
  atRest : d.client.AtRest
  next : d.downlink = word :: rest
  entrusted : d.client.modules.Entrusts .streamManagement word.element

/-- **The beginning of a session**, on a client that settled before. -/
inductive Begins : Dialogue → Prop
  /-- Stream management is asked for: the request to enable it is handed over, and the
  peer, which counts from there on, says that it is enabled. -/
  | asked {c₀ c : Client} {log : List Request} {entry : Entry} {request : Option Request}
      {rest : List Outgoing} (op : Operation) (settled : c₀.Settled)
      (tame : op.Within Change.Tame) (attaches : ∀ t, op = .connected t → t.Accepts)
      (moves : Client.Moves (c₀.prepare op) log c)
      (ho : c.session.outbox = .element entry request :: rest)
      (is : entry.stanza.is "enable" Namespace.streamManagement = true)
      (ht : c.transport.isSome = true) (e : Element) (he : (Enabled.read? e).isSome = true) :
      Begins {
        client := (c.withOutbox rest).deliver (.element entry request)
        downlink := [.enabled e he] }
  /-- Stream management was enabled along with the login: the client has just heard
  so. -/
  | along {c : Client} (settled : c.Settled) (e : Element) (enabled : Enabled)
      (taken : (c.take e).resumption? = some (Context.start.enable enabled))
      (quiet : (c.take e).outbox = []) (ht : c.transport.isSome = true) :
      Begins { client := c.prepare (.receive e) }

/-- **A turn of a dialogue.** What the client does by itself, on behalf of its owner or
of the peer where it does not speak about stream management, is an operation and the
moves that follow it. The connection goes away, and a new one comes, when the client is
at rest. The stream is neither closed nor stream management asked for anew, since both
end the session. -/
inductive Turn (d : Dialogue) : Dialogue → Prop
  /-- The client begins with an operation. -/
  | act (op : Operation) (atRest : d.client.AtRest) (tame : op.Within Change.Tame)
      (h : op.isConnection = false) : Turn d { d with client := d.client.prepare op }
  /-- The client hands over an element. -/
  | handOver {entry : Entry} {request : Option Request} {rest : List Outgoing}
      (ho : d.client.session.outbox = .element entry request :: rest)
      (h : entry.stanza.is "enable" Namespace.streamManagement = false) :
      Turn d (d.handOver entry request rest)
  /-- The client restarts the stream. -/
  | restart {rest : List Outgoing} (ho : d.client.session.outbox = .restart :: rest) :
      Turn d { d with client := (d.client.withOutbox rest).deliver .restart }
  /-- The controller of the client reacts to an event. -/
  | react {event : Event} {rest : List Event} (ho : d.client.session.outbox = [])
      (he : d.client.session.events = event :: rest) :
      Turn d { d with client := (d.client.withEvents rest).handleEvent event }
  /-- The connection is lost. -/
  | lose (atRest : d.client.AtRest) : Turn d d.lose
  /-- There is a new connection. -/
  | connect (transport : Transport) (atRest : d.client.AtRest)
      (ht : d.client.transport = none) (accepts : transport.Accepts) :
      Turn d { d with client := d.client.prepare (.connected transport) }
  /-- The client hears what the peer said. -/
  | hear {word : Word} {rest : List Word} (hears : d.Hears word rest) :
      Turn d (d.hear word rest)
  /-- A stanza arrives. -/
  | arrive {entry : Entry} {rest : List Entry} (hu : d.uplink = entry :: rest) :
      Turn d (d.arrive entry rest)
  /-- A stanza arrives late, before the peer has resumed the session. -/
  | arriveLate {entry : Entry} {rest : List Entry} (hl : d.late = entry :: rest)
      (ha : d.attached = false) : Turn d (d.arriveLate entry rest)
  /-- The peer reports how much it has counted. -/
  | report (e : Element) (h : readAck? e = some (.ofNat d.counted.length))
      (ha : d.attached = true) :
      Turn d { d with downlink := d.downlink ++ [.ack e d.counted.length h] }
  /-- The peer resumes the session on a new connection. -/
  | resume (e : Element) (h : (Resumed.read? e).map (·.h) = some (.ofNat d.counted.length))
      (ha : d.attached = false) (ht : d.client.transport.isSome = true) :
      Turn d { d with
        late := []
        downlink := d.downlink ++ [.resumed e d.counted.length h]
        attached := true }

/-- **Runs of a dialogue**, for as long as the session lasts. -/
inductive Run : Dialogue → Prop
  /-- The session begins. -/
  | begins {d : Dialogue} (h : Begins d) : Run d
  /-- Another turn. -/
  | turn {d d' : Dialogue} (run : Run d) (turn : d.Turn d') (lasts : d'.Lasts) : Run d'

end Dialogue

/-! ## Books on the stanzas of a session -/

theorem mem_noted {sent : List Entry} {entry other : Entry} :
    other ∈ noted sent entry ↔ other ∈ sent ∨ other = entry := by
  unfold noted
  split
  · rename_i hmem
    exact ⟨.inl, fun h => h.elim id fun heq => heq ▸ hmem⟩
  · rw [List.mem_append, List.mem_singleton]

/-- **A note moves a stanza over** from those that wait to be handed over again to those
that were, or is the first of it. -/
theorem append_filter_noted {sent stanzas rest : List Entry} {entry : Entry}
    (hold : stanzas ++ (entry :: rest).filter (· ∈ sent) = sent)
    (hnew : entry ∉ sent → ∀ other ∈ rest, other ∉ sent) (hrest : entry ∉ rest) :
    stanzas ++ [entry] ++ rest.filter (· ∈ noted sent entry) = noted sent entry := by
  by_cases hsent : entry ∈ sent
  · rw [noted, if_pos hsent, List.append_assoc, List.singleton_append]
    rwa [List.filter_cons_of_pos (by simpa using hsent)] at hold
  · have hnone : rest.filter (· ∈ sent) = [] :=
      List.filter_eq_nil_iff.2 fun other hmem => by simpa using hnew hsent other hmem
    have hnoted : rest.filter (· ∈ noted sent entry) = [] := by
      refine List.filter_eq_nil_iff.2 fun other hmem hother => ?_
      rcases mem_noted.1 (of_decide_eq_true hother) with hother | rfl
      · exact hnew hsent other hmem hother
      · exact hrest hmem
    rw [List.filter_cons_of_neg (by simpa using hsent), hnone, List.append_nil] at hold
    rw [hnoted, List.append_nil, hold, noted, if_neg hsent]

namespace Context

variable (c : Context) {entry : Entry}

/-- What is given up comes first in the queue. -/
theorem evicted_append_drop (entry : Entry) :
    c.evicted entry ++ c.unacked.drop (c.evicted entry).length = c.unacked := by
  unfold evicted
  split
  · rename_i h
    have hpos : 1 ≤ c.unacked.length := Nat.le_trans (by decide) h.2.2
    rw [List.length_take, Nat.min_eq_left hpos, List.take_append_drop]
  · rfl

/-- **A stanza that is handed over is kept or not**, and so is the rest of the
queue. -/
theorem forgoes_append_perm (hst : entry.stanza.isStanza = true) :
    (c.forgoes entry ++ (c.recordSent entry).unacked).Perm (c.unacked ++ [entry]) := by
  unfold forgoes recordSent
  rw [if_pos hst]
  by_cases hs : c.status = .inactive
  · rw [if_pos ⟨hst, hs⟩]
    simp only [if_pos hs]
    exact List.perm_append_comm
  · rw [if_neg (fun h => hs h.2)]
    simp only [if_neg hs]
    rw [← List.append_assoc, c.evicted_append_drop]

/-- The queue does not outgrow its capacity. -/
theorem room_recordSent (h : c.unacked.length ≤ capacity) (entry : Entry) :
    (c.recordSent entry).unacked.length ≤ capacity := by
  unfold recordSent
  split
  · rename_i hst
    dsimp only
    split
    · exact h
    · rename_i hs
      rw [List.length_append, List.length_drop, List.length_singleton]
      unfold evicted
      split
      · rename_i hfull
        have hpos : 1 ≤ c.unacked.length := Nat.le_trans (by decide) hfull.2.2
        rw [List.length_take, Nat.min_eq_left hpos, Nat.sub_add_cancel hpos]
        exact h
      · rename_i hfull
        have hroom : ¬ capacity ≤ c.unacked.length := fun hle => hfull ⟨hst, hs, hle⟩
        rw [List.length_nil]
        omega
  · exact h

/-- What is kept was kept before, or was handed over just now. -/
theorem sublist_recordSent (hst : entry.stanza.isStanza = true) :
    (c.recordSent entry).unacked.Sublist (c.unacked ++ [entry]) := by
  unfold recordSent
  rw [if_pos hst]
  dsimp only
  split
  · exact List.sublist_append_left ..
  · exact (List.drop_sublist ..).append_right _

theorem evicted_subset (entry : Entry) : ∀ other ∈ c.evicted entry, other ∈ c.unacked := by
  intro other hmem
  rw [← c.evicted_append_drop entry]
  exact List.mem_append_left _ hmem

/-- What is forgone was handed over just now, or was given up. -/
theorem mem_forgoes {entry other : Entry} (hmem : other ∈ c.forgoes entry) :
    other = entry ∧ c.evicted entry = [] ∨ other ∈ c.evicted entry := by
  unfold forgoes at hmem
  split at hmem
  · rename_i h
    refine .inl ⟨List.mem_singleton.1 hmem, ?_⟩
    unfold evicted
    rw [if_neg fun hfull => hfull.2.1 h.2]
  · exact .inr hmem

/-- A stanza for which nothing is forgone is kept while the session is asked for or live,
and nothing is given up for it. -/
theorem of_forgoes_eq_nil (hst : entry.stanza.isStanza = true) (h : c.forgoes entry = []) :
    c.status ≠ .inactive ∧ c.evicted entry = [] := by
  unfold forgoes at h
  split at h
  · cases h
  · rename_i hnot
    exact ⟨fun hs => hnot ⟨hst, hs⟩, h⟩

end Context

/-- **A session in order**: of the stanzas that were handed over, those that are kept
and those that wait to be handed over again come before what is new, and those that are
neither kept nor confirmed never come back. -/
structure Orderly (s : Session) (sent lost : List Entry) (context : Context) : Prop where
  clean : s.properties.Clean
  holds : s.resumption? = some context
  room : context.unacked.length ≤ Context.capacity
  /-- What is kept was issued before what waits. -/
  queue : Issued 0 s.issued (context.unacked ++ s.unsent)
  issued : Issued 0 s.issued sent
  isStanza : ∀ entry ∈ sent, entry.stanza.isStanza = true
  kept : ∀ entry ∈ context.unacked, entry ∈ sent
  fresh : ∀ entry ∈ s.unsent, entry ∈ sent ∨ ∀ other ∈ sent, other.token < entry.token
  missing : ∀ entry ∈ lost, entry ∈ sent ∧ s.board.state? entry.token ≠ some .acked
  gone : ∀ entry ∈ lost, ∀ other ∈ context.unacked ++ s.unsent, other.token ≠ entry.token

/-- **A session that keeps its ledger**: the ledger and what waits to be handed over
again are the stanzas of the session, and what is confirmed by the ledger is confirmed
on the board. -/
structure Exact (s : Session) (sent : List Entry) (context : Context) (l : Ledger) : Prop where
  keeps : Keeps context l 0
  stanzas : l.stanzas ++ s.unsent.filter (· ∈ sent) = sent
  acked : ∀ entry ∈ l.stanzas.take l.acked, s.board.state? entry.token = some .acked

namespace Orderly

variable {s s' : Session} {sent lost : List Entry} {context context' : Context}

/-- The context of a session that drifts drifts along. -/
theorem context_drifts (h : Orderly s sent lost context) (hd : s.Drifts s')
    (hs : s'.resumption? = some context') : context.Drifts context' := by
  obtain ⟨old, hold, drifts⟩ := hd.context context' hs
  obtain rfl : context = old := Option.some.inj (h.holds.symm.trans hold)
  exact drifts

/-- What was handed over was issued before what is issued next. -/
theorem lt_of_issued (h : Orderly s sent lost context) {written : List Entry} {hi : Nat}
    (hissued : Issued s.issued hi written) {entry other : Entry} (hmem : entry ∈ sent)
    (hother : other ∈ written) : entry.token < other.token :=
  Nat.lt_of_lt_of_le (h.issued.bounds entry hmem).2 (hissued.bounds other hother).1

/-- A stanza of the session that waits did so before the session drifted. -/
theorem mem_unsent (h : Orderly s sent lost context) (hd : s.Drifts s') {entry : Entry}
    (hmem : entry ∈ s'.unsent) (hsent : entry ∈ sent) : entry ∈ s.unsent := by
  obtain ⟨written, hwritten, hissued⟩ := hd.unsent
  rw [hwritten] at hmem
  refine (List.mem_append.1 hmem).resolve_right fun hmem => ?_
  exact Nat.lt_irrefl _ (h.lt_of_issued hissued hsent hmem)

/-- What drifts stays in order. -/
theorem drift (h : Orderly s sent lost context) (hd : s.Drifts s')
    (hs : s'.resumption? = some context') : Orderly s' sent lost context' := by
  have drifts := h.context_drifts hd hs
  obtain ⟨written, hwritten, hissued⟩ := hd.unsent
  have hstates (entry : Entry) (hmem : entry ∈ sent) :
      s'.board.state? entry.token = s.board.state? entry.token :=
    hd.states (by rw [hs]; rfl) _ (h.issued.bounds entry hmem).2
  refine ⟨hd.clean, hs, by rw [drifts.unacked]; exact h.room, ?_, h.issued.widen hd.issued,
    h.isStanza, by rw [drifts.unacked]; exact h.kept, fun entry hmem => ?_,
    fun entry hmem => ?_, fun entry hmem other hother => ?_⟩
  · rw [drifts.unacked, hwritten, ← List.append_assoc]
    exact h.queue.append hissued (Nat.zero_le _) hd.issued
  · rw [hwritten] at hmem
    rcases List.mem_append.1 hmem with hmem | hmem
    · exact h.fresh entry hmem
    · exact .inr fun other hother => h.lt_of_issued hissued hother hmem
  · obtain ⟨hsent, hstate⟩ := h.missing entry hmem
    exact ⟨hsent, by rw [hstates entry hsent]; exact hstate⟩
  · rw [drifts.unacked, hwritten, ← List.append_assoc] at hother
    rcases List.mem_append.1 hother with hother | hother
    · exact h.gone entry hmem other hother
    · exact Nat.ne_of_gt (h.lt_of_issued hissued (h.missing entry hmem).1 hother)

/-- What comes first in the outbox leaves it, and nothing else happens to the rest. -/
theorem pop (h : Orderly s sent lost context) {entry : Entry} {rest : List Entry} {state : State}
    (hunsent : s.unsent = entry :: rest) (hclean : s'.properties.Clean)
    (hs : s'.resumption? = some context) (ho : s'.unsent = rest)
    (hb : s'.board = s.board.set entry.token state) : Orderly s' sent lost context := by
  have hissued : s'.issued = s.issued := by
    rw [Session.issued, hb]
    exact List.length_set
  have hsub : (context.unacked ++ s'.unsent).Sublist (context.unacked ++ s.unsent) := by
    rw [ho, hunsent]
    exact (List.sublist_cons_self ..).append_left _
  refine ⟨hclean, hs, h.room, hissued ▸ h.queue.sublist hsub, hissued ▸ h.issued, h.isStanza,
    h.kept, fun other hmem => ?_, fun other hmem => ⟨(h.missing other hmem).1, ?_⟩,
    fun other hmem third hthird => h.gone other hmem third (hsub.subset hthird)⟩
  · refine h.fresh other ?_
    rw [hunsent]
    exact List.mem_cons_of_mem _ (ho ▸ hmem)
  · have hne : entry.token ≠ other.token :=
      h.gone other hmem entry (List.mem_append_right _ (hunsent ▸ List.mem_cons_self ..))
    rw [hb, Board.state?_set, if_neg hne]
    exact (h.missing other hmem).2

/-- What comes first in the outbox was issued before the rest of it. -/
theorem later (h : Orderly s sent lost context) {entry : Entry} {rest : List Entry}
    (hunsent : s.unsent = entry :: rest) : ∀ other ∈ rest, entry.token < other.token := by
  have hqueue := h.queue.sublist (List.sublist_append_right ..)
  rw [hunsent] at hqueue
  exact fun other => hqueue.lt_of_append (a := [entry]) (List.mem_singleton.2 rfl)

/-- An entry that is no stanza of the session is newer than all of them. -/
theorem newer (h : Orderly s sent lost context) {entry : Entry} {rest : List Entry}
    (hunsent : s.unsent = entry :: rest) (hnew : entry ∉ sent) :
    (∀ other ∈ sent, other.token < entry.token) ∧ ∀ other ∈ rest, other ∉ sent := by
  have hfresh : ∀ other ∈ sent, other.token < entry.token :=
    (h.fresh entry (hunsent ▸ List.mem_cons_self ..)).resolve_left hnew
  exact ⟨hfresh, fun other hmem hsent =>
    Nat.lt_asymm (hfresh other hsent) (h.later hunsent other hmem)⟩

/-- The stanzas of a session stay in order when the one that waits first is noted. -/
theorem issued_noted (h : Orderly s sent lost context) {entry : Entry} {rest : List Entry}
    (hunsent : s.unsent = entry :: rest) : Issued 0 s.issued (noted sent entry) := by
  unfold noted
  split
  · exact h.issued
  · rename_i hnew
    have hbelow : Issued 0 entry.token sent :=
      ⟨h.issued.sorted, fun other hmem => ⟨Nat.zero_le _, (h.newer hunsent hnew).1 other hmem⟩⟩
    refine (hbelow.append (Issued.single entry) (Nat.zero_le _) (Nat.le_succ _)).widen ?_
    exact (h.queue.bounds entry (List.mem_append_right _ (hunsent ▸ List.mem_cons_self ..))).2

/-- Handing over a stanza changes the state of nothing but what is kept or waits. -/
theorem state?_of_forall_ne {entry : Entry} {token : Token} (hwaits : entry ∈ s.unsent)
    (hother : ∀ other ∈ context.unacked ++ s.unsent, other.token ≠ token) :
    ((s.board.set entry.token .sent).setAll (context.evicted entry) .dropped).state? token
      = s.board.state? token := by
  rw [Board.state?_setAll_of_forall_ne _ fun other hmem =>
      hother other (List.mem_append_left _ (context.evicted_subset entry other hmem)),
    Board.state?_set, if_neg (hother entry (List.mem_append_right _ hwaits))]

/-- What is forgone when a stanza is handed over is not confirmed. -/
theorem state?_of_mem_forgoes (board : Board) {entry other : Entry}
    (h : other ∈ context.forgoes entry) :
    ((board.set entry.token .sent).setAll (context.evicted entry) .dropped).state? other.token
      ≠ some .acked := by
  rcases context.mem_forgoes h with ⟨rfl, hnone⟩ | hevicted
  · rw [hnone]
    show (board.set other.token .sent).state? other.token ≠ _
    rw [Board.state?_set, if_pos rfl]
    cases board.state? other.token <;> simp
  · rw [Board.state?_setAll, if_pos (List.any_eq_true.2 ⟨other, hevicted, by simp⟩)]
    cases (board.set entry.token .sent).state? other.token <;> simp

/-- **A stanza is handed over** while it waits first in the outbox. -/
theorem record (h : Orderly s sent lost context) {entry : Entry} {rest : List Entry}
    (hst : entry.stanza.isStanza = true) (hunsent : s.unsent = entry :: rest)
    (hclean : s'.properties.Clean) (hs : s'.resumption? = some (context.recordSent entry))
    (ho : s'.unsent = rest)
    (hb : s'.board = (s.board.set entry.token .sent).setAll (context.evicted entry) .dropped) :
    Orderly s' (noted sent entry) (lost ++ context.forgoes entry) (context.recordSent entry) := by
  have hissued : s'.issued = s.issued := by
    rw [Session.issued, hb, Board.length_setAll]
    exact List.length_set
  -- what is forgone and what is kept make up the queue and the entry
  have hperm : (context.forgoes entry ++ ((context.recordSent entry).unacked ++ s'.unsent)).Perm
      (context.unacked ++ s.unsent) := by
    have := (context.forgoes_append_perm hst).append_right rest
    rwa [List.append_assoc, List.append_assoc, List.singleton_append, ← hunsent, ← ho] at this
  have hdistinct : ((context.forgoes entry
      ++ ((context.recordSent entry).unacked ++ s'.unsent)).map (·.token)).Nodup :=
    ((hperm.map _).nodup_iff).2 (h.queue.sorted.imp fun hlt => Nat.ne_of_lt hlt)
  have hqueue : ((context.recordSent entry).unacked ++ s'.unsent).Sublist
      (context.unacked ++ s.unsent) := by
    have := (context.sublist_recordSent hst).append_right rest
    rwa [List.append_assoc, List.singleton_append, ← hunsent, ← ho] at this
  refine ⟨hclean, hs, context.room_recordSent h.room entry, hissued ▸ h.queue.sublist hqueue,
    hissued ▸ h.issued_noted hunsent, ?_, ?_, ?_, ?_, ?_⟩
  · intro other hother
    rcases mem_noted.1 hother with hother | rfl
    · exact h.isStanza other hother
    · exact hst
  · intro other hother
    rcases List.mem_append.1 ((context.sublist_recordSent hst).subset hother) with hother | hother
    · exact mem_noted.2 (.inl (h.kept other hother))
    · exact mem_noted.2 (.inr (List.mem_singleton.1 hother))
  · intro other hother
    rw [ho] at hother
    refine (h.fresh other (hunsent ▸ List.mem_cons_of_mem _ hother)).imp
      (fun hmem => mem_noted.2 (.inl hmem)) fun hfresh third hthird => ?_
    rcases mem_noted.1 hthird with hthird | rfl
    · exact hfresh third hthird
    · exact h.later hunsent other hother
  · intro other hother
    rw [hb]
    rcases List.mem_append.1 hother with hother | hother
    · obtain ⟨hmem, hstate⟩ := h.missing other hother
      rw [state?_of_forall_ne (hunsent ▸ List.mem_cons_self ..) (h.gone other hother)]
      exact ⟨mem_noted.2 (.inl hmem), hstate⟩
    · refine ⟨?_, state?_of_mem_forgoes s.board hother⟩
      rcases context.mem_forgoes hother with ⟨rfl, -⟩ | hevicted
      · exact mem_noted.2 (.inr rfl)
      · exact mem_noted.2 (.inl (h.kept other (context.evicted_subset entry other hevicted)))
  · intro other hother third hthird
    rcases List.mem_append.1 hother with hother | hother
    · exact h.gone other hother third (hqueue.subset hthird)
    · rw [List.map_append] at hdistinct
      exact fun heq => (List.nodup_append.1 hdistinct).2.2 _ (List.mem_map_of_mem hother) _
        (List.mem_map_of_mem hthird) heq.symm

/-- The context changes in its place, but neither its counter nor its queue. -/
theorem modify (h : Orderly s sent lost context) {f : Context → Context}
    (hf : (f context).unacked = context.unacked) :
    Orderly (s.modifyResumption f) sent lost (f context) := by
  refine ⟨h.clean.modify f, ?_, by rw [hf]; exact h.room, by rw [hf]; exact h.queue, h.issued,
    h.isStanza, by rw [hf]; exact h.kept, h.fresh, h.missing, by rw [hf]; exact h.gone⟩
  rw [Session.resumption?_modifyResumption, h.holds, Option.map_some]

/-- What a report confirms was kept. -/
theorem state?_setAll_of_missing (h : Orderly s sent lost context) {entries : List Entry}
    (hsub : ∀ entry ∈ entries, entry ∈ context.unacked) {entry : Entry} (hmem : entry ∈ lost)
    (state : State) :
    (s.board.setAll entries state).state? entry.token = s.board.state? entry.token :=
  s.board.state?_setAll_of_forall_ne
    (fun other hother => h.gone entry hmem other (List.mem_append_left _ (hsub other hother))) state

theorem mem_of_mem_confirmed {report : UInt32} {entry : Entry}
    (hmem : entry ∈ context.confirmed report) : entry ∈ context.unacked :=
  List.mem_of_mem_take hmem

/-- **The peer reports** how much it has counted. -/
theorem acknowledge (h : Orderly s sent lost context) (report : UInt32) :
    Orderly (s.acknowledge report) sent lost (context.acknowledge report) := by
  have hsub : (context.acknowledge report).unacked.Sublist context.unacked :=
    List.drop_sublist ..
  have hboard := Session.board_acknowledge h.holds report
  have hunsent : (s.acknowledge report).unsent = s.unsent :=
    congrArg (·.unsent) (s.acknowledge_eq report)
  have hissued : (s.acknowledge report).issued = s.issued := by
    rw [Session.issued, hboard, Board.length_setAll, Session.issued]
  have hclean : (s.change (.acknowledge report)).properties.Clean :=
    Session.clean_change h.clean trivial
  refine ⟨hclean, ?_,
    Nat.le_trans hsub.length_le h.room, ?_, hissued ▸ h.issued, h.isStanza,
    fun entry hmem => h.kept entry (hsub.subset hmem), hunsent ▸ h.fresh, fun entry hmem => ?_,
    fun entry hmem other hother => ?_⟩
  · rw [Session.resumption?_acknowledge, h.holds, Option.map_some]
  · rw [hunsent, hissued]
    exact h.queue.sublist (hsub.append_right _)
  · refine ⟨(h.missing entry hmem).1, ?_⟩
    rw [hboard, h.state?_setAll_of_missing (fun _ => mem_of_mem_confirmed) hmem]
    exact (h.missing entry hmem).2
  · rw [hunsent] at hother
    exact h.gone entry hmem other ((hsub.append_right _).subset hother)

/-- **The session is resumed** while nothing waits: what was kept and is not confirmed
waits to be handed over again. -/
theorem continueFrom (h : Orderly s sent lost context) (hrest : s.outbox = []) (report : UInt32) :
    (s.continueFrom report).outbox
        = (context.unconfirmed report).map (fun entry => .element entry none)
      ∧ Orderly (s.continueFrom report) sent lost (context.resumeAt report) := by
  have heq : s.continueFrom report
      = ((s.mark (context.confirmed report) .acked).modifyResumption
        (·.resumeAt report)).resend (context.unconfirmed report) := by
    unfold Session.continueFrom
    rw [h.holds]
  have houtbox : (s.continueFrom report).outbox
      = (context.unconfirmed report).map (fun entry => .element entry none) := by
    rw [heq]
    show s.outbox ++ (context.unconfirmed report).map _ = _
    rw [hrest, List.nil_append]
  have hunsent := Session.unsent_of_outbox houtbox
  have hsub : (context.unconfirmed report).Sublist context.unacked := List.drop_sublist ..
  have hboard : (s.continueFrom report).board
      = s.board.setAll (context.confirmed report) .acked := by
    rw [heq]
    rfl
  have hissued : (s.continueFrom report).issued = s.issued := by
    rw [Session.issued, hboard, Board.length_setAll, Session.issued]
  have hclean : (s.change (.resume report)).properties.Clean :=
    Session.clean_change h.clean trivial
  refine ⟨houtbox, hclean, ?_,
    Nat.zero_le _, ?_, hissued ▸ h.issued, h.isStanza, fun entry hmem => absurd hmem
    (List.not_mem_nil), fun entry hmem => ?_, fun entry hmem => ?_,
    fun entry hmem other hother => ?_⟩
  · rw [heq]
    show (Session.modifyResumption _ _).resumption? = _
    rw [Session.resumption?_modifyResumption, Session.resumption?_mark, h.holds, Option.map_some]
  · rw [hunsent, hissued]
    exact h.queue.sublist (hsub.trans (List.sublist_append_left ..))
  · exact .inl (h.kept entry (hsub.subset (hunsent ▸ hmem)))
  · refine ⟨(h.missing entry hmem).1, ?_⟩
    rw [hboard, h.state?_setAll_of_missing (fun _ => mem_of_mem_confirmed) hmem]
    exact (h.missing entry hmem).2
  · rw [hunsent] at hother
    exact h.gone entry hmem other (List.mem_append_left _ (hsub.subset hother))

/-- The token of a stanza of the session has a state. -/
theorem exists_state (h : Orderly s sent lost context) {entry : Entry} (hmem : entry ∈ sent) :
    ∃ state, s.board.state? entry.token = some state :=
  ⟨_, List.getElem?_eq_getElem (h.issued.bounds entry hmem).2⟩

end Orderly

namespace Exact

variable {s s' : Session} {sent lost : List Entry} {context context' : Context} {l : Ledger}

/-- The stanzas of the ledger are stanzas of the session. -/
theorem mem_of_mem_stanzas (h : Exact s sent context l) {entry : Entry}
    (hmem : entry ∈ l.stanzas) : entry ∈ sent := by
  rw [← h.stanzas]
  exact List.mem_append_left _ hmem

theorem drift (h : Exact s sent context l) (ho : Orderly s sent lost context) (hd : s.Drifts s')
    (hs : s'.resumption? = some context') : Exact s' sent context' l := by
  have drifts := ho.context_drifts hd hs
  obtain ⟨written, hwritten, hissued⟩ := hd.unsent
  refine ⟨h.keeps.of_eq drifts.outgoing drifts.unacked, ?_, fun entry hmem => ?_⟩
  · have hnone : written.filter (· ∈ sent) = [] := by
      refine List.filter_eq_nil_iff.2 fun entry hmem hsent => ?_
      exact Nat.lt_irrefl _ (ho.lt_of_issued hissued (of_decide_eq_true hsent) hmem)
    rw [hwritten, List.filter_append, hnone, List.append_nil]
    exact h.stanzas
  · have hsent := h.mem_of_mem_stanzas (List.mem_of_mem_take hmem)
    rw [hd.states (by rw [hs]; rfl) _ (ho.issued.bounds entry hsent).2]
    exact h.acked entry hmem

/-- What is not of the session leaves the outbox. -/
theorem pop (h : Exact s sent context l) (ho : Orderly s sent lost context) {entry : Entry}
    {rest : List Entry} {state : State} (hunsent : s.unsent = entry :: rest)
    (hnew : entry ∉ sent) (hrest : s'.unsent = rest)
    (hb : s'.board = s.board.set entry.token state) : Exact s' sent context l := by
  refine ⟨h.keeps, ?_, fun other hmem => ?_⟩
  · have := h.stanzas
    rw [hunsent, List.filter_cons_of_neg (by simpa using hnew)] at this
    rw [hrest]
    exact this
  · have hsent := h.mem_of_mem_stanzas (List.mem_of_mem_take hmem)
    rw [hb, Board.state?_set, if_neg (Nat.ne_of_gt ((ho.newer hunsent hnew).1 other hsent))]
    exact h.acked other hmem

/-- **A stanza is handed over and kept**, and gets the next number of the ledger. -/
theorem record (h : Exact s sent context l) (ho : Orderly s sent lost context) {entry : Entry}
    {rest : List Entry} (hst : entry.stanza.isStanza = true) (hunsent : s.unsent = entry :: rest)
    (hkept : context.forgoes entry = []) (hrest : s'.unsent = rest)
    (hb : s'.board = s.board.set entry.token .sent) :
    Exact s' (noted sent entry) (context.recordSent entry) (l.record entry) := by
  obtain ⟨hs, hevicted⟩ := context.of_forgoes_eq_nil hst hkept
  have hroom : l.outstanding.length < Context.capacity := by
    rw [← h.keeps.unacked]
    refine Nat.lt_of_not_le fun hfull => ?_
    rw [Context.evicted, if_pos ⟨hst, hs, hfull⟩, List.take_eq_nil_iff] at hevicted
    rcases hevicted with hevicted | hevicted
    · cases hevicted
    · rw [hevicted] at hfull
      exact absurd hfull (by decide)
  obtain ⟨hstanzas, hacked⟩ := l.record_of_isStanza hst
  -- the stanzas of the ledger were handed over before
  have hbefore : ∀ other ∈ l.stanzas, other.token < entry.token := by
    intro other hmem
    by_cases hsent : entry ∈ sent
    · have hissued := ho.issued
      rw [← h.stanzas, hunsent, List.filter_cons_of_pos (by simpa using hsent)] at hissued
      exact hissued.lt_of_append hmem (List.mem_cons_self ..)
    · exact (ho.newer hunsent hsent).1 other (h.mem_of_mem_stanzas hmem)
  refine ⟨h.keeps.recordSent hs hroom, ?_, fun other hmem => ?_⟩
  · have hold := h.stanzas
    rw [hunsent] at hold
    rw [hstanzas, hrest]
    exact append_filter_noted hold (fun hnew => (ho.newer hunsent hnew).2) fun hmem =>
      Nat.lt_irrefl _ (ho.later hunsent entry hmem)
  · rw [hstanzas, hacked, List.take_append_of_le_length l.acked_le] at hmem
    rw [hb, Board.state?_set, if_neg (Nat.ne_of_gt (hbefore other (List.mem_of_mem_take hmem)))]
    exact h.acked other hmem

/-- What is confirmed up to a number shows on the board. -/
theorem acked_setAll (h : Exact s sent context l) (ho : Orderly s sent lost context) {upTo : Nat}
    {entry : Entry} (hmem : entry ∈ l.stanzas.take upTo) :
    (s.board.setAll (l.segment upTo) .acked).state? entry.token = some .acked := by
  have hsent := h.mem_of_mem_stanzas (List.mem_of_mem_take hmem)
  -- only a token that was issued can be marked
  obtain ⟨state, hstate⟩ := ho.exists_state hsent
  rw [Board.state?_setAll, hstate]
  split
  · rfl
  · rename_i hnot
    rw [← hstate]
    refine h.acked entry ?_
    -- what is no part of the segment comes before it
    rw [← List.take_append_drop l.acked (l.stanzas.take upTo)] at hmem
    rcases List.mem_append.1 hmem with hmem | hmem
    · rw [List.take_take] at hmem
      exact (List.take_subset_take_left _ (Nat.min_le_left ..)) hmem
    · exact absurd (List.any_eq_true.2 ⟨entry, hmem, by simp⟩) hnot

/-- **The peer reports** a number, and the ledger is settled up to it. -/
theorem acknowledge (h : Exact s sent context l) (ho : Orderly s sent lost context)
    {report : UInt32} {upTo : Nat} (hlo : l.acked ≤ upTo) (hhi : upTo ≤ l.count)
    (hrep : report.toNat = upTo % 2 ^ 32) :
    Exact (s.acknowledge report) sent (context.acknowledge report) (l.settle upTo hhi) := by
  have hcap : Context.capacity = 2 ^ 31 - 2 := rfl
  have hroom := ho.room
  rw [h.keeps.unacked] at hroom
  obtain ⟨hconf, hack⟩ := h.keeps.acknowledge_eq (by omega) hlo hhi hrep
  rw [Nat.sub_zero, Nat.max_eq_right hlo] at hconf hack
  have hunsent : (s.acknowledge report).unsent = s.unsent :=
    congrArg (·.unsent) (s.acknowledge_eq report)
  refine ⟨⟨by rw [hack]; exact h.keeps.outgoing, by rw [hack]; rfl⟩, ?_, fun entry hmem => ?_⟩
  · rw [hunsent]
    exact h.stanzas
  · rw [Session.board_acknowledge ho.holds, hconf]
    exact h.acked_setAll ho hmem

/-- While nothing waits, the ledger has all stanzas of the session. -/
theorem stanzas_eq (h : Exact s sent context l) (hrest : s.outbox = []) : l.stanzas = sent := by
  have := h.stanzas
  rwa [Session.unsent, hrest, List.filterMap_nil, List.filter_nil, List.append_nil] at this

/-- **The session is resumed** while nothing waits: the ledger falls back to what the
peer has counted, and the rest waits to be handed over again. -/
theorem continueFrom (h : Exact s sent context l) (ho : Orderly s sent lost context)
    (hrest : s.outbox = []) {report : UInt32} {upTo : Nat} (hlo : l.acked ≤ upTo)
    (hhi : upTo ≤ l.count) (hrep : report.toNat = upTo % 2 ^ 32) :
    ∃ l' : Ledger, l'.stanzas = sent.take upTo ∧ l'.acked = upTo
      ∧ Exact (s.continueFrom report) sent (context.resumeAt report) l' := by
  have hcap : Context.capacity = 2 ^ 31 - 2 := rfl
  have hroom := ho.room
  rw [h.keeps.unacked] at hroom
  obtain ⟨hconf, hack⟩ := h.keeps.acknowledge_eq (by omega) hlo hhi hrep
  rw [Nat.sub_zero, Nat.max_eq_right hlo] at hconf hack
  have hstanzas := h.stanzas_eq hrest
  have hunsent := Session.unsent_of_outbox (ho.continueFrom hrest report).1
  have hunc : context.unconfirmed report = sent.drop upTo := by
    rw [Context.unconfirmed, hack, hstanzas]
  have hlen : (sent.take upTo).length = upTo := by
    rw [List.length_take, ← hstanzas]
    exact Nat.min_eq_left hhi
  refine ⟨⟨sent.take upTo, upTo, fun entry hmem => ho.isStanza entry
    (List.mem_of_mem_take hmem), Nat.le_of_eq hlen.symm⟩, rfl, rfl, ⟨?_, ?_⟩, ?_,
    fun entry hmem => ?_⟩
  · show report.toNat = ((sent.take upTo).length + 0) % 2 ^ 32
    rw [hlen]
    exact hrep
  · show [] = (sent.take upTo).drop upTo
    rw [List.drop_eq_nil_of_le (Nat.le_of_eq hlen)]
  · rw [hunsent, hunc, List.filter_eq_self.2 fun entry hmem =>
      decide_eq_true (List.mem_of_mem_drop hmem)]
    exact List.take_append_drop ..
  · have hboard : (s.continueFrom report).board = s.board.setAll (l.segment upTo) .acked := by
      unfold Session.continueFrom
      rw [ho.holds, ← hconf]
      rfl
    rw [hboard]
    refine h.acked_setAll ho ?_
    rw [hstanzas]
    exact List.mem_of_mem_take hmem

end Exact

end Xmpp.Resumption
