import Mathlib.Algebra.Group.Nat.Defs
import Mathlib.Tactic.Common
import Xmpp.Session.Management

/-!
# The ledger of a session

The counters of a resumable session wrap, its queue forgets what was
confirmed, and resuming it rewinds the one and drains the other. What they
stand for is simpler: every stanza of the session has a number for good, the
first one 0, and the peer has confirmed those below some number. A `Ledger`
says just that. This file proves that a context never says anything else, as
long as its queue does not overflow.

## Which reports count

A report of the peer is a number below `2 ^ 32`, and it stands for every
number with that remainder. Of these it *names* the one that is beyond what
is confirmed and not beyond what was sent (`Ledger.Names`), and there is at
most one since the queue is shorter than the range. A report that names
nothing is stale, repeated, out of order or excessive, and changes nothing.
So a report never takes anything back, and what a number of reports comes to
is what the farthest of them comes to (`Keeps.foldl_acknowledge`).

## Stanzas that are counted and not kept

Between two connections a context counts stanzas without keeping them. The
bookkeeping below carries their number along as *strays*, since a report is
judged by a counter that includes them: with `s` strays, `s` stanzas too few
are confirmed (`Keeps.confirmedBy_eq`), and a resumption sends these again
instead of the strays (`Keeps.unconfirmed_strays`). A run in which nothing is
sent between two connections has none.
-/

namespace Xmpp.Resumption

open Delivery

/-- **The ledger of a session**: its stanzas by their numbers, and the number
below which they are confirmed. -/
structure Ledger where
  /-- The stanzas; the number of a stanza is its place. -/
  stanzas : List Entry
  /-- How many of them are confirmed. -/
  acked : Nat
  /-- Nothing but stanzas has a number. -/
  isStanza : ∀ entry ∈ stanzas, entry.stanza.isStanza = true
  /-- Only what was sent is confirmed. -/
  acked_le : acked ≤ stanzas.length

namespace Ledger

/-- The ledger before anything is sent. -/
def empty : Ledger where
  stanzas := []
  acked := 0
  isStanza := List.forall_mem_nil _
  acked_le := Nat.le_refl 0

/-- The number of stanzas, which is the number of the next one. -/
def count (l : Ledger) : Nat :=
  l.stanzas.length

/-- The stanzas that are not confirmed. -/
def outstanding (l : Ledger) : List Entry :=
  l.stanzas.drop l.acked

/-- The unconfirmed stanzas with numbers below `upTo`. -/
def segment (l : Ledger) (upTo : Nat) : List Entry :=
  (l.stanzas.take upTo).drop l.acked

/-- A stanza gets the next number; anything else gets none. -/
def record (l : Ledger) (entry : Entry) : Ledger :=
  if h : entry.stanza.isStanza = true then
    { stanzas := l.stanzas ++ [entry]
      acked := l.acked
      isStanza := by
        intro e he
        rcases List.mem_append.1 he with he | he
        · exact l.isStanza e he
        · exact List.mem_singleton.1 he ▸ h
      acked_le := by
        have := l.acked_le
        simp only [List.length_append, List.length_singleton]
        omega }
  else l

/-- The stanzas below a number are confirmed. -/
def settle (l : Ledger) (upTo : Nat) (h : upTo ≤ l.count) : Ledger :=
  { l with acked := upTo, acked_le := h }

/-- **What a report names**: the number beyond what is confirmed, and not
beyond what was sent, that has this remainder. -/
def Names (l : Ledger) (report : UInt32) (upTo : Nat) : Prop :=
  l.acked < upTo ∧ upTo ≤ l.count ∧ upTo % 2 ^ 32 = report.toNat

/-- **What a report does**: it confirms the stanzas below the number it
names, and nothing if it names none. -/
inductive Reported (l : Ledger) (report : UInt32) : Ledger → Prop
  /-- The report names a number. -/
  | confirms (upTo : Nat) (h : l.Names report upTo) : Reported l report (l.settle upTo h.2.1)
  /-- The report is stale or excessive. -/
  | ignored (h : ∀ upTo, ¬ l.Names report upTo) : Reported l report l

@[simp] theorem count_settle (l : Ledger) {upTo : Nat} (h : upTo ≤ l.count) :
    (l.settle upTo h).count = l.count := rfl

@[simp] theorem acked_settle (l : Ledger) {upTo : Nat} (h : upTo ≤ l.count) :
    (l.settle upTo h).acked = upTo := rfl

@[simp] theorem length_outstanding (l : Ledger) :
    l.outstanding.length = l.count - l.acked :=
  List.length_drop

/-- What is outstanding, less a segment, is what comes from its end on. -/
theorem drop_outstanding (l : Ledger) {upTo : Nat} (h : l.acked ≤ upTo) :
    l.outstanding.drop (upTo - l.acked) = l.stanzas.drop upTo := by
  rw [outstanding, List.drop_drop, Nat.add_sub_cancel' h]

/-- The first of what is outstanding are a segment. -/
theorem take_outstanding (l : Ledger) (upTo : Nat) :
    l.outstanding.take (upTo - l.acked) = l.segment upTo := by
  rw [outstanding, segment, List.drop_take]

/-- Segments that meet are a segment. -/
theorem segment_append_segment (l : Ledger) {mid upTo : Nat} (hmid : mid ≤ l.count)
    (hlo : l.acked ≤ mid) (hhi : mid ≤ upTo) :
    l.segment mid ++ (l.settle mid hmid).segment upTo = l.segment upTo := by
  show (l.stanzas.take mid).drop l.acked ++ (l.stanzas.take upTo).drop mid
    = (l.stanzas.take upTo).drop l.acked
  have htake : l.stanzas.take mid = (l.stanzas.take upTo).take mid := by
    rw [List.take_take, Nat.min_eq_left hhi]
  have hlen : l.acked ≤ ((l.stanzas.take upTo).take mid).length := by
    have : l.stanzas.length = l.count := rfl
    simp only [List.length_take]
    omega
  rw [htake, ← List.drop_append_of_le_length hlen, List.take_append_drop]

theorem record_of_isStanza (l : Ledger) {entry : Entry} (h : entry.stanza.isStanza = true) :
    (l.record entry).stanzas = l.stanzas ++ [entry] ∧ (l.record entry).acked = l.acked := by
  simp [record, h]

theorem record_of_not_isStanza (l : Ledger) {entry : Entry}
    (h : entry.stanza.isStanza = false) : l.record entry = l := by
  simp [record, h]

/-- One more stanza is one more outstanding. -/
theorem outstanding_record (l : Ledger) {entry : Entry} (h : entry.stanza.isStanza = true) :
    (l.record entry).outstanding = l.outstanding ++ [entry] := by
  obtain ⟨hs, ha⟩ := l.record_of_isStanza h
  rw [outstanding, hs, ha, List.drop_append_of_le_length l.acked_le, outstanding]

/-- A report names at most one number, since the queue is shorter than the
range. -/
theorem Names.unique {l : Ledger} {report : UInt32} {a b : Nat}
    (hlen : l.outstanding.length < 2 ^ 32) (ha : l.Names report a) (hb : l.Names report b) :
    a = b := by
  obtain ⟨ha₁, ha₂, ha₃⟩ := ha
  obtain ⟨hb₁, hb₂, hb₃⟩ := hb
  rw [length_outstanding] at hlen
  omega

end Ledger

/-! ## A context and its ledger -/

theorem toNat_add_one (n : UInt32) : (n + 1).toNat = (n.toNat + 1) % 2 ^ 32 :=
  UInt32.toNat_add n 1

@[simp] theorem Context.status_recordSent (c : Context) (entry : Entry) :
    (c.recordSent entry).status = c.status := by
  unfold recordSent
  split <;> rfl

/-- With room in the queue nothing is given up, and a stanza is counted and kept. -/
theorem Context.recordSent_of_room {c : Context} {entry : Entry}
    (hst : entry.stanza.isStanza = true) (hs : c.status ≠ .inactive)
    (hlen : c.unacked.length < capacity) :
    c.recordSent entry =
      { c with outgoing := c.outgoing + 1, unacked := c.unacked ++ [entry] } := by
  have hroom : c.evicted entry = [] := by
    rw [evicted, if_neg fun hfull => Nat.not_le.2 hlen hfull.2.2]
  rw [recordSent, if_pos hst, hroom, if_neg hs]
  rfl

/-- **A context keeps a ledger**: its counter is the number of the next
stanza, strays included, without the carries, and its queue holds what is
outstanding. -/
structure Keeps (c : Context) (l : Ledger) (strays : Nat) : Prop where
  /-- The counter. -/
  outgoing : c.outgoing.toNat = (l.count + strays) % 2 ^ 32
  /-- The queue. -/
  unacked : c.unacked = l.outstanding

namespace Keeps

variable {c : Context} {l : Ledger} {strays : Nat}

/-- **How many stanzas a report confirms.** Every stray is taken for a stanza
the peer has not seen yet, so it costs one that it has seen. -/
theorem confirmedBy_eq (k : Keeps c l strays) {report : UInt32} {upTo : Nat}
    (hlen : l.outstanding.length + strays < 2 ^ 31) (hlo : l.acked ≤ upTo)
    (hhi : upTo ≤ l.count) (hrep : report.toNat = upTo % 2 ^ 32) :
    c.confirmedBy report = upTo - l.acked - strays := by
  rw [Ledger.length_outstanding] at hlen
  have hdist : (c.outgoing - report).toNat = l.count + strays - upTo := by
    rw [UInt32.toNat_sub, k.outgoing, hrep]
    omega
  have hq : c.unacked.length = l.count - l.acked := by
    rw [k.unacked, Ledger.length_outstanding]
  simp only [Context.confirmedBy, hdist, hq]
  rw [if_pos (by omega)]
  omega

/-- **A report that names nothing confirms nothing.** -/
theorem confirmedBy_eq_zero (k : Keeps c l 0) {report : UInt32}
    (hlen : l.outstanding.length < 2 ^ 31) (hno : ∀ upTo, ¬ l.Names report upTo) :
    c.confirmedBy report = 0 := by
  rw [Ledger.length_outstanding] at hlen
  have hq : c.unacked.length = l.count - l.acked := by
    rw [k.unacked, Ledger.length_outstanding]
  have hout := k.outgoing
  have hrep := report.toNat_lt
  by_contra hne
  -- a shorter distance than the queue is long leads to a number that is named
  have hshort : (c.outgoing - report).toNat < l.count - l.acked := by
    simp only [Context.confirmedBy, hq] at hne
    split at hne <;> omega
  refine hno (l.count - (c.outgoing - report).toNat) ⟨by omega, by omega, ?_⟩
  rw [UInt32.toNat_sub] at hshort ⊢
  omega

/-- The stanzas a report confirms, and the context that is left. -/
theorem acknowledge_eq (k : Keeps c l strays) {report : UInt32} {upTo : Nat}
    (hlen : l.outstanding.length + strays < 2 ^ 31) (hlo : l.acked ≤ upTo)
    (hhi : upTo ≤ l.count) (hrep : report.toNat = upTo % 2 ^ 32) :
    c.confirmed report = l.segment (max l.acked (upTo - strays))
      ∧ c.acknowledge report
        = { c with unacked := l.stanzas.drop (max l.acked (upTo - strays)) } := by
  have hn : c.confirmedBy report = max l.acked (upTo - strays) - l.acked := by
    rw [k.confirmedBy_eq hlen hlo hhi hrep]
    omega
  constructor
  · rw [Context.confirmed, hn, k.unacked, l.take_outstanding]
  · rw [Context.acknowledge, hn, k.unacked, l.drop_outstanding (Nat.le_max_left ..)]

/-- A report that names nothing leaves the context as it is. -/
theorem acknowledge_of_not_names (k : Keeps c l 0) {report : UInt32}
    (hlen : l.outstanding.length < 2 ^ 31) (hno : ∀ upTo, ¬ l.Names report upTo) :
    c.confirmed report = [] ∧ c.acknowledge report = c := by
  have hn := k.confirmedBy_eq_zero hlen hno
  constructor
  · rw [Context.confirmed, hn, List.take_zero]
  · rw [Context.acknowledge, hn, List.drop_zero]

/-- Sending a stanza while the session is live gives it the next number. -/
theorem recordSent (k : Keeps c l strays) {entry : Entry} (hs : c.status ≠ .inactive)
    (hlen : l.outstanding.length < Context.capacity) :
    Keeps (c.recordSent entry) (l.record entry) strays := by
  cases hst : entry.stanza.isStanza with
  | false =>
    rw [l.record_of_not_isStanza hst, Context.recordSent, if_neg (by simp [hst])]
    exact k
  | true =>
    have hcount : (l.record entry).count = l.count + 1 := by
      rw [Ledger.count, (l.record_of_isStanza hst).1, List.length_append]
      rfl
    rw [Context.recordSent_of_room hst hs (by rwa [k.unacked])]
    refine ⟨?_, ?_⟩
    · rw [toNat_add_one, k.outgoing, hcount]
      omega
    · rw [l.outstanding_record hst, ← k.unacked]

/-- Sending a stanza between two connections makes it a stray. -/
theorem recordStray (k : Keeps c l strays) {entry : Entry} (hs : c.status = .inactive)
    (hst : entry.stanza.isStanza = true) : Keeps (c.recordSent entry) l (strays + 1) := by
  rw [Context.recordSent, if_pos hst]
  refine ⟨?_, by simpa [hs] using k.unacked⟩
  rw [toNat_add_one, k.outgoing]
  omega

/-- So it does with each of several. -/
theorem foldl_recordStray (entries : List Entry) (k : Keeps c l strays) (hs : c.status = .inactive)
    (hst : ∀ entry ∈ entries, entry.stanza.isStanza = true) :
    Keeps (entries.foldl Context.recordSent c) l (strays + entries.length) := by
  induction entries generalizing c strays with
  | nil => exact k
  | cons entry rest ih =>
    rw [List.length_cons, Nat.add_comm rest.length, ← Nat.add_assoc]
    exact ih (k.recordStray hs (hst entry List.mem_cons_self))
      ((c.status_recordSent entry).trans hs)
      fun other hmem => hst other (List.mem_cons_of_mem entry hmem)

/-- **What comes of strays.** A resumption takes them for stanzas that the peer has not counted:
of those that it has counted as many are sent again, and the strays are not. -/
theorem unconfirmed_strays (k : Keeps c l 0) (hs : c.status = .inactive) {entries : List Entry}
    (hst : ∀ entry ∈ entries, entry.stanza.isStanza = true) {report : UInt32} {upTo : Nat}
    (hlen : l.outstanding.length + entries.length < 2 ^ 31) (hlo : l.acked ≤ upTo)
    (hhi : upTo ≤ l.count) (hrep : report.toNat = upTo % 2 ^ 32) :
    (entries.foldl Context.recordSent c).unconfirmed report
      = l.stanzas.drop (max l.acked (upTo - entries.length)) := by
  have strayed := k.foldl_recordStray entries hs hst
  rw [Nat.zero_add] at strayed
  rw [Context.unconfirmed, (strayed.acknowledge_eq hlen hlo hhi hrep).2]

/-- What is not about the queue and its counter leaves the ledger as it
is. -/
theorem of_eq {c' : Context} (k : Keeps c l strays) (ho : c'.outgoing = c.outgoing)
    (hu : c'.unacked = c.unacked) : Keeps c' l strays :=
  ⟨by rw [ho, k.outgoing], by rw [hu, k.unacked]⟩

theorem deactivate (k : Keeps c l strays) : Keeps c.deactivate l strays := by
  refine k.of_eq ?_ ?_ <;> unfold Context.deactivate <;> split <;> rfl

theorem recordReceived (k : Keeps c l strays) : Keeps c.recordReceived l strays := by
  refine k.of_eq ?_ ?_ <;> unfold Context.recordReceived <;> split <;> rfl

/-- **Sending again** a number of stanzas counts and keeps all of them. -/
theorem foldl_recordSent (entries : List Entry) {c : Context} (hs : c.status ≠ .inactive)
    (hst : ∀ entry ∈ entries, entry.stanza.isStanza = true)
    (hlen : c.unacked.length + entries.length ≤ Context.capacity) :
    (entries.foldl Context.recordSent c).outgoing.toNat
        = (c.outgoing.toNat + entries.length) % 2 ^ 32
      ∧ (entries.foldl Context.recordSent c).unacked = c.unacked ++ entries := by
  induction entries generalizing c with
  | nil =>
    have := c.outgoing.toNat_lt
    refine ⟨?_, (List.append_nil _).symm⟩
    show c.outgoing.toNat = (c.outgoing.toNat + 0) % 2 ^ 32
    omega
  | cons entry rest ih =>
    rw [List.length_cons] at hlen
    have hstep := Context.recordSent_of_room (hst entry (List.mem_cons_self ..)) hs (by omega)
    -- the first of them takes the room of one
    have hlen' : (c.recordSent entry).unacked.length + rest.length ≤ Context.capacity := by
      rw [hstep]
      simp only [List.length_append, List.length_singleton]
      omega
    obtain ⟨ho, hu⟩ := ih (c := c.recordSent entry) (by rw [hstep]; exact hs)
      (fun e he => hst e (List.mem_cons_of_mem _ he)) hlen'
    rw [List.foldl_cons, ho, hu, hstep, List.length_cons]
    refine ⟨?_, by simp⟩
    rw [toNat_add_one]
    omega

/-- **Resuming keeps the ledger**: what the peer has counted is confirmed, and
what is sent again keeps its numbers. -/
theorem resume (k : Keeps c l 0) {report : UInt32} {upTo : Nat}
    (hlen : l.outstanding.length < Context.capacity) (hlo : l.acked ≤ upTo)
    (hhi : upTo ≤ l.count) (hrep : report.toNat = upTo % 2 ^ 32) :
    c.confirmed report = l.segment upTo
      ∧ c.unconfirmed report = l.stanzas.drop upTo
      ∧ Keeps ((c.unconfirmed report).foldl Context.recordSent (c.resumeAt report))
          (l.settle upTo hhi) 0 := by
  have hcap : Context.capacity = 2 ^ 31 - 2 := rfl
  obtain ⟨hconf, hack⟩ := k.acknowledge_eq (by omega) hlo hhi hrep
  rw [Nat.sub_zero, Nat.max_eq_right hlo] at hconf hack
  have hunc : c.unconfirmed report = l.stanzas.drop upTo := by
    rw [Context.unconfirmed, hack]
  have hdrop : (l.stanzas.drop upTo).length = l.count - upTo := List.length_drop
  obtain ⟨ho, hu⟩ := foldl_recordSent (l.stanzas.drop upTo) (c := c.resumeAt report)
    (by simp [Context.resumeAt]) (fun e he => l.isStanza e (List.mem_of_mem_drop he)) (by
      rw [Ledger.length_outstanding] at hlen
      rw [hdrop]
      show 0 + (l.count - upTo) ≤ _
      omega)
  refine ⟨hconf, hunc, ?_, ?_⟩
  · rw [hunc, ho, hdrop]
    show (report.toNat + (l.count - upTo)) % 2 ^ 32 = _
    rw [hrep, Ledger.count_settle]
    omega
  · rw [hunc, hu]
    rfl

end Keeps

/-! ## Reports in a session

The verdict of a report shows on the tokens of a session, so the rest is said
about sessions that hold the context. -/

/-- What a number of reports comes to: the farthest number that any of them
names, or what was confirmed before. -/
structure Ledger.Farthest (l : Ledger) (reports : List UInt32) (upTo : Nat) : Prop where
  /-- It is named, or was reached before. -/
  reached : upTo = l.acked ∨ ∃ report ∈ reports, l.Names report upTo
  /-- None of them names a number beyond it. -/
  farthest : ∀ report ∈ reports, ∀ other, l.Names report other → other ≤ upTo
  /-- Nothing is taken back. -/
  acked_le : l.acked ≤ upTo

/-- Reports that are the same up to order and repetition come to the
same. -/
theorem Ledger.Farthest.unique {l : Ledger} {reports others : List UInt32} {a b : Nat}
    (same : ∀ report, report ∈ reports ↔ report ∈ others) (ha : l.Farthest reports a)
    (hb : l.Farthest others b) : a = b := by
  refine Nat.le_antisymm ?_ ?_
  · rcases ha.reached with rfl | ⟨report, hmem, hname⟩
    · exact hb.acked_le
    · exact hb.farthest report ((same report).1 hmem) a hname
  · rcases hb.reached with rfl | ⟨report, hmem, hname⟩
    · exact ha.acked_le
    · exact ha.farthest report ((same report).2 hmem) b hname

namespace Keeps

variable {c : Context} {l : Ledger}

/-- A report that names a number confirms what comes before it. -/
theorem acknowledge_of_names (k : Keeps c l 0) {report : UInt32} {upTo : Nat}
    (hlen : l.outstanding.length < Context.capacity) (hname : l.Names report upTo) {s : Session}
    (hs : s.resumption? = some c) :
    (s.acknowledge report).resumption? = some { c with unacked := l.stanzas.drop upTo }
      ∧ (s.acknowledge report).board = s.board.setAll (l.segment upTo) .acked := by
  have hcap : Context.capacity = 2 ^ 31 - 2 := rfl
  obtain ⟨hconf, hack⟩ := k.acknowledge_eq (by omega) (Nat.le_of_lt hname.1) hname.2.1
    hname.2.2.symm
  rw [Nat.sub_zero, Nat.max_eq_right (Nat.le_of_lt hname.1)] at hconf hack
  exact ⟨by rw [Session.resumption?_acknowledge, hs, Option.map_some, hack],
    by rw [Session.board_acknowledge hs, hconf]⟩

/-- A report that names nothing changes neither the context nor a token. -/
theorem acknowledge_of_forall_not_names (k : Keeps c l 0) {report : UInt32}
    (hlen : l.outstanding.length < Context.capacity) (hno : ∀ upTo, ¬ l.Names report upTo)
    {s : Session} (hs : s.resumption? = some c) :
    (s.acknowledge report).resumption? = some c ∧ (s.acknowledge report).board = s.board := by
  have hcap : Context.capacity = 2 ^ 31 - 2 := rfl
  obtain ⟨hconf, hack⟩ := k.acknowledge_of_not_names (by omega) hno
  refine ⟨by rw [Session.resumption?_acknowledge, hs, Option.map_some, hack], ?_⟩
  rw [Session.board_acknowledge hs, hconf]
  rfl

/-- **Reports come to the farthest of them**, whatever their order. -/
theorem foldl_acknowledge (reports : List UInt32) {c : Context} {l : Ledger} (k : Keeps c l 0)
    (hlen : l.outstanding.length < Context.capacity) {s : Session}
    (hs : s.resumption? = some c) :
    ∃ upTo, l.Farthest reports upTo
      ∧ (reports.foldl Session.acknowledge s).resumption?
          = some { c with unacked := l.stanzas.drop upTo }
      ∧ (reports.foldl Session.acknowledge s).board
          = s.board.setAll (l.segment upTo) .acked := by
  induction reports generalizing c l s with
  | nil =>
    refine ⟨l.acked, ⟨.inl rfl, by simp, Nat.le_refl _⟩, ?_, ?_⟩
    · rw [List.foldl_nil, hs, ← Ledger.outstanding, ← k.unacked]
    · rw [Ledger.segment, List.drop_take_self]
      rfl
  | cons report rest ih =>
    rw [List.foldl_cons]
    by_cases hname : ∃ upTo, l.Names report upTo
    · -- the report moves the ledger, and the others start from there
      obtain ⟨mid, hname⟩ := hname
      obtain ⟨hres, hboard⟩ := k.acknowledge_of_names hlen hname hs
      have hmid := Nat.le_of_lt hname.1
      have hlen' : (l.settle mid hname.2.1).outstanding.length < Context.capacity := by
        rw [Ledger.length_outstanding] at hlen ⊢
        simp only [Ledger.count_settle, Ledger.acked_settle]
        omega
      obtain ⟨upTo, far, hres', hboard'⟩ :=
        ih (c := { c with unacked := l.stanzas.drop mid }) (l := l.settle mid hname.2.1)
          ⟨k.outgoing, rfl⟩ hlen' hres
      have hle : mid ≤ upTo := far.acked_le
      refine ⟨upTo, ⟨.inr ?_, ?_, Nat.le_trans hmid hle⟩, hres', ?_⟩
      · rcases far.reached with rfl | ⟨other, hmem, hother⟩
        · exact ⟨report, List.mem_cons_self .., hname⟩
        · exact ⟨other, List.mem_cons_of_mem _ hmem, Nat.lt_of_le_of_lt hmid hother.1,
            hother.2⟩
      · intro other hmem n hn
        rcases List.mem_cons.1 hmem with rfl | hmem
        · have hcap : Context.capacity = 2 ^ 31 - 2 := rfl
          rw [hn.unique (by omega) hname]
          exact hle
        · rcases Nat.lt_or_ge mid n with hlt | hge
          · exact far.farthest other hmem n ⟨hlt, hn.2⟩
          · exact Nat.le_trans hge hle
      · rw [hboard', hboard, ← Board.setAll_append,
          l.segment_append_segment hname.2.1 hmid hle]
    · -- the report changes nothing
      have hno : ∀ upTo, ¬ l.Names report upTo := fun upTo h => hname ⟨upTo, h⟩
      obtain ⟨hres, hboard⟩ := k.acknowledge_of_forall_not_names hlen hno hs
      obtain ⟨upTo, far, hres', hboard'⟩ := ih k hlen hres
      refine ⟨upTo, ⟨?_, ?_, far.acked_le⟩, hres', by rw [hboard', hboard]⟩
      · exact far.reached.imp_right fun ⟨other, hmem, hother⟩ =>
          ⟨other, List.mem_cons_of_mem _ hmem, hother⟩
      · intro other hmem n hn
        rcases List.mem_cons.1 hmem with rfl | hmem
        · exact absurd hn (hno n)
        · exact far.farthest other hmem n hn

end Keeps

/-! ## Runs -/

/-- **The contexts of a run**, each with the ledger of what happened so far. A
run starts with the request to enable stream management or with the news that
it was enabled; stanzas are sent while the session is asked for or live, any
report may come in at any time, and a resumption is told a number between what
is confirmed and what was sent, upon which everything from there on is sent
again. The queue never fills up. -/
inductive Run : Context → Ledger → Prop
  /-- Stream management was asked for. -/
  | asked : Run .start .empty
  /-- Stream management was enabled without having been asked for. -/
  | begun (e : Enabled) : Run (Context.start.enable e) .empty
  /-- Something is sent. -/
  | sent {c : Context} {l : Ledger} (entry : Entry) (run : Run c l) (hs : c.status ≠ .inactive)
      (hlen : (l.record entry).outstanding.length < Context.capacity) :
      Run (c.recordSent entry) (l.record entry)
  /-- Stream management was enabled. -/
  | enabled {c : Context} {l : Ledger} (e : Enabled) (run : Run c l) : Run (c.enable e) l
  /-- The connection went away. -/
  | deactivated {c : Context} {l : Ledger} (run : Run c l) : Run c.deactivate l
  /-- A stanza was received. -/
  | received {c : Context} {l : Ledger} (run : Run c l) : Run c.recordReceived l
  /-- The number of received stanzas was reported. -/
  | reported {c : Context} {l : Ledger} (run : Run c l) : Run c.recordReport l
  /-- The peer reported how much it has counted. -/
  | acknowledged {c : Context} {l l' : Ledger} (report : UInt32) (run : Run c l)
      (h : l.Reported report l') : Run (c.acknowledge report) l'
  /-- The session was resumed, and what the peer has not counted sent again. -/
  | resumed {c : Context} {l : Ledger} (report : UInt32) (upTo : Nat) (run : Run c l)
      (hlo : l.acked ≤ upTo) (hhi : upTo ≤ l.count) (hrep : report.toNat = upTo % 2 ^ 32) :
      Run ((c.unconfirmed report).foldl Context.recordSent (c.resumeAt report))
        (l.settle upTo hhi)

/-- A run keeps its ledger, and its queue has room. -/
theorem Run.keeps {c : Context} {l : Ledger} (run : Run c l) :
    Keeps c l 0 ∧ l.outstanding.length < Context.capacity := by
  have hcap : Context.capacity = 2 ^ 31 - 2 := rfl
  induction run with
  | asked => exact ⟨⟨rfl, rfl⟩, by decide⟩
  | begun e => exact ⟨⟨rfl, rfl⟩, by decide⟩
  | sent entry _ hs hlen ih => exact ⟨ih.1.recordSent hs ih.2, hlen⟩
  | enabled e _ ih => exact ⟨ih.1.of_eq rfl rfl, ih.2⟩
  | deactivated _ ih => exact ⟨ih.1.deactivate, ih.2⟩
  | received _ ih => exact ⟨ih.1.recordReceived, ih.2⟩
  | reported _ ih => exact ⟨ih.1.of_eq rfl rfl, ih.2⟩
  | @acknowledged c l l' report _ h ih =>
    obtain ⟨k, hlen⟩ := ih
    cases h with
    | ignored hno =>
      rw [(k.acknowledge_of_not_names (by omega) hno).2]
      exact ⟨k, hlen⟩
    | confirms upTo hname =>
      obtain ⟨-, hack⟩ := k.acknowledge_eq (by omega) (Nat.le_of_lt hname.1) hname.2.1
        hname.2.2.symm
      rw [Nat.sub_zero, Nat.max_eq_right (Nat.le_of_lt hname.1)] at hack
      have := hname.1
      refine ⟨⟨by rw [hack]; exact k.outgoing, by rw [hack]; rfl⟩, ?_⟩
      rw [Ledger.length_outstanding] at hlen ⊢
      simp only [Ledger.count_settle, Ledger.acked_settle]
      omega
  | resumed report upTo _ hlo hhi hrep ih =>
    refine ⟨(ih.1.resume ih.2 hlo hhi hrep).2.2, ?_⟩
    have hlen := ih.2
    rw [Ledger.length_outstanding] at hlen ⊢
    simp only [Ledger.count_settle, Ledger.acked_settle]
    omega

/-- **A context is its ledger in 32 bits.** -/
structure Refines (c : Context) (l : Ledger) : Prop where
  /-- The counter is the number of the next stanza without the carries. -/
  counter : c.outgoing.toNat = l.count % 2 ^ 32
  /-- The queue holds what is outstanding, in order. -/
  queue : c.unacked = l.outstanding
  /-- A report that names a number confirms the stanzas before it, and changes
  nothing else. -/
  confirms : ∀ report upTo, l.Names report upTo → ∀ s : Session, s.resumption? = some c →
    (s.acknowledge report).resumption? = some { c with unacked := l.stanzas.drop upTo }
      ∧ (s.acknowledge report).board = s.board.setAll (l.segment upTo) .acked
  /-- A report that names none changes nothing. -/
  ignores : ∀ report, (∀ upTo, ¬ l.Names report upTo) → ∀ s : Session, s.resumption? = some c →
    (s.acknowledge report).resumption? = some c ∧ (s.acknowledge report).board = s.board
  /-- A resumption confirms the stanzas before the number it is told and sends
  the others again, after which they have the numbers they had. -/
  resumes : ∀ report upTo, l.acked ≤ upTo → (hhi : upTo ≤ l.count) →
    report.toNat = upTo % 2 ^ 32 →
    c.confirmed report = l.segment upTo
      ∧ c.unconfirmed report = l.stanzas.drop upTo
      ∧ Keeps ((c.unconfirmed report).foldl Context.recordSent (c.resumeAt report))
          (l.settle upTo hhi) 0
  /-- The order of reports does not count, nor does their repetition. -/
  order : ∀ reports others : List UInt32, (∀ report, report ∈ reports ↔ report ∈ others) →
    ∀ s : Session, s.resumption? = some c →
    (reports.foldl Session.acknowledge s).resumption?
        = (others.foldl Session.acknowledge s).resumption?
      ∧ (reports.foldl Session.acknowledge s).board
        = (others.foldl Session.acknowledge s).board

/-- **The bookkeeping refines the unbounded one.** In every run the counter is
the number of the next stanza modulo `2 ^ 32`, the queue holds the outstanding
stanzas in order, any report confirms what comes before the number it names
and nothing if it names none, stanzas that are sent again keep their numbers,
and what a set of reports comes to does not depend on their order. -/
theorem refines_of_run {c : Context} {l : Ledger} (run : Run c l) : Refines c l := by
  obtain ⟨k, hlen⟩ := run.keeps
  refine ⟨k.outgoing, k.unacked, ?_, ?_, ?_, ?_⟩
  · intro report upTo hname s hs
    exact k.acknowledge_of_names hlen hname hs
  · intro report hno s hs
    exact k.acknowledge_of_forall_not_names hlen hno hs
  · intro report upTo hlo hhi hrep
    exact k.resume hlen hlo hhi hrep
  · intro reports others same s hs
    obtain ⟨a, fara, hres, hboard⟩ := Keeps.foldl_acknowledge reports k hlen hs
    obtain ⟨b, farb, hres', hboard'⟩ := Keeps.foldl_acknowledge others k hlen hs
    rw [hres, hres', hboard, hboard', fara.unique same farb]
    exact ⟨rfl, rfl⟩

/-- A run in which one stanza is confirmed, and two are sent again of which the
peer has counted one meanwhile. -/
theorem refines_of_run_resumption :
    ∃ c l, Run c l ∧ l.count = 3 ∧ l.acked = 2 ∧ c.unacked.map (·.token) = [2] ∧ Refines c l := by
  let entry (token : Token) : Entry := ⟨{ name := "message", ns := Namespace.client }, token⟩
  have run := Run.asked.sent (entry 0) (by decide) (by decide)
  have run := run.enabled ⟨some "session", none, none, true⟩
  have run := run.sent (entry 1) (by decide) (by decide)
  have run := run.sent (entry 2) (by decide) (by decide)
  have run := (run.acknowledged 1 (.confirms 1 ⟨by decide, by decide, by decide⟩)).deactivated
  have run := run.resumed 2 2 (by decide) (by decide) (by decide)
  exact ⟨_, _, run, by decide, by decide, by decide, refines_of_run run⟩

end Xmpp.Resumption
