import Xmpp.Proofs.Delivery.Turns

/-!
# Lives of a client

A client goes from one operation to the next, and between two of them it comes to rest,
one move at a time. All of that turns the story of its tokens, so the story stays
consistent for as long as the client lives (`Life.Lived.sound`). Two things have to be
remembered that no client knows: of each element, whether it was kept when it was handed
over last, and which elements were given up without a verdict.

## What becomes of what is kept

An operation begins with what its owner or the peer asks for, and it is here that the peer
decides over the elements that are kept. The changes that are made then are many, but all
of what they mean for one element is its `Session.Fate`: it is still kept, or it was
dropped, or a word of the peer settles it. The reports the peer gives are judged by what
the resumable session was when the operation began, although several modules may have
heard the element since; this is what the session's `Remains` are for.
-/

namespace Xmpp

open Delivery Resumption

/-! ## Proper operations -/

/-- The element that is heard in an operation. -/
def Operation.heard? : Operation → Option Element
  | .receive element | .process _ element => some element
  | _ => none

/-- **Proper operations**: modules that are called do to the resumable session no more than
the library lets them. -/
def Operation.Proper (op : Operation) : Prop :=
  ∀ changes, op = .call changes → ∀ change ∈ changes, change.Aloof

/-- **What happens when an element is heard**, or when none is: aloof changes, and what the
element rules. -/
def Session.Hearing (heard? : Option Element) (s : Session) (change : Change) : Prop :=
  change.Aloof ∨ ∃ e, heard? = some e ∧ e.Rules s change

/-- In a proper operation nothing happens but that. -/
theorem Operation.Proper.hearing {op : Operation} (proper : op.Proper) {s : Session}
    {change : Change} (allowed : op.Allows Change.Aloof s change) :
    s.Hearing op.heard? change := by
  rcases allowed with silent | aloof | brings
  · exact .inl silent.quiet.aloof
  · exact .inl aloof
  · cases op with
    | write element =>
      obtain rfl := brings
      exact .inl rfl
    | submit request =>
      obtain rfl := brings
      exact .inl rfl
    | send draft =>
      rcases brings with ⟨drawn, rfl⟩ | ⟨usual, now, drawn, rfl⟩ <;> exact .inl rfl
    | call changes => exact .inl (proper changes rfl change brings)
    | cancel key =>
      obtain rfl := brings
      exact .inl rfl
    | connecting | connected _ | lost =>
      obtain ⟨old, new, rfl⟩ := brings
      exact .inl rfl
    | receive element => exact .inr ⟨element, rfl, brings⟩
    | process id element => exact .inr ⟨element, rfl, brings⟩
    | _ => cases brings

/-! ## What is left of a context -/

namespace Resumption.Context

/-- A report confirms no more of what is left of a queue than of the queue. -/
theorem mem_confirmed_of_suffix {old new : Context} (houtgoing : new.outgoing = old.outgoing)
    (hsuffix : new.unacked <:+ old.unacked) {report : UInt32} {entry : Entry}
    (hmem : entry ∈ new.confirmed report) : entry ∈ old.confirmed report := by
  obtain ⟨front, hfront⟩ := hsuffix
  have hlength : old.unacked.length = front.length + new.unacked.length := by
    rw [← hfront, List.length_append]
  unfold confirmed confirmedBy at hmem ⊢
  rw [houtgoing] at hmem
  dsimp only at hmem ⊢
  by_cases hlt : (old.outgoing - report).toNat < 0x80000000
  · rw [if_pos hlt] at hmem ⊢
    generalize (old.outgoing - report).toNat = n at hmem ⊢
    have hpos : 0 < new.unacked.length - n := by
      rcases Nat.eq_zero_or_pos (new.unacked.length - n) with hzero | hpos
      · rw [hzero] at hmem
        cases hmem
      · exact hpos
    have hle : old.unacked.length - n = front.length + (new.unacked.length - n) := by omega
    rw [hle, ← hfront, List.take_length_add_append]
    exact List.mem_append_right _ hmem
  · rw [if_neg hlt] at hmem
    cases hmem

/-- **What is left of a context** while an element is heard: the last ones of what it kept,
counted as before. One that waits to be enabled goes on waiting if enabling it failed. -/
structure Remains (heard? : Option Element) (old new : Context) : Prop where
  outgoing : new.outgoing = old.outgoing
  suffix : new.unacked <:+ old.unacked
  pending : ∀ e, heard? = some e → e.name = "failed" →
    (new.status = .pending ↔ old.status = .pending)

namespace Remains

variable {heard? : Option Element} {old new new' : Context}

theorem refl (heard? : Option Element) (c : Context) : c.Remains heard? c :=
  ⟨rfl, List.suffix_refl _, fun _ _ _ => Iff.rfl⟩

/-- What drifts is left. -/
theorem drift (h : old.Remains heard? new) (drifts : new.Drifts new') :
    old.Remains heard? new' := by
  refine ⟨drifts.outgoing.trans h.outgoing, drifts.unacked ▸ h.suffix, fun e heard hname => ?_⟩
  rw [← h.pending e heard hname]
  rcases drifts.status with hstatus | ⟨hold, hnew⟩
  · rw [hstatus]
  · simp [hold, hnew]

/-- A report leaves what it does not confirm. -/
theorem acknowledge (h : old.Remains heard? new) (report : UInt32) :
    old.Remains heard? (new.acknowledge report) :=
  ⟨h.outgoing, (List.drop_suffix _ _).trans h.suffix, h.pending⟩

end Remains

end Resumption.Context

/-- What is kept is kept by the session that can be resumed. -/
theorem Session.exists_of_mem_unconfirmed {s : Session} {entry : Entry}
    (h : entry ∈ s.unconfirmed) :
    ∃ context, s.resumption? = some context ∧ entry ∈ context.unacked := by
  cases hs : s.resumption? with
  | none =>
    rw [unconfirmed_of_none hs] at h
    cases h
  | some context => exact ⟨context, rfl, by rwa [unconfirmed_of_some hs] at h⟩

/-! ## Fates -/

/-- **What an element reports** to be handled, in the state where it is heard. A failure
reports nothing about a session that was not enabled yet. -/
def Element.Reports (e : Element) (s : Session) (report : UInt32) : Prop :=
  readAck? e = some report
    ∨ (Resumed.read? e).map (·.h) = some report
    ∨ e.name = "failed" ∧ (Failed.salvage e).h = some report
      ∧ s.managementStatus? ≠ some .pending

namespace Session

/-- **What became of an element that was kept**, by the time an operation did its part. -/
inductive Fate (heard? : Option Element) (s₀ s : Session) (entry : Entry) : Prop
  /-- It is still kept. -/
  | kept (h : entry ∈ s.unconfirmed)
  /-- It was dropped. -/
  | dropped (h : s.board.state? entry.token = some .dropped)
  /-- The peer was heard to confirm it. -/
  | acked {e : Element} {context : Context} {report : UInt32} (heard : heard? = some e)
      (reports : e.Reports s₀ report) (holds : s₀.resumption? = some context)
      (hmem : entry ∈ context.confirmed report) (h : s.board.state? entry.token = some .acked)
  /-- The session was resumed, and it is to be sent again. -/
  | again {e : Element} (heard : heard? = some e) (resumed : (Resumed.read? e).isSome = true)
      (h : entry ∈ s.unsent)
  /-- The session could not be enabled, and it was given up. -/
  | forgone {e : Element} (heard : heard? = some e) (failed : e.name = "failed")
      (pending : s₀.managementStatus? = some .pending) (h : s.resumption? = none)

variable {heard? : Option Element} {s₀ s s' : Session} {entry : Entry} {change : Change}
variable {forgone handed managed : List Token}

/-- What became of an element stays so, unless it is kept and may yet go another way. -/
theorem Fate.persist (fate : Fate heard? s₀ s entry)
    (hkept : entry ∈ s.unconfirmed → Fate heard? s₀ s' entry)
    (advances : s.board.Advances s'.board) (hunsent : entry ∈ s.unsent → entry ∈ s'.unsent)
    (hnone : ∀ e, heard? = some e → e.name = "failed" → s.resumption? = none →
      s'.resumption? = none) : Fate heard? s₀ s' entry := by
  cases fate with
  | kept h => exact hkept h
  | dropped h =>
    obtain ⟨state, hstate, -, hfinal⟩ := advances _ _ h
    obtain rfl := hfinal trivial
    exact .dropped hstate
  | acked heard reports holds hmem h =>
    obtain ⟨state, hstate, -, hfinal⟩ := advances _ _ h
    obtain rfl := hfinal trivial
    exact .acked heard reports holds hmem hstate
  | again heard resumed h => exact .again heard resumed (hunsent h)
  | forgone heard failed pending h => exact .forgone heard failed pending (hnone _ heard failed h)

namespace Calm

/-- A session that can be resumed comes from one that could, by drifting. -/
theorem drifts (calm : s.Calm s') {context' : Context} (h : s'.resumption? = some context') :
    ∃ context, s.resumption? = some context ∧ context.Drifts context' := by
  cases calm with
  | still _ _ f hdrifts hs =>
    obtain ⟨context, hcontext, rfl⟩ := Option.map_eq_some_iff.1 (hs.symm.trans h)
    exact ⟨context, hcontext, hdrifts context⟩
  | write _ _ _ hs => exact ⟨context', hs.symm.trans h, .refl context'⟩
  | forget _ _ hs =>
    rw [hs] at h
    cases h

theorem resumption?_eq_none (calm : s.Calm s') (h : s.resumption? = none) :
    s'.resumption? = none := by
  rw [Option.eq_none_iff_forall_ne_some]
  intro context' hs
  obtain ⟨context, hcontext, -⟩ := calm.drifts hs
  rw [h] at hcontext
  cases hcontext

end Calm

end Session

/-! ## The aftermath of an operation -/

/-- What an element that enables stream management is called. -/
theorem Element.Enables.name_ne_failed {e : Element} {enabled : Enabled} (h : e.Enables enabled) :
    e.name ≠ "failed" := by
  rcases h with h | ⟨h, -⟩
  · rw [Element.name_of_enabled h]
    decide
  · rw [h]
    decide

namespace Element.Rules

variable {heard? : Option Element} {e : Element} {s : Session} {change : Change} {entry : Entry}
variable (h : e.Rules s change)

include h

theorem keepsOff : change.KeepsOff := by
  cases change with
  | remember scope key value => cases h
  | _ => trivial

/-- Without a session to resume there is none after a failure. -/
theorem resumption?_eq_none (failed : e.name = "failed") (hnone : s.resumption? = none) :
    (s.change change).resumption? = none := by
  cases change with
  | enable enabled => exact absurd failed h.1.name_ne_failed
  | begin context =>
    obtain ⟨enabled, -, henables, -⟩ := h
    exact absurd failed henables.name_ne_failed
  | acknowledge report =>
    show (s.acknowledge report).resumption? = none
    rw [Session.resumption?_acknowledge, hnone]
    rfl
  | resume report =>
    show (s.continueFrom report).resumption? = none
    rwa [Session.continueFrom, hnone]
  | abandon => exact s.resumption?_abandonResumption
  | _ => cases h

/-- A session keeps nothing then, or it keeps what is left of it. -/
theorem remains (heard : heard? = some e) {context' : Context}
    (hs' : (s.change change).resumption? = some context') :
    context'.unacked = []
      ∨ ∃ context, s.resumption? = some context ∧ context'.unacked <:+ context.unacked
        ∧ ∀ old : Context, old.Remains heard? context → old.Remains heard? context' := by
  cases change with
  | enable enabled =>
    obtain ⟨context, hs, rfl⟩ :=
      Option.map_eq_some_iff.1 ((s.resumption?_modifyResumption _).symm.trans hs')
    refine .inr ⟨context, hs, List.suffix_refl _, fun old hremains => ?_⟩
    refine ⟨hremains.outgoing, hremains.suffix, ?_⟩
    intro e' heard' failed
    obtain rfl := Option.some.inj (heard.symm.trans heard')
    exact absurd failed h.1.name_ne_failed
  | begin context =>
    obtain ⟨enabled, rfl, -, -⟩ := h
    obtain rfl := Option.some.inj ((s.resumption?_startResumption _).symm.trans hs')
    exact .inl rfl
  | acknowledge report =>
    obtain ⟨context, hs, rfl⟩ :=
      Option.map_eq_some_iff.1 ((s.resumption?_acknowledge report).symm.trans hs')
    exact .inr ⟨context, hs, List.drop_suffix _ _, fun old hremains => hremains.acknowledge report⟩
  | resume report =>
    cases hs : s.resumption? with
    | none =>
      have hnone : (s.continueFrom report).resumption? = none := by
        rwa [Session.continueFrom, hs]
      cases hnone.symm.trans hs'
    | some context =>
      obtain rfl := Option.some.inj ((s.resumption?_continueFrom hs report).symm.trans hs')
      exact .inl rfl
  | abandon => cases s.resumption?_abandonResumption.symm.trans hs'
  | _ => cases h

end Element.Rules

/-- **The aftermath** of what happened since a session was in some state: its story is
consistent and went on, and for each element that was kept there is a fate. -/
structure Session.Aftermath (heard? : Option Element) (forgone handed managed : List Token)
    (s₀ s : Session) : Prop where
  clean : s.properties.Clean
  distinct : s.properties.Distinct
  consistent : (s.story handed managed).Consistent forgone
  advances : s₀.board.Advances s.board
  remains : ∀ context, s.resumption? = some context →
    context.unacked = []
      ∨ ∃ old : Context, s₀.resumption? = some old ∧ old.Remains heard? context
  fates : ∀ entry ∈ s₀.unconfirmed, Session.Fate heard? s₀ s entry

namespace Session.Aftermath

variable {heard? : Option Element} {forgone handed managed : List Token} {s₀ s s' : Session}
variable {change : Change}

theorem refl (clean : s.properties.Clean) (distinct : s.properties.Distinct)
    (consistent : (s.story handed managed).Consistent forgone) :
    Aftermath heard? forgone handed managed s s :=
  ⟨clean, distinct, consistent, .refl _, fun context hs => .inr ⟨context, hs, .refl _ _⟩,
    fun _ => .kept⟩

variable (h : Aftermath heard? forgone handed managed s₀ s)

include h

/-- The state of an element that is kept. -/
theorem sent {entry : Entry} (hmem : entry ∈ s.unconfirmed) :
    s.board.state? entry.token = some .sent :=
  h.consistent.sent entry hmem

/-- What is kept was kept before, by a session that was as far. -/
theorem remains_of_mem {context : Context} (hs : s.resumption? = some context) {entry : Entry}
    (hmem : entry ∈ context.unacked) :
    ∃ old : Context, s₀.resumption? = some old ∧ old.Remains heard? context := by
  refine (h.remains context hs).resolve_left fun hnil => ?_
  rw [hnil] at hmem
  cases hmem

/-- **An aloof change.** -/
theorem aloof (aloof : change.Aloof) :
    Aftermath heard? forgone handed managed s₀ (s.change change) := by
  have calm := calm_change h.clean h.distinct aloof
  have turns : Story.Turns False forgone (s.story handed managed)
      ((s.change change).story handed managed) := calm.turns
  obtain ⟨hconsistent, hadvances⟩ := turns.consistent h.consistent
  refine ⟨clean_change h.clean aloof.keepsOff, distinct_change h.distinct change, hconsistent,
    h.advances.trans hadvances, fun context' hs => ?_, fun entry hmem => ?_⟩
  · obtain ⟨context, hcontext, drifts⟩ := calm.drifts hs
    refine (h.remains context hcontext).imp (fun hnil => drifts.unacked.trans hnil) ?_
    exact fun ⟨old, hold, hremains⟩ => ⟨old, hold, hremains.drift drifts⟩
  · refine (h.fates entry hmem).persist (fun hkept => ?_) hadvances
      (mem_unsent_of_mem · change) fun _ _ _ => calm.resumption?_eq_none
    exact (turns.kept_or_dropped h.consistent hkept).elim .kept .dropped

/-- Whether a session that keeps something waits to be enabled did not change, if enabling it
failed. -/
theorem pending_iff {e : Element} (heard : heard? = some e) (failed : e.name = "failed")
    {entry : Entry} (hmem : entry ∈ s.unconfirmed) :
    s.managementStatus? = some .pending ↔ s₀.managementStatus? = some .pending := by
  obtain ⟨context, hs, hmem⟩ := exists_of_mem_unconfirmed hmem
  obtain ⟨old, hold, hremains⟩ := h.remains_of_mem hs hmem
  rw [managementStatus?, managementStatus?, hs, hold]
  simpa using hremains.pending e heard failed

/-- What is kept was kept before. -/
theorem mem_unconfirmed {entry : Entry} (hmem : entry ∈ s.unconfirmed) :
    entry ∈ s₀.unconfirmed := by
  obtain ⟨context, hs, hmem⟩ := exists_of_mem_unconfirmed hmem
  obtain ⟨old, hold, hremains⟩ := h.remains_of_mem hs hmem
  rw [unconfirmed_of_some hold]
  exact hremains.suffix.subset hmem

/-- What a report confirms was confirmed by it before. -/
theorem acked {e : Element} {context : Context} {report : UInt32} {entry : Entry}
    (heard : heard? = some e) (reports : e.Reports s₀ report) (hs : s.resumption? = some context)
    (hmem : entry ∈ context.confirmed report)
    (hacked : s'.board.state? entry.token = some .acked) : Fate heard? s₀ s' entry := by
  obtain ⟨old, hold, hremains⟩ := h.remains_of_mem hs (List.mem_of_mem_take hmem)
  exact .acked heard reports hold
    (Context.mem_confirmed_of_suffix hremains.outgoing hremains.suffix hmem) hacked

/-- **What becomes of an element that is kept** when another one rules something. -/
theorem fate_of_rules {e : Element} (heard : heard? = some e) (rules : e.Rules s change)
    {entry : Entry} (hmem : entry ∈ s.unconfirmed) : Fate heard? s₀ (s.change change) entry := by
  obtain ⟨context, hs, hcontext⟩ := exists_of_mem_unconfirmed hmem
  -- what is kept is confirmed by a report, or it is not
  have hparts (report : UInt32) :
      entry ∈ context.confirmed report ∨ entry ∈ context.unconfirmed report := by
    rw [← List.mem_append, context.confirmed_append_unconfirmed]
    exact hcontext
  cases change with
  | enable enabled =>
    have hafter : (s.modifyResumption (·.enable enabled)).resumption?
        = some (context.enable enabled) := by
      rw [resumption?_modifyResumption, hs]
      rfl
    refine .kept ?_
    show entry ∈ (s.modifyResumption _).unconfirmed
    rw [unconfirmed_of_some hafter]
    exact hcontext
  | begin context' => exact .dropped (Board.state?_setAll_of_mem hmem (h.sent hmem))
  | acknowledge report =>
    rcases hparts report with hconfirmed | hunconfirmed
    · have hacked : (s.acknowledge report).board.state? entry.token = some .acked := by
        rw [board_acknowledge hs]
        exact Board.state?_setAll_of_mem hconfirmed (h.sent hmem)
      refine h.acked heard ?_ hs hconfirmed hacked
      refine rules.imp id fun hfailed => .inr ⟨hfailed.1, hfailed.2.1, ?_⟩
      rw [ne_eq, ← h.pending_iff heard hfailed.1 hmem]
      exact hfailed.2.2
    · refine .kept ?_
      have hafter : (s.acknowledge report).resumption? = some (context.acknowledge report) := by
        rw [resumption?_acknowledge, hs]
        rfl
      show entry ∈ (s.acknowledge report).unconfirmed
      rw [unconfirmed_of_some hafter]
      exact hunconfirmed
  | resume report =>
    obtain ⟨resumed, hread, rfl⟩ := rules
    rcases hparts resumed.h with hconfirmed | hunconfirmed
    · have hacked : (s.continueFrom resumed.h).board.state? entry.token = some .acked := by
        rw [continueFrom, hs]
        exact Board.state?_setAll_of_mem hconfirmed (h.sent hmem)
      exact h.acked heard (.inr (.inl (by rw [hread]; rfl))) hs hconfirmed hacked
    · refine .again heard (by rw [hread]; rfl) ?_
      show entry ∈ (s.continueFrom resumed.h).unsent
      rw [continueFrom, hs]
      dsimp only
      rw [unsent_resend]
      exact List.mem_append_right _ hunconfirmed
  | abandon =>
    exact .forgone heard rules.1 ((h.pending_iff heard rules.1 hmem).1 rules.2)
      s.resumption?_abandonResumption
  | _ => cases rules

/-- **What an element rules**, if what was kept may be given up. -/
theorem rules {e : Element} (heard : heard? = some e) (rules : e.Rules s change)
    (hforgone : ∀ entry ∈ s₀.unconfirmed, entry.token ∈ forgone) :
    Aftermath heard? forgone handed managed s₀ (s.change change) := by
  have turns : Story.Turns True forgone (s.story handed managed)
      ((s.change change).story handed managed) :=
    rules.turns fun _ entry hmem => hforgone entry (h.mem_unconfirmed hmem)
  obtain ⟨hconsistent, hadvances⟩ := turns.consistent h.consistent
  refine ⟨clean_change h.clean rules.keepsOff, distinct_change h.distinct change, hconsistent,
    h.advances.trans hadvances, fun context' hs => ?_, fun entry hmem => ?_⟩
  · rcases rules.remains heard hs with hnil | ⟨context, hcontext, hsuffix, hremains⟩
    · exact .inl hnil
    · refine (h.remains context hcontext).imp (fun hnil => ?_) ?_
      · exact List.suffix_nil.1 (hnil ▸ hsuffix)
      · exact fun ⟨old, hold, hold'⟩ => ⟨old, hold, hremains old hold'⟩
  · refine (h.fates entry hmem).persist (h.fate_of_rules heard rules) hadvances
      (mem_unsent_of_mem · change) ?_
    intro e' heard' failed
    obtain rfl := Option.some.inj (heard.symm.trans heard')
    exact rules.resumption?_eq_none failed

/-- **Nothing is forgone** but what was given up when the session could not be enabled and
is gone. -/
theorem narrow {forgone' : List Token}
    (hforgone : ∀ token ∈ forgone, token ∈ forgone'
      ∨ ∃ entry ∈ s₀.unconfirmed, entry.token = token)
    (hgone : ∀ e, heard? = some e → e.name = "failed" → s₀.managementStatus? = some .pending →
      s.resumption? = none → ∀ entry ∈ s₀.unconfirmed, entry.token ∈ forgone') :
    Aftermath heard? forgone' handed managed s₀ s := by
  refine { h with consistent := { h.consistent with held := fun token hmem hsent => ?_ } }
  rcases h.consistent.held token hmem hsent with hkept | hwaits | hmem
  · exact .inl hkept
  · exact .inr (.inl hwaits)
  · rcases hforgone token hmem with hmem | ⟨entry, hentry, rfl⟩
    · exact .inr (.inr hmem)
    · have hstate {state : State} (h : s.board.state? entry.token = some state) :
          state = .sent := Option.some.inj (h.symm.trans hsent)
      cases h.fates entry hentry with
      | kept hkept => exact .inl (List.mem_map_of_mem hkept)
      | dropped hdropped => cases hstate hdropped
      | acked _ _ _ _ hacked => cases hstate hacked
      | again _ _ hwaits => exact .inr (.inl (List.mem_map_of_mem hwaits))
      | forgone heard failed pending hnone =>
        exact .inr (.inr (hgone _ heard failed pending hnone entry hentry))

omit h in
/-- **Whatever is part of hearing an element** has such an aftermath. -/
theorem of_course {forgone' : List Token} (clean : s₀.properties.Clean)
    (distinct : s₀.properties.Distinct) (consistent : (s₀.story handed managed).Consistent forgone)
    (course : s₀.Course (Hearing heard?) s) (hle : ∀ token ∈ forgone, token ∈ forgone')
    (hgone : ∀ e, heard? = some e → e.name = "failed" → s₀.managementStatus? = some .pending →
      s.resumption? = none → ∀ entry ∈ s₀.unconfirmed, entry.token ∈ forgone') :
    Aftermath heard? forgone' handed managed s₀ s := by
  let wide := forgone ++ s₀.unconfirmed.map (·.token)
  have hkept : ∀ entry ∈ s₀.unconfirmed, entry.token ∈ wide :=
    fun entry hmem => List.mem_append_right _ (List.mem_map_of_mem hmem)
  -- at first everything that is kept may be given up, and only then is it asked what was
  have hwide : Aftermath heard? wide handed managed s₀ s := by
    refine course.invariant (I := fun s => Aftermath heard? wide handed managed s₀ s)
      (.refl clean distinct (consistent.widen fun _ => List.mem_append_left _)) ?_
    rintro s change (aloof | ⟨e, heard, rules⟩) ih
    · exact ih.aloof aloof
    · exact ih.rules heard rules hkept
  refine hwide.narrow (fun token hmem => ?_) hgone
  exact (List.mem_append.1 hmem).imp (hle token) List.mem_map.1

end Session.Aftermath

/-! ## Lives -/

/-- **What is given up** with an operation: what was kept for a session that was to be
enabled, if it was heard that it could not be. -/
def Client.givenUp (c : Client) (op : Operation) : List Token :=
  if op.heard?.any (·.name = "failed") ∧ c.session.managementStatus? = some .pending
      ∧ (c.prepare op).session.resumption? = none then
    c.session.unconfirmed.map (·.token)
  else []

/-- **A client in the course of its life**, and what has to be remembered of it. -/
structure Life where
  /-- The client. -/
  client : Client
  /-- The tokens of the elements that were kept when they were handed over last. -/
  managed : List Token := []
  /-- The tokens of the elements that were given up when a session could not be
  enabled. -/
  forgone : List Token := []

namespace Life

/-- The story of the tokens of a client. -/
def story (a : Life) : Story :=
  a.client.session.story a.client.handed a.managed

/-- **A life goes on**, with an element that is heard if there is one. -/
inductive Goes (a : Life) : Option Element → Life → Prop
  /-- The client begins with an operation. -/
  | prepare (op : Operation) (atRest : a.client.AtRest) (proper : op.Proper) :
      Goes a op.heard?
        { a with client := a.client.prepare op, forgone := a.forgone ++ a.client.givenUp op }
  /-- The oldest item of the outbox is handed over. -/
  | deliver {item : Outgoing} {rest : List Outgoing} (ho : a.client.session.outbox = item :: rest) :
      Goes a none
        { a with
          client := (a.client.withOutbox rest).deliver item
          managed := a.client.managedAfter a.managed item }
  /-- The controller reacts to the oldest event. -/
  | react {event : Event} {rest : List Event} (ho : a.client.session.outbox = [])
      (he : a.client.session.events = event :: rest) :
      Goes a none { a with client := (a.client.withEvents rest).handleEvent event }

/-- **One life leads to another** as it goes on. -/
abbrev Leads : Life → Life → Prop :=
  Relation.ReflTransGen fun a b => ∃ heard?, a.Goes heard? b

/-- **Lives** begin with a client that has no modules yet. -/
def Lived (a : Life) : Prop :=
  ∃ (config : Config) (catalogue : Catalogue), Leads ⟨.blank config catalogue, [], []⟩ a

/-- **A sound life**: its story is consistent, and contexts are in their place. -/
structure Sound (a : Life) : Prop where
  clean : a.client.session.properties.Clean
  distinct : a.client.session.properties.Distinct
  consistent : a.story.Consistent a.forgone

end Life

namespace Client

variable {c : Client}

/-- Nothing is handed over before the moves of an operation. -/
theorem handed_prepare (c : Client) (op : Operation) : (c.prepare op).handed = c.handed := by
  cases op with
  | connecting | connected _ | lost => exact handed_setConnector _ _
  | disconnect =>
    show Client.handed (if c.transport.isNone then c else _) = _
    split <;> rfl
  | process id element =>
    unfold Client.prepare
    dsimp only
    split <;> rfl
  | nextEvent =>
    show c.nextEvent.2.handed = _
    unfold Client.nextEvent
    split <;> rfl
  | _ => rfl

/-- After handing over an item each property still stands once. -/
theorem distinct_deliver (h : c.session.properties.Distinct) (item : Outgoing) :
    (c.deliver item).session.properties.Distinct :=
  properties_deliver item h (h.clear .stream) (h.cons _) (h.modify _)

end Client

namespace Life

variable {a b : Life} {heard? : Option Element}

/-- **What becomes of an element that is kept** while a life goes on. -/
def Fate (a : Life) (heard? : Option Element) (b : Life) (entry : Entry) : Prop :=
  a.client.session.Fate heard? b.client.session entry

theorem sound_blank (config : Config) (catalogue : Catalogue) :
    Sound ⟨.blank config catalogue, [], []⟩ := by
  refine ⟨(Client.Fit.blank config catalogue).clean, List.nodup_nil, ?_⟩
  constructor
  · exact List.nodup_nil
  · exact fun _ hmem => absurd hmem List.not_mem_nil
  · exact fun _ hmem => absurd hmem List.not_mem_nil
  · exact fun token hqueued => absurd (show ([] : List State)[token]? = _ from hqueued) (by simp)
  · exact List.Pairwise.nil
  · exact fun _ hmem => absurd hmem List.not_mem_nil
  · exact fun _ hmem => absurd hmem List.not_mem_nil
  · exact fun _ hmem => absurd hmem List.not_mem_nil

/-- **A life that goes on stays sound**, its board moves on, and every element that was kept
has its fate. -/
theorem Goes.sound (goes : a.Goes heard? b) (sound : a.Sound) :
    b.Sound ∧ a.client.session.board.Advances b.client.session.board
      ∧ ∀ entry ∈ a.client.session.unconfirmed, a.Fate heard? b entry := by
  cases goes with
  | prepare op atRest proper =>
    have course : a.client.session.Course (Session.Hearing op.heard?)
        (a.client.prepare op).session :=
      (Session.Course.prepare a.client op (Catalogue.within_aloof _)).mono
        fun _ _ => proper.hearing
    have after : Session.Aftermath op.heard? (a.forgone ++ a.client.givenUp op)
        a.client.handed a.managed a.client.session (a.client.prepare op).session := by
      refine .of_course sound.clean sound.distinct sound.consistent course
        (fun _ => List.mem_append_left _) ?_
      intro e heard failed pending hnone entry hmem
      refine List.mem_append_right _ ?_
      rw [Client.givenUp, heard, if_pos ⟨by simpa using failed, pending, hnone⟩]
      exact List.mem_map_of_mem hmem
    refine ⟨⟨after.clean, after.distinct, ?_⟩, after.advances, after.fates⟩
    show (Session.story _ (a.client.prepare op).handed a.managed).Consistent _
    rw [Client.handed_prepare]
    exact after.consistent
  | @deliver item rest ho =>
    have turns : Story.Turns False a.forgone a.story _ := Client.turns_deliver sound.clean ho
    obtain ⟨hconsistent, hadvances⟩ := turns.consistent sound.consistent
    have clean : (a.client.withOutbox rest).session.properties.Clean := sound.clean
    have distinct : (a.client.withOutbox rest).session.properties.Distinct := sound.distinct
    refine ⟨⟨Client.clean_deliver clean item, Client.distinct_deliver distinct item, hconsistent⟩,
      hadvances, fun entry hmem => ?_⟩
    exact (turns.kept_or_dropped sound.consistent hmem).elim .kept .dropped
  | @react event rest ho he =>
    have course : (a.client.withEvents rest).session.Course (Session.Hearing none)
        ((a.client.withEvents rest).handleEvent event).session := by
      obtain ⟨k, -, steps⟩ := Session.Steps.react a.client.controller
        (a.client.withEvents rest).session event
      exact .of_steps steps fun _ _ quiet => .inl quiet.aloof
    have after : Session.Aftermath none a.forgone a.client.handed a.managed
        (a.client.withEvents rest).session
        ((a.client.withEvents rest).handleEvent event).session :=
      .of_course sound.clean sound.distinct sound.consistent course (fun _ hmem => hmem)
        fun e heard => by cases heard
    refine ⟨⟨after.clean, after.distinct, after.consistent⟩, after.advances, fun entry hmem => ?_⟩
    -- nobody was heard, so there is no other fate
    cases after.fates entry hmem with
    | kept h => exact .kept h
    | dropped h => exact .dropped h
    | acked heard | again heard | forgone heard => cases heard

/-- Lives are sound. -/
theorem Lived.sound (lived : a.Lived) : a.Sound := by
  obtain ⟨config, catalogue, leads⟩ := lived
  induction leads with
  | refl => exact sound_blank config catalogue
  | tail _ goes ih =>
    obtain ⟨heard?, goes⟩ := goes
    exact (goes.sound ih).1

theorem Lived.trans (lived : a.Lived) (leads : a.Leads b) : b.Lived := by
  obtain ⟨config, catalogue, first⟩ := lived
  exact ⟨config, catalogue, first.trans leads⟩

/-- **A board moves on** for as long as a life does. -/
theorem Leads.advances (leads : a.Leads b) (sound : a.Sound) :
    a.client.session.board.Advances b.client.session.board := by
  suffices h : b.Sound ∧ a.client.session.board.Advances b.client.session.board from h.2
  induction leads with
  | refl => exact ⟨sound, .refl _⟩
  | tail _ goes ih =>
    obtain ⟨heard?, goes⟩ := goes
    obtain ⟨hsound, hadvances, -⟩ := goes.sound ih.1
    exact ⟨hsound, ih.2.trans hadvances⟩

/-- Moves are part of a life, and nothing is given up in them. -/
theorem Leads.of_moves {log : List Request} {c : Client} (moves : Client.Moves a.client log c) :
    ∃ b, a.Leads b ∧ b.client = c ∧ b.forgone = a.forgone := by
  induction moves with
  | refl => exact ⟨a, .refl, rfl, rfl⟩
  | deliver _ ho ih =>
    obtain ⟨b, leads, rfl, hb⟩ := ih
    exact ⟨_, leads.tail ⟨none, .deliver ho⟩, rfl, hb⟩
  | react _ ho he ih =>
    obtain ⟨b, leads, rfl, hb⟩ := ih
    exact ⟨_, leads.tail ⟨none, .react ho he⟩, rfl, hb⟩

/-- **Every proper operation is part of a life.** -/
theorem Leads.operate (atRest : a.client.AtRest) {op : Operation} (proper : op.Proper) :
    ∃ b, a.Leads b ∧ b.client = a.client.operate op
      ∧ b.forgone = a.forgone ++ a.client.givenUp op := by
  obtain ⟨log, moves⟩ := Client.Moves.run (a.client.prepare op)
  obtain ⟨b, leads, hclient, hforgone⟩ := Leads.of_moves
    (a := { a with client := a.client.prepare op, forgone := a.forgone ++ a.client.givenUp op })
    moves
  exact ⟨b, .head ⟨_, .prepare op atRest proper⟩ leads,
    hclient.trans (Client.operate_eq atRest op).symm, hforgone⟩

/-- **So is every run of proper operations.** Nothing is given up in it unless a failure is
heard. -/
theorem Leads.operations (atRest : a.client.AtRest) (ops : List Operation)
    (proper : ∀ op ∈ ops, op.Proper) :
    ∃ b, a.Leads b ∧ b.client = ops.foldl Client.operate a.client ∧ b.client.AtRest
      ∧ ((∀ op ∈ ops, op.heard?.any (·.name = "failed") = false) → b.forgone = a.forgone) := by
  induction ops generalizing a with
  | nil => exact ⟨a, .refl, rfl, atRest, fun _ => rfl⟩
  | cons op rest ih =>
    obtain ⟨b, leads, hb, hforgone⟩ := Leads.operate atRest (proper op List.mem_cons_self)
    have hrest : b.client.AtRest := hb ▸ atRest.operate op
    obtain ⟨last, leads', hlast, hrests, hkept⟩ :=
      ih hrest fun other hmem => proper other (List.mem_cons_of_mem _ hmem)
    refine ⟨last, leads.trans leads', by rw [hlast, hb, List.foldl_cons], hrests,
      fun hunheard => ?_⟩
    have hnothing : a.client.givenUp op = [] := by
      rw [Client.givenUp, hunheard op List.mem_cons_self]
      exact if_neg fun h => Bool.false_ne_true h.1
    rw [hkept fun other hmem => hunheard other (List.mem_cons_of_mem _ hmem), hforgone, hnothing,
      List.append_nil]

end Life

end Xmpp
