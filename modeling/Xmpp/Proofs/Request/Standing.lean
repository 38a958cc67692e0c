import Xmpp.Proofs.Request.Books

/-!
# The standing of a request

A request that is given to a client can be resolved in many ways: by a reply, by
an error reply, by housekeeping, with all others when a session ends, by being
cancelled, for want of a transport, by a transport that refuses it, and, if
nobody answers it, by being handed over. Whatever happens in whatever order, its
handlers are called once at most, and whenever the client is at rest the request
stands in one of three ways: it was resolved and is forgotten, it waits under its
key, or another request was registered under the same key while it waited. In the
last case it is never resolved (`Client.Standing`).

A request is told from all others by a mark of its own: one of its handlers bears
it, and no handler of any other request that was given.

The proof keeps the books of that mark (`Session.books`). They hold one call or
one waiting handler from the moment the request is given, until another request
takes its key and they hold nothing for good.
-/

namespace Xmpp

open Delivery

/-- The request that comes with a change. -/
def Change.request? : Change → Option Request
  | .give request => some request
  | _ => none

/-- **A request with a mark of its own** among those that were given. -/
structure Request.Own (m : Mark) (r : Request) (given : List Request) : Prop where
  /-- It was given. -/
  mem : r ∈ given
  /-- One of its handlers bears the mark. -/
  bearing : r.bearing m = 1
  /-- No other handler does. -/
  sole : total (given.map (Request.bearing m)) = 1

/-- **A request was superseded**: after it came to wait for a reply, another one
with the same key did, which does not bear its mark. -/
def Request.Superseded (m : Mark) (r : Request) (registered : List Request) : Prop :=
  ∃ before between after q, registered = before ++ r :: between ++ q :: after
    ∧ q.key = r.key ∧ q.bearing m = 0

/-- **How a request stands** that bears a mark of its own, in a client at
rest. -/
inductive Client.Standing (m : Mark) (r : Request) (registered : List Request) (c : Client) :
    Prop
  /-- Its handlers were called once, and it is no longer registered. -/
  | resolved (called : c.session.called m = 1)
      (gone : ∀ q ∈ c.session.registry.requests, q.bearing m = 0)
  /-- It is an `iq` that was not resolved, and registered under its key. -/
  | pending (called : c.session.called m = 0) (iq : r.key.name = "iq")
      (uncompleted : r.isCompleted = false) (found : c.session.registry.find? r.key = some r)
  /-- It was an `iq` that was not resolved when another request took its key, and
  it will never be resolved. -/
  | superseded (called : c.session.called m = 0) (iq : r.key.name = "iq")
      (gone : ∀ q ∈ c.session.registry.requests, q.bearing m = 0)
      (other : r.Superseded m registered)
      (never : ∀ {given' registered' c'}, c.Run given' registered' c' →
        (∀ q ∈ given', q.bearing m = 0) → c'.session.called m = 0)

namespace Session

variable {P : Change → Prop} {s s' : Session}

/-- The requests in the outbox after a change. -/
theorem requests_outbox_change (s : Session) (change : Change) :
    (s.change change).outbox.filterMap Outgoing.request?
      = s.outbox.filterMap Outgoing.request? ++ change.request?.toList := by
  have same {s' : Session} (h : s'.outbox = s.outbox) :
      s'.outbox.filterMap Outgoing.request?
        = s.outbox.filterMap Outgoing.request? ++ [] := by
    rw [h, List.append_nil]
  have pushed (item : Outgoing) : (s.outbox ++ [item]).filterMap Outgoing.request?
      = s.outbox.filterMap Outgoing.request? ++ item.request?.toList := by
    rw [List.filterMap_append]
    cases h : item.request? <;> simp [h]
  cases change with
  | write element => exact pushed _
  | give request => exact pushed _
  | restart => exact pushed _
  | close => exact pushed _
  | abandon => exact same (congrArg (·.outbox) s.abandonResumption_eq)
  | reset => exact same (congrArg (·.outbox) s.resetManagement_eq)
  | acknowledge report => exact same (congrArg (·.outbox) (s.acknowledge_eq report))
  | resume report =>
    show (s.continueFrom report).outbox.filterMap _ = _
    unfold continueFrom
    split
    · exact same rfl
    · rename_i context _
      show (s.outbox ++ (context.unconfirmed report).map fun entry =>
        Outgoing.element entry none).filterMap _ = _
      rw [List.filterMap_append]
      congr 1
      induction context.unconfirmed report with
      | nil => rfl
      | cons entry rest ih => exact ih
  | answer reply => exact same (congrArg (·.outbox) (s.resolves_answer reply).eq)
  | cancel key => exact same (congrArg (·.outbox) (s.resolves_cancel key).eq)
  | sweep condition =>
    refine same ?_
    show (Session.perform _ _).outbox = _
    rw [perform_eq]
  | _ => exact same rfl

/-- Where the requests of a session come from after changes. -/
theorem Changes.requests {Q : Request → Prop} (changes : s.Changes P s')
    (h : ∀ r, P (.give r) → Q r) :
    s'.registry.requests.Sublist s.registry.requests
      ∧ ∀ q ∈ s'.outbox.filterMap Outgoing.request?,
        q ∈ s.outbox.filterMap Outgoing.request? ∨ Q q := by
  refine changes.invariant (I := fun s' => s'.registry.requests.Sublist s.registry.requests
    ∧ ∀ q ∈ s'.outbox.filterMap Outgoing.request?,
      q ∈ s.outbox.filterMap Outgoing.request? ∨ Q q)
    ⟨List.Sublist.refl _, fun q hq => .inl hq⟩ ?_
  intro s' change hP hs'
  refine ⟨(s'.requests_change_sublist change).trans hs'.1, fun q hq => ?_⟩
  rw [requests_outbox_change] at hq
  rcases List.mem_append.1 hq with hq | hq
  · exact hs'.2 q hq
  · cases change with
    | give request =>
      obtain rfl := List.mem_singleton.1 hq
      exact .inr (h _ hP)
    | _ => cases hq

/-- The books after changes that come with requests. -/
theorem Changes.books {m : Mark} (changes : s.Changes Change.Sound s')
    (ordered : Registry.Ordered s.registry.requests) :
    s'.books m + total ((s.outbox.filterMap Outgoing.request?).map (Request.bearing m))
      = s.books m + total ((s'.outbox.filterMap Outgoing.request?).map (Request.bearing m)) := by
  have h := changes.invariant (I := fun s' => Registry.Ordered s'.registry.requests
    ∧ s'.books m + total ((s.outbox.filterMap Outgoing.request?).map (Request.bearing m))
      = s.books m + total ((s'.outbox.filterMap Outgoing.request?).map (Request.bearing m)))
    ⟨ordered, rfl⟩ ?_
  · exact h.2
  · intro s' change sound hs'
    refine ⟨hs'.1.sublist (s'.requests_change_sublist change), ?_⟩
    have hbearing : total (change.request?.toList.map (Request.bearing m)) = change.bearing m := by
      cases change <;> rfl
    have := hs'.2
    rw [books_change sound hs'.1, requests_outbox_change, List.map_append, total_append, hbearing]
    omega

/-- Quiet steps leave the books as they are. -/
theorem Steps.books {m : Mark} {k : Nat} (steps : s.Steps Change.Quiet k s')
    (ordered : Registry.Ordered s.registry.requests) : s'.books m = s.books m := by
  have h := steps.invariant (I := fun s' => Registry.Ordered s'.registry.requests
    ∧ s'.books m = s.books m) ⟨ordered, rfl⟩ ?_
  · exact h.2
  · intro s' change quiet hs'
    have plain := quiet.plain
    refine ⟨hs'.1.sublist (s'.requests_change_sublist change), ?_⟩
    have hbearing : change.bearing m = 0 := by
      cases change with
      | give request =>
        have := request.bearing_le_listeners m
        have := plain.2
        show request.bearing m = 0
        omega
      | _ => rfl
    rw [books_change plain.sound hs'.1, hs'.2, hbearing, Nat.add_zero]

end Session

/-! ## What every run keeps -/

/-- **The requests of a client in a run.** -/
structure Client.Kept (given registered : List Request) (c : Client) : Prop where
  /-- No two requests are registered under the same key. -/
  ordered : Registry.Ordered c.session.registry.requests
  /-- Only an `iq` is registered. -/
  iq : ∀ q ∈ c.session.registry.requests, q.key.name = "iq"
  /-- No open request was resolved before. -/
  made : ∀ q ∈ c.session.openRequests, q.Made
  /-- A request with handlers of the application was given in an operation. -/
  given : ∀ q ∈ c.session.openRequests, 0 < q.listeners → q ∈ given
  /-- What is registered was registered. -/
  registered : ∀ q ∈ c.session.registry.requests, q ∈ registered

namespace Client.Kept

variable {c c' : Client} {given registered log : List Request}

/-- A request of the outbox or of the registry is open. -/
theorem mem_openRequests {s : Session} {q : Request} :
    q ∈ s.openRequests ↔ q ∈ s.outbox.filterMap Outgoing.request? ∨ q ∈ s.registry.requests :=
  List.mem_append

/-- What comes to wait for a reply belonged to the item that was handed over, and is an `iq`. -/
theorem request?_of_awaits? {item : Outgoing} {r : Request} (h : c.awaits? item = some r) :
    item.request? = some r ∧ r.key.name = "iq" := by
  obtain ⟨entry, rfl, hwaits⟩ := of_awaits? h
  exact ⟨rfl, bne_eq_false_iff_eq.1 hwaits⟩

/-- What is registered when an item was handed over comes to wait with it, or was registered. -/
theorem mem_requests_deliver {item : Outgoing} {q : Request}
    (hq : q ∈ (c.deliver item).session.registry.requests) :
    c.awaits? item = some q ∨ q ∈ c.session.registry.requests := by
  rw [requests_deliver] at hq
  split at hq
  · rename_i r hr
    refine (Registry.mem_of_mem_insertRequest hq).imp_left fun h => ?_
    rw [h]
    exact hr
  · exact .inr hq

/-- **Handing over an item opens no request.** -/
theorem mem_openRequests_deliver {item : Outgoing} {rest : List Outgoing}
    (ho : c.session.outbox = item :: rest) {q : Request}
    (hq : q ∈ ((c.withOutbox rest).deliver item).session.openRequests) :
    q ∈ c.session.openRequests := by
  rw [mem_openRequests, ho, List.filterMap_cons]
  rcases mem_openRequests.1 hq with hq | hq
  · rw [outbox_deliver] at hq
    refine .inl ?_
    split
    · exact hq
    · exact List.mem_cons_of_mem _ hq
  · rcases mem_requests_deliver hq with hq | hq
    · refine .inl ?_
      rw [(request?_of_awaits? hq).1]
      exact List.mem_cons_self
    · exact .inr hq

/-- What an operation does to the session of a client at rest. -/
theorem prepare (kept : Kept given registered c) (h : c.AtRest) {op : Operation}
    (sound : op.Within Change.Sound) :
    Kept (given ++ (c.prepare op).session.outbox.filterMap Outgoing.request?) registered
      (c.prepare op) := by
  have changes := Session.Changes.prepare (fun _ => Change.Plain.sound) c op
    c.session.catalogue.within_sound sound
  obtain ⟨hsub, hmade⟩ := changes.requests (Q := Request.Made) fun r hr => hr
  rw [h.1] at hmade
  refine ⟨kept.ordered.sublist hsub, fun q hq => kept.iq q (hsub.subset hq), ?_, ?_,
    fun q hq => kept.registered q (hsub.subset hq)⟩
  · intro q hq
    rcases mem_openRequests.1 hq with hq | hq
    · exact (hmade q hq).resolve_left List.not_mem_nil
    · exact kept.made q (mem_openRequests.2 (.inr (hsub.subset hq)))
  · intro q hq heard
    rcases mem_openRequests.1 hq with hq | hq
    · exact List.mem_append_right _ hq
    · exact List.mem_append_left _
        (kept.given q (mem_openRequests.2 (.inr (hsub.subset hq))) heard)

/-- A move. -/
theorem deliver (kept : Kept given registered c) {item : Outgoing} {rest : List Outgoing}
    (ho : c.session.outbox = item :: rest) :
    Kept given (registered ++ (c.awaits? item).toList) ((c.withOutbox rest).deliver item) := by
  have hmem {q : Request}
      (hq : q ∈ ((c.withOutbox rest).deliver item).session.registry.requests) :
      c.awaits? item = some q ∨ q ∈ c.session.registry.requests :=
    mem_requests_deliver (c := c.withOutbox rest) hq
  refine ⟨?_, ?_, fun q hq => kept.made q (mem_openRequests_deliver ho hq),
    fun q hq => kept.given q (mem_openRequests_deliver ho hq), ?_⟩
  · rw [requests_deliver]
    split
    · exact kept.ordered.insertRequest _
    · exact kept.ordered
  · intro q hq
    rcases hmem hq with hq | hq
    · exact (request?_of_awaits? hq).2
    · exact kept.iq q hq
  · intro q hq
    rcases hmem hq with hq | hq
    · rw [hq]
      exact List.mem_append_right _ (List.mem_singleton.2 rfl)
    · exact List.mem_append_left _ (kept.registered q hq)

/-- A reaction. -/
theorem react (kept : Kept given registered c) (event : Event) (rest : List Event) :
    Kept given registered ((c.withEvents rest).handleEvent event) := by
  obtain ⟨k, -, steps⟩ := Session.Steps.react c.controller (c.withEvents rest).session event
  have changes : (c.withEvents rest).session.Changes Change.Quiet
      ((c.withEvents rest).handleEvent event).session := ⟨k, steps⟩
  obtain ⟨hsub, hmade⟩ := changes.requests (Q := fun r => r.Made ∧ r.listeners = 0)
    fun r hr => hr
  have hreg (q : Request)
      (hq : q ∈ ((c.withEvents rest).handleEvent event).session.registry.requests) :
      q ∈ c.session.registry.requests := hsub.subset hq
  refine ⟨kept.ordered.sublist hsub, fun q hq => kept.iq q (hreg q hq), ?_, ?_,
    fun q hq => kept.registered q (hreg q hq)⟩
  · intro q hq
    rcases mem_openRequests.1 hq with hq | hq
    · rcases hmade q hq with hq | hq
      · exact kept.made q (mem_openRequests.2 (.inl hq))
      · exact hq.1
    · exact kept.made q (mem_openRequests.2 (.inr (hreg q hq)))
  · intro q hq heard
    rcases mem_openRequests.1 hq with hq | hq
    · rcases hmade q hq with hq | hq
      · exact kept.given q (mem_openRequests.2 (.inl hq)) heard
      · exact absurd heard (by rw [hq.2]; exact Nat.lt_irrefl 0)
    · exact kept.given q (mem_openRequests.2 (.inr (hreg q hq))) heard

theorem moves (kept : Kept given registered c) (moves : Moves c log c') :
    Kept given (registered ++ log) c' := by
  induction moves with
  | refl => rwa [List.append_nil]
  | deliver _ ho ih =>
    rw [← List.append_assoc]
    exact ih.deliver ho
  | react _ _ _ ih => exact ih.react _ _

end Client.Kept

/-! ## The books of a run -/

namespace Client

open Session

variable {m : Mark} {c c' c₀ : Client} {given registered log : List Request}

/-- What handing over the oldest item does to the books. -/
theorem books_move (ordered : Registry.Ordered c.session.registry.requests) {item : Outgoing}
    {rest : List Outgoing} (ho : c.session.outbox = item :: rest) :
    ((c.withOutbox rest).deliver item).session.books m
        + ((c.awaits? item).map (c.session.struckOff m)).getD 0 = c.session.books m :=
  (books_deliver (c := c.withOutbox rest) ordered item).trans (books_pop ho).symm

/-- Reactions leave the books as they are. -/
theorem books_handleEvent (ordered : Registry.Ordered c.session.registry.requests) (event : Event)
    (rest : List Event) :
    ((c.withEvents rest).handleEvent event).session.books m = c.session.books m := by
  obtain ⟨k, -, steps⟩ := Steps.react c.controller (c.withEvents rest).session event
  exact steps.books ordered

/-- An operation adds to the books the handlers of the requests that are given
in it. -/
theorem books_prepare (h : c.AtRest) (ordered : Registry.Ordered c.session.registry.requests)
    {op : Operation} (sound : op.Within Change.Sound) :
    (c.prepare op).session.books m = c.session.books m
      + total (((c.prepare op).session.outbox.filterMap Outgoing.request?).map
        (Request.bearing m)) := by
  have changes := Changes.prepare (fun _ => Change.Plain.sound) c op
    c.session.catalogue.within_sound sound
  have books := changes.books (m := m) ordered
  rw [h.1] at books
  exact (Nat.add_zero _).symm.trans books

/-- Moves add nothing to the books. -/
theorem Moves.books_le (moves : Moves c log c')
    (ordered : Registry.Ordered c.session.registry.requests) :
    Registry.Ordered c'.session.registry.requests
      ∧ c'.session.books m ≤ c.session.books m := by
  induction moves with
  | refl => exact ⟨ordered, Nat.le_refl _⟩
  | @deliver c' log item rest _ ho ih =>
    refine ⟨?_, ?_⟩
    · rw [requests_deliver]
      split
      · exact ih.1.insertRequest _
      · exact ih.1
    · have := books_move (m := m) ih.1 ho
      have := ih.2
      omega
  | @react c' log event rest _ ho he ih =>
    refine ⟨?_, ?_⟩
    · obtain ⟨k, -, steps⟩ := Steps.react c'.controller (c'.withEvents rest).session event
      exact ih.1.sublist (Changes.requests (Q := fun _ => True) ⟨k, steps⟩ fun _ _ => trivial).1
    · rw [books_handleEvent ih.1]
      exact ih.2

/-- **In a run the books hold no more than was given.** -/
theorem Run.books_le (run : Run c₀ given registered c) (h : c₀.AtRest)
    (ordered : Registry.Ordered c₀.session.registry.requests) :
    Registry.Ordered c.session.registry.requests
      ∧ c.session.books m ≤ c₀.session.books m + total (given.map (Request.bearing m)) := by
  induction run with
  | start => exact ⟨ordered, Nat.le_refl _⟩
  | @operate given registered log c run op sound moves ih =>
    have changes := Changes.prepare (fun _ => Change.Plain.sound) c op
      c.session.catalogue.within_sound sound
    have prepared := books_prepare (m := m) (run.atRest h) ih.1 sound
    have hsub := (changes.requests (Q := fun _ => True) fun _ _ => trivial).1
    have moved := moves.books_le (m := m) (ih.1.sublist hsub)
    refine ⟨moved.1, ?_⟩
    have := ih.2
    have := moved.2
    rw [List.map_append, total_append]
    omega

/-- The requests of a run from the start. -/
theorem Run.kept {config : Config} {catalogue : Catalogue}
    (run : Run (blank config catalogue) given registered c) : Kept given registered c := by
  induction run with
  | start =>
    refine ⟨List.Pairwise.nil, ?_, ?_, ?_, ?_⟩ <;>
    · intro q hq
      cases hq
  | operate run op sound moves ih =>
    exact (ih.prepare (run.atRest (atRest_blank ..)) sound).moves moves

/-- **What the books of a request's own mark come to**: everything that was given,
or nothing once another request took its key. -/
def Accounted (m : Mark) (r : Request) (given registered : List Request) (c : Client) : Prop :=
  c.session.books m = total (given.map (Request.bearing m))
    ∨ c.session.books m = 0 ∧ total (given.map (Request.bearing m)) = 1
      ∧ r.key.name = "iq" ∧ r.Superseded m registered

theorem Accounted.append {r : Request} (h : Accounted m r given registered c)
    (log : List Request) : Accounted m r given (registered ++ log) c := by
  refine h.imp_right fun ⟨hbooks, htotal, iq, before, between, after, q, heq, hkey, hq⟩ =>
    ⟨hbooks, htotal, iq, before, between, after ++ log, q, ?_, hkey, hq⟩
  rw [heq]
  simp

/-- A move keeps the account. -/
theorem Accounted.deliver {r : Request} (h : Accounted m r given registered c)
    (kept : Kept given registered c) (sole : ∀ q ∈ given, 0 < q.bearing m → q = r)
    (one : total (given.map (Request.bearing m)) ≤ 1) {item : Outgoing} {rest : List Outgoing}
    (ho : c.session.outbox = item :: rest) :
    Accounted m r given (registered ++ (c.awaits? item).toList)
      ((c.withOutbox rest).deliver item) := by
  have hbooks := books_move (m := m) kept.ordered ho
  cases ha : c.awaits? item with
  | none =>
    have hbooks : ((c.withOutbox rest).deliver item).session.books m = c.session.books m := by
      rw [ha] at hbooks
      exact hbooks
    unfold Accounted at h ⊢
    rw [hbooks, Option.toList_none, List.append_nil]
    exact h
  | some q =>
    have hbooks : ((c.withOutbox rest).deliver item).session.books m
        + c.session.struckOff m q = c.session.books m := by
      rw [ha] at hbooks
      exact hbooks
    rcases Nat.eq_zero_or_pos (c.session.struckOff m q) with hzero | hpos
    · have h := h.append (Option.toList (some q))
      unfold Accounted at h ⊢
      rw [hzero, Nat.add_zero] at hbooks
      rwa [hbooks]
    · -- the request that had the key bears the mark, so it is the one in question
      obtain ⟨f, hf, hbear⟩ : ∃ f, c.session.registry.find? q.key = some f
          ∧ c.session.struckOff m q = f.bearing m := by
        unfold struckOff at hpos ⊢
        cases hf : c.session.registry.find? q.key with
        | none => rw [hf] at hpos; exact absurd hpos (Nat.lt_irrefl 0)
        | some f => exact ⟨f, rfl, rfl⟩
      have hmem : f ∈ c.session.registry.requests := List.mem_of_find?_eq_some hf
      have hopen := Kept.mem_openRequests.2 (.inr hmem)
      have hlisteners := f.bearing_le_listeners m
      obtain rfl := sole f (kept.given f hopen (by omega)) (by omega)
      have hitem : item.part (Request.bearing m) = q.bearing m := by
        obtain ⟨entry, rfl, -⟩ := of_awaits? ha
        rfl
      -- the books hold the handlers of both, so the other request bears no mark
      have hboth : q.bearing m + f.bearing m ≤ c.session.books m := by
        have := kept.ordered.total_erase hmem (Request.bearing m)
        rw [books, waiting_eq, ho, List.map_cons, total, hitem]
        omega
      obtain ⟨before, after, hsplit⟩ := List.append_of_mem (kept.registered f hmem)
      have hle : c.session.books m ≤ 1 := by
        rcases h with h | ⟨h, -⟩ <;> omega
      refine .inr ⟨by omega, ?_, kept.iq f hmem, before, after, [], q, ?_,
        (Registry.key_of_find? hf).symm, by omega⟩
      · rcases h with h | ⟨-, h, -⟩ <;> omega
      · rw [hsplit]
        simp

theorem Accounted.moves {r : Request} (h : Accounted m r given registered c)
    (kept : Kept given registered c) (sole : ∀ q ∈ given, 0 < q.bearing m → q = r)
    (one : total (given.map (Request.bearing m)) ≤ 1) (moves : Moves c log c') :
    Accounted m r given (registered ++ log) c' := by
  induction moves with
  | refl => rwa [List.append_nil]
  | deliver moves ho ih =>
    rw [← List.append_assoc]
    exact ih.deliver (kept.moves moves) sole one ho
  | @react c' log event rest moves _ _ ih =>
    have hbooks := books_handleEvent (m := m) (kept.moves moves).ordered event rest
    unfold Accounted at ih ⊢
    rwa [hbooks]

/-- **The books of a run are accounted for.** -/
theorem Run.accounted {config : Config} {catalogue : Catalogue}
    (run : Run (blank config catalogue) given registered c) {r : Request}
    (sole : ∀ q ∈ given, 0 < q.bearing m → q = r)
    (one : total (given.map (Request.bearing m)) ≤ 1) : Accounted m r given registered c := by
  induction run with
  | start => exact .inl rfl
  | @operate given registered log c run op sound moves ih =>
    rw [List.map_append, total_append] at one
    have ih := ih (fun q hq => sole q (List.mem_append_left _ hq)) (by omega)
    have hrest := run.atRest (atRest_blank ..)
    have prepared := books_prepare (m := m) hrest run.kept.ordered sound
    have accounted : Accounted m r (given ++ (c.prepare op).session.outbox.filterMap
        Outgoing.request?) registered (c.prepare op) := by
      unfold Accounted at ih ⊢
      rw [List.map_append, total_append]
      rcases ih with ih | ⟨hbooks, htotal, iq, superseded⟩
      · exact .inl (by omega)
      · exact .inr ⟨by omega, by omega, iq, superseded⟩
    exact accounted.moves (run.kept.prepare hrest sound) sole
      (by rw [List.map_append, total_append]; exact one) moves

end Client

/-! ## The standing of a request -/

/-- A request that was made and not touched since is not resolved. -/
theorem Request.Made.isCompleted {r : Request} (made : r.Made) : r.isCompleted = false := by
  obtain ⟨draft, usual, now, drawn, rfl⟩ := made
  unfold Draft.build
  cases draft.id? <;> rfl

/-- A request with a mark of its own is the only one that bears it. -/
theorem Request.Own.eq {m : Mark} {r q : Request} {given : List Request} (own : r.Own m given)
    (hq : q ∈ given) (h : 0 < q.bearing m) : q = r := by
  obtain ⟨before, after, rfl⟩ := List.append_of_mem own.mem
  have hone := own.sole
  rw [List.map_append, total_append, List.map_cons, total, own.bearing] at hone
  have hle {requests : List Request} (hmem : q ∈ requests) :
      q.bearing m ≤ total (requests.map (Request.bearing m)) := by
    have := add_total_filter_le (Request.bearing m) (p := fun _ => false) hmem rfl
    omega
  rcases List.mem_append.1 hq with hq | hq
  · have := hle hq
    omega
  · rcases List.mem_cons.1 hq with hq | hq
    · exact hq
    · have := hle hq
      omega

namespace Client

variable {config : Config} {catalogue : Catalogue} {given registered : List Request} {c : Client}

/-- **A request with a mark of its own stands in one of three ways.** -/
theorem Run.standing (run : Run (blank config catalogue) given registered c) {m : Mark}
    {r : Request} (own : r.Own m given) : Standing m r registered c := by
  have kept := run.kept
  have hrest := run.atRest (atRest_blank ..)
  have hbooks : c.session.books m = c.session.called m
      + total (c.session.registry.requests.map (Request.bearing m)) := by
    rw [Session.books, Session.waiting_eq, hrest.1]
    exact congrArg _ (Nat.zero_add _)
  have hgone (hzero : total (c.session.registry.requests.map (Request.bearing m)) = 0) :
      ∀ q ∈ c.session.registry.requests, q.bearing m = 0 := total_map_eq_zero_iff.1 hzero
  rcases run.accounted (fun q hq h => own.eq hq h) (Nat.le_of_eq own.sole) with
    h | ⟨hzero, -, iq, superseded⟩
  · rw [own.sole, hbooks] at h
    rcases Nat.eq_zero_or_pos (c.session.called m) with hcalled | hcalled
    · -- a registered request bears the mark, and it can only be this one
      obtain ⟨q, hq, hbear⟩ : ∃ q ∈ c.session.registry.requests, 0 < q.bearing m := by
        by_contra hnone
        have := total_map_eq_zero_iff.2 fun q hq => Nat.eq_zero_of_not_pos fun hpos =>
          hnone ⟨q, hq, hpos⟩
        omega
      have hopen := Kept.mem_openRequests.2 (.inr hq)
      have hlisteners := q.bearing_le_listeners m
      obtain rfl := own.eq (kept.given q hopen (by omega)) hbear
      exact .pending hcalled (kept.iq q hq) (kept.made q hopen).isCompleted (kept.ordered.find? hq)
    · exact .resolved (by omega) (hgone (by omega))
  · rw [hbooks] at hzero
    refine .superseded (by omega) iq (hgone (by omega)) superseded ?_
    intro given' registered' c' run' hnone
    have hle := (run'.books_le (m := m) hrest kept.ordered).2
    have htotal : total (given'.map (Request.bearing m)) = 0 := total_map_eq_zero_iff.2 hnone
    have : c'.session.called m ≤ c'.session.books m := Nat.le_add_right _ _
    omega

/-- **No request is lost, and none is resolved twice.** -/
structure LosesNoRequest (given registered : List Request) (c : Client) : Prop where
  /-- No handler is called more often than it was given. -/
  atMost : ∀ m, c.session.called m ≤ total (given.map (Request.bearing m))
  /-- Every request that was given was resolved, waits under its key or was
  superseded. -/
  standing : ∀ (m : Mark) (r : Request), r.Own m given → Standing m r registered c
  /-- What is not an `iq` was resolved. -/
  unanswered : ∀ (m : Mark) (r : Request), r.Own m given → r.key.name ≠ "iq" →
    c.session.called m = 1
  /-- What waits for a reply is an `iq` that was not resolved. -/
  waiting : ∀ q ∈ c.session.registry.requests, q.key.name = "iq" ∧ q.isCompleted = false
  /-- Cancelling succeeds exactly if a request of that key waits for a reply. -/
  cancel : ∀ key, (c.cancel key).1 = true ↔
    ∃ r, c.session.registry.find? key = some r ∧ r.isCompleted = false

/-- A client with a run behind it lost no request. -/
theorem Run.losesNoRequest (run : Run (blank config catalogue) given registered c) :
    c.LosesNoRequest given registered := by
  have kept := run.kept
  have huncompleted : ∀ q ∈ c.session.registry.requests, q.isCompleted = false := fun q hq =>
    (kept.made q (Kept.mem_openRequests.2 (.inr hq))).isCompleted
  refine ⟨?_, fun m r own => run.standing own, ?_, fun q hq => ⟨kept.iq q hq, huncompleted q hq⟩,
    ?_⟩
  · intro m
    have hle := (run.books_le (m := m) (atRest_blank ..) List.Pairwise.nil).2
    have hzero : (blank config catalogue).session.books m = 0 := rfl
    have : c.session.called m ≤ c.session.books m := Nat.le_add_right _ _
    omega
  · intro m r own hiq
    cases run.standing own with
    | resolved called _ => exact called
    | pending _ iq _ _ => exact absurd iq hiq
    | superseded _ iq _ _ _ => exact absurd iq hiq
  · intro key
    unfold Client.cancel Registry.cancel?
    cases hf : c.session.registry.find? key with
    | none => simp
    | some r =>
      have hr := huncompleted r (List.mem_of_find?_eq_some hf)
      cases hp : r.pipeline with
      | none => simp [Request.isCompleted, hp] at hr
      | some p => simp [Request.cancel?, Request.complete?, Request.isCompleted, hp]

/-- **No run of a client loses a request or resolves one twice**, whatever the
owner does, whatever the peer sends, whatever modules and handlers of the
application do, and whenever the transport fails. Whatever the operations are,
they are a run, and what holds of the client then holds whenever one of them has
returned. -/
theorem losesNoRequest_of_run {ops : List Operation}
    (sound : ∀ op ∈ ops, op.Within Change.Sound) :
    (∃ given registered, Run (blank config catalogue) given registered
        (ops.foldl operate (blank config catalogue)))
      ∧ ∀ given registered, Run (blank config catalogue) given registered
          (ops.foldl operate (blank config catalogue)) →
        (ops.foldl operate (blank config catalogue)).LosesNoRequest given registered :=
  ⟨Run.start.exists_foldl_operate (atRest_blank config catalogue) ops sound,
    fun _ _ run => run.losesNoRequest⟩

namespace Rehearsal

/-- A stanza of this name, and a listener for what becomes of it. -/
def listenedTo (name : String) : Draft :=
  ({ stanza := { name, ns := Namespace.client, attributes := [("id", "1")] } } : Draft).respond
    (.listener ⟨"app", name⟩ fun _ => [])

/-- A message and an `iq` are given while there is a transport. -/
def gives : List Operation :=
  [.connected {}, .send (listenedTo "message"), .send (listenedTo "iq")]

/-- The client that does it. -/
def unmodular : Client :=
  blank { jid := ⟨some "juliet", "capulet.lit", none⟩, userAgentId := "balcony" } []

end Rehearsal

open Rehearsal

/-- The message is resolved by being handed over, and the `iq` waits for its reply. -/
theorem losesNoRequest_of_run_two_requests :
    (∀ op ∈ gives, op.Within Change.Sound)
      ∧ ∃ given registered, Run unmodular given registered (gives.foldl operate unmodular)
        ∧ (gives.foldl operate unmodular).LosesNoRequest given registered
        ∧ (gives.foldl operate unmodular).session.called ⟨"app", "message"⟩ = 1
        ∧ (gives.foldl operate unmodular).session.called ⟨"app", "iq"⟩ = 0
        ∧ (gives.foldl operate unmodular).session.registry.requests.map (·.key)
          = [⟨"iq", "1"⟩] := by
  have listened (name : String) : (Operation.send (listenedTo name)).Within Change.Sound :=
    ⟨fun _ => trivial, fun usual now drawn => ⟨listenedTo name, usual, now, drawn, rfl⟩⟩
  have sound : ∀ op ∈ gives, op.Within Change.Sound := by
    intro op hop
    rcases List.mem_cons.1 hop with rfl | hop
    · exact fun _ _ => trivial
    · rcases List.mem_cons.1 hop with rfl | hop
      · exact listened _
      · obtain rfl := List.mem_singleton.1 hop
        exact listened _
  obtain ⟨⟨given, registered, run⟩, loses⟩ := losesNoRequest_of_run sound
  exact ⟨sound, given, registered, run, loses given registered run, by decide, by decide,
    by decide⟩

end Client

end Xmpp
