import Xmpp.Proofs.Session.Steps
import Xmpp.Client.Operations

/-!
# Coming to rest

A client works through its outbox and its events until both are empty. That
it ever gets there is not obvious: reacting to an event can publish others and
give requests, whose handlers publish events in turn. What bounds the work is
the workload of the session, as long as no handler of the application is
called, and the number of these handlers otherwise.

Both are compared at once by `Session.Outweighs`, which is the lexicographic
order spelled out: no more handlers, and with as many handlers no more work.
Delivering an item keeps the balance (`outweighs_deliver`), reacting to an
event gains at least one (`outweighs_react`), and so a client that works off
as much as it has comes to rest (`Client.atRest_run`).

## Moves

A run is a number of *moves*, each of which hands one item of the outbox to
the transport or reacts to one event. Facts about runs are proved for a move
and carried along `Client.Moves`, which remembers the requests that came to
wait for a reply on the way.
-/

namespace Xmpp

open Delivery

/-! ## The balance of a session -/

/-- What an item of the outbox adds to a sum over requests. -/
def Outgoing.part (f : Request → Nat) (item : Outgoing) : Nat :=
  (item.request?.map f).getD 0

/-- How many handlers of the application wait for an item of the outbox. -/
abbrev Outgoing.listeners : Outgoing → Nat :=
  Outgoing.part Request.listeners

/-- The cost of an effect: that of the event it publishes. -/
def Effect.cost (effect : Effect) : Nat :=
  (effect.event?.map Event.cost).getD 0

namespace Session

/-- A sum over the open requests is one over the outbox and one over the
registry. -/
theorem total_openRequests (s : Session) (f : Request → Nat) :
    total (s.openRequests.map f) =
      total (s.outbox.map (Outgoing.part f)) + total (s.registry.requests.map f) := by
  rw [openRequests, List.map_append, total_append]
  congr 1
  induction s.outbox with
  | nil => rfl
  | cons item rest ih =>
    have skip (h : item.request? = none) :
        total (((item :: rest).filterMap Outgoing.request?).map f)
          = total ((item :: rest).map (Outgoing.part f)) := by
      rw [List.filterMap_cons_none h, ih, List.map_cons, total, Outgoing.part, h]
      exact (Nat.zero_add _).symm
    cases item with
    | element entry request =>
      cases request with
      | none => exact skip rfl
      | some r => exact congrArg (f r + ·) ih
    | restart => exact skip rfl
    | close => exact skip rfl

theorem listeners_eq (s : Session) :
    s.listeners = total (s.outbox.map Outgoing.listeners)
      + total (s.registry.requests.map Request.listeners) :=
  s.total_openRequests Request.listeners

/-- **A session outweighs another**, with this much to spare: it has no fewer
handlers of the application waiting, and if it has as many, no less work is
left to do. -/
structure Outweighs (s : Session) (k : Nat) (s' : Session) : Prop where
  /-- The handlers of the application. -/
  listeners : s'.listeners ≤ s.listeners
  /-- The work. -/
  workload : s'.listeners = s.listeners → s'.workload ≤ s.workload + k

namespace Outweighs

variable {s s' s'' : Session} {k k' : Nat}

theorem refl (s : Session) : s.Outweighs 0 s :=
  ⟨Nat.le_refl _, fun _ => Nat.le_refl _⟩

theorem trans (first : s.Outweighs k s') (second : s'.Outweighs k' s'') :
    s.Outweighs (k + k') s'' := by
  have hfirst := first.listeners
  have hsecond := second.listeners
  refine ⟨by omega, fun h => ?_⟩
  have := first.workload (by omega)
  have := second.workload (by omega)
  omega

theorem weaken (h : s.Outweighs k s') (hk : k ≤ k') : s.Outweighs k' s' :=
  ⟨h.listeners, fun heq => Nat.le_trans (h.workload heq) (by omega)⟩

/-- Sessions with the same events, outbox and requests weigh the same. -/
theorem of_eq (he : s'.events = s.events) (ho : s'.outbox = s.outbox)
    (hr : s'.registry.requests = s.registry.requests) : s.Outweighs 0 s' := by
  have hl : s'.listeners = s.listeners := by rw [listeners_eq, listeners_eq, ho, hr]
  have hw : s'.workload = s.workload := by rw [Session.workload, Session.workload, he, ho, hr]
  exact ⟨Nat.le_of_eq hl, fun _ => Nat.le_of_eq hw⟩

end Outweighs

/-- Another event weighs what it costs. -/
theorem outweighs_fire (s : Session) (event : Event) :
    s.Outweighs event.cost (s.fire event) := by
  refine ⟨?_, fun _ => ?_⟩
  · rw [listeners_eq, listeners_eq]
    exact Nat.le_refl _
  · show total ((s.events ++ [event]).map Event.cost) + total (s.outbox.map Outgoing.cost)
      + total (s.registry.requests.map Request.cost) ≤ s.workload + event.cost
    rw [List.map_append, total_append, workload]
    simp only [List.map_cons, List.map_nil, total]
    omega

/-- Another item in the outbox weighs what it costs, if no handler of the
application waits for it. -/
theorem outweighs_push (s : Session) (item : Outgoing) (h : item.listeners = 0) :
    s.Outweighs item.cost (s.push item) := by
  refine ⟨?_, fun _ => ?_⟩
  · rw [listeners_eq, listeners_eq]
    show total ((s.outbox ++ [item]).map _) + _ ≤ _
    rw [List.map_append, total_append]
    simp only [List.map_cons, List.map_nil, total, h]
    exact Nat.le_refl _
  · show total (s.events.map Event.cost) + total ((s.outbox ++ [item]).map Outgoing.cost)
      + total (s.registry.requests.map Request.cost) ≤ s.workload + item.cost
    rw [List.map_append, total_append, workload]
    simp only [List.map_cons, List.map_nil, total]
    omega

/-! ## Resolving requests -/

theorem workload_perform (s : Session) (effects : List Effect) :
    (s.perform effects).workload = s.workload + total (effects.map Effect.cost) := by
  have hevents : total ((effects.filterMap Effect.event?).map Event.cost)
      = total (effects.map Effect.cost) := by
    induction effects with
    | nil => rfl
    | cons effect rest ih =>
      cases effect with
      | fired event => exact congrArg (event.cost + ·) ih
      | settled ticket outcome => exact ih.trans (Nat.zero_add _).symm
      | called mark outcome => exact ih.trans (Nat.zero_add _).symm
      | transformed mark fallible value => exact ih.trans (Nat.zero_add _).symm
  rw [perform_eq]
  show total ((s.events ++ effects.filterMap Effect.event?).map Event.cost)
      + total (s.outbox.map Outgoing.cost) + total (s.registry.requests.map Request.cost) = _
  rw [List.map_append, total_append, hevents, workload]
  omega

theorem listeners_perform (s : Session) (effects : List Effect) :
    (s.perform effects).listeners = s.listeners := by
  rw [perform_eq]
  rfl

end Session

/-- A handler of the library publishes events that cost no more than it. -/
theorem Handler.cost_effects (handler : Handler) (outcome : Outcome)
    (h : handler.isListener = false) :
    total ((handler.effects outcome).map Effect.cost) ≤ handler.cost := by
  have event (e : Event) : Effect.cost (.fired e) = e.cost := rfl
  cases handler with
  | listener mark publish => cases h
  | waiter ticket => exact Nat.le_refl 0
  | _ =>
    rcases outcome with e | value
    · simp [Handler.effects, Handler.events, Handler.cost, event, Event.cost, total]
    · cases value <;> simp [Handler.effects, Handler.events, Handler.cost, event, Event.cost, total]

/-- A pipeline without handlers of the application publishes events that cost
no more than its handlers. -/
theorem Pipeline.cost_run (p : Pipeline) (outcome : Outcome)
    (h : ∀ handler ∈ p.handlers, handler.isListener = false) :
    total ((p.run outcome).2.map Effect.cost) ≤ total (p.handlers.map Handler.cost) := by
  induction p with
  | reply => exact Nat.le_refl 0
  | respond before handler ih =>
    simp only [run, handlers, List.map_append, total_append, List.map_cons, List.map_nil, total]
    have hbefore := ih fun a ha => h a (List.mem_append_left _ ha)
    have hlast := handler.cost_effects (before.run outcome).1
      (h handler (List.mem_append_right _ (List.mem_singleton.2 rfl)))
    omega
  | map before mark transform ih =>
    have hbefore := ih h
    simp only [run, handlers]
    split
    · rename_i heq
      rw [heq] at hbefore
      exact hbefore
    · rename_i heq
      rw [heq] at hbefore
      rw [List.map_append, total_append]
      cases mark <;> exact hbefore
  | tryMap before mark transform ih =>
    have hbefore := ih h
    simp only [run, handlers]
    split
    · rename_i heq
      rw [heq] at hbefore
      exact hbefore
    · rename_i heq
      rw [heq] at hbefore
      rw [List.map_append, total_append]
      cases mark <;> exact hbefore

/-- **Resolving a request costs no more than the request**, if no handler of
the application waits for it. -/
theorem Request.cost_complete (r : Request) (outcome : Outcome) (h : r.listeners = 0) :
    total ((Request.effectsOf (r.complete? outcome)).map Effect.cost) ≤ r.cost := by
  unfold Request.listeners Request.handlers at h
  unfold Request.complete? Request.cost Request.handlers
  cases hp : r.pipeline with
  | none => exact Nat.zero_le _
  | some p =>
    rw [hp] at h
    refine p.cost_run outcome fun handler hmem => ?_
    have := List.countP_eq_zero.1 h handler hmem
    simpa using this

/-! ## The registry -/

theorem total_filter_add_total_filter {α : Type} (f : α → Nat) (p : α → Bool) (l : List α) :
    total ((l.filter p).map f) + total ((l.filter fun a => !p a).map f) = total (l.map f) := by
  induction l with
  | nil => rfl
  | cons a rest ih =>
    cases h : p a <;> simp [h, total] <;> omega

theorem total_filter_le {α : Type} (f : α → Nat) (p : α → Bool) (l : List α) :
    total ((l.filter p).map f) ≤ total (l.map f) := by
  rw [← total_filter_add_total_filter f p l]
  exact Nat.le_add_right _ _

/-- A sum is zero if all of its parts are. -/
theorem total_map_eq_zero_iff {α : Type} {f : α → Nat} {l : List α} :
    total (l.map f) = 0 ↔ ∀ a ∈ l, f a = 0 := by
  induction l with
  | nil => simp [total]
  | cons a rest ih => simp [total, ih]

/-- One that is filtered out is missing from the sum. -/
theorem add_total_filter_le {α : Type} (f : α → Nat) {p : α → Bool} {l : List α} {a : α}
    (ha : a ∈ l) (hp : p a = false) : f a + total ((l.filter p).map f) ≤ total (l.map f) := by
  have hone : f a ≤ total ((l.filter fun a => !p a).map f) := by
    have hmem : a ∈ l.filter fun a => !p a := List.mem_filter.2 ⟨ha, by simp [hp]⟩
    generalize l.filter (fun a => !p a) = out at hmem
    induction out with
    | nil => cases hmem
    | cons b rest ih =>
      rw [List.map_cons, total]
      rcases List.mem_cons.1 hmem with rfl | hmem
      · exact Nat.le_add_right _ _
      · exact Nat.le_trans (ih hmem) (Nat.le_add_left _ _)
  have := total_filter_add_total_filter f p l
  omega

namespace Session

/-- **Requests that are taken from the registry and resolved** are no more to
do than they were. -/
theorem outweighs_resolve (s : Session) (registry : Registry) (effects : List Effect)
    (taken : List Request)
    (hl : total (taken.map Request.listeners) + total (registry.requests.map Request.listeners)
      ≤ total (s.registry.requests.map Request.listeners))
    (hw : total (taken.map Request.cost) + total (registry.requests.map Request.cost)
      ≤ total (s.registry.requests.map Request.cost))
    (he : total (taken.map Request.listeners) = 0 →
      total (effects.map Effect.cost) ≤ total (taken.map Request.cost)) :
    s.Outweighs 0 (({ s with registry } : Session).perform effects) := by
  have hlisteners : (({ s with registry } : Session).perform effects).listeners
      = total (s.outbox.map Outgoing.listeners)
        + total (registry.requests.map Request.listeners) := by
    rw [listeners_perform, listeners_eq]
  have hworkload : (({ s with registry } : Session).perform effects).workload
      = total (s.events.map Event.cost) + total (s.outbox.map Outgoing.cost)
        + total (registry.requests.map Request.cost) + total (effects.map Effect.cost) := by
    rw [workload_perform, workload]
  have hs := s.listeners_eq
  refine ⟨by omega, fun heq => ?_⟩
  have := he (by omega)
  rw [hworkload, workload]
  omega

/-- Resolving a single request of the registry. -/
theorem outweighs_complete {s : Session} {r : Request} (hr : r ∈ s.registry.requests)
    (outcome : Outcome) :
    s.Outweighs 0 (({ s with registry := s.registry.erase r.key } : Session).perform
      (Request.effectsOf (r.complete? outcome))) := by
  refine s.outweighs_resolve _ _ [r] ?_ ?_ ?_
  · exact add_total_filter_le Request.listeners hr (by simp)
  · exact add_total_filter_le Request.cost hr (by simp)
  · intro h
    exact r.cost_complete outcome h

theorem Resolves.outweighs {s s' : Session} (h : s.Resolves s') : s.Outweighs 0 s' := by
  cases h with
  | none => exact .refl s
  | one r hmem outcome => exact outweighs_complete hmem outcome

theorem outweighs_sweep (s : Session) (condition : Request → Bool) :
    s.Outweighs 0 (s.swept (s.registry.sweep condition)) := by
  refine s.outweighs_resolve _ _ (s.registry.requests.filter condition) ?_ ?_ ?_
  · exact Nat.le_of_eq (total_filter_add_total_filter ..)
  · exact Nat.le_of_eq (total_filter_add_total_filter ..)
  · show total ((s.registry.requests.filter condition).map _) = 0 →
      total ((((s.registry.requests.filter condition).filterMap Request.expire?).flatMap
        (·.2)).map Effect.cost) ≤ _
    generalize s.registry.requests.filter condition = taken
    intro h
    induction taken with
    | nil => exact Nat.le_refl 0
    | cons r rest ih =>
      rw [List.map_cons, total] at h
      have hrest := ih (by omega)
      have hr := r.cost_complete (.error .timeout) (by omega)
      rw [List.map_cons, total]
      cases hx : r.expire? with
      | none =>
        rw [List.filterMap_cons_none hx]
        omega
      | some result =>
        rw [List.filterMap_cons_some hx, List.flatMap_cons, List.map_append, total_append]
        have : r.complete? (.error .timeout) = some result := hx
        rw [this] at hr
        exact Nat.add_le_add hr hrest

theorem outweighs_prune (s : Session) : s.Outweighs 0 s.prune := by
  have hl : s.prune.listeners ≤ s.listeners := by
    rw [listeners_eq, listeners_eq]
    exact Nat.add_le_add_left (total_filter_le Request.listeners _ _) _
  refine ⟨hl, fun _ => ?_⟩
  exact Nat.add_le_add_left (total_filter_le Request.cost _ _) _

/-- **A plain change weighs what it costs.** -/
theorem outweighs_change (s : Session) (change : Change) (h : change.Plain) :
    s.Outweighs change.cost (s.change change) := by
  have still {s' : Session} (he : s'.events = s.events) (ho : s'.outbox = s.outbox)
      (hr : s'.registry = s.registry) : s.Outweighs 0 s' := .of_eq he ho (by rw [hr])
  cases change with
  | draw drawn => exact still rfl rfl rfl
  | write element =>
    have tracked : s.Outweighs 0 (s.track element).2 := still rfl rfl rfl
    exact tracked.trans (outweighs_push _ (.element (s.track element).1 none) rfl)
  | give request =>
    have tracked : s.Outweighs 0 (s.track request.stanza).2 := still rfl rfl rfl
    have pushed := outweighs_push (s.track request.stanza).2
      (.element (s.track request.stanza).1 (some request)) h.2
    exact (tracked.trans pushed).weaken (Nat.le_of_eq (Nat.zero_add _))
  | restart => exact outweighs_push s .restart rfl
  | close => exact outweighs_push s .close rfl
  | fire event => exact outweighs_fire s event
  | note line => exact still rfl rfl rfl
  | remember scope key value => exact still rfl rfl rfl
  | clear scope => exact still rfl rfl rfl
  | logins logins => exact still rfl rfl rfl
  | advertise features => exact still rfl rfl rfl
  | identify jid => exact .of_eq rfl rfl rfl
  | receive => exact still rfl rfl rfl
  | report => exact still rfl rfl rfl
  | deactivate => exact still rfl rfl rfl
  | abandon =>
    show s.Outweighs 0 s.abandonResumption
    rw [abandonResumption_eq]
    exact still rfl rfl rfl
  | reset =>
    show s.Outweighs 0 s.resetManagement
    rw [resetManagement_eq]
    exact still rfl rfl rfl
  | begin context => cases h
  | enable enabled => cases h
  | acknowledge report => cases h
  | resume report => cases h
  | answer reply => exact (s.resolves_answer reply).outweighs
  | sweep condition => exact outweighs_sweep s condition
  | prune => exact outweighs_prune s
  | cancel key => exact (s.resolves_cancel key).outweighs
  | pass duration => exact still rfl rfl rfl

/-- **Quiet steps weigh what they cost.** -/
theorem Steps.outweighs {s s' : Session} {k : Nat} (steps : s.Steps Change.Quiet k s') :
    s.Outweighs k s' := by
  induction steps with
  | refl k s => exact (Outweighs.refl s).weaken (Nat.zero_le k)
  | step _ change h hk ih => exact (ih.trans (outweighs_change _ change h.plain)).weaken hk

end Session

/-! ## Handing over an item -/

namespace Client

/-- The client with another outbox. -/
def withOutbox (c : Client) (items : List Outgoing) : Client :=
  { c with session := { c.session with outbox := items } }

/-- The client with other events. -/
def withEvents (c : Client) (events : List Event) : Client :=
  { c with session := { c.session with events := events } }

theorem setConnector_withOutbox (c : Client) (items : List Outgoing) (new : ConnectorState) :
    (c.withOutbox items).setConnector new = (c.setConnector new).withOutbox items := by
  unfold setConnector
  by_cases h : c.connector = new
  · rw [if_pos h, if_pos (show (c.withOutbox items).connector = new from h)]
  · rw [if_neg h, if_neg (show ¬ (c.withOutbox items).connector = new from h)]
    rfl

end Client

namespace Session

variable (s : Session) (items : List Outgoing)

/-- Nothing but the events and the records know that a request was given up. -/
theorem failUnsent_eq (request : Option Request) (error : RequestError) :
    s.failUnsent request error =
      { s with
        events := (s.failUnsent request error).events
        settled := (s.failUnsent request error).settled
        notes := (s.failUnsent request error).notes } := by
  cases request with
  | none => rfl
  | some r =>
    unfold failUnsent
    dsimp only
    rw [perform_eq]

/-- Nothing but the registry, the events and the records know that a request was
handed over. -/
theorem awaitReply_eq (request : Option Request) :
    s.awaitReply request =
      { s with
        registry := (s.awaitReply request).registry
        events := (s.awaitReply request).events
        settled := (s.awaitReply request).settled
        notes := (s.awaitReply request).notes } := by
  cases request with
  | none => rfl
  | some r =>
    unfold awaitReply
    dsimp only
    split
    · rw [perform_eq]
    · unfold register
      rw [perform_eq]

/-- Nothing but the properties and the board know that an element was counted. -/
theorem countSent_eq (entry : Entry) :
    s.countSent entry =
      { s with
        properties := (s.countSent entry).properties
        board := (s.countSent entry).board } := by
  unfold countSent
  split <;> rfl

theorem resumption?_countSent (entry : Entry) :
    (s.countSent entry).resumption? =
      if entry.stanza.is "enable" Namespace.streamManagement then some .start
      else s.resumption?.map (·.recordSent entry) := by
  unfold countSent
  split
  · exact resumption?_startResumption _ _
  · exact resumption?_modifyResumption _ _

theorem perform_withOutbox (effects : List Effect) :
    ({ s with outbox := items } : Session).perform effects
      = { s.perform effects with outbox := items } := by
  rw [perform_eq, perform_eq]

theorem failUnsent_withOutbox (request : Option Request) (error : RequestError) :
    ({ s with outbox := items } : Session).failUnsent request error
      = { s.failUnsent request error with outbox := items } := by
  cases request with
  | none => rfl
  | some r => exact s.perform_withOutbox items _

theorem register_withOutbox (r : Request) :
    ({ s with outbox := items } : Session).register r = { s.register r with outbox := items } :=
  ({ s with registry := s.registry.register r } : Session).perform_withOutbox items _

theorem awaitReply_withOutbox (request : Option Request) :
    ({ s with outbox := items } : Session).awaitReply request
      = { s.awaitReply request with outbox := items } := by
  cases request with
  | none => rfl
  | some r =>
    unfold awaitReply
    dsimp only
    split
    · exact s.perform_withOutbox items _
    · exact s.register_withOutbox items r

theorem countSent_withOutbox (entry : Entry) :
    ({ s with outbox := items } : Session).countSent entry
      = { s.countSent entry with outbox := items } := by
  unfold countSent
  split <;> rfl

end Session

namespace Client

/-- Handing over an item neither reads the outbox nor touches it. -/
theorem deliver_withOutbox (c : Client) (items : List Outgoing) (item : Outgoing) :
    (c.withOutbox items).deliver item = (c.deliver item).withOutbox items := by
  cases item with
  | restart => rfl
  | close =>
    exact setConnector_withOutbox
      { c.record ((c.transport.map Transport.closeFrames).getD []) with transport := none } items
      .disconnecting
  | element entry request =>
    show (c.withOutbox items).deliverElement entry request
      = (c.deliverElement entry request).withOutbox items
    have ht : (c.withOutbox items).transport = c.transport := rfl
    unfold deliverElement
    rw [ht]
    split
    · have := (c.session.mark [entry] .dropped).failUnsent_withOutbox items request .notConnected
      exact congrArg (fun session => { c with session }) this
    · split
      · rename_i error transport _
        have := (c.session.mark [entry] (.failed error)).failUnsent_withOutbox items request
          (.send error)
        exact congrArg (fun session =>
          { c.record [.failed .send] with transport := some transport, session }) this
      · rename_i transport _
        have := (c.session.mark [entry] .sent).awaitReply_withOutbox items request
        have := (congrArg (·.countSent entry) this).trans
          (((c.session.mark [entry] .sent).awaitReply request).countSent_withOutbox items entry)
        exact congrArg (fun session =>
          { c.record [.element entry] with transport := some transport, session }) this

/-- Handing over an item leaves the outbox as it is. -/
theorem outbox_deliver (c : Client) (item : Outgoing) :
    (c.deliver item).session.outbox = c.session.outbox :=
  congrArg (·.session.outbox) (c.deliver_withOutbox c.session.outbox item)

/-- Emptying the outbox leaves nothing in it. -/
theorem outbox_flush (c : Client) : c.flush.session.outbox = [] := by
  suffices h : ∀ (items : List Outgoing) (c : Client),
      (items.foldl Client.deliver c).session.outbox = c.session.outbox from h _ _
  intro items
  induction items with
  | nil => exact fun _ => rfl
  | cons item rest ih => exact fun c => (ih (c.deliver item)).trans (outbox_deliver c item)

/-! ## Moves -/

/-- Whether there is a transport and it takes the next element. -/
def accepts (c : Client) : Bool :=
  c.transport.any fun transport => transport.send.1.isNone

/-- The request that comes to wait for a reply once an item is handed over, if
there is one. -/
def awaits? (c : Client) : Outgoing → Option Request
  | .element _ (some r) => if c.accepts && !r.isFireAndForget then some r else none
  | .element _ none | .restart | .close => none

/-- Nobody waits for the reply to an element that is not taken. -/
theorem awaits?_of_not_accepts {c : Client} (h : c.accepts = false) (entry : Entry)
    (request : Option Request) : c.awaits? (.element entry request) = none := by
  cases request with
  | none => rfl
  | some r => simp [awaits?, h]

/-- Only an element that expects a reply makes its request wait for one. -/
theorem of_awaits? {c : Client} {item : Outgoing} {r : Request} (h : c.awaits? item = some r) :
    ∃ entry, item = .element entry (some r) ∧ r.isFireAndForget = false := by
  unfold awaits? at h
  split at h
  · rename_i entry q
    split at h
    · rename_i hwaits
      obtain rfl := Option.some.inj h
      exact ⟨entry, rfl, by simpa using (Bool.and_eq_true_iff.1 hwaits).2⟩
    · cases h
  all_goals cases h

/-- **What handing over an item does to a session.** -/
inductive Delivers (c : Client) : Outgoing → Session → Prop
  /-- The stream starts again, and what belongs to it is forgotten. -/
  | restart : Delivers c .restart (c.session.clear .stream)
  /-- The stream was being closed before. -/
  | close : Delivers c .close c.session
  /-- The stream is being closed from now on. -/
  | closing : Delivers c .close (c.session.fire (.connector c.connector .disconnecting))
  /-- Nothing takes the element, and its request fails. -/
  | lost (entry : Entry) (request : Option Request) (state : State) (error : RequestError)
      (h : c.accepts = false) : Delivers c (.element entry request)
        ((c.session.mark [entry] state).failUnsent request error)
  /-- The transport takes the element, and its request waits for the reply. -/
  | taken (entry : Entry) (request : Option Request) (h : c.accepts = true) :
      Delivers c (.element entry request)
        (((c.session.mark [entry] .sent).awaitReply request).countSent entry)

theorem delivers (c : Client) (item : Outgoing) : c.Delivers item (c.deliver item).session := by
  cases item with
  | restart => exact .restart
  | close =>
    show c.Delivers .close (Client.setConnector _ _).session
    unfold setConnector
    split
    · exact .close
    · exact .closing
  | element entry request =>
    show c.Delivers _ (c.deliverElement entry request).session
    unfold deliverElement
    split
    · rename_i ht
      exact .lost entry request _ _ (by simp [accepts, ht])
    · rename_i transport ht
      split
      · rename_i error transport' hsend
        exact .lost entry request _ _ (by simp [accepts, ht, hsend])
      · rename_i transport' hsend
        exact .taken entry request (by simp [accepts, ht, hsend])

/-- **Moves of a client**, one after another, with the requests that came to
wait for a reply, in their order. -/
inductive Moves (c : Client) : List Request → Client → Prop
  /-- Nothing happens. -/
  | refl : Moves c [] c
  /-- The oldest item of the outbox is handed over. -/
  | deliver {c' : Client} {log : List Request} {item : Outgoing} {rest : List Outgoing}
      (moves : Moves c log c') (ho : c'.session.outbox = item :: rest) :
      Moves c (log ++ (c'.awaits? item).toList) ((c'.withOutbox rest).deliver item)
  /-- With nothing to hand over, the controller reacts to the oldest event. -/
  | react {c' : Client} {log : List Request} {event : Event} {rest : List Event}
      (moves : Moves c log c') (ho : c'.session.outbox = [])
      (he : c'.session.events = event :: rest) :
      Moves c log ((c'.withEvents rest).handleEvent event)

namespace Moves

variable {c c' c'' : Client} {log log' : List Request}

theorem trans (first : Moves c log c') (second : Moves c' log' c'') :
    Moves c (log ++ log') c'' := by
  induction second with
  | refl => rwa [List.append_nil]
  | deliver _ ho ih =>
    rw [← List.append_assoc]
    exact ih.deliver ho
  | react _ ho he ih => exact ih.react ho he

/-- Emptying the outbox is handing over its items one by one. -/
theorem flush (c : Client) : ∃ log, Moves c log c.flush := by
  suffices h : ∀ (items : List Outgoing) (c : Client), c.session.outbox = items →
      ∃ log, Moves c log (items.foldl Client.deliver (c.withOutbox [])) from h _ c rfl
  intro items
  induction items with
  | nil =>
    intro c ho
    refine ⟨[], ?_⟩
    have : c.withOutbox [] = c := by
      rw [← ho]
      rfl
    rw [List.foldl_nil, this]
    exact .refl
  | cons item rest ih =>
    intro c ho
    have first : Moves c (c.awaits? item).toList ((c.withOutbox rest).deliver item) :=
      Moves.refl.deliver ho
    obtain ⟨log, second⟩ := ih ((c.withOutbox rest).deliver item) (outbox_deliver ..)
    have hempty : ((c.withOutbox rest).deliver item).withOutbox []
        = (c.withOutbox []).deliver item :=
      ((c.withOutbox rest).deliver_withOutbox [] item).symm
    rw [hempty] at second
    exact ⟨_, first.trans second⟩

theorem drain (n : Nat) (c : Client) : ∃ log, Moves c log (c.drain n) := by
  induction n generalizing c with
  | zero => exact flush c
  | succ n ih =>
    obtain ⟨log, first⟩ := flush c
    unfold Client.drain
    dsimp only
    split
    · exact ⟨log, first⟩
    · rename_i event rest he
      obtain ⟨log', second⟩ := ih ((c.flush.withEvents rest).handleEvent event)
      exact ⟨_, (first.react (outbox_flush c) he).trans second⟩

end Moves

end Client

/-! ## The balance of moves -/

namespace Session

/-- What an item can turn into without upsetting the balance. -/
structure Absorbs (s : Session) (item : Outgoing) (s' : Session) : Prop where
  /-- The handlers of the application. -/
  listeners : s'.listeners ≤ s.listeners + item.listeners
  /-- The work. -/
  workload : s'.listeners = s.listeners + item.listeners → s'.workload ≤ s.workload + item.cost

namespace Absorbs

variable {s s' s'' : Session} {item : Outgoing}

theorem trans {k : Nat} (first : s.Absorbs item s') (second : s'.Outweighs k s'')
    (hk : k = 0) : s.Absorbs item s'' := by
  have := first.listeners
  have := second.listeners
  refine ⟨by omega, fun h => ?_⟩
  have := first.workload (by omega)
  have := second.workload (by omega)
  omega

theorem of_outweighs {k : Nat} (h : s.Outweighs k s') (hk : k ≤ item.cost) :
    s.Absorbs item s' := by
  have := h.listeners
  refine ⟨by omega, fun heq => ?_⟩
  have := h.workload (by omega)
  omega

/-- Resolving the request of an item. -/
theorem complete (entry : Entry) (r : Request) (outcome : Outcome) :
    s.Absorbs (.element entry (some r))
      (s.perform (Request.effectsOf (r.complete? outcome))) := by
  have hitem : Outgoing.listeners (.element entry (some r)) = r.listeners := rfl
  have hcost : Outgoing.cost (.element entry (some r)) = r.cost := rfl
  refine ⟨?_, fun h => ?_⟩
  · rw [listeners_perform]
    omega
  · rw [listeners_perform] at h
    have := r.cost_complete outcome (by omega)
    rw [workload_perform]
    omega

theorem total_insertRequest_le (f : Request → Nat) (r : Request) (requests : List Request) :
    total ((Registry.insertRequest r requests).map f) ≤ f r + total (requests.map f) := by
  induction requests with
  | nil => exact Nat.le_refl _
  | cons other rest ih =>
    rw [Registry.insertRequest]
    split
    · simp only [List.map_cons, total]
      omega
    · split
      · exact Nat.le_refl _
      · simp only [List.map_cons, total]
        omega

/-- Registering the request of an item. -/
theorem register (entry : Entry) (r : Request) :
    s.Absorbs (.element entry (some r)) (s.register r) := by
  have hitem : Outgoing.listeners (.element entry (some r)) = r.listeners := rfl
  have hcost : Outgoing.cost (.element entry (some r)) = r.cost := rfl
  have hsettled : ∀ tickets : List Nat, total ((tickets.map fun ticket =>
      Effect.settled ticket (.error .abandoned)).map Effect.cost) = 0 := by
    intro tickets
    induction tickets with
    | nil => rfl
    | cons ticket rest ih => exact (Nat.zero_add _).trans ih
  have hl := total_insertRequest_le Request.listeners r s.registry.requests
  have hw := total_insertRequest_le Request.cost r s.registry.requests
  unfold Session.register
  dsimp only
  refine ⟨?_, fun _ => ?_⟩
  · rw [listeners_perform, listeners_eq, listeners_eq]
    show total (s.outbox.map Outgoing.listeners)
      + total ((Registry.insertRequest r s.registry.requests).map Request.listeners) ≤ _
    omega
  · rw [workload_perform, hsettled]
    show total (s.events.map Event.cost) + total (s.outbox.map Outgoing.cost)
      + total ((Registry.insertRequest r s.registry.requests).map Request.cost) + 0 ≤ _
    rw [Session.workload]
    omega

theorem failUnsent (entry : Entry) (request : Option Request) (error : RequestError) :
    s.Absorbs (.element entry request) (s.failUnsent request error) := by
  cases request with
  | none => exact of_outweighs (.refl s) (Nat.zero_le _)
  | some r => exact complete entry r _

theorem awaitReply (entry : Entry) (request : Option Request) :
    s.Absorbs (.element entry request) (s.awaitReply request) := by
  cases request with
  | none => exact of_outweighs (.refl s) (Nat.zero_le _)
  | some r =>
    unfold Session.awaitReply
    dsimp only
    split
    · rename_i h
      rw [Request.markSent?, if_pos h]
      exact complete entry r _
    · exact register entry r

end Absorbs

theorem outweighs_countSent (s : Session) (entry : Entry) :
    s.Outweighs 0 (s.countSent entry) := by
  rw [countSent_eq]
  exact .of_eq rfl rfl rfl

/-- The balance of a session without its oldest item. -/
theorem Absorbs.outweighs {s s' : Session} {item : Outgoing} {rest : List Outgoing}
    (ho : s.outbox = item :: rest) (h : ({ s with outbox := rest } : Session).Absorbs item s') :
    s.Outweighs 0 s' := by
  have hl : s.listeners = ({ s with outbox := rest } : Session).listeners + item.listeners := by
    rw [listeners_eq, listeners_eq, ho, List.map_cons, total]
    dsimp only
    omega
  have hw : s.workload = ({ s with outbox := rest } : Session).workload + item.cost := by
    rw [Session.workload, Session.workload, ho, List.map_cons, total]
    dsimp only
    omega
  refine ⟨by rw [hl]; exact h.listeners, fun heq => ?_⟩
  rw [hw]
  exact h.workload (by rw [heq, hl])

end Session

namespace Client

open Session

/-- **Handing over an item keeps the balance.** -/
theorem absorbs_deliver (c : Client) (item : Outgoing) :
    c.session.Absorbs item (c.deliver item).session := by
  have delivers := c.delivers item
  generalize (c.deliver item).session = s' at delivers ⊢
  have unmark {entry : Entry} {request : Option Request} {state : State}
      (h : (c.session.mark [entry] state).Absorbs (.element entry request) s') :
      c.session.Absorbs (.element entry request) s' := ⟨h.listeners, h.workload⟩
  cases delivers with
  | restart => exact .of_outweighs (.of_eq rfl rfl rfl) (Nat.le_refl 0)
  | close => exact .of_outweighs (k := 0) (.of_eq rfl rfl rfl) (Nat.zero_le _)
  | closing => exact .of_outweighs (c.session.outweighs_fire _) (Nat.le_refl 1)
  | lost entry request state error _ => exact unmark (.failUnsent entry request _)
  | taken entry request _ =>
    exact unmark ((Absorbs.awaitReply entry request).trans (outweighs_countSent _ entry) rfl)

/-- **Reacting to an event gains something**: a handler of the application was
called, or there is less to do. -/
theorem handleEvent_gains {c : Client} {event : Event} {rest : List Event}
    (he : c.session.events = event :: rest) :
    ((c.withEvents rest).handleEvent event).session.listeners ≤ c.session.listeners
      ∧ (((c.withEvents rest).handleEvent event).session.listeners = c.session.listeners →
        ((c.withEvents rest).handleEvent event).session.workload + 1 ≤ c.session.workload) := by
  obtain ⟨k, hk, steps⟩ := Steps.react c.controller (c.withEvents rest).session event
  have hreact := steps.outweighs
  have hl : (c.withEvents rest).session.listeners = c.session.listeners := rfl
  have hw : c.session.workload = event.cost + (c.withEvents rest).session.workload := by
    show total (c.session.events.map Event.cost) + _ + _ = event.cost + (_ + _ + _)
    rw [he, List.map_cons, total]
    simp only [Nat.add_assoc]
    rfl
  refine ⟨hl ▸ hreact.listeners, fun heq => ?_⟩
  have : ((c.withEvents rest).handleEvent event).session.workload
      ≤ (c.withEvents rest).session.workload + k := hreact.workload (heq.trans hl.symm)
  omega

/-- **Moves keep the balance.** -/
theorem Moves.outweighs {c c' : Client} {log : List Request} (moves : Moves c log c') :
    c.session.Outweighs 0 c'.session := by
  induction moves with
  | refl => exact .refl _
  | @deliver c' log item rest _ ho ih =>
    exact ih.trans (((c'.withOutbox rest).absorbs_deliver item).outweighs ho)
  | react _ ho he ih =>
    have gains := handleEvent_gains he
    have := ih.listeners
    refine ⟨by omega, fun heq => ?_⟩
    have := ih.workload (by omega)
    have := gains.2 (by omega)
    omega

/-! ## Coming to rest -/

theorem outbox_drain (n : Nat) (c : Client) : (c.drain n).session.outbox = [] := by
  induction n generalizing c with
  | zero => exact outbox_flush c
  | succ n ih =>
    unfold Client.drain
    dsimp only
    split
    · exact outbox_flush c
    · exact ih _

/-- A client at rest stays as it is. -/
theorem AtRest.drain {c : Client} (h : c.AtRest) (n : Nat) : c.drain n = c := by
  have hempty : c.withOutbox [] = c := by
    rw [← h.1]
    rfl
  have hflush : c.flush = c := by
    show c.session.outbox.foldl Client.deliver (c.withOutbox []) = c
    rw [h.1, hempty]
    rfl
  cases n with
  | zero => exact hflush
  | succ n =>
    unfold Client.drain
    rw [hflush]
    dsimp only
    rw [h.2]

theorem AtRest.drainAgain {c : Client} (h : c.AtRest) (n : Nat) : c.drainAgain n = c := by
  induction n with
  | zero => exact h.drain _
  | succ n ih =>
    unfold Client.drainAgain
    rw [h.drain, ih]

/-- Working off events brings a client to rest, or leads to a call of a
handler of the application, or does as much as it was told to. -/
theorem drain_cases (n : Nat) (c : Client) :
    (c.drain n).AtRest ∨ (c.drain n).session.listeners < c.session.listeners
      ∨ (c.drain n).session.workload + n ≤ c.session.workload := by
  induction n generalizing c with
  | zero =>
    obtain ⟨log, moves⟩ := Moves.flush c
    have h := moves.outweighs
    rcases Nat.lt_or_eq_of_le h.listeners with hlt | heq
    · exact .inr (.inl hlt)
    · exact .inr (.inr (h.workload heq))
  | succ n ih =>
    obtain ⟨log, moves⟩ := Moves.flush c
    have hflush := moves.outweighs
    unfold Client.drain
    dsimp only
    split
    · rename_i he
      exact .inl ⟨outbox_flush c, he⟩
    · rename_i event rest he
      obtain ⟨log', moves'⟩ := Moves.drain n ((c.flush.withEvents rest).handleEvent event)
      have hrest := moves'.outweighs.listeners
      have gains := handleEvent_gains he
      have := hflush.listeners
      -- a call of a handler at any point counts, and without one the work adds up
      rcases ih ((c.flush.withEvents rest).handleEvent event) with hat | hlt | hle
      · exact .inl hat
      · exact .inr (.inl (by show _ < _; exact Nat.lt_of_lt_of_le hlt (by omega)))
      · rcases Nat.lt_or_eq_of_le gains.1 with hlt | heq
        · exact .inr (.inl (Nat.lt_of_le_of_lt hrest (by omega)))
        · have := gains.2 heq
          rcases Nat.lt_or_eq_of_le hflush.listeners with hlt' | heq'
          · exact .inr (.inl (Nat.lt_of_le_of_lt hrest (by omega)))
          · have := hflush.workload heq'
            refine .inr (.inr ?_)
            show (Client.drain n ((c.flush.withEvents rest).handleEvent event)).session.workload
              + (n + 1) ≤ _
            omega

/-- Working off as much as there is brings a client to rest, unless a handler of
the application was called. -/
theorem drain_workload_cases (c : Client) :
    (c.drain c.session.workload).AtRest
      ∨ (c.drain c.session.workload).session.listeners < c.session.listeners := by
  rcases drain_cases c.session.workload c with hat | hlt | hle
  · exact .inl hat
  · exact .inr hlt
  · refine .inl ⟨outbox_drain _ c, ?_⟩
    have hzero : total ((c.drain c.session.workload).session.events.map Event.cost) = 0 := by
      have : (c.drain c.session.workload).session.workload = 0 := by omega
      rw [Session.workload] at this
      omega
    cases he : (c.drain c.session.workload).session.events with
    | nil => rfl
    | cons event rest =>
      rw [he, List.map_cons, total] at hzero
      have : 0 < event.cost := by cases event <;> exact Nat.succ_pos _
      omega

/-- **A client comes to rest.** -/
theorem atRest_run (c : Client) : c.run.AtRest := by
  suffices h : ∀ (n : Nat) (c : Client), c.session.listeners ≤ n → (c.drainAgain n).AtRest from
    h _ c (Nat.le_refl _)
  -- the induction is on the handlers of the application, each of which is called at most once
  intro n
  induction n with
  | zero =>
    intro c hle
    rcases drain_workload_cases c with hat | hlt
    · exact hat
    · omega
  | succ n ih =>
    intro c hle
    unfold drainAgain
    rcases drain_workload_cases c with hat | hlt
    · rw [hat.drainAgain]
      exact hat
    · exact ih _ (by omega)

/-- **A run is a number of moves.** -/
theorem Moves.run (c : Client) : ∃ log, Moves c log c.run := by
  suffices h : ∀ (n : Nat) (c : Client), ∃ log, Moves c log (c.drainAgain n) from h _ c
  intro n
  induction n with
  | zero => exact fun c => Moves.drain _ c
  | succ n ih =>
    intro c
    obtain ⟨log, first⟩ := Moves.drain c.session.workload c
    obtain ⟨log', second⟩ := ih (c.drain c.session.workload)
    exact ⟨_, first.trans second⟩

/-! ## What a run comes to

There is one move at a time, so a run does not depend on how much of it was done
before. -/

namespace Moves

variable {c c' rested : Client} {log log' : List Request}

/-- Moves start with handing over an item, or with a reaction if there is
none. -/
theorem head (moves : Moves c log c') :
    c' = c
      ∨ (∃ item rest log', c.session.outbox = item :: rest
          ∧ Moves ((c.withOutbox rest).deliver item) log' c')
      ∨ ∃ event rest log', c.session.outbox = [] ∧ c.session.events = event :: rest
          ∧ Moves ((c.withEvents rest).handleEvent event) log' c' := by
  induction moves with
  | refl => exact .inl rfl
  | @deliver c' log item rest _ ho ih =>
    rcases ih with rfl | ⟨item', rest', log', ho', moves⟩ | ⟨event, rest', log', ho', he, moves⟩
    · exact .inr (.inl ⟨item, rest, [], ho, .refl⟩)
    · exact .inr (.inl ⟨item', rest', _, ho', moves.deliver ho⟩)
    · exact .inr (.inr ⟨event, rest', _, ho', he, moves.deliver ho⟩)
  | @react c' log event rest _ ho he ih =>
    rcases ih with rfl | ⟨item, rest', log', ho', moves⟩ | ⟨event', rest', log', ho', he', moves⟩
    · exact .inr (.inr ⟨event, rest, [], ho, he, .refl⟩)
    · exact .inr (.inl ⟨item, rest', _, ho', moves.react ho he⟩)
    · exact .inr (.inr ⟨event', rest', _, ho', he', moves.react ho he⟩)

/-- A client at rest does not move. -/
theorem eq_of_atRest (h : c.AtRest) (moves : Moves c log c') : c' = c := by
  rcases moves.head with rfl | ⟨item, rest, log', ho, -⟩ | ⟨event, rest, log', -, he, -⟩
  · rfl
  · rw [h.1] at ho
    cases ho
  · rw [h.2] at he
    cases he

/-- Moves that lead to rest lead there by way of any others. -/
theorem toward (full : Moves c log rested) (h : rested.AtRest) (moves : Moves c log' c') :
    ∃ log'', Moves c' log'' rested := by
  -- the next move is determined, so the moves that are left begin with it
  induction moves with
  | refl => exact ⟨log, full⟩
  | @deliver c' log' item rest _ ho ih =>
    obtain ⟨log'', full⟩ := ih
    rcases full.head with rfl | ⟨item', rest', log', ho', moves⟩ | ⟨event, rest', log', ho', -, -⟩
    · rw [h.1] at ho
      cases ho
    · rw [ho] at ho'
      cases ho'
      exact ⟨log', moves⟩
    · rw [ho] at ho'
      cases ho'
  | @react c' log' event rest _ ho he ih =>
    obtain ⟨log'', full⟩ := ih
    rcases full.head with rfl | ⟨item, rest', log', ho', -⟩ | ⟨event', rest', log', -, he', moves⟩
    · rw [h.2] at he
      cases he
    · rw [ho] at ho'
      cases ho'
    · rw [he] at he'
      cases he'
      exact ⟨log', moves⟩

/-- **Moves do not change what a run comes to.** -/
theorem run_eq (moves : Moves c log c') : c.run = c'.run := by
  obtain ⟨full, toRest⟩ := Moves.run c
  obtain ⟨rest, onward⟩ := toRest.toward (atRest_run c) moves
  obtain ⟨log', toRest'⟩ := Moves.run c'
  obtain ⟨log'', between⟩ := onward.toward (atRest_run c) toRest'
  exact between.eq_of_atRest (atRest_run c')

end Moves

/-- **With something to hand over**, a run hands over the oldest item. -/
theorem run_deliver {c : Client} {item : Outgoing} {rest : List Outgoing}
    (ho : c.session.outbox = item :: rest) :
    c.run = ((c.withOutbox rest).deliver item).run :=
  (Moves.refl.deliver ho).run_eq

/-- **With nothing to hand over**, a run reacts to the oldest event. -/
theorem run_react {c : Client} {event : Event} {rest : List Event}
    (ho : c.session.outbox = []) (he : c.session.events = event :: rest) :
    c.run = ((c.withEvents rest).handleEvent event).run :=
  (Moves.refl.react ho he).run_eq

/-- **With neither** it is over. -/
theorem AtRest.run {c : Client} (h : c.AtRest) : c.run = c :=
  h.drainAgain _

end Client

end Xmpp
