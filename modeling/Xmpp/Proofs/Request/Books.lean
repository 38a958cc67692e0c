import Xmpp.Proofs.Client.Run

/-!
# The books of a mark

A handler of the application is known by its mark, and every call of it is on
record. So for each mark there are *books*: the calls so far, and the handlers
that bear the mark and still wait to be called. Giving a request adds its
handlers to the books, and resolving one turns waiting handlers into calls, one
each, by whichever of the many ways it is resolved. Nothing else touches the
books but registering a request under the key of another one, whose handlers are
struck off.

That resolving takes a single request out of the registry rests on the order in
which the registry is kept: no two requests in it have the same key.
-/

namespace Xmpp

open Delivery

/-! ## Calls -/

/-- Whether a handler bears a mark. -/
def Handler.bears (m : Mark) : Handler → Bool
  | .listener mark _ => mark = m
  | _ => false

/-- How many handlers that wait for a request bear a mark. -/
def Request.bearing (m : Mark) (r : Request) : Nat :=
  r.handlers.countP (Handler.bears m)

/-- Whether a line records a call of a handler that bears a mark. -/
def Note.isCallOf (m : Mark) : Note → Bool
  | .called mark _ => mark = m
  | _ => false

/-- How many effects are calls of handlers that bear a mark. -/
def Effect.calls (m : Mark) (effects : List Effect) : Nat :=
  (effects.filterMap Effect.note?).countP (Note.isCallOf m)

theorem Effect.calls_append (m : Mark) (a b : List Effect) :
    Effect.calls m (a ++ b) = Effect.calls m a + Effect.calls m b := by
  rw [calls, List.filterMap_append, List.countP_append]
  rfl

/-- Publishing events calls nobody. -/
theorem Effect.calls_map_fired (m : Mark) (events : List Event) :
    Effect.calls m (events.map .fired) = 0 := by
  induction events with
  | nil => rfl
  | cons event rest ih => exact ih

/-- Settling futures calls nobody. -/
theorem Effect.calls_map_settled (m : Mark) (outcome : Outcome) (tickets : List Nat) :
    Effect.calls m (tickets.map fun ticket => .settled ticket outcome) = 0 := by
  induction tickets with
  | nil => rfl
  | cons ticket rest ih => exact ih

/-- A handler is called once. -/
theorem Handler.calls_effects (m : Mark) (handler : Handler) (outcome : Outcome) :
    Effect.calls m (handler.effects outcome) = [handler].countP (Handler.bears m) := by
  cases handler with
  | listener mark publish =>
    have hfired := Effect.calls_map_fired m (publish outcome)
    unfold Effect.calls at hfired ⊢
    show (Note.called mark outcome ::
      ((publish outcome).map Effect.fired).filterMap Effect.note?).countP _ = _
    rw [List.countP_cons, hfired, List.countP_singleton, Nat.zero_add]
    rfl
  | waiter ticket => rfl
  | _ => exact Effect.calls_map_fired m _

/-- **Resolving a pipeline calls each of its handlers once**, whatever the
outcome. -/
theorem Pipeline.calls_run (m : Mark) (p : Pipeline) (outcome : Outcome) :
    Effect.calls m (p.run outcome).2 = p.handlers.countP (Handler.bears m) := by
  have ran (mark : Option Mark) (fallible : Bool) (value : Value) :
      Effect.calls m [.transformed mark fallible value] = 0 := by
    cases mark <;> rfl
  induction p with
  | reply => rfl
  | respond before handler ih =>
    simp only [run, handlers]
    rw [Effect.calls_append, ih, Handler.calls_effects, List.countP_append]
  | map before mark transform ih =>
    simp only [run, handlers]
    split
    · rename_i heq
      rw [heq] at ih
      exact ih
    · rename_i heq
      rw [heq] at ih
      rw [Effect.calls_append, ran, ih, Nat.add_zero]
  | tryMap before mark transform ih =>
    simp only [run, handlers]
    split
    · rename_i heq
      rw [heq] at ih
      exact ih
    · rename_i heq
      rw [heq] at ih
      rw [Effect.calls_append, ran, ih, Nat.add_zero]

/-- **Resolving a request calls each handler that waits for it once.** -/
theorem Request.calls_complete (m : Mark) (r : Request) (outcome : Outcome) :
    Effect.calls m (Request.effectsOf (r.complete? outcome)) = r.bearing m := by
  unfold complete? bearing handlers
  cases r.pipeline with
  | none => rfl
  | some p => exact p.calls_run m outcome

/-- No handler of the library bears a mark. -/
theorem Request.bearing_le_listeners (m : Mark) (r : Request) : r.bearing m ≤ r.listeners := by
  refine List.countP_mono_left fun handler _ h => ?_
  cases handler with
  | listener mark publish => rfl
  | _ => cases h

/-! ## The order of the registry -/

namespace RequestKey

theorem before_iff {a b : RequestKey} :
    a.before b = true ↔ a.name < b.name ∨ a.name = b.name ∧ a.id < b.id := by
  simp [before]

theorem not_before_self (a : RequestKey) : ¬ a.before a = true := by
  rw [before_iff]
  rintro (h | ⟨-, h⟩)
  · exact String.lt_irrefl _ h
  · exact String.lt_irrefl _ h

theorem ne_of_before {a b : RequestKey} (h : a.before b = true) : a ≠ b := by
  rintro rfl
  exact not_before_self a h

theorem before_trans {a b c : RequestKey} (hab : a.before b = true) (hbc : b.before c = true) :
    a.before c = true := by
  rw [before_iff] at *
  rcases hab with hab | ⟨hab, hab'⟩
  · rcases hbc with hbc | ⟨hbc, -⟩
    · exact .inl (String.lt_trans hab hbc)
    · exact .inl (hbc ▸ hab)
  · rcases hbc with hbc | ⟨hbc, hbc'⟩
    · exact .inl (hab ▸ hbc)
    · exact .inr ⟨hab.trans hbc, String.lt_trans hab' hbc'⟩

theorem before_or_before {a b : RequestKey} (h : a ≠ b) :
    a.before b = true ∨ b.before a = true := by
  rw [before_iff, before_iff]
  rcases Std.lt_trichotomy a.name b.name with hn | hn | hn
  · exact .inl (.inl hn)
  · rcases Std.lt_trichotomy a.id b.id with hi | hi | hi
    · exact .inl (.inr ⟨hn, hi⟩)
    · exact absurd (by cases a; cases b; simp_all) h
    · exact .inr (.inr ⟨hn.symm, hi⟩)
  · exact .inr (.inl hn)

end RequestKey

namespace Registry

/-- **A registry is in order**: its keys ascend. -/
def Ordered (requests : List Request) : Prop :=
  requests.Pairwise fun a b => a.key.before b.key = true

/-- What is put in its place is new, and the rest was there before. -/
theorem mem_of_mem_insertRequest {r q : Request} {requests : List Request}
    (h : q ∈ insertRequest r requests) : q = r ∨ q ∈ requests := by
  induction requests with
  | nil => exact .inl (List.mem_singleton.1 h)
  | cons s rest ih =>
    rw [insertRequest] at h
    split at h
    · rcases List.mem_cons.1 h with rfl | h
      · exact .inl rfl
      · exact .inr (List.mem_cons_of_mem _ h)
    · split at h
      · exact List.mem_cons.1 h
      · rcases List.mem_cons.1 h with rfl | h
        · exact .inr (List.mem_cons_self ..)
        · exact (ih h).imp_right (List.mem_cons_of_mem _)

/-- Putting a request in its place keeps the order. -/
theorem Ordered.insertRequest {requests : List Request} (h : Ordered requests) (r : Request) :
    Ordered (insertRequest r requests) := by
  induction requests with
  | nil => exact List.pairwise_singleton _ _
  | cons s rest ih =>
    obtain ⟨hs, hrest⟩ := List.pairwise_cons.1 h
    rw [Registry.insertRequest]
    split
    · rename_i heq
      exact List.pairwise_cons.2 ⟨fun q hq => heq ▸ hs q hq, hrest⟩
    · rename_i hne
      split
      · rename_i hlt
        refine List.pairwise_cons.2 ⟨fun q hq => ?_, h⟩
        rcases List.mem_cons.1 hq with rfl | hq
        · exact hlt
        · exact RequestKey.before_trans hlt (hs q hq)
      · rename_i hnlt
        refine List.pairwise_cons.2 ⟨fun q hq => ?_, ih hrest⟩
        rcases mem_of_mem_insertRequest hq with rfl | hq
        · exact (RequestKey.before_or_before hne).resolve_left hnlt
        · exact hs q hq

/-- In an ordered registry a request is what is found under its key. -/
theorem Ordered.find? {requests : List Request} (h : Ordered requests) {r : Request}
    (hr : r ∈ requests) : requests.find? (·.key = r.key) = some r := by
  induction requests with
  | nil => cases hr
  | cons s rest ih =>
    obtain ⟨hs, hrest⟩ := List.pairwise_cons.1 h
    rcases List.mem_cons.1 hr with rfl | hr
    · exact List.find?_cons_of_pos (by simp)
    · rw [List.find?_cons_of_neg (by simpa using RequestKey.ne_of_before (hs r hr))]
      exact ih hrest hr

/-- Taking out what is found under a key takes out nothing else. -/
theorem Ordered.total_erase {requests : List Request} (h : Ordered requests) {r : Request}
    (hr : r ∈ requests) (f : Request → Nat) :
    f r + total ((requests.filter fun q => q.key ≠ r.key).map f) = total (requests.map f) := by
  induction requests with
  | nil => cases hr
  | cons s rest ih =>
    obtain ⟨hs, hrest⟩ := List.pairwise_cons.1 h
    rcases List.mem_cons.1 hr with rfl | hr
    · have hkeep : rest.filter (fun q => q.key ≠ r.key) = rest :=
        List.filter_eq_self.2 fun q hq => by simpa using (RequestKey.ne_of_before (hs q hq)).symm
      rw [List.filter_cons_of_neg (by simp), hkeep]
      rfl
    · have hne := RequestKey.ne_of_before (hs r hr)
      rw [List.filter_cons_of_pos (by simpa using hne), List.map_cons, total, List.map_cons, total,
        ← ih hrest hr]
      omega

/-- Putting a request in its place strikes off what was found under its key. -/
theorem Ordered.total_insertRequest {requests : List Request} (h : Ordered requests)
    (r : Request) (f : Request → Nat) :
    total ((Registry.insertRequest r requests).map f)
        + ((requests.find? (·.key = r.key)).map f).getD 0
      = f r + total (requests.map f) := by
  induction requests with
  | nil => rfl
  | cons s rest ih =>
    obtain ⟨hs, hrest⟩ := List.pairwise_cons.1 h
    rw [Registry.insertRequest]
    split
    · rename_i heq
      rw [List.find?_cons_of_pos (by simp [heq])]
      simp only [List.map_cons, total, Option.map_some, Option.getD_some]
      omega
    · rename_i hne
      have hskip : (s :: rest).find? (·.key = r.key) = rest.find? (·.key = r.key) :=
        List.find?_cons_of_neg (by simpa using Ne.symm hne)
      split
      · rename_i hlt
        -- all that follows has a larger key still
        have hnone : rest.find? (·.key = r.key) = none := by
          refine List.find?_eq_none.2 fun q hq => ?_
          have := RequestKey.ne_of_before (RequestKey.before_trans hlt (hs q hq))
          simpa using this.symm
        rw [hskip, hnone]
        rfl
      · have := ih hrest
        rw [hskip]
        simp only [List.map_cons, total]
        omega

end Registry

/-! ## The books of a session -/

namespace Session

/-- How often handlers that bear a mark were called. -/
def called (s : Session) (m : Mark) : Nat :=
  s.notes.countP (Note.isCallOf m)

/-- How many handlers that bear a mark wait to be called. -/
def waiting (s : Session) (m : Mark) : Nat :=
  total (s.openRequests.map (Request.bearing m))

/-- **The books of a mark**: calls, and handlers that wait for one. -/
def books (s : Session) (m : Mark) : Nat :=
  s.called m + s.waiting m

variable {s s' : Session} {m : Mark}

theorem waiting_eq (s : Session) (m : Mark) :
    s.waiting m = total (s.outbox.map (Outgoing.part (Request.bearing m)))
      + total (s.registry.requests.map (Request.bearing m)) :=
  s.total_openRequests _

theorem called_perform (s : Session) (m : Mark) (effects : List Effect) :
    (s.perform effects).called m = s.called m + Effect.calls m effects := by
  rw [perform_eq, called, List.countP_append]
  rfl

theorem waiting_perform (s : Session) (m : Mark) (effects : List Effect) :
    (s.perform effects).waiting m = s.waiting m := by
  rw [perform_eq]
  rfl

/-- Sessions with the same record, outbox and requests have the same books. -/
theorem books_of_eq (hn : s'.notes = s.notes) (ho : s'.outbox = s.outbox)
    (hr : s'.registry.requests = s.registry.requests) : s'.books m = s.books m := by
  rw [books, books, called, called, waiting_eq, waiting_eq, hn, ho, hr]

/-- Putting an item into the outbox adds its handlers to the books. -/
theorem books_push (s : Session) (m : Mark) (item : Outgoing) :
    (s.push item).books m = s.books m + item.part (Request.bearing m) := by
  rw [books, books, waiting_eq, waiting_eq]
  show s.called m + (total ((s.outbox ++ [item]).map _) + _) = _
  rw [List.map_append, total_append]
  simp only [List.map_cons, List.map_nil, total]
  show _ + (_ + _ + total (s.registry.requests.map _)) = _
  omega

/-- **Requests that are taken from the registry and resolved** stay in the
books. -/
theorem books_resolve (s : Session) (m : Mark) (registry : Registry) (effects : List Effect)
    (h : Effect.calls m effects + total (registry.requests.map (Request.bearing m))
      = total (s.registry.requests.map (Request.bearing m))) :
    (({ s with registry } : Session).perform effects).books m = s.books m := by
  rw [books, books, called_perform, waiting_perform, waiting_eq, waiting_eq]
  show s.called m + _ + (_ + total (registry.requests.map _)) = _
  dsimp only
  omega

theorem Resolves.books (ordered : Registry.Ordered s.registry.requests) (h : s.Resolves s') :
    s'.books m = s.books m := by
  cases h with
  | none => rfl
  | one r hmem outcome =>
    refine s.books_resolve m _ _ ?_
    rw [r.calls_complete]
    exact ordered.total_erase hmem _

theorem books_sweep (s : Session) (m : Mark) (condition : Request → Bool) :
    (s.swept (s.registry.sweep condition)).books m = s.books m := by
  refine s.books_resolve m _ _ ?_
  have hcalls : ∀ taken : List Request,
      Effect.calls m ((taken.filterMap Request.expire?).flatMap (·.2))
        = total (taken.map (Request.bearing m)) := by
    intro taken
    induction taken with
    | nil => rfl
    | cons r rest ih =>
      have hr := r.calls_complete m (.error .timeout)
      rw [List.map_cons, total, ← ih, ← hr]
      cases hx : r.expire? with
      | none =>
        have : r.complete? (.error .timeout) = none := hx
        rw [List.filterMap_cons_none hx, this]
        exact (Nat.zero_add _).symm
      | some result =>
        have : r.complete? (.error .timeout) = some result := hx
        rw [List.filterMap_cons_some hx, List.flatMap_cons, Effect.calls_append, this]
        rfl
  show Effect.calls m (((s.registry.requests.filter condition).filterMap Request.expire?).flatMap
    (·.2)) + _ = _
  rw [hcalls]
  exact total_filter_add_total_filter ..

theorem books_prune (s : Session) (m : Mark) : s.prune.books m = s.books m := by
  have hnone : ∀ requests : List Request,
      total ((requests.filter fun r => !r.isCompleted).map (Request.bearing m))
        = total (requests.map (Request.bearing m)) := by
    intro requests
    induction requests with
    | nil => rfl
    | cons r rest ih =>
      rw [List.map_cons, total, ← ih]
      cases hp : r.pipeline with
      | none =>
        have hzero : r.bearing m = 0 := by
          unfold Request.bearing Request.handlers
          rw [hp]
          rfl
        rw [List.filter_cons_of_neg (by simp [Request.isCompleted, hp]), hzero, Nat.zero_add]
      | some p =>
        rw [List.filter_cons_of_pos (by simp [Request.isCompleted, hp]), List.map_cons, total]
  rw [books, books, waiting_eq, waiting_eq]
  show s.called m + (total (s.outbox.map _)
    + total ((s.registry.requests.filter fun r => !r.isCompleted).map _)) = _
  rw [hnone]

end Session

/-- How many handlers that bear a mark come with a change. -/
def Change.bearing (m : Mark) : Change → Nat
  | .give request => request.bearing m
  | _ => 0

namespace Session

/-- **What a change does to the books**: it adds the handlers of a request that
is given. -/
theorem books_change {s : Session} {m : Mark} {change : Change} (h : change.Sound)
    (ordered : Registry.Ordered s.registry.requests) :
    (s.change change).books m = s.books m + change.bearing m := by
  have still {s' : Session} (hn : s'.notes = s.notes) (ho : s'.outbox = s.outbox)
      (hr : s'.registry.requests = s.registry.requests) : s'.books m = s.books m :=
    books_of_eq hn ho hr
  cases change with
  | write element =>
    exact (books_push _ m (.element (s.track element).1 none)).trans (by
      rw [books_of_eq (s := s) rfl rfl rfl]
      rfl)
  | give request =>
    exact (books_push _ m (.element (s.track request.stanza).1 (some request))).trans (by
      rw [books_of_eq (s := s) rfl rfl rfl]
      rfl)
  | restart => exact books_push s m .restart
  | close => exact books_push s m .close
  | note line =>
    show (s.note line).books m = s.books m
    have hcall : (s.notes ++ [line]).countP (Note.isCallOf m)
        = s.notes.countP (Note.isCallOf m) := by
      rw [List.countP_append, List.countP_singleton]
      cases line with
      | called mark outcome => cases h
      | _ => rfl
    rw [books, books, called, called]
    show (s.notes ++ [line]).countP _ + _ = _
    rw [hcall]
    rfl
  | abandon =>
    show s.abandonResumption.books m = s.books m
    rw [abandonResumption_eq]
    exact still rfl rfl rfl
  | reset =>
    show s.resetManagement.books m = s.books m
    rw [resetManagement_eq]
    exact still rfl rfl rfl
  | acknowledge report =>
    show (s.acknowledge report).books m = s.books m
    rw [acknowledge_eq]
    exact still rfl rfl rfl
  | resume report =>
    show (s.continueFrom report).books m = s.books m
    unfold continueFrom
    split
    · rfl
    · rename_i context _
      have hentries (entries : List Entry) :
          total ((entries.map fun entry => Outgoing.element entry none).map
            (Outgoing.part (Request.bearing m))) = 0 := by
        induction entries with
        | nil => rfl
        | cons entry rest ih => exact (Nat.zero_add _).trans ih
      rw [books, books, waiting_eq, waiting_eq]
      show s.called m + (total ((s.outbox ++ _).map _) + total (s.registry.requests.map _)) = _
      rw [List.map_append, total_append, hentries, Nat.add_zero]
  | answer reply => exact (s.resolves_answer reply).books ordered
  | sweep condition => exact s.books_sweep m condition
  | prune => exact s.books_prune m
  | cancel key => exact (s.resolves_cancel key).books ordered
  | _ => exact still rfl rfl rfl

/-- Changes take requests out of the registry and put none into it. -/
theorem requests_change_sublist (s : Session) (change : Change) :
    (s.change change).registry.requests.Sublist s.registry.requests := by
  have same {s' : Session} (h : s'.registry = s.registry) :
      s'.registry.requests.Sublist s.registry.requests :=
    h ▸ List.Sublist.refl _
  cases change with
  | identify jid => exact List.Sublist.refl _
  | abandon => exact same (congrArg (·.registry) s.abandonResumption_eq)
  | reset => exact same (congrArg (·.registry) s.resetManagement_eq)
  | acknowledge report => exact same (congrArg (·.registry) (s.acknowledge_eq report))
  | resume report => exact same (congrArg (·.registry) (s.continueFrom_eq report))
  | answer reply => exact (s.resolves_answer reply).sublist
  | cancel key => exact (s.resolves_cancel key).sublist
  | sweep condition =>
    show (Session.perform _ _).registry.requests.Sublist _
    rw [perform_eq]
    exact List.filter_sublist
  | prune => exact List.filter_sublist
  | _ => exact same rfl

/-! ## Handing over an item -/

/-- The handlers that are struck off when a request is registered. -/
def struckOff (s : Session) (m : Mark) (r : Request) : Nat :=
  ((s.registry.find? r.key).map (Request.bearing m)).getD 0

/-- Resolving a request that is not registered moves its handlers from the ones
that are given to those that were called. -/
theorem books_complete (s : Session) (m : Mark) (r : Request) (outcome : Outcome) :
    (s.perform (Request.effectsOf (r.complete? outcome))).books m = s.books m + r.bearing m := by
  rw [books, books, called_perform, waiting_perform, r.calls_complete]
  omega

/-- Registering a request adds its handlers and strikes off those of the one
that had its key. -/
theorem books_register {s : Session} {m : Mark}
    (ordered : Registry.Ordered s.registry.requests) (r : Request) :
    (s.register r).books m + s.struckOff m r = s.books m + r.bearing m := by
  have htotal := ordered.total_insertRequest r (Request.bearing m)
  unfold register
  dsimp only
  rw [books, books, called_perform, waiting_perform, Effect.calls_map_settled, waiting_eq,
    waiting_eq]
  show s.called m + 0 + (_ + total ((Registry.insertRequest r s.registry.requests).map _)) + _ = _
  unfold struckOff Registry.find?
  dsimp only
  omega

theorem books_countSent (s : Session) (m : Mark) (entry : Entry) :
    (s.countSent entry).books m = s.books m := by
  rw [countSent_eq]
  exact books_of_eq rfl rfl rfl

/-- The books without the oldest item of the outbox. -/
theorem books_pop {s : Session} {m : Mark} {item : Outgoing} {rest : List Outgoing}
    (ho : s.outbox = item :: rest) :
    s.books m = ({ s with outbox := rest } : Session).books m
      + item.part (Request.bearing m) := by
  rw [books, books, waiting_eq, waiting_eq, ho, List.map_cons, total]
  show s.called m + _ = s.called m + _ + _
  dsimp only
  omega

end Session

namespace Client

open Session

/-- **What handing over an item does to the books**: its handlers stay in them,
and only registering its request strikes others off. -/
theorem books_deliver {c : Client} {m : Mark}
    (ordered : Registry.Ordered c.session.registry.requests) (item : Outgoing) :
    (c.deliver item).session.books m
        + ((c.awaits? item).map (c.session.struckOff m)).getD 0
      = c.session.books m + item.part (Request.bearing m) := by
  have delivers := c.delivers item
  generalize (c.deliver item).session = s' at delivers ⊢
  have completed (entry : Entry) (r : Request) (state : State) (outcome : Outcome) :
      ((c.session.mark [entry] state).perform
        (Request.effectsOf (r.complete? outcome))).books m
        = c.session.books m + r.bearing m :=
    ((c.session.mark [entry] state).books_complete m r _).trans
      (congrArg (· + r.bearing m) (books_of_eq rfl rfl rfl))
  cases delivers with
  | restart => exact books_of_eq rfl rfl rfl
  | close => exact books_of_eq rfl rfl rfl
  | closing => exact books_of_eq rfl rfl rfl
  | lost entry request state error haccepts =>
    -- the request fails at once, and nothing is struck off
    rw [awaits?_of_not_accepts haccepts]
    cases request with
    | none => exact books_of_eq rfl rfl rfl
    | some r => exact completed entry r state _
  | taken entry request haccepts =>
    rw [books_countSent]
    cases request with
    | none => exact books_of_eq rfl rfl rfl
    | some r =>
      unfold awaitReply
      dsimp only
      split
      · rename_i hfire
        have hnone : c.awaits? (.element entry (some r)) = none := by
          simp [awaits?, hfire]
        rw [hnone, Request.markSent?, if_pos hfire]
        exact completed entry r .sent _
      · rename_i hfire
        have hsome : c.awaits? (.element entry (some r)) = some r := by
          simp [awaits?, haccepts, hfire]
        rw [hsome]
        exact (books_register (s := c.session.mark [entry] .sent) ordered r).trans
          (congrArg (· + r.bearing m) (books_of_eq rfl rfl rfl))

/-- **What handing over an item does to the registry**: the request that comes to
wait for a reply is put in its place. -/
theorem requests_deliver (c : Client) (item : Outgoing) :
    (c.deliver item).session.registry.requests
      = match c.awaits? item with
        | some r => Registry.insertRequest r c.session.registry.requests
        | none => c.session.registry.requests := by
  have delivers := c.delivers item
  generalize (c.deliver item).session = s' at delivers ⊢
  have performed (s : Session) (effects : List Effect) :
      (s.perform effects).registry = s.registry := by
    rw [perform_eq]
  cases delivers with
  | restart => rfl
  | close => rfl
  | closing => rfl
  | lost entry request state error haccepts =>
    rw [awaits?_of_not_accepts haccepts]
    cases request with
    | none => rfl
    | some r => exact congrArg (·.requests) (performed _ _)
  | taken entry request haccepts =>
    rw [countSent_eq]
    cases request with
    | none => rfl
    | some r =>
      unfold awaitReply
      dsimp only
      split
      · rename_i hfire
        rw [performed]
        simp [awaits?, hfire, Session.mark]
      · rename_i hfire
        have hsome : c.awaits? (.element entry (some r)) = some r := by
          simp [awaits?, haccepts, hfire]
        rw [hsome]
        unfold register
        rw [performed]
        rfl

end Client

end Xmpp
