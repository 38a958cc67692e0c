import Xmpp.Proofs.Client.Annals
import Xmpp.Proofs.Client.Forgery
import Xmpp.Proofs.Client.Loss

/-!
# Deadlines

A request waits for its reply until a sweep finds it overdue. Three passes make up a
sweep: some requests leave the registry, those of them that were not resolved are
failed, and these are counted. `Registry.Sweeps` says what they come to, for any
registry: who leaves, who is failed, and in which order.

The two kinds of sweeps do not treat alike what was resolved already
(`Registry.sweeps_sweepOutdated`, `Registry.sweeps_timeoutAll`). The one that looks for
overdue requests forgets all that were resolved. The one that fails everything made by
some time leaves those alone that were made later, resolved or not
(`Client.not_forall_timeoutAll_forgets`).

What happens to a client beside its housekeeping does not concern a request that waits,
unless the request is answered, cancelled or superseded, the session ends, resuming it
is refused, or a module called by the owner resolves requests by itself. The scribe
`timekeeper` tells of these, and of the times at which housekeeping was done. In all
other respects time is the only thing that matters, and the first time at or past its
deadline fails the request (`Client.deadlines`), whether there is a transport or not.
-/

namespace Xmpp

open Delivery

/-! ## Sweeps -/

namespace Request

/-- When a request should have been answered. -/
def deadline (r : Request) : Nat :=
  r.created + r.timeout

theorem isOutdated_iff {r : Request} {now : Nat} : r.isOutdated now = true ↔ r.deadline ≤ now :=
  decide_eq_true_iff

/-- Whether a request was made by a time; any was if there is none. -/
def MadeBy (cutoff : Option Nat) (r : Request) : Prop :=
  ∀ time, cutoff = some time → r.created ≤ time

theorem madeBy_iff {cutoff : Option Nat} {r : Request} :
    (cutoff.all fun time => decide (r.created ≤ time)) = true ↔ r.MadeBy cutoff := by
  cases cutoff with
  | none => exact iff_of_true rfl nofun
  | some time =>
    refine decide_eq_true_iff.trans ⟨fun h other hother => ?_, fun h => h time rfl⟩
    exact Option.some.inj hother ▸ h

/-- What no reply in time comes to: all who wait for the request learn of it, each once, in the
order in which they were attached. -/
def expiry (r : Request) : List Effect :=
  r.handlers.flatMap fun handler => handler.effects (.error .timeout)

end Request

namespace Registry

/-- **What a sweep does** to a registry: the requests that go are those that meet one condition,
and those that are failed meet another and were not resolved. -/
structure Sweeps (g : Registry) (swept : Swept) (gone due : Request → Prop)
    (failed : List Request) : Prop where
  /-- The address replies are judged by is the old one. -/
  ownJid : swept.registry.ownJid = g.ownJid
  /-- What is left stays as it was, in its order. -/
  sublist : swept.registry.requests.Sublist g.requests
  /-- Who goes. -/
  kept : ∀ r ∈ g.requests, r ∈ swept.registry.requests ↔ ¬ gone r
  /-- Who is failed. -/
  mem_failed : ∀ r, r ∈ failed ↔ r ∈ g.requests ∧ due r ∧ r.isCompleted = false
  /-- They are failed in the order of their keys, and so each once. -/
  ordered : Ordered failed
  /-- Nothing else happens. -/
  effects : swept.effects = failed.flatMap Request.expiry
  /-- They are counted. -/
  count : swept.count = failed.length

variable {g : Registry}

/-- Failing requests passes over those that were resolved. -/
theorem filterMap_expire? (requests : List Request) :
    (requests.filterMap Request.expire?).flatMap (·.2)
        = (requests.filter fun r => !r.isCompleted).flatMap Request.expiry
      ∧ (requests.filterMap Request.expire?).length
        = (requests.filter fun r => !r.isCompleted).length := by
  induction requests with
  | nil => exact ⟨rfl, rfl⟩
  | cons r rest ih =>
    obtain ⟨heffects, hlength⟩ := ih
    have hexpiry : Request.effectsOf r.expire? = r.expiry := r.effectsOf_expire?
    cases h : r.expire? with
    | none =>
      have hcompleted : r.isCompleted = true := Request.complete?_eq_none_iff.1 h
      rw [List.filterMap_cons_none h, List.filter_cons_of_neg (by simp [hcompleted])]
      exact ⟨heffects, hlength⟩
    | some result =>
      have hcompleted : ¬ r.isCompleted = true := fun hc => by
        have hnone : r.expire? = none := Request.complete?_eq_none_iff.2 hc
        rw [hnone] at h
        cases h
      rw [h] at hexpiry
      rw [List.filterMap_cons_some h, List.filter_cons_of_pos (by simp [hcompleted]),
        List.flatMap_cons, List.flatMap_cons, heffects, List.length_cons, List.length_cons, hlength]
      exact ⟨congrArg (· ++ _) hexpiry, rfl⟩

/-- A sweep by one condition. -/
theorem sweeps_sweep (ordered : Ordered g.requests) (condition : Request → Bool) :
    g.Sweeps (g.sweep condition) (fun r => condition r = true) (fun r => condition r = true)
      ((g.requests.filter condition).filter fun r => !r.isCompleted) := by
  obtain ⟨heffects, hlength⟩ := filterMap_expire? (g.requests.filter condition)
  refine ⟨rfl, List.filter_sublist, fun r hr => ?_, fun r => ?_,
    ordered.sublist (List.filter_sublist.trans List.filter_sublist), heffects, hlength⟩
  · show r ∈ g.requests.filter (fun r => !condition r) ↔ _
    rw [List.mem_filter]
    simp [hr]
  · rw [List.mem_filter, List.mem_filter, and_assoc]
    simp

/-- **Failing the overdue requests**: exactly these go, and those that were resolved. -/
theorem sweeps_sweepOutdated (ordered : Ordered g.requests) (now : Nat) :
    ∃ failed, g.Sweeps (g.sweepOutdated now) (fun r => r.deadline ≤ now ∨ r.isCompleted = true)
      (fun r => r.deadline ≤ now) failed := by
  have pruned : Ordered (g.requests.filter fun r => !r.isCompleted) :=
    ordered.sublist List.filter_sublist
  have swept := sweeps_sweep (g := { g with requests := g.requests.filter fun r => !r.isCompleted })
    pruned (·.isOutdated now)
  refine ⟨_, swept.ownJid, swept.sublist.trans List.filter_sublist, fun r hr => ?_, fun r => ?_,
    swept.ordered, swept.effects, swept.count⟩
  · constructor
    · intro hkept
      have hmem := swept.sublist.subset hkept
      have hlate := (swept.kept r hmem).1 hkept
      rw [Request.isOutdated_iff] at hlate
      rintro (hdue | hcompleted)
      · exact hlate hdue
      · simpa [hcompleted] using (List.mem_filter.1 hmem).2
    · intro hstays
      refine (swept.kept r (List.mem_filter.2 ⟨hr, ?_⟩)).2 fun hdue =>
        hstays (.inl (Request.isOutdated_iff.1 hdue))
      simpa using fun hcompleted => hstays (.inr hcompleted)
  · rw [swept.mem_failed, Request.isOutdated_iff, List.mem_filter]
    constructor
    · rintro ⟨⟨hmem, -⟩, hdue, hcompleted⟩
      exact ⟨hmem, hdue, hcompleted⟩
    · rintro ⟨hmem, hdue, hcompleted⟩
      exact ⟨⟨hmem, by simp [hcompleted]⟩, hdue, hcompleted⟩

/-- **Failing all requests made by a time**, or all: exactly these go. Those made later are left
alone, whether they were resolved or not. -/
theorem sweeps_timeoutAll (ordered : Ordered g.requests) (cutoff : Option Nat) :
    ∃ failed, g.Sweeps (g.timeoutAll cutoff) (Request.MadeBy cutoff) (Request.MadeBy cutoff)
      failed := by
  have swept := sweeps_sweep ordered fun r => cutoff.all fun time => r.created ≤ time
  refine ⟨_, swept.ownJid, swept.sublist, fun r hr => ?_, fun r => ?_, swept.ordered,
    swept.effects, swept.count⟩
  · rw [← Request.madeBy_iff]
    exact swept.kept r hr
  · rw [← Request.madeBy_iff]
    exact swept.mem_failed r

end Registry

/-! ## What concerns a request that waits -/

/-- **What a request that waits has to do with.** -/
inductive TimeTurn where
  /-- Housekeeping was done at a time. -/
  | ticked (now : Nat)
  /-- An element answered a request. -/
  | answered (request : Request)
  /-- What waits under a key was cancelled. -/
  | cancelled (key : RequestKey)
  /-- A request came to wait for its reply. -/
  | registered (request : Request)
  /-- The session ended. -/
  | ended
  /-- The server refused to resume the session. -/
  | refused
  /-- A module that was called by the owner saw to the requests by itself. -/
  | meddled

namespace TimeTurn

/-- Whether nothing but time can have failed a request of this key. -/
def spares (key : RequestKey) : TimeTurn → Bool
  | .ticked _ => true
  | .answered request | .registered request => request.key ≠ key
  | .cancelled other => other ≠ key
  | .ended | .refused | .meddled => false

/-- The time of the housekeeping. -/
def time? : TimeTurn → Option Nat
  | .ticked now => some now
  | _ => none

/-- Whether all housekeeping was done before a time. -/
def Early (turns : List TimeTurn) (deadline : Nat) : Prop :=
  ∀ now ∈ turns.filterMap time?, now < deadline

theorem early_append {before after : List TimeTurn} {deadline : Nat} :
    Early (before ++ after) deadline ↔ Early before deadline ∧ Early after deadline := by
  unfold Early
  rw [List.filterMap_append]
  exact List.forall_mem_append

theorem early_nil (deadline : Nat) : Early [] deadline :=
  List.forall_mem_nil _

/-- What tells of no housekeeping leaves the time as it was. -/
theorem early_append_untimed {turns more : List TimeTurn} {deadline : Nat}
    (untimed : more.filterMap time? = []) :
    Early (turns ++ more) deadline ↔ Early turns deadline := by
  rw [early_append]
  refine and_iff_left ?_
  unfold Early
  rw [untimed]
  exact List.forall_mem_nil _

end TimeTurn

/-- The time at which an operation does housekeeping. -/
def Operation.time? : Operation → Option Nat
  | .tick now => some now
  | _ => none

/-- Whether a change sees to requests that wait. Modules are not handed the registry, so none has
the means to make one. -/
def Change.meddles : Change → Bool
  | .answer _ | .sweep _ | .prune | .cancel _ => true
  | _ => false

/-- What a reaction of the controller means for the requests that wait. -/
def Controller.timeTurns (c : Controller) (s : Session) : Event → List TimeTurn
  | .connector _ .disconnecting => [.ended]
  | .connector old .disconnected =>
    if old = .disconnecting ∨ s.canResume = false then [.ended] else []
  | .managementFailed _ => if c.resuming then [.refused] else []
  | _ => []

/-- **The timekeeper** tells of all that concerns a request that waits. -/
def timekeeper : Scribe TimeTurn where
  admits _ _ := True
  operation c
    | .tick now => [.ticked now]
    | .receive element => (c.session.registry.answeredBy? element).toList.map .answered
    | .cancel key => [.cancelled key]
    | .call changes => if changes.any Change.meddles then [.meddled] else []
    | _ => []
  item c item := (c.awaits? item).toList.map .registered
  reaction := Controller.timeTurns

namespace Session

/-- Setting up a module does not touch the requests. -/
theorem registry_setUp (s : Session) (id : ModuleId) (tag : Option String) (modules : Modules) :
    (s.setUp id tag modules).1.registry = s.registry := by
  unfold setUp
  split
  · rfl
  · unfold noteFor
    dsimp only
    split
    · exact registry_actAll _ _
    · exact registry_actAll _ _
  · rfl

/-- So does not installing a batch. -/
theorem registry_install (s : Session) (m : Modules) (batch : List Descriptor) :
    (m.install s batch).2.1.registry = s.registry := by
  have one (m : Modules) (s : Session) (id : ModuleId) :
      (m.setUp s id).2.1.registry = s.registry := by
    unfold Modules.setUp
    split
    · rfl
    · exact s.registry_setUp _ _ _
  have all (ids : List ModuleId) (m : Modules) (s : Session) :
      (m.setUpAll s ids).2.1.registry = s.registry := by
    induction ids generalizing m s with
    | nil => rfl
    | cons id rest ih =>
      have first := one m s id
      unfold Modules.setUpAll
      split
      · rename_i m' s' heq
        rw [heq] at first
        exact (ih m' s').trans first
      · rename_i m' s' error heq
        rw [heq] at first
        exact first
  unfold Modules.install
  split
  · rfl
  · exact all _ _ _

/-- Most changes do not touch the requests. -/
theorem requests_change (s : Session) {change : Change} (h : change.meddles = false) :
    (s.change change).registry.requests = s.registry.requests := by
  have same {s' : Session} (h : s'.registry = s.registry) :
      s'.registry.requests = s.registry.requests := congrArg (·.requests) h
  cases change with
  | answer _ | sweep _ | prune | cancel _ => cases h
  | abandon => exact same (congrArg (·.registry) s.abandonResumption_eq)
  | reset => exact same (congrArg (·.registry) s.resetManagement_eq)
  | acknowledge report => exact same (congrArg (·.registry) (s.acknowledge_eq report))
  | resume report => exact same (congrArg (·.registry) (s.continueFrom_eq report))
  | _ => rfl

theorem requests_foldl_change (s : Session) {changes : List Change}
    (h : changes.any Change.meddles = false) :
    (changes.foldl change s).registry.requests = s.registry.requests := by
  induction changes generalizing s with
  | nil => rfl
  | cons change rest ih =>
    rw [List.any_cons, Bool.or_eq_false_iff] at h
    exact (ih (s.change change) h.2).trans (s.requests_change h.1)

theorem registry_manage (s : Session) : s.manage.registry = s.registry := by
  unfold manage requestAck
  split
  · split
    · exact registry_sendAck _ _
    · exact registry_sendAck _ _
  · rfl

theorem registry_login (s : Session) : s.login.1.registry = s.registry := by
  unfold login
  split
  · rfl
  · split
    · rfl
    · rfl

theorem registry_login2 (s : Session) (bind : Bool) : (s.login2 bind).1.registry = s.registry := by
  unfold login2
  split
  · rfl
  · split
    · rfl
    · rfl

theorem registry_reportLogin (s : Session) (error : Option Error) :
    (reportLogin (s, error)).registry = s.registry := by
  cases error with
  | none => rfl
  | some error => cases error <;> rfl

/-- Getting in does not touch the requests. -/
theorem registry_getIn (s : Session) (registered : Bool) :
    (s.getIn registered).registry = s.registry := by
  have readied : s.forgetUnlessResumable.registry = s.registry := by
    unfold forgetUnlessResumable
    split
    · rfl
    · exact congrArg (·.registry) s.resetManagement_eq
  unfold getIn
  dsimp only
  generalize s.forgetUnlessResumable = t at readied
  rw [← readied]
  split
  · exact (registry_reportLogin _ _).trans (t.registry_login2 _)
  · split
    · exact (registry_reportLogin _ _).trans t.registry_login
    · split
      · rfl
      · rfl

/-- Neither does settling in. -/
theorem requests_settleIn (s : Session) (jid : Jid) (inline : Bool) :
    (s.settleIn jid inline).registry.requests = s.registry.requests := by
  unfold settleIn
  dsimp only
  split
  · rfl
  · split
    · rfl
    · unfold enableManagement
      split
      · rfl
      · rfl

end Session

/-- Resuming the session or binding a resource is asked for by requests that still have to be
handed over. -/
theorem Controller.registry_resumeOrBind (c : Controller) (s : Session) :
    (c.resumeOrBind s).2.registry = s.registry := by
  have hresume : s.resume.2.registry = s.registry := by
    unfold Session.resume
    split
    · rfl
    · rfl
  unfold resumeOrBind
  split
  · exact hresume
  · split
    · rfl
    · rfl

/-- **Reactions do not touch the requests**, unless the session ends or is not resumed. -/
theorem Controller.requests_react (c : Controller) (s : Session) (event : Event)
    (h : c.timeTurns s event = []) :
    (c.react s event).2.registry.requests = s.registry.requests := by
  have resumed : (c.resumeOrBind s).2.registry.requests = s.registry.requests :=
    congrArg (·.requests) (c.registry_resumeOrBind s)
  cases event with
  | features =>
    unfold react
    dsimp only
    split
    · exact congrArg (·.requests) (s.registry_getIn c.registered)
    · exact resumed
    · rfl
    · rfl
  | authSucceeded restartRequired inlineBound =>
    cases restartRequired <;> cases inlineBound
    · exact resumed
    · rfl
    · rfl
    · rfl
  | bound jid inline => exact s.requests_settleIn jid inline
  | managementFailed condition =>
    have h : (if c.resuming then [TimeTurn.refused] else []) = [] := h
    split at h
    · cases h
    · rename_i hresuming
      unfold react
      dsimp only
      rw [if_neg hresuming]
  | connector old new =>
    cases new with
    | disconnecting => cases h
    | disconnected =>
      have h : (if old = .disconnecting ∨ s.canResume = false then [TimeTurn.ended] else []) = [] :=
        h
      split at h
      · cases h
      · rename_i stays
        show (if old = .disconnecting ∨ s.canResume = false then s.wrapUp
          else s.suspend).registry.requests = _
        rw [if_neg stays]
        rfl
    | connecting | connected => rfl
  | _ => rfl

/-- What a reaction means for the requests, if it means anything, spares none. -/
theorem Controller.timeTurns_eq_nil (c : Controller) (s : Session) (event : Event)
    {key : RequestKey} (spared : ∀ turn ∈ c.timeTurns s event, turn.spares key = true) :
    c.timeTurns s event = [] := by
  unfold timeTurns at spared ⊢
  split at spared
  · exact absurd (spared _ List.mem_cons_self) Bool.false_ne_true
  · split at spared
    · exact absurd (spared _ List.mem_cons_self) Bool.false_ne_true
    · rename_i stays
      exact if_neg stays
  · split at spared
    · exact absurd (spared _ List.mem_cons_self) Bool.false_ne_true
    · rename_i hresuming
      exact if_neg hresuming
  · rfl

/-- Putting another request in its place takes out nothing of another key. -/
theorem Registry.mem_insertRequest {q r : Request} (hkey : q.key ≠ r.key)
    {requests : List Request} : r ∈ insertRequest q requests ↔ r ∈ requests := by
  have hne : r ≠ q := fun heq => hkey (heq ▸ rfl)
  induction requests with
  | nil => simp [insertRequest, hne]
  | cons s rest ih =>
    rw [insertRequest]
    split
    · rename_i hs
      have hrs : r ≠ s := fun heq => hkey (heq ▸ hs)
      rw [List.mem_cons, List.mem_cons, or_iff_right hne, or_iff_right hrs]
    · split
      · rw [List.mem_cons, or_iff_right hne]
      · rw [List.mem_cons, List.mem_cons]
        exact or_congr_right ih

/-- Taking out a key takes out nothing of another one. -/
theorem Registry.mem_erase {g : Registry} {key : RequestKey} {r : Request} (hkey : key ≠ r.key) :
    r ∈ (g.erase key).requests ↔ r ∈ g.requests := by
  show r ∈ g.requests.filter (fun q => q.key ≠ key) ↔ _
  rw [List.mem_filter]
  exact and_iff_left (decide_eq_true hkey.symm)

namespace Client

open TimeTurn

variable {c c₀ c' : Client} {r : Request} {told : List TimeTurn}

/-! ## One step -/

/-- What is left after housekeeping. -/
theorem requests_housekeep (c : Client) (now : Nat) :
    (c.housekeep now).registry.requests
      = (c.session.registry.sweepOutdated now).registry.requests := by
  have swept : (c.session.swept (c.session.registry.sweepOutdated now)).registry
      = (c.session.registry.sweepOutdated now).registry := by
    unfold Session.swept
    rw [Session.perform_eq]
  show (if c.transport.isSome then
    (c.session.swept (c.session.registry.sweepOutdated now)).manage
    else c.session.swept (c.session.registry.sweepOutdated now)).registry.requests = _
  split
  · rw [Session.registry_manage, swept]
  · rw [swept]

/-- Housekeeping takes out a request that waits if it is overdue. -/
theorem mem_housekeep (unresolved : r.isCompleted = false)
    (ordered : Registry.Ordered c.session.registry.requests) (now : Nat) :
    r ∈ (c.housekeep now).registry.requests ↔
      r ∈ c.session.registry.requests ∧ now < r.deadline := by
  obtain ⟨failed, sweeps⟩ := Registry.sweeps_sweepOutdated ordered now
  rw [requests_housekeep]
  constructor
  · intro hkept
    have hmem := sweeps.sublist.subset hkept
    exact ⟨hmem, Nat.lt_of_not_le fun hdue => (sweeps.kept r hmem).1 hkept (.inl hdue)⟩
  · rintro ⟨hmem, hearly⟩
    refine (sweeps.kept r hmem).2 ?_
    rintro (hdue | hcompleted)
    · exact Nat.not_le.2 hearly hdue
    · rw [unresolved] at hcompleted
      cases hcompleted

/-- An operation of which there is nothing to tell leaves the requests alone. -/
theorem requests_prepare {op : Operation} (silent : timekeeper.operation c op = []) :
    (c.prepare op).session.registry.requests = c.session.registry.requests := by
  cases op with
  | tick now => cases silent
  | cancel key => cases silent
  | receive element =>
    have hnone : c.session.registry.answeredBy? element = none := by
      have h : (c.session.registry.answeredBy? element).toList.map TimeTurn.answered = [] := silent
      rw [List.map_eq_nil_iff, Option.toList_eq_nil_iff] at h
      exact h
    exact congrArg (·.requests) (take_of_answeredBy?_eq_none hnone).2
  | call changes =>
    have h : (if changes.any Change.meddles then [TimeTurn.meddled] else []) = [] := silent
    split at h
    · cases h
    · rename_i hnot
      exact c.session.requests_foldl_change (Bool.not_eq_true _ ▸ hnot)
  | install batch => exact congrArg (·.requests) (c.session.registry_install c.modules batch)
  | process id element =>
    unfold prepare
    dsimp only
    split
    · rfl
    · exact congrArg (·.requests) (c.session.registry_handle element id _)
  | connecting | connected transport | lost =>
    unfold prepare setConnector
    dsimp only
    split
    · rfl
    · rfl
  | disconnect =>
    unfold prepare
    dsimp only
    split
    · rfl
    · rfl
  | nextEvent =>
    show c.nextEvent.2.session.registry.requests = _
    unfold nextEvent
    split
    · rfl
    · rfl
  | _ => rfl

/-- **An operation fails a request that is spared by housekeeping only**, and only if it is
overdue. -/
theorem mem_prepare (unresolved : r.isCompleted = false)
    (ordered : Registry.Ordered c.session.registry.requests) {op : Operation}
    (spared : ∀ turn ∈ timekeeper.operation c op, turn.spares r.key = true) :
    r ∈ (c.prepare op).session.registry.requests ↔
      r ∈ c.session.registry.requests ∧ Early (timekeeper.operation c op) r.deadline := by
  have idle (silent : timekeeper.operation c op = []) :
      r ∈ (c.prepare op).session.registry.requests ↔
        r ∈ c.session.registry.requests ∧ Early (timekeeper.operation c op) r.deadline := by
    rw [requests_prepare silent, silent]
    exact (and_iff_left (early_nil _)).symm
  cases op with
  | tick now =>
    show r ∈ (c.housekeep now).registry.requests ↔ r ∈ _ ∧ ∀ time ∈ [now], time < r.deadline
    rw [List.forall_mem_singleton]
    exact mem_housekeep unresolved ordered now
  | receive element =>
    have htold : timekeeper.operation c (.receive element) =
        (c.session.registry.answeredBy? element).toList.map .answered := rfl
    cases h : c.session.registry.answeredBy? element with
    | none =>
      rw [h] at htold
      exact idle htold
    | some q =>
      rw [h] at htold
      rw [htold] at spared ⊢
      have hkey : q.key ≠ r.key := of_decide_eq_true (spared (.answered q) List.mem_cons_self)
      show r ∈ (c.take element).registry.requests ↔ _
      rw [take_of_answeredBy? h, Session.perform_eq]
      exact (Registry.mem_erase hkey).trans (and_iff_left (early_nil _)).symm
  | cancel key =>
    have hkey : key ≠ r.key := of_decide_eq_true (spared (.cancelled key) List.mem_cons_self)
    show r ∈ (c.session.cancel key).registry.requests ↔ _ ∧ Early [] r.deadline
    rw [and_iff_left (early_nil _)]
    unfold Session.cancel Registry.cancel?
    cases c.session.registry.find? key with
    | none => rfl
    | some q =>
      dsimp only [Option.map_some]
      rw [Session.perform_eq]
      exact Registry.mem_erase hkey
  | call changes =>
    have htold : timekeeper.operation c (.call changes) =
        if changes.any Change.meddles then [.meddled] else [] := rfl
    split at htold
    · rw [htold] at spared
      exact absurd (spared .meddled List.mem_cons_self) Bool.false_ne_true
    · exact idle htold
  | _ => exact idle rfl

/-- Handing over an item spares a request unless another one takes its key. -/
theorem mem_deliver {item : Outgoing}
    (spared : ∀ turn ∈ timekeeper.item c item, turn.spares r.key = true) :
    r ∈ (c.deliver item).session.registry.requests ↔ r ∈ c.session.registry.requests := by
  rw [requests_deliver]
  cases h : c.awaits? item with
  | none => rfl
  | some q =>
    have hkey : q.key ≠ r.key := by
      refine of_decide_eq_true (spared (.registered q) ?_)
      show TimeTurn.registered q ∈ (c.awaits? item).toList.map _
      rw [h]
      exact List.mem_cons_self
    exact Registry.mem_insertRequest hkey

/-! ## A whole run -/

/-- Nobody but the owner has housekeeping done. -/
theorem time?_operation (c : Client) (op : Operation) :
    (timekeeper.operation c op).filterMap time? = op.time?.toList := by
  cases op with
  | receive element =>
    show ((c.session.registry.answeredBy? element).toList.map TimeTurn.answered).filterMap time?
      = []
    cases c.session.registry.answeredBy? element <;> rfl
  | call changes =>
    show (if changes.any Change.meddles then [TimeTurn.meddled] else []).filterMap time? = []
    split <;> rfl
  | _ => rfl

theorem time?_item (c : Client) (item : Outgoing) :
    (timekeeper.item c item).filterMap time? = [] := by
  show ((c.awaits? item).toList.map TimeTurn.registered).filterMap time? = []
  cases c.awaits? item <;> rfl

theorem time?_reaction (c : Controller) (s : Session) (event : Event) :
    (timekeeper.reaction c s event).filterMap time? = [] := by
  show (c.timeTurns s event).filterMap time? = []
  unfold Controller.timeTurns
  split
  · rfl
  · split <;> rfl
  · split <;> rfl
  · rfl

/-- The registry stays in order. -/
theorem ordered_of_annals (annals : timekeeper.Annals c₀ told c)
    (ordered : Registry.Ordered c₀.session.registry.requests) :
    Registry.Ordered c.session.registry.requests := by
  have changed (s : Session) (change : Change) (h : Registry.Ordered s.registry.requests) :
      Registry.Ordered (s.change change).registry.requests :=
    h.sublist (s.requests_change_sublist change)
  induction annals with
  | start => exact ordered
  | @operate told c annals atRest op _ ih =>
    exact (Session.Course.prepare c op c.session.catalogue.within_sound).invariant
      (I := fun s => Registry.Ordered s.registry.requests) ih fun s change _ => changed s change
  | @deliver told c item rest annals ho ih =>
    rw [requests_deliver]
    split
    · exact Registry.Ordered.insertRequest ih _
    · exact ih
  | @react told c event rest annals ho he ih =>
    obtain ⟨k, -, steps⟩ := Session.Steps.react c.controller (c.withEvents rest).session event
    exact steps.invariant (I := fun s => Registry.Ordered s.registry.requests) ih
      fun s change _ => changed s change

/-- **A request that is spared waits as long as housekeeping is done before its deadline**, and no
longer. -/
theorem mem_of_annals (annals : timekeeper.Annals c₀ told c) (unresolved : r.isCompleted = false)
    (ordered : Registry.Ordered c₀.session.registry.requests)
    (spared : ∀ turn ∈ told, turn.spares r.key = true) :
    r ∈ c.session.registry.requests ↔
      r ∈ c₀.session.registry.requests ∧ Early told r.deadline := by
  induction annals with
  | start => exact (and_iff_left (early_nil _)).symm
  | @operate told c annals atRest op _ ih =>
    obtain ⟨spared, now⟩ := List.forall_mem_append.1 spared
    rw [mem_prepare unresolved (ordered_of_annals annals ordered) now, early_append, ← and_assoc]
    exact and_congr_left' (ih spared)
  | @deliver told c item rest annals ho ih =>
    obtain ⟨spared, now⟩ := List.forall_mem_append.1 spared
    rw [mem_deliver now, early_append_untimed (time?_item _ _)]
    exact ih spared
  | @react told c event rest annals ho he ih =>
    obtain ⟨spared, now⟩ := List.forall_mem_append.1 spared
    have hnone := c.controller.timeTurns_eq_nil (c.withEvents rest).session event now
    have hsame : ((c.withEvents rest).handleEvent event).session.registry.requests
        = c.session.registry.requests :=
      c.controller.requests_react (c.withEvents rest).session event hnone
    rw [hsame, early_append_untimed (time?_reaction _ _ _)]
    exact ih spared

/-- **A request fails when housekeeping is done**: it is among the requests the sweep fails, and it
waits no more. -/
structure Expires (c : Client) (now : Nat) (r : Request) : Prop where
  /-- Housekeeping is a sweep, after which reports are seen to. -/
  tick : c.tick now = ({ c with
    session :=
      if c.transport.isSome then (c.session.swept (c.session.registry.sweepOutdated now)).manage
      else c.session.swept (c.session.registry.sweepOutdated now) } : Client).run
  /-- The sweep fails it. -/
  failed : ∃ failed, r ∈ failed
    ∧ c.session.registry.Sweeps (c.session.registry.sweepOutdated now)
        (fun r => r.deadline ≤ now ∨ r.isCompleted = true) (fun r => r.deadline ≤ now) failed
  /-- It waits no more. -/
  gone : r ∉ (c.prepare (.tick now)).session.registry.requests

/-- A request that waits fails as soon as housekeeping is done past its deadline. -/
theorem expires_of_mem (unresolved : r.isCompleted = false)
    (ordered : Registry.Ordered c.session.registry.requests)
    (waits : r ∈ c.session.registry.requests) {now : Nat} (due : r.deadline ≤ now) :
    c.Expires now r := by
  obtain ⟨failed, sweeps⟩ := Registry.sweeps_sweepOutdated ordered now
  refine ⟨rfl, ⟨failed, (sweeps.mem_failed r).2 ⟨waits, due, unresolved⟩, sweeps⟩, fun hmem => ?_⟩
  have spared : ∀ turn ∈ timekeeper.operation c (.tick now), turn.spares r.key = true := by
    intro turn hturn
    obtain rfl := List.mem_singleton.1 hturn
    rfl
  exact Nat.not_le.2 (((mem_prepare unresolved ordered spared).1 hmem).2 now List.mem_cons_self) due

/-- **How a request fares** that waits at first. -/
inductive Fares (c₀ : Client) (r : Request) (told : List TimeTurn) (c : Client) : Prop
  /-- It still waits, since all housekeeping was done before its deadline. -/
  | waits (waits : r ∈ c.session.registry.requests) (early : Early told r.deadline)
  /-- It waited until housekeeping was first done at its deadline or past it. This failed the
  request, and it was over. -/
  | failed {before after : List TimeTurn} {now : Nat} {c₁ : Client}
      (split : told = before ++ .ticked now :: after) (early : Early before r.deadline)
      (due : r.deadline ≤ now) (until' : timekeeper.Annals c₀ before c₁) (atRest : c₁.AtRest)
      (waited : r ∈ c₁.session.registry.requests) (expires : c₁.Expires now r)
      (since : timekeeper.Annals (c₁.prepare (.tick now)) after c)
      (gone : r ∉ c.session.registry.requests)

/-- The first time that is not early. -/
theorem exists_late (annals : timekeeper.Annals c₀ told c) {deadline : Nat}
    (late : ¬ Early told deadline) :
    ∃ before after now c₁, told = before ++ .ticked now :: after ∧ Early before deadline
      ∧ deadline ≤ now ∧ timekeeper.Annals c₀ before c₁ ∧ c₁.AtRest
      ∧ timekeeper.Annals (c₁.prepare (.tick now)) after c := by
  induction annals with
  | start => exact absurd (early_nil _) late
  | @operate told c annals atRest op _ ih =>
    by_cases early : Early told deadline
    · -- it is this one
      have late : ¬ Early (timekeeper.operation c op) deadline := fun h =>
        late (early_append.2 ⟨early, h⟩)
      obtain ⟨now, htime⟩ : ∃ now, op.time? = some now := by
        refine Option.ne_none_iff_exists'.1 fun hnone => late ?_
        unfold Early
        rw [time?_operation, hnone]
        exact List.forall_mem_nil _
      obtain rfl : op = .tick now := by
        cases op with
        | tick time => exact congrArg _ (Option.some.inj htime)
        | _ => cases htime
      have due : deadline ≤ now := Nat.le_of_not_lt fun h =>
        late fun time htime => List.mem_singleton.1 htime ▸ h
      exact ⟨told, [], now, c, rfl, early, due, annals, atRest, .start⟩
    · obtain ⟨before, after, now, c₁, rfl, hbefore, hdue, hc₁, hrest, hafter⟩ := ih early
      exact ⟨before, _, now, c₁, List.append_assoc .., hbefore, hdue, hc₁, hrest,
        hafter.operate atRest op trivial⟩
  | @deliver told c item rest annals ho ih =>
    have late : ¬ Early told deadline := fun early =>
      late ((early_append_untimed (time?_item _ _)).2 early)
    obtain ⟨before, after, now, c₁, rfl, hbefore, hdue, hc₁, hrest, hafter⟩ := ih late
    exact ⟨before, _, now, c₁, List.append_assoc .., hbefore, hdue, hc₁, hrest, hafter.deliver ho⟩
  | @react told c event rest annals ho he ih =>
    have late : ¬ Early told deadline := fun early =>
      late ((early_append_untimed (time?_reaction _ _ _)).2 early)
    obtain ⟨before, after, now, c₁, rfl, hbefore, hdue, hc₁, hrest, hafter⟩ := ih late
    exact ⟨before, _, now, c₁, List.append_assoc .., hbefore, hdue, hc₁, hrest, hafter.react ho he⟩

/-- **A request that is spared fares as time has it.** -/
theorem fares_of_annals (annals : timekeeper.Annals c₀ told c) (unresolved : r.isCompleted = false)
    (ordered : Registry.Ordered c₀.session.registry.requests)
    (waits : r ∈ c₀.session.registry.requests)
    (spared : ∀ turn ∈ told, turn.spares r.key = true) : c₀.Fares r told c := by
  have hmem := mem_of_annals annals unresolved ordered spared
  by_cases early : Early told r.deadline
  · exact .waits (hmem.2 ⟨waits, early⟩) early
  · obtain ⟨before, after, now, c₁, rfl, hbefore, hdue, hc₁, hrest, hafter⟩ :=
      exists_late annals early
    have hwaits := (mem_of_annals hc₁ unresolved ordered
      fun turn hturn => spared turn (List.mem_append_left _ hturn)).2 ⟨waits, hbefore⟩
    exact .failed rfl hbefore hdue hc₁ hrest hwaits
      (expires_of_mem unresolved (ordered_of_annals hc₁ ordered) hwaits hdue) hafter
      fun h => early (hmem.1 h).2

/-- **Every run has its times**: those at which its operations do housekeeping. -/
theorem exists_annals_of_times (atRest : c.AtRest) (ops : List Operation) :
    ∃ told, timekeeper.Annals c told (ops.foldl operate c)
      ∧ told.filterMap time? = ops.filterMap Operation.time? := by
  -- coming to rest takes no time
  have moved {c₀ c c' : Client} {told : List TimeTurn} {log : List Request}
      (annals : timekeeper.Annals c₀ told c) (moves : Moves c log c') :
      ∃ more, timekeeper.Annals c₀ (told ++ more) c' ∧ more.filterMap time? = [] := by
    induction moves with
    | refl => exact ⟨[], (List.append_nil told).symm ▸ annals, rfl⟩
    | deliver _ ho ih =>
      obtain ⟨more, annals, untimed⟩ := ih
      refine ⟨_, List.append_assoc .. ▸ annals.deliver ho, ?_⟩
      rw [List.filterMap_append, untimed, time?_item]
      rfl
    | react _ ho he ih =>
      obtain ⟨more, annals, untimed⟩ := ih
      refine ⟨_, List.append_assoc .. ▸ annals.react ho he, ?_⟩
      rw [List.filterMap_append, untimed, time?_reaction]
      rfl
  induction ops generalizing c with
  | nil => exact ⟨[], .start, rfl⟩
  | cons op rest ih =>
    obtain ⟨log, moves⟩ := Moves.run (c.prepare op)
    rw [← operate_eq atRest] at moves
    obtain ⟨more, first, untimed⟩ := moved (Scribe.Annals.start.operate atRest op trivial) moves
    obtain ⟨later, second, hlater⟩ := ih (atRest.operate op)
    refine ⟨_, first.trans second, ?_⟩
    rw [List.filterMap_append, List.nil_append, List.filterMap_append, time?_operation, untimed,
      hlater]
    cases h : op.time? with
    | none => rw [List.filterMap_cons_none h]; rfl
    | some now => rw [List.filterMap_cons_some h]; rfl

/-- **Deadlines are kept.** Either sweep takes out and fails whom it should, in any registry. In a
run of a client a request that waits is failed by the first housekeeping at its deadline or past
it, and by none before, whatever else happens that spares it. -/
theorem deadlines :
    (∀ g : Registry, Registry.Ordered g.requests → ∀ now, ∃ failed,
      g.Sweeps (g.sweepOutdated now) (fun r => r.deadline ≤ now ∨ r.isCompleted = true)
        (fun r => r.deadline ≤ now) failed)
    ∧ (∀ g : Registry, Registry.Ordered g.requests → ∀ cutoff, ∃ failed,
      g.Sweeps (g.timeoutAll cutoff) (Request.MadeBy cutoff) (Request.MadeBy cutoff) failed)
    ∧ ∀ {config : Config} {catalogue : Catalogue} {given registered : List Request} {c₀ : Client},
      Run (blank config catalogue) given registered c₀ →
        (∀ ops : List Operation, ∃ told, timekeeper.Annals c₀ told (ops.foldl operate c₀)
          ∧ told.filterMap time? = ops.filterMap Operation.time?)
        ∧ ∀ r ∈ c₀.session.registry.requests, ∀ (told : List TimeTurn) (c : Client),
          timekeeper.Annals c₀ told c → (∀ turn ∈ told, turn.spares r.key = true) →
            c₀.Fares r told c := by
  refine ⟨fun g ordered => Registry.sweeps_sweepOutdated ordered,
    fun g ordered => Registry.sweeps_timeoutAll ordered, fun run => ?_⟩
  have kept := run.kept
  refine ⟨exists_annals_of_times (run.atRest (atRest_blank ..)),
    fun r hr told c annals spared => ?_⟩
  have unresolved := (kept.made r (Kept.mem_openRequests.2 (.inr hr))).isCompleted
  exact fares_of_annals annals unresolved kept.ordered hr spared

namespace Rehearsal

/-- A question that cannot wait; a future is told how it went. -/
def hurries : Draft where
  stanza :=
    { name := "iq"
      ns := Namespace.client
      attributes := [("type", "get"), ("id", "x"), ("to", "romeo@montague.lit")] }
  timeout := some 1000
  pipeline := .respond .reply (.waiter 3)

/-- It is asked in a session that can be resumed. -/
def asksSoon : List Operation :=
  [.connected {}, .receive enables, .advance 500, .send hurries]

/-- A client that waits for the reply. -/
def hopeful : Client :=
  asksSoon.foldl operate furnished

/-- The connection is lost, and housekeeping goes on. -/
def losesPatience : List Operation :=
  [.lost, .tick 1499, .tick 1500]

/-- The client came about in a run. -/
theorem run_hopeful : ∃ given registered, Run (blank account []) given registered hopeful := by
  have created : create account [] [] = .ok furnished := create_account
  obtain ⟨given, registered, run⟩ := Run.of_create created
  have sound : asksSoon.Forall (·.Within Change.Sound) :=
    ⟨Operation.within_sound rfl, Operation.within_sound rfl, Operation.within_sound rfl,
      fun _ => trivial, fun usual now drawn => ⟨hurries, usual, now, drawn, rfl⟩⟩
  exact run.exists_foldl_operate (atRest_blank _ _) _ (List.forall_iff_forall_mem.1 sound)

/-- A request that was made at this time, and cancelled since. -/
def cancelled (created : Nat) : Request where
  key := ⟨"iq", "x"⟩
  recipient := none
  label := none
  created := created
  timeout := 1000
  stanza := hurries.stanza
  pipeline := none

end Rehearsal

open Rehearsal

/-- In the rehearsal the connection is lost while a request waits. It goes on waiting, and fails
when housekeeping is done for the second time. -/
theorem deadlines_rehearsal :
    ∃ r ∈ hopeful.session.registry.requests, ∃ told c, timekeeper.Annals hopeful told c
      ∧ (∀ turn ∈ told, turn.spares r.key = true) ∧ hopeful.Fares r told c
      ∧ told.filterMap time? = [1499, 1500] ∧ r.deadline = 1500
      ∧ r ∉ c.session.registry.requests
      ∧ (∃ failed, r ∈ failed ∧ hopeful.session.registry.Sweeps
          (hopeful.session.registry.timeoutAll (some 500)) (Request.MadeBy (some 500))
          (Request.MadeBy (some 500)) failed)
      ∧ (losesPatience.foldl operate hopeful).session.settled = [(3, .error .timeout)]
      ∧ ([.lost, .tick 1499].foldl operate hopeful).session.settled = [] := by
  obtain ⟨given, registered, run⟩ := run_hopeful
  obtain ⟨-, sweeps, runs⟩ := deadlines
  have waits : hopeful.session.registry.requests.map (fun r => (r.key, r.created, r.timeout,
      r.isCompleted)) = [(⟨"iq", "x"⟩, 500, 1000, false)] := by
    decide +kernel
  obtain ⟨r, hr, hwaits⟩ := List.map_eq_singleton_iff.1 waits
  simp only [Prod.mk.injEq] at hwaits
  obtain ⟨hkey, hcreated, htimeout, hcompleted⟩ := hwaits
  have hmem : r ∈ hopeful.session.registry.requests := hr ▸ List.mem_singleton_self r
  have told : (timekeeper.rehearse? 9 losesPatience hopeful).map (fun told =>
      (told.1.all (TimeTurn.spares ⟨"iq", "x"⟩), told.1.filterMap time?))
      = some (true, [1499, 1500]) := by
    decide +kernel
  obtain ⟨⟨told, c⟩, hrehearse, htold⟩ := Option.map_eq_some_iff.1 told
  obtain ⟨hspares, htimes⟩ := Prod.mk.inj htold
  have annals : timekeeper.Annals hopeful told c :=
    Scribe.Annals.start.rehearse? (fun _ _ _ => trivial) hrehearse
  have spared : ∀ turn ∈ told, turn.spares r.key = true :=
    hkey ▸ List.all_eq_true.1 hspares
  have fares := (runs run).2 r hmem told c annals spared
  have hdeadline : r.deadline = 1500 := by rw [Request.deadline, hcreated, htimeout]
  have gone : r ∉ c.session.registry.requests := by
    cases fares with
    | waits _ early =>
      have := early 1500 (htimes ▸ List.mem_cons_of_mem _ List.mem_cons_self)
      omega
    | failed _ _ _ _ _ _ _ _ gone => exact gone
  obtain ⟨failed, swept⟩ := sweeps hopeful.session.registry run.kept.ordered (some 500)
  have early : r.MadeBy (some 500) := fun time htime => by
    obtain rfl := Option.some.inj htime
    omega
  exact ⟨r, hmem, told, c, annals, spared, fares, htimes, hdeadline, gone,
    ⟨failed, (swept.mem_failed r).2 ⟨hmem, early, hcompleted⟩, swept⟩, by decide +kernel,
    by decide +kernel⟩

/-- **Failing what was made by some time does not forget what was resolved**: it is not what
looking for overdue requests does with another notion of being overdue. -/
theorem not_forall_timeoutAll_forgets :
    ¬ ∀ g : Registry, Registry.Ordered g.requests → ∀ cutoff, ∃ failed,
      g.Sweeps (g.timeoutAll cutoff) (fun r => r.MadeBy cutoff ∨ r.isCompleted = true)
        (Request.MadeBy cutoff) failed := by
  intro h
  let g : Registry := { requests := [cancelled 10] }
  obtain ⟨failed, swept⟩ := h g (List.pairwise_singleton _ _) (some 5)
  have hmem : cancelled 10 ∈ g.requests := List.mem_singleton_self _
  have kept : (g.timeoutAll (some 5)).registry.requests = [cancelled 10] := rfl
  refine (swept.kept _ hmem).1 ?_ (.inr rfl)
  rw [kept]
  exact hmem

end Client

end Xmpp
