import Xmpp.Proofs.Session.Change

/-!
# The library in steps

Each function of the library that acts on a session, taken apart into changes.
The reactions of the controller come with what they cost: less than the event
they react to, which is why a client comes to rest.

Most of what the library does is routine (`Change.Routine`), and its other reactions are
customary but for the few that ask for a session. The actions of a module of the application
are whatever its description says, so the lemmas about them take a condition on the changes
these actions lead to (`Catalogue.Within`), and hold for any condition that routine changes meet.

What the peer says about stream management is not plain, and what comes of it depends on
where the session stands. `Element.Rules` says which changes an element can
bring about in which state, and with that handling an element is a course of changes that
are routine, or duties or actions of a module, or rules of the element (`Session.Course.handle`).
-/

namespace Xmpp

open Delivery Resumption

variable {P : Change → Prop}

namespace Draft

/-- What resolving the request of a draft costs. -/
def cost (d : Draft) : Nat :=
  total (d.pipeline.handlers.map Handler.cost)

/-- Whether handlers of the application wait for a draft. -/
def isHeard (d : Draft) : Bool :=
  d.pipeline.handlers.any Handler.isListener

theorem handlers_build (d : Draft) (usual now drawn : Nat) :
    (d.build usual now drawn).1.handlers = d.pipeline.handlers := by
  unfold build
  cases d.id? <;> rfl

theorem cost_build (d : Draft) (usual now drawn : Nat) :
    (d.build usual now drawn).1.cost = d.cost := by
  rw [Request.cost, handlers_build, cost]

theorem demand?_build (d : Draft) (usual now drawn : Nat) :
    (d.build usual now drawn).1.stanza.demand? = d.stanza.demand? := by
  unfold build
  cases d.id? with
  | none => exact d.stanza.demand?_setAttr_id _
  | some id => rfl

theorem listeners_build (d : Draft) (usual now drawn : Nat) (h : d.isHeard = false) :
    (d.build usual now drawn).1.listeners = 0 := by
  rw [Request.listeners, handlers_build, List.countP_eq_zero]
  intro handler hmem heard
  simp only [isHeard, List.any_eq_false] at h
  exact h handler hmem heard

/-- Whether a draft has no handlers of the application, and asks the server if it asks for
the roster. -/
def isCourteous (d : Draft) : Bool :=
  d.pipeline.handlers.all fun
    | .listener _ _ => false
    | .roster => d.stanza.attr "to" == none && d.stanza.name == "iq"
    | _ => true

theorem isHeard_of_isCourteous {d : Draft} (h : d.isCourteous = true) : d.isHeard = false := by
  unfold isCourteous at h
  unfold isHeard
  rw [List.any_eq_false]
  intro handler hmem heard
  have := List.all_eq_true.1 h handler hmem
  cases handler with
  | listener mark publish => cases this
  | _ => cases heard

theorem isReport_build (d : Draft) (usual now drawn : Nat) :
    (d.build usual now drawn).1.stanza.isReport = d.stanza.isReport := by
  unfold build
  cases d.id? <;> rfl

theorem courteous_build {d : Draft} (h : d.isCourteous = true) (usual now drawn : Nat) :
    (d.build usual now drawn).1.Courteous := by
  intro handler hmem
  rw [handlers_build] at hmem
  have hhandler := List.all_eq_true.1 h handler hmem
  cases handler with
  | listener mark publish => cases hhandler
  | roster =>
    obtain ⟨hto, hname⟩ := Bool.and_eq_true_iff.1 hhandler
    have hto : d.stanza.attr "to" = none := by simpa using hto
    have hname : d.stanza.name = "iq" := by simpa using hname
    unfold build
    cases d.id? with
    | none =>
      have hset : ∀ id, (d.stanza.setAttr "id" id).attr "to" = none := fun id => by
        rw [Element.attr_setAttr, if_neg (by decide), hto]
      exact ⟨by dsimp only; rw [hset]; rfl, hname⟩
    | some id => exact ⟨by dsimp only; rw [hto]; rfl, hname⟩
  | _ => trivial

end Draft

namespace Session.Steps

variable {s : Session}

/-! ## Requests -/

/-- A request that is made and given. -/
theorem post (s : Session) (draft : Draft) (hdraw : ∀ drawn, P (.draw drawn))
    (hgive : ∀ usual now drawn, P (.give (draft.build usual now drawn).1)) :
    Steps P draft.cost s (s.send draft).2 := by
  let made := draft.build s.config.requestTimeout s.clock s.drawn
  have hcost : made.1.cost = draft.cost := draft.cost_build ..
  exact ((one s (.draw made.2) (hdraw _)).step (.give made.1) (hgive _ _ _)
    (by rw [← hcost]; exact Nat.le_of_eq (Nat.zero_add _)))

/-- Routine steps are customary ones. -/
theorem customary {k : Nat} {s s' : Session} (steps : Steps Change.Routine k s s') :
    Steps Change.Customary k s s' :=
  steps.mono fun _ => Change.Routine.customary

/-- A request of the library. -/
theorem send {k : Nat} (s : Session) (draft : Draft) (h : draft.isCourteous = true)
    (hreport : draft.stanza.isReport = false) (hk : draft.cost = k) :
    Steps Change.Customary k s (s.send draft).2 :=
  hk ▸ post s draft (fun _ => ⟨rfl, trivial, trivial⟩) fun _ _ _ =>
    ⟨⟨⟨draft, _, _, _, rfl⟩, draft.listeners_build _ _ _ (Draft.isHeard_of_isCourteous h)⟩,
      ⟨Draft.courteous_build h _ _ _, (draft.isReport_build _ _ _).trans hreport⟩, trivial⟩

/-- A request of the library that asks for no session. -/
theorem sendSilent {k : Nat} (s : Session) (draft : Draft) (h : draft.isCourteous = true)
    (hreport : draft.stanza.isReport = false) (hdemand : draft.stanza.demand? = none)
    (hk : draft.cost = k) : Steps Change.Routine k s (s.send draft).2 :=
  hk ▸ post s draft (fun _ => ⟨rfl, trivial, trivial⟩) fun _ _ _ =>
    ⟨⟨⟨⟨draft, _, _, _, rfl⟩, draft.listeners_build _ _ _ (Draft.isHeard_of_isCourteous h)⟩,
        (draft.demand?_build _ _ _).trans hdemand⟩,
      ⟨Draft.courteous_build h _ _ _, (draft.isReport_build _ _ _).trans hreport⟩, trivial⟩

theorem bind (s : Session) : Steps Change.Customary 5 s s.bind.2 :=
  send s _ (by rfl) (by rfl) (by rfl)

theorem requestForm (s : Session) : Steps Change.Routine 3 s s.requestForm.2 :=
  sendSilent s _ (by rfl) (by rfl) (by rfl) (by rfl)

theorem submitForm (s : Session) (form : Form) :
    Steps Change.Routine 2 s (s.submitForm form).2 :=
  sendSilent s _ (by rfl) (by rfl) (by rfl) (by rfl)

theorem sendPresence (s : Session) : Steps Change.Routine 0 s s.sendPresence.2 :=
  sendSilent s _ (by rfl) (by rfl) (by rfl) (by rfl)

theorem requestRoster (s : Session) : Steps Change.Routine 1 s s.requestRoster.2 :=
  sendSilent s _ (by rfl) (by rfl) (by rfl) (by rfl)

theorem requestFeatures (s : Session) (jid : Jid) :
    Steps Change.Routine 1 s (s.requestFeatures jid).2 :=
  sendSilent s _ (by rfl) (by rfl) (by rfl) (by rfl)

/-! ## Stream management -/

theorem enableManagement (s : Session) : Steps Change.Routine 0 s s.enableManagement.2 := by
  unfold Session.enableManagement
  split
  · exact one s (.write _) ⟨rfl, rfl, trivial⟩
  · exact refl 0 s

theorem resume (s : Session) : Steps Change.Customary 0 s s.resume.2 := by
  unfold Session.resume
  split
  · exact one s (.write _) ⟨rfl, rfl, trivial⟩
  · exact refl 0 s

theorem requestAck (s : Session) : Steps Change.Routine 0 s s.requestAck := by
  unfold Session.requestAck
  split
  · exact one s (.write _) ⟨rfl, rfl, trivial⟩
  · exact refl 0 s

/-- What a report does: it is counted and written. -/
theorem sendAck (s : Session) (force : Bool) (hreport : P .report)
    (hwrite : ∀ report : Element, report.isReport = true → report.demand? = none →
      P (.write report)) : Steps P 0 s (s.sendAck force) := by
  unfold Session.sendAck
  split
  · have reported : Steps P 0 s (s.change .report) := one s .report hreport
    exact reported.step (.write _) (hwrite _ rfl rfl) (Nat.le_refl _)
  · exact refl 0 s

theorem manage (s : Session) (routine : ∀ change : Change, change.Routine → P change)
    (hreport : P .report)
    (hwrite : ∀ report : Element, report.isReport = true → report.demand? = none →
      P (.write report)) : Steps P 0 s s.manage := by
  unfold Session.manage
  split
  · split
    · exact ((requestAck s).mono routine).trans (sendAck _ false hreport hwrite)
    · exact sendAck s false hreport hwrite
  · exact refl 0 s

theorem countReceived (s : Session) (e : Element) (h : P .receive) :
    Steps P 0 s (s.countReceived e) := by
  unfold Session.countReceived
  split
  · exact one s .receive h
  · exact refl 0 s

theorem timeoutAll (s : Session) : Steps Change.Routine 0 s s.timeoutAll :=
  one s (.sweep _) ⟨rfl, trivial, trivial⟩

/-! ## The controller -/

theorem fire (s : Session) (event : Event) (h : event.isTransportNews = false)
    (hroster : event.isRoster = false) : Steps Change.Routine event.cost s (s.fire event) :=
  one s (.fire event) ⟨h, hroster, trivial⟩

theorem setAuthState (s : Session) (state : AuthState) :
    Steps Change.Routine 0 s (s.setAuthState state) :=
  one s (.remember .connection Properties.authKey (.auth state))
    ⟨⟨⟨by decide, rfl⟩, .inr (by decide)⟩, trivial,
      show Properties.authKey ≠ Properties.boundKey by decide⟩

theorem stop (s : Session) (message : String) : Steps Change.Routine 1 s (s.stop message) :=
  fire s (.stopped message) rfl rfl

theorem reportLogin (s : Session) (error : Option Error) :
    Steps Change.Routine 1 s (Session.reportLogin (s, error)) := by
  unfold Session.reportLogin
  split
  · rename_i heq
    rw [(Prod.mk.inj heq).1]
    exact refl 1 _
  · rename_i heq
    rw [(Prod.mk.inj heq).1]
    exact stop _ _
  · rename_i heq
    rw [(Prod.mk.inj heq).1]
    exact stop _ _

theorem forgetUnlessResumable (s : Session) :
    Steps Change.Routine 0 s s.forgetUnlessResumable := by
  unfold Session.forgetUnlessResumable
  split
  · exact refl 0 s
  · exact one s .reset ⟨rfl, trivial, trivial⟩

theorem login (s : Session) : Steps Change.Routine 1 s s.login.1 := by
  unfold Session.login
  split
  · exact refl 1 s
  · split
    · exact refl 1 s
    · exact (((setAuthState s .inProgress).trans (fire _ (.authStarted _) rfl rfl)).step
        (.write _) ⟨by rfl, by rfl, trivial⟩ (Nat.le_refl _)).step (.logins _)
        ⟨rfl, trivial, trivial⟩ (Nat.le_refl _)

theorem login2 (s : Session) (bind : Bool) : Steps Change.Routine 1 s (s.login2 bind).1 := by
  unfold Session.login2
  split
  · exact refl 1 s
  · split
    · exact refl 1 s
    · exact (((setAuthState s .inProgress).trans (fire _ (.authStarted _) rfl rfl)).step
        (.write _) ⟨by rfl, by rfl, trivial⟩ (Nat.le_refl _)).step (.logins _)
        ⟨rfl, trivial, trivial⟩ (Nat.le_refl _)

theorem getIn (s : Session) (registered : Bool) :
    Steps Change.Routine 3 s (s.getIn registered) := by
  unfold Session.getIn
  dsimp only
  split
  · exact ((forgetUnlessResumable s).trans (login2 _ _)).trans (reportLogin _ _) |>.weaken
      (by decide)
  · split
    · exact ((forgetUnlessResumable s).trans (login _)).trans (reportLogin _ _) |>.weaken
        (by decide)
    · split
      · exact (forgetUnlessResumable s).trans (requestForm _)
      · exact ((forgetUnlessResumable s).trans (stop _ _)).weaken (by decide)

/-- Once the session has its address, what is done with it is routine. -/
theorem settleIn (s : Session) (jid : Jid) (inline : Bool) :
    Steps Change.Routine 4 ((s.setProperty .session Properties.boundKey jid).setOwnJid (some jid))
      (s.settleIn jid inline) := by
  unfold Session.settleIn
  dsimp only
  generalize (s.setProperty .session Properties.boundKey jid).setOwnJid (some jid) = s
  split
  · exact (stop _ _).weaken (by decide)
  · rename_i server _
    have asked := (((requestFeatures s server).trans (requestFeatures _ jid.bare)).trans
      (sendPresence _)).trans (requestRoster _)
    split
    · exact asked.trans (fire _ .ready rfl rfl)
    · exact (asked.trans (enableManagement _)).trans (fire _ .ready rfl rfl)

theorem suspend (s : Session) : Steps Change.Routine 0 s s.suspend := by
  have kept : Steps Change.Routine 0 s s.deactivateManagement :=
    one s .deactivate ⟨rfl, trivial, trivial⟩
  exact kept.step (.clear .connection)
    ⟨rfl, trivial, show ¬ Scope.session ≤ Scope.connection by decide⟩ (Nat.le_refl _)

theorem resumeOrBind (c : Controller) (s : Session) :
    Steps Change.Customary 5 s (c.resumeOrBind s).2 := by
  unfold Controller.resumeOrBind
  split
  · exact (resume s).weaken (by decide)
  · split
    · exact bind s
    · exact refl 5 s

end Session.Steps

/-- **What decides who we are.** -/
inductive AddressTurn where
  /-- A resource was bound. -/
  | bound (jid : Jid)
  /-- The server refused to resume the session. -/
  | refused
  /-- The session is over. -/
  | ended
deriving DecidableEq

/-- Whether a reaction of the controller decides who we are, and how. -/
def Controller.addressTurn? (c : Controller) (s : Session) : Event → Option AddressTurn
  | .bound jid _ => some (.bound jid)
  | .managementFailed _ => if c.resuming then some .refused else none
  | .connector old new =>
    if new = .disconnected ∧ (old = .disconnecting ∨ s.canResume = false) then some .ended
    else none
  | _ => none

/-- **What a reaction does**: quiet and modest changes, which spare the address unless the
reaction decides who we are. -/
structure Controller.Does (c : Controller) (s : Session) (event : Event) (change : Change) :
    Prop where
  quiet : change.Quiet
  modest : change.Modest
  spares : c.addressTurn? s event = none → change.SparesAddress

theorem Controller.Does.of_customary {c : Controller} {s : Session} {event : Event}
    {change : Change} (h : change.Customary) : c.Does s event change :=
  ⟨h.quiet, h.modest, fun _ => h.spares⟩

namespace Session.Steps

variable {s : Session}

theorem wrapUp (s : Session) :
    Steps (fun change => change.Silent ∧ change.Modest) 0 s s.wrapUp :=
  ((((timeoutAll s).mono fun _ h => ⟨h.silent, h.modest⟩).step .reset ⟨rfl, trivial⟩
    (Nat.le_refl _)).step (.clear .session) ⟨rfl, trivial⟩ (Nat.le_refl _)).step (.identify _)
    ⟨rfl, trivial⟩ (Nat.le_refl _)

theorem followConnector (s : Session) (old new : ConnectorState) :
    Steps (fun change => change.Silent ∧ change.Modest
        ∧ (¬ (new = .disconnected ∧ (old = .disconnecting ∨ s.canResume = false)) →
          change.SparesAddress))
      0 s (s.followConnector old new) := by
  unfold Session.followConnector
  split
  · exact ((timeoutAll s).step .reset ⟨rfl, trivial, trivial⟩ (Nat.le_refl _)).mono
      fun _ h => ⟨h.silent, h.modest, fun _ => h.spares⟩
  · split
    · rename_i ended
      exact (wrapUp s).mono fun _ h => ⟨h.1, h.2, fun stays => absurd ⟨rfl, ended⟩ stays⟩
    · exact (suspend s).mono fun _ h => ⟨h.silent, h.modest, fun _ => h.spares⟩
  · exact refl 0 s
  · exact refl 0 s

/-- **A reaction costs less than the event.** -/
theorem does_react (c : Controller) (s : Session) (event : Event) :
    ∃ k < event.cost, Steps (c.Does s event) k s (c.react s event).2 := by
  have usual {k : Nat} {s₀ s' : Session} (steps : Steps Change.Customary k s₀ s') :
      Steps (c.Does s event) k s₀ s' := steps.mono fun _ => .of_customary
  have routine {k : Nat} {s₀ s' : Session} (steps : Steps Change.Routine k s₀ s') :
      Steps (c.Does s event) k s₀ s' := usual steps.customary
  cases event with
  | features =>
    refine ⟨5, Nat.lt_succ_self 5, ?_⟩
    unfold Controller.react
    dsimp only
    split
    · exact (routine (getIn s _)).weaken (by decide)
    · exact usual (resumeOrBind c s)
    · exact refl 5 s
    · exact refl 5 s
  | authSucceeded restartRequired inlineBound =>
    refine ⟨5, Nat.lt_succ_self 5, ?_⟩
    cases restartRequired <;> cases inlineBound
    · exact usual (resumeOrBind c s)
    · exact refl 5 s
    · exact refl 5 s
    · exact refl 5 s
  | authFailed e => exact ⟨1, Nat.lt_succ_self 1, routine (stop s _)⟩
  | bound jid inline =>
    have named : Steps (c.Does s (.bound jid inline)) 0 s
        ((s.setProperty .session Properties.boundKey jid).setOwnJid (some jid)) :=
      (one s (.remember .session Properties.boundKey (.jid jid))
        ⟨⟨⟨by decide, rfl⟩, .inr (by decide)⟩, trivial, nofun⟩).step
        (.identify _) ⟨rfl, trivial, nofun⟩ (Nat.le_refl _)
    exact ⟨4, Nat.lt_succ_self 4,
      (named.trans (routine (settleIn s jid inline))).weaken (by decide)⟩
  | bindFailed e => exact ⟨1, Nat.lt_succ_self 1, routine (fire s (.reconnect _ _ _) rfl rfl)⟩
  | resumed h previd => exact ⟨1, Nat.lt_succ_self 1, routine (fire s .ready rfl rfl)⟩
  | managementFailed condition =>
    -- failing all requests is free, so only the binding that follows counts
    refine ⟨5, Nat.lt_succ_self 5, ?_⟩
    unfold Controller.react
    dsimp only
    split
    · rename_i resuming
      have cleared : Steps (c.Does s (.managementFailed condition)) 0 s
          (s.timeoutAll.clear .session) :=
        (routine (timeoutAll s)).step (.clear .session)
          ⟨rfl, trivial, fun stays => by simp [Controller.addressTurn?, resuming] at stays⟩
          (Nat.le_refl _)
      exact (cleared.trans (usual (bind _))).weaken (by decide)
    · exact refl 5 s
  | formReceived form => exact ⟨2, Nat.lt_succ_self 2, routine (submitForm s _)⟩
  | registered => exact ⟨1, Nat.lt_succ_self 1, one s .close ⟨rfl, trivial, fun _ => trivial⟩⟩
  | registrationFailed e => exact ⟨1, Nat.lt_succ_self 1, routine (stop s _)⟩
  | parseError message =>
    exact ⟨1, Nat.lt_succ_self 1, routine (fire s (.reconnect _ _ _) rfl rfl)⟩
  | streamError condition text seeOtherHost =>
    have cleared : Steps Change.Routine 0 s (s.clear .connection) :=
      one s (.clear .connection)
        ⟨rfl, trivial, show ¬ Scope.session ≤ Scope.connection by decide⟩
    exact ⟨1, Nat.lt_succ_self 1, routine (cleared.trans (fire _ (.reconnect _ _ _) rfl rfl))⟩
  | connector old new =>
    exact ⟨0, Nat.lt_succ_self 0,
      (followConnector s old new).mono fun _ h =>
        ⟨h.1.quiet, h.2.1, fun stays => h.2.2 fun ended => by
          simp [Controller.addressTurn?, ended] at stays⟩⟩
  | authStarted mechanism => exact ⟨0, Nat.lt_succ_self 0, refl 0 s⟩
  | managementEnabled id resume max => exact ⟨0, Nat.lt_succ_self 0, refl 0 s⟩
  | ready => exact ⟨0, Nat.lt_succ_self 0, refl 0 s⟩
  | stopped message => exact ⟨0, Nat.lt_succ_self 0, refl 0 s⟩
  | reconnect message immediately force => exact ⟨0, Nat.lt_succ_self 0, refl 0 s⟩
  | discovered jid features => exact ⟨0, Nat.lt_succ_self 0, refl 0 s⟩
  | roster query => exact ⟨0, Nat.lt_succ_self 0, refl 0 s⟩
  | message stanza => exact ⟨0, Nat.lt_succ_self 0, refl 0 s⟩
  | presence stanza => exact ⟨0, Nat.lt_succ_self 0, refl 0 s⟩

/-- Reactions are quiet. -/
theorem react (c : Controller) (s : Session) (event : Event) :
    ∃ k < event.cost, Steps Change.Quiet k s (c.react s event).2 := by
  obtain ⟨k, hk, steps⟩ := does_react c s event
  exact ⟨k, hk, steps.mono fun _ => Controller.Does.quiet⟩

end Session.Steps

/-! ## Modules of the application -/

/-- Whether the changes an action leads to meet a condition. -/
def Action.Within (P : Change → Prop) : Action → Prop
  | .write element => P (.write element)
  | .request draft =>
    (∀ drawn, P (.draw drawn)) ∧ ∀ usual now drawn, P (.give (draft.build usual now drawn).1)
  | .fire event => P (.fire event)
  | .restart => P .restart
  | .close => P .close
  | .clear scope => P (.clear scope)
  | .fail _ => True

/-- Whether whatever a module does meets a condition. -/
def Description.Within (P : Change → Prop) (description : Description) : Prop :=
  (∀ action ∈ description.setUp, action.Within P)
    ∧ ∀ e, ∀ action ∈ description.handle e, action.Within P

/-- Whether whatever the modules of a catalogue do meets a condition. -/
def Catalogue.Within (P : Change → Prop) (catalogue : Catalogue) : Prop :=
  ∀ entry ∈ catalogue, entry.2.Within P

theorem Action.Within.mono {Q : Change → Prop} {action : Action} (h : action.Within P)
    (hPQ : ∀ change, P change → Q change) : action.Within Q := by
  cases action with
  | request draft => exact ⟨fun drawn => hPQ _ (h.1 drawn), fun _ _ _ => hPQ _ (h.2 _ _ _)⟩
  | fail error => trivial
  | _ => exact hPQ _ h

theorem Description.Within.mono {Q : Change → Prop} {description : Description}
    (h : description.Within P) (hPQ : ∀ change, P change → Q change) : description.Within Q :=
  ⟨fun action hmem => (h.1 action hmem).mono hPQ,
    fun e action hmem => (h.2 e action hmem).mono hPQ⟩

/-- A module of the catalogue does what its entry says, and one that has none
does nothing. -/
theorem Catalogue.Within.describe {catalogue : Catalogue} (h : catalogue.Within P)
    (name : String) : (catalogue.describe name).Within P := by
  unfold Catalogue.describe
  cases hl : catalogue.lookup name with
  | none => exact ⟨fun _ hmem => absurd hmem (List.not_mem_nil), fun _ _ hmem =>
      absurd hmem (List.not_mem_nil)⟩
  | some description =>
    obtain ⟨before, after, hsplit, -⟩ := List.lookup_eq_some_iff.1 hl
    refine h (name, description) ?_
    rw [hsplit]
    exact List.mem_append_right _ (List.mem_cons_self ..)

/-- Whether an element can be what the peer says about stream management. -/
def Element.isVerdict (e : Element) : Bool :=
  e.name == "enabled" || e.name == "resumed" || e.name == "failed" || e.name == "a"
    || (Session.enabledAlong? e).isSome

/-- **Changes that meet a condition**, whatever they cost. -/
def Session.Changes (P : Change → Prop) (s s' : Session) : Prop :=
  ∃ k, s.Steps P k s'

namespace Session.Changes

variable {s s' s'' : Session}

theorem refl (s : Session) : Changes P s s :=
  ⟨0, .refl 0 s⟩

theorem one (s : Session) (change : Change) (h : P change) : Changes P s (s.change change) :=
  ⟨_, .one s change h⟩

theorem trans (first : Changes P s s') (second : Changes P s' s'') : Changes P s s'' := by
  obtain ⟨k, first⟩ := first
  obtain ⟨k', second⟩ := second
  exact ⟨k + k', first.trans second⟩

theorem step (first : Changes P s s') (change : Change) (h : P change) :
    Changes P s (s'.change change) :=
  first.trans (one s' change h)

/-- What every change preserves is preserved. -/
theorem invariant {I : Session → Prop} (changes : Changes P s s') (hs : I s)
    (h : ∀ s change, P change → I s → I (s.change change)) : I s' := by
  obtain ⟨k, steps⟩ := changes
  exact steps.invariant hs h

/-- The actions of a module. -/
theorem actAll {actions : List Action} (h : ∀ action ∈ actions, action.Within P) (s : Session) :
    Changes P s (s.actAll actions).1 := by
  induction actions generalizing s with
  | nil => exact refl s
  | cons action rest ih =>
    have ih := fun s => ih (fun a hmem => h a (List.mem_cons_of_mem _ hmem)) s
    have hact := h action (List.mem_cons_self ..)
    cases action with
    | write element => exact (one s (.write element) hact).trans (ih _)
    | request draft => exact Changes.trans ⟨_, .post s draft hact.1 hact.2⟩ (ih _)
    | fire event => exact (one s (.fire event) hact).trans (ih _)
    | restart => exact (one s .restart hact).trans (ih _)
    | close => exact (one s .close hact).trans (ih _)
    | clear scope => exact (one s (.clear scope) hact).trans (ih _)
    | fail error => exact refl s

/-! ## Handling elements

The lemmas below hold for every condition that routine changes meet. -/

variable (routine : ∀ change : Change, change.Routine → P change)

include routine

theorem of_steps {k : Nat} (steps : s.Steps Change.Routine k s') : Changes P s s' :=
  ⟨k, steps.mono routine⟩

theorem noteFor (s : Session) (description : Description) (line : Note)
    (h : line.isCall = false) : Changes P s (s.noteFor description line) := by
  unfold Session.noteFor
  split
  · exact one s (.note line) (routine _ ⟨h, trivial, trivial⟩)
  · exact refl s

theorem handleExtra (s : Session) (name : String) (tag : Option String) (e : Element)
    (h : s.catalogue.Within P) : Changes P s (s.handleExtra name tag e).1 :=
  (noteFor routine s _ _ rfl).trans (actAll ((h.describe name).2 e) _)

theorem failLogin (s : Session) (error : AuthError) : Changes P s (s.failLogin error) := by
  have ended : Changes P s { s with logins := { s.logins with sasl := none } } :=
    one s (.logins _) (routine _ ⟨rfl, trivial, trivial⟩)
  exact (ended.trans (of_steps routine (.setAuthState _ .failed))).step (.fire (.authFailed error))
    (routine _ ⟨rfl, rfl, trivial⟩)

theorem takeChallenge (s : Session) (challenge : List UInt8) :
    Changes P s (s.takeChallenge challenge) := by
  unfold Session.takeChallenge
  split
  · exact refl s
  · split
    · exact failLogin routine s _
    · exact (one s (.logins _) (routine _ ⟨rfl, trivial, trivial⟩)).step (.write _)
        (routine _ ⟨rfl, rfl, trivial⟩)

theorem takeSuccess (s : Session) (data : List UInt8) : Changes P s (s.takeSuccess data) := by
  unfold Session.takeSuccess
  split
  · exact refl s
  · have held : Changes P s { s with logins := { s.logins with sasl := none } } :=
      one s (.logins _) (routine _ ⟨rfl, trivial, trivial⟩)
    dsimp only
    split
    · exact held.trans (failLogin routine _ _)
    · exact ((held.trans (of_steps routine (.setAuthState _ .succeeded))).step .restart
        (routine _ ⟨rfl, trivial, trivial⟩)).step (.fire (.authSucceeded true false))
        (routine _ ⟨rfl, rfl, trivial⟩)

theorem handleSasl (s : Session) (e : Element) : Changes P s (s.handleSasl e).1 := by
  unfold Session.handleSasl
  split
  · split
    · exact takeChallenge routine s _
    · exact refl s
  · split
    · split
      · exact takeSuccess routine s _
      · exact refl s
    · split
      · split
        · exact failLogin routine s _
        · exact refl s
      · exact refl s

theorem failLogin2 (s : Session) (error : AuthError) : Changes P s (s.failLogin2 error) := by
  have ended : Changes P s
      { s with logins := { s.logins with sasl2 := none, bindRequested := false } } :=
    one s (.logins _) (routine _ ⟨rfl, trivial, trivial⟩)
  exact (ended.trans (of_steps routine (.setAuthState _ .failed))).step (.fire (.authFailed error))
    (routine _ ⟨rfl, rfl, trivial⟩)

theorem takeChallenge2 (s : Session) (e : Element) : Changes P s (s.takeChallenge2 e) := by
  unfold Session.takeChallenge2
  split
  · exact refl s
  · split
    · exact failLogin2 routine s _
    · split
      · exact failLogin2 routine s _
      · exact (one s (.logins _) (routine _ ⟨rfl, trivial, trivial⟩)).step (.write _)
          (routine _ ⟨rfl, rfl, trivial⟩)

/-- Unless it tells of success, a word about the second generation of the login is routine. -/
theorem handleSasl2 (s : Session) {e : Element} (hname : e.name ≠ "success") :
    Changes P s (s.handleSasl2 e).1 := by
  unfold Session.handleSasl2
  rw [beq_false_of_ne hname]
  split
  · exact takeChallenge2 routine s e
  · split
    · rename_i success
      cases success
    · split
      · exact failLogin2 routine s _
      · split
        · exact failLogin2 routine s _
        · exact refl s

theorem takeStreamError (s : Session) (e : Element) : Changes P s (s.takeStreamError e) :=
  one s (.fire _) (routine _ ⟨rfl, rfl, trivial⟩)

theorem takeFeatures (s : Session) (e : Element) : Changes P s (s.takeFeatures e) :=
  (one s (.remember .stream Properties.featuresKey (.element e))
    (routine _ ⟨⟨⟨by decide, rfl⟩, .inr (by decide)⟩, trivial,
      show Properties.featuresKey ≠ Properties.boundKey by decide⟩)).step
    (.fire .features) (routine _ ⟨rfl, rfl, trivial⟩)

end Session.Changes

/-! ## What the peer says about stream management -/

/-- An element tells that stream management was enabled, by itself or along with a
login. -/
def Element.Enables (e : Element) (enabled : Enabled) : Prop :=
  Enabled.read? e = some enabled
    ∨ e.name = "success" ∧ (Session.enabledAlong? e).map Enabled.read? = some (some enabled)

/-- **What an element rules**: the changes of the resumable session it brings about, in
the state where it does so. A session that waits to be enabled is completed or given up;
any other one is replaced, or forgotten after its report was heard. -/
def Element.Rules (e : Element) (s : Session) : Change → Prop
  | .enable enabled => e.Enables enabled ∧ s.managementStatus? = some .pending
  | .begin context =>
    ∃ enabled, context = Context.start.enable enabled ∧ e.Enables enabled
      ∧ s.managementStatus? ≠ some .pending
  | .acknowledge h =>
    readAck? e = some h
      ∨ e.name = "failed" ∧ (Failed.salvage e).h = some h
        ∧ s.managementStatus? ≠ some .pending
  | .resume h => ∃ resumed, Resumed.read? e = some resumed ∧ resumed.h = h
  | .abandon => e.name = "failed" ∧ s.managementStatus? = some .pending
  | _ => False

theorem Element.name_of_is {e : Element} {name ns : String} (h : e.is name ns = true) :
    e.name = name := by
  unfold Element.is at h
  simp only [Bool.and_eq_true, beq_iff_eq] at h
  exact h.1

/-- What is read as an element of stream management has the name of that element. -/
theorem Element.name_of_enabled {e : Element} {enabled : Enabled}
    (h : Enabled.read? e = some enabled) : e.name = "enabled" := by
  unfold Enabled.read? at h
  split at h
  · rename_i hread
    exact name_of_is (Bool.and_eq_true_iff.1 hread).1
  · cases h

theorem Element.name_of_ack {e : Element} {h : UInt32} (hread : readAck? e = some h) :
    e.name = "a" := by
  unfold readAck? at hread
  split at hread
  · rename_i hshape
    exact name_of_is (Bool.and_eq_true_iff.1 hshape).1
  · cases hread

theorem Element.name_of_resumed {e : Element} {resumed : Resumed}
    (h : Resumed.read? e = some resumed) : e.name = "resumed" := by
  unfold Resumed.read? at h
  split at h
  · rename_i hread
    exact name_of_is (Bool.and_eq_true_iff.1 hread).1
  · cases h

/-- Only an element that can be such a word of the peer rules anything. -/
theorem Element.Rules.isVerdict {e : Element} {s : Session} {change : Change}
    (h : e.Rules s change) :
    e.isVerdict = true ∧ (change.isVerdict = true ∨ change = .abandon) := by
  have henables {enabled : Enabled} (h : e.Enables enabled) : e.isVerdict = true := by
    rcases h with h | h
    · simp [Element.isVerdict, Element.name_of_enabled h]
    · obtain ⟨child, hchild, -⟩ := Option.map_eq_some_iff.1 h.2
      simp [Element.isVerdict, hchild]
  cases change with
  | enable enabled => exact ⟨henables h.1, .inl rfl⟩
  | begin context =>
    obtain ⟨enabled, -, h, -⟩ := h
    exact ⟨henables h, .inl rfl⟩
  | acknowledge report =>
    refine ⟨?_, .inl rfl⟩
    rcases h with h | h
    · simp [Element.isVerdict, Element.name_of_ack h]
    · simp [Element.isVerdict, h.1]
  | resume report =>
    obtain ⟨resumed, h, -⟩ := h
    exact ⟨by simp [Element.isVerdict, Element.name_of_resumed h], .inl rfl⟩
  | abandon => exact ⟨by simp [Element.isVerdict, h.1], .inr rfl⟩
  | _ => cases h

/-- A word of success goes to the login of the second generation. -/
theorem Session.handleSasl2_of_success (s : Session) {e : Element} (hname : e.name = "success") :
    s.handleSasl2 e = s.takeSuccess2 e := by
  unfold handleSasl2
  rw [hname, if_neg (by decide), if_pos (by decide)]

/-! ## What a module does by itself -/

/-- **What is the business of a module**, in the state where it is done: stream management
reports, the roster is published if it comes from the server or the own account, and both the
roster and discovery answer by themselves. -/
def ModuleId.Duty (id : ModuleId) (e : Element) (s : Session) : Change → Prop
  | .report => id = .streamManagement
  | .write element =>
    id = .streamManagement ∧ element.isReport = true ∧ element.demand? = none
      ∨ (id = .roster ∨ id = .disco) ∧ ∃ payload, element = e.reply "result" payload
  | .fire event => id = .roster ∧ (∃ query, event = .roster query)
      ∧ ∀ address, e.attr "from" = some address →
        ∃ sender, Jid.parse address = .ok sender ∧ s.isBoundTo sender = true
  | _ => False

/-- The business of a module is silent. -/
theorem ModuleId.Duty.silent {id : ModuleId} {e : Element} {s : Session} {change : Change}
    (h : id.Duty e s change) : change.Silent := by
  cases change with
  | report => exact rfl
  | write element =>
    rcases h with ⟨-, -, hdemand⟩ | ⟨-, payload, rfl⟩
    · exact hdemand
    · exact e.demand?_reply payload (by decide)
  | fire event =>
    obtain ⟨-, ⟨query, rfl⟩, -⟩ := h
    exact rfl
  | _ => cases h

/-- What is written about a stanza is no report. -/
theorem Element.isReport_reply {e : Element} (stanza : e.isStanza = true) (type : String)
    (payload : List Element) : (e.reply type payload).isReport = false := by
  have hname : e.name ≠ "a" := by
    rintro hname
    unfold isStanza at stanza
    rw [hname] at stanza
    exact absurd stanza (by decide)
  show (e.name == "a" && _) = false
  rw [beq_false_of_ne hname, Bool.false_and]

namespace Session.Course

variable {R : Session → Change → Prop} {s s' : Session} {e : Element}

/-- Changes that meet a condition which is enough everywhere. -/
theorem of_changes (changes : s.Changes P s') (h : ∀ s change, P change → R s change) :
    Course R s s' := by
  obtain ⟨k, steps⟩ := changes
  exact .of_steps steps h

/-- A course whose condition is enough for another, which does not depend on the
state. -/
theorem changes (course : Course R s s') (h : ∀ s change, R s change → P change) :
    s.Changes P s' := by
  induction course with
  | refl => exact .refl s
  | step _ change hR ih => exact ih.step change (h _ change hR)

section Duties

variable {id : ModuleId} (duty : ∀ (s : Session) (change : Change), id.Duty e s change → R s change)

include duty

theorem acceptRoster (hid : id = .roster) (s : Session)
    (sent : ∀ address, e.attr "from" = some address →
      ∃ sender, Jid.parse address = .ok sender ∧ s.isBoundTo sender = true) :
    Course R s (s.acceptRoster e).1 := by
  unfold Session.acceptRoster
  split
  · exact .refl
  · exact (one s (.write _) (duty _ _ (.inr ⟨.inl hid, _, rfl⟩))).step (.fire (.roster _))
      (duty _ _ ⟨hid, ⟨_, rfl⟩, sent⟩)

theorem handleRoster (hid : id = .roster) (s : Session) : Course R s (s.handleRoster e).1 := by
  unfold Session.handleRoster
  split
  · exact .refl
  · cases hfrom : e.attr "from" with
    | none =>
      exact acceptRoster duty hid s fun address h => by
        rw [hfrom] at h
        cases h
    | some address =>
      dsimp only [Option.map_some]
      cases hparse : Jid.parse address with
      | error error => exact .refl
      | ok sender =>
        dsimp only
        split
        · rename_i hbound
          refine acceptRoster duty hid s fun other hother => ⟨sender, ?_, hbound⟩
          rw [hfrom] at hother
          rw [← Option.some.inj hother, hparse]
        · exact .refl

theorem handleDiscovery (hid : id = .disco) (s : Session) :
    Course R s (s.handleDiscovery e).1 := by
  unfold Session.handleDiscovery
  split
  · exact .refl
  · exact one s (.write _) (duty _ _ (.inr ⟨.inr hid, _, rfl⟩))

theorem sendAck (hid : id = .streamManagement) (s : Session) (force : Bool) :
    Course R s (s.sendAck force) :=
  of_changes (P := fun change => ∀ s, R s change)
    ⟨_, .sendAck s force (fun s => duty s _ hid) fun _ hreport hdemand s =>
      duty s _ (.inl ⟨hid, hreport, hdemand⟩)⟩ fun s _ h => h s

end Duties

variable (routine : ∀ (s : Session) (change : Change), change.Routine → R s change)

include routine

theorem routinely (changes : s.Changes Change.Routine s') : Course R s s' :=
  of_changes changes routine

theorem fire (course : Course R s s') (event : Event) (h : event.isTransportNews = false)
    (hroster : event.isRoster = false) : Course R s (s'.fire event) :=
  course.step (.fire event) (routine _ _ ⟨h, hroster, trivial⟩)

variable (rules : ∀ (s : Session) (change : Change), e.Rules s change → R s change)

include rules

theorem takeEnabled (s : Session) {enabled : Enabled} (h : e.Enables enabled) :
    Course R s (s.takeEnabled enabled) := by
  unfold Session.takeEnabled
  split
  · rename_i hstatus
    have managed := one s (.enable enabled) (rules _ _ ⟨h, hstatus⟩)
    dsimp only
    split
    · exact fire routine managed _ rfl rfl
    · exact managed
  · rename_i hstatus
    have managed := one s (.begin _) (rules _ _ ⟨enabled, rfl, h, hstatus⟩)
    dsimp only
    split
    · exact fire routine managed _ rfl rfl
    · exact managed

theorem takeResumed (s : Session) {resumed : Resumed} (h : Resumed.read? e = some resumed) :
    Course R s (s.takeResumed resumed).1 := by
  unfold Session.takeResumed
  cases hs : s.resumption? with
  | none => exact .refl
  | some context =>
    have continued : s.change (.resume resumed.h)
        = ((s.mark (context.confirmed resumed.h) .acked).modifyResumption
          (·.resumeAt resumed.h)).resend (context.unconfirmed resumed.h) := by
      show s.continueFrom resumed.h = _
      rw [Session.continueFrom, hs]
    show Course R s ((((s.mark (context.confirmed resumed.h) .acked).modifyResumption
      (·.resumeAt resumed.h)).resend (context.unconfirmed resumed.h)).fire
        (.resumed resumed.h resumed.previd))
    rw [← continued]
    exact fire routine (one s (.resume resumed.h) (rules _ _ ⟨resumed, h, rfl⟩)) _ rfl rfl

theorem takeFailed (s : Session) (h : e.name = "failed") :
    Course R s (s.takeFailed (.salvage e)) := by
  unfold Session.takeFailed
  refine fire routine ?_ _ rfl rfl
  split
  · rename_i hstatus
    exact one s .abandon (rules _ _ ⟨h, hstatus⟩)
  · rename_i hstatus
    refine Course.step ?_ .reset (routine _ _ ⟨rfl, trivial, trivial⟩)
    split
    · rename_i report hreport
      exact one s (.acknowledge report) (rules _ _ (.inr ⟨h, hreport, hstatus⟩))
    · exact .refl

/-- **The elements of stream management.** All but what the peer reports and
decides is routine, or our own report. -/
theorem handleManagement (s : Session)
    (duty : ∀ (s : Session) (change : Change),
      ModuleId.streamManagement.Duty e s change → R s change) :
    Course R s (s.handleManagement e).1 := by
  unfold Session.handleManagement
  split
  · split
    · rename_i enabled hread
      exact takeEnabled routine rules s (.inl hread)
    · exact .refl
  · split
    · split
      · rename_i resumed hread
        exact takeResumed routine rules s hread
      · exact .refl
    · split
      · rename_i hname
        exact takeFailed routine rules s (by simpa using hname)
      · split
        · split
          · rename_i report hread
            exact one s (.acknowledge report) (rules _ _ (.inl hread))
          · exact .refl
        · split
          · exact sendAck duty rfl s true
          · exact .refl

theorem takeSuccess2 (s : Session) (hname : e.name = "success") :
    Course R s (s.takeSuccess2 e).1 := by
  unfold Session.takeSuccess2
  split
  · exact .refl
  · have held : s.Changes Change.Routine { s with logins := { s.logins with sasl2 := none } } :=
      .one s (.logins _) ⟨rfl, trivial, trivial⟩
    dsimp only
    split
    · exact routinely routine (held.trans (.failLogin2 (fun _ => id) _ _))
    · split
      · exact routinely routine held
      · rename_i jid _
        have accepted := routinely routine (((held.step
          (.logins { s.logins with sasl2 := none, bindRequested := false })
          ⟨rfl, trivial, trivial⟩).trans ⟨_, .setAuthState _ .succeeded⟩).step
          (.fire (.authSucceeded false (s.logins.bindRequested && !jid.isBare)))
          ⟨rfl, rfl, trivial⟩)
        split
        · split
          · exact accepted
          · rename_i henabled
            exact fire routine
              (accepted.trans (takeEnabled routine rules _ (.inr ⟨hname, henabled⟩)))
              (.bound jid true) rfl rfl
          · exact fire routine accepted (.bound jid true) rfl rfl
        · exact accepted

theorem handleSasl2 (s : Session) : Course R s (s.handleSasl2 e).1 := by
  by_cases hname : e.name = "success"
  · rw [s.handleSasl2_of_success hname]
    exact takeSuccess2 routine rules s hname
  · exact routinely routine (.handleSasl2 (fun _ => id) s hname)

omit rules in
/-- **Handling an element** by a module that is not told about stream management. -/
theorem handleOther (s : Session) {id : ModuleId} (tag : Option String)
    (h : s.catalogue.Within P) (hmanagement : id ≠ .streamManagement)
    (hsasl2 : id = .sasl2 → e.name ≠ "success")
    (duty : ∀ (s : Session) (change : Change), id.Duty e s change → R s change)
    (actions : ∀ (s : Session) (change : Change), P change → R s change) :
    Course R s (s.handle id tag e).1 := by
  cases id with
  | streamFeatures => exact routinely routine (.takeFeatures (fun _ h => h) s e)
  | streamError => exact routinely routine (.takeStreamError (fun _ h => h) s e)
  | sasl2 => exact routinely routine (.handleSasl2 (fun _ h => h) s (hsasl2 rfl))
  | sasl => exact routinely routine (.handleSasl (fun _ h => h) s e)
  | bind => exact .refl
  | registration => exact .refl
  | streamManagement => exact absurd rfl hmanagement
  | presence => exact fire routine .refl (.presence e) rfl rfl
  | message => exact fire routine .refl (.message e) rfl rfl
  | roster => exact handleRoster duty rfl s
  | disco => exact handleDiscovery duty rfl s
  | extra name =>
    refine of_changes (P := fun change => change.Routine ∨ P change)
      (.handleExtra (fun _ => .inl) s name tag e fun entry hmem =>
        (h entry hmem).mono fun _ => .inr)
      fun s change h => h.elim (routine s change) (actions s change)

/-- **Handling an element.** -/
theorem handle (s : Session) (id : ModuleId) (tag : Option String) (h : s.catalogue.Within P)
    (duty : ∀ (s : Session) (change : Change), id.Duty e s change → R s change)
    (actions : ∀ (s : Session) (change : Change), P change → R s change) :
    Course R s (s.handle id tag e).1 := by
  by_cases hmanagement : id = .streamManagement
  · subst hmanagement
    exact handleManagement routine rules s duty
  · by_cases hsasl2 : id = .sasl2
    · subst hsasl2
      exact handleSasl2 routine rules s
    · exact handleOther routine s tag h hmanagement (fun hid => absurd hid hsasl2) duty actions

end Session.Course

end Xmpp
