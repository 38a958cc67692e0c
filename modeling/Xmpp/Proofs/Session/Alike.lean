import Xmpp.Proofs.Session.Core

/-!
# Handling and reacting alike

What modules do with an element and what the controller does in reaction to an
event is the same in alike sessions: they make alike sessions of them, with the
same result. The one report in all of this is that of a resumption, which tells
the peer how much was counted, and that is idle.
-/

namespace Xmpp.Session.Alike

open Delivery Resumption

variable {s t : Session}

section

variable (h : s.Alike t)

include h

/-! ## Stream management -/

theorem malformed : AlikeWith s.malformed t.malformed :=
  ⟨h, rfl⟩

/-- What is told of a session that was enabled does not depend on its counts. -/
theorem tellEnabled :
    Alike (match s.resumption? with | some context => s.fire (enabledEvent context) | none => s)
      (match t.resumption? with | some context => t.fire (enabledEvent context) | none => t) := by
  obtain ⟨hs, ht⟩ | ⟨a, b, hs, ht, hab⟩ := h.resumption?_cases
  · rw [hs, ht]
    exact h
  · have hevent : enabledEvent a = enabledEvent b := by
      unfold enabledEvent
      rw [← a.isSome_resumeInfo?_core, ← b.isSome_resumeInfo?_core]
      show Event.managementEnabled a.core.id _ a.core.max
        = .managementEnabled b.core.id _ b.core.max
      rw [hab]
    rw [hs, ht]
    dsimp only
    rw [hevent]
    exact h.fire _

theorem takeEnabled (e : Enabled) : (s.takeEnabled e).Alike (t.takeEnabled e) := by
  have henable := fun c : Context => c.core_enable e
  unfold Session.takeEnabled
  rw [h.managementStatus?]
  split
  · exact (h.modifyResumption (g := (·.enable e)) henable henable).tellEnabled
  · exact (h.startResumption _).tellEnabled

theorem takeResumed (r : Resumed) : AlikeWith (s.takeResumed r) (t.takeResumed r) := by
  have resumed := h.continueFrom r.h
  unfold Session.continueFrom at resumed
  unfold Session.takeResumed
  obtain ⟨hs, ht⟩ | ⟨a, b, hs, ht, -⟩ := h.resumption?_cases
  · rw [hs, ht]
    exact ⟨h, rfl⟩
  · rw [hs, ht] at resumed ⊢
    exact ⟨resumed.fire _, rfl⟩

theorem takeFailed (f : Failed) : (s.takeFailed f).Alike (t.takeFailed f) := by
  unfold Session.takeFailed
  rw [h.managementStatus?]
  refine Alike.fire ?_ _
  split
  · exact h.abandonResumption
  · cases f.h with
    | none => exact h.resetManagement
    | some report => exact (h.acknowledge report).resetManagement

theorem handleManagement (e : Element) :
    AlikeWith (s.handleManagement e) (t.handleManagement e) := by
  unfold Session.handleManagement
  split
  · split
    · exact ⟨h.takeEnabled _, rfl⟩
    · exact h.malformed
  · split
    · split
      · exact h.takeResumed _
      · exact h.malformed
    · split
      · exact ⟨h.takeFailed _, rfl⟩
      · split
        · split
          · exact ⟨h.acknowledge _, rfl⟩
          · exact h.malformed
        · split
          · exact ⟨(sendAck s true).trans (h.trans (sendAck t true).symm), rfl⟩
          · exact ⟨h, rfl⟩

/-! ## The logins -/

theorem login : AlikeWith s.login t.login := by
  unfold Session.login
  rw [h.config, h.saslFeature?]
  split
  · exact ⟨h, rfl⟩
  · split
    · exact ⟨h, rfl⟩
    · exact ⟨(((h.setAuthState _).fire _).write _).modifyLogins fun l =>
        { l with sasl := some _ }, rfl⟩

theorem failLogin (error : AuthError) : (s.failLogin error).Alike (t.failLogin error) :=
  ((h.modifyLogins fun l => { l with sasl := none }).setAuthState _).fire _

theorem takeChallenge (challenge : List UInt8) :
    (s.takeChallenge challenge).Alike (t.takeChallenge challenge) := by
  unfold Session.takeChallenge
  rw [h.logins]
  split
  · exact h
  · split
    · exact h.failLogin _
    · exact (h.withLogins _).write _

theorem takeSuccess (data : List UInt8) : (s.takeSuccess data).Alike (t.takeSuccess data) := by
  have dropped := h.withLogins { t.logins with sasl := none }
  unfold Session.takeSuccess
  rw [h.logins]
  split
  · exact h
  · dsimp only
    split
    · exact dropped.failLogin _
    · exact ((dropped.setAuthState _).restart).fire _

theorem handleSasl (e : Element) : AlikeWith (s.handleSasl e) (t.handleSasl e) := by
  unfold Session.handleSasl
  split
  · split
    · exact ⟨h.takeChallenge _, rfl⟩
    · exact h.malformed
  · split
    · split
      · exact ⟨h.takeSuccess _, rfl⟩
      · exact h.malformed
    · split
      · split
        · exact ⟨h.failLogin _, rfl⟩
        · exact h.malformed
      · exact ⟨h, rfl⟩

theorem login2 (bind : Bool) : AlikeWith (s.login2 bind) (t.login2 bind) := by
  unfold Session.login2
  rw [h.sasl2Feature?, h.config]
  split
  · exact ⟨h, rfl⟩
  · split
    · exact ⟨h, rfl⟩
    · rename_i mechanism _
      have started := (h.setAuthState .inProgress).fire (.authStarted mechanism.greet.2.name)
      refine ⟨?_, rfl⟩
      dsimp only
      rw [started.config]
      exact (started.write _).modifyLogins fun l => { l with sasl2 := some _, bindRequested := _ }

theorem failLogin2 (error : AuthError) : (s.failLogin2 error).Alike (t.failLogin2 error) :=
  ((h.modifyLogins fun l => { l with sasl2 := none, bindRequested := false }).setAuthState _).fire _

theorem takeChallenge2 (e : Element) : (s.takeChallenge2 e).Alike (t.takeChallenge2 e) := by
  unfold Session.takeChallenge2
  rw [h.logins]
  split
  · exact h
  · split
    · exact h.failLogin2 _
    · split
      · exact h.failLogin2 _
      · exact (h.withLogins _).write _

theorem takeSuccess2 (e : Element) : AlikeWith (s.takeSuccess2 e) (t.takeSuccess2 e) := by
  unfold Session.takeSuccess2
  rw [h.logins]
  have dropped := h.withLogins { t.logins with sasl2 := none }
  have accepted := ((dropped.modifyLogins fun l => { l with bindRequested := false }).setAuthState
    .succeeded)
  split
  · exact ⟨h, rfl⟩
  · dsimp only
    split
    · exact ⟨dropped.failLogin2 _, rfl⟩
    · split
      · exact ⟨dropped, rfl⟩
      · split
        · split
          · exact (accepted.fire _).malformed
          · exact ⟨((accepted.fire _).takeEnabled _).fire _, rfl⟩
          · exact ⟨(accepted.fire _).fire _, rfl⟩
        · exact ⟨accepted.fire _, rfl⟩

theorem handleSasl2 (e : Element) : AlikeWith (s.handleSasl2 e) (t.handleSasl2 e) := by
  unfold Session.handleSasl2
  split
  · exact ⟨h.takeChallenge2 e, rfl⟩
  · split
    · exact h.takeSuccess2 e
    · split
      · exact ⟨h.failLogin2 _, rfl⟩
      · split
        · exact ⟨h.failLogin2 _, rfl⟩
        · exact ⟨h, rfl⟩

/-! ## Requests and services -/

theorem bind : s.bind.2.Alike t.bind.2 := by
  unfold Session.bind
  rw [h.config]
  exact h.send _

theorem requestForm : s.requestForm.2.Alike t.requestForm.2 := h.send _

theorem submitForm (form : Form) : (s.submitForm form).2.Alike (t.submitForm form).2 := h.send _

theorem sendPresence : s.sendPresence.2.Alike t.sendPresence.2 := h.send _

theorem requestRoster : s.requestRoster.2.Alike t.requestRoster.2 := h.send _

theorem requestFeatures (jid : Jid) :
    (s.requestFeatures jid).2.Alike (t.requestFeatures jid).2 :=
  h.send _

theorem acceptRoster (push : Element) : AlikeWith (s.acceptRoster push) (t.acceptRoster push) := by
  unfold Session.acceptRoster
  split
  · exact ⟨h, rfl⟩
  · exact ⟨(h.write _).fire _, rfl⟩

theorem handleRoster (e : Element) : AlikeWith (s.handleRoster e) (t.handleRoster e) := by
  unfold Session.handleRoster
  split
  · exact ⟨h, rfl⟩
  · split
    · exact ⟨h, rfl⟩
    · rw [h.isBoundTo]
      split
      · exact h.acceptRoster e
      · exact ⟨h, rfl⟩
    · exact h.acceptRoster e

theorem handleDiscovery (e : Element) : AlikeWith (s.handleDiscovery e) (t.handleDiscovery e) := by
  unfold Session.handleDiscovery
  split
  · exact ⟨h, rfl⟩
  · rw [h.config, h.advertised]
    exact ⟨h.write _, rfl⟩

/-! ## Modules -/

theorem act (action : Action) : AlikeWith (s.act action) (t.act action) := by
  cases action with
  | write element => exact ⟨h.write element, rfl⟩
  | request draft => exact ⟨h.send draft, rfl⟩
  | fire event => exact ⟨h.fire event, rfl⟩
  | restart => exact ⟨h.restart, rfl⟩
  | close => exact ⟨h.close, rfl⟩
  | clear scope => exact ⟨h.clear scope, rfl⟩
  | fail error => exact ⟨h, rfl⟩

omit h in
theorem actAll (h : s.Alike t) (actions : List Action) :
    AlikeWith (s.actAll actions) (t.actAll actions) := by
  induction actions generalizing s t with
  | nil => exact ⟨h, rfl⟩
  | cons action rest ih =>
    obtain ⟨hacted, herror⟩ := h.act action
    unfold Session.actAll
    generalize s.act action = p at hacted herror
    generalize t.act action = q at hacted herror
    obtain ⟨s', error⟩ := p
    obtain ⟨t', error'⟩ := q
    obtain rfl : error = error' := herror
    cases error with
    | none => exact ih hacted
    | some error => exact ⟨hacted, rfl⟩

theorem handleExtra (name : String) (tag : Option String) (e : Element) :
    AlikeWith (s.handleExtra name tag e) (t.handleExtra name tag e) := by
  unfold Session.handleExtra Session.noteFor
  rw [h.catalogue]
  dsimp only
  split
  · exact (h.note _).actAll _
  · exact h.actAll _

/-- **Modules handle an element alike.** -/
theorem handle (id : ModuleId) (tag : Option String) (e : Element) :
    AlikeWith (s.handle id tag e) (t.handle id tag e) := by
  cases id with
  | streamFeatures => exact ⟨(h.setProperty _ _ _).fire _, rfl⟩
  | streamError => exact ⟨h.fire _, rfl⟩
  | sasl2 => exact h.handleSasl2 e
  | sasl => exact h.handleSasl e
  | bind => exact ⟨h, rfl⟩
  | registration => exact ⟨h, rfl⟩
  | streamManagement => exact h.handleManagement e
  | presence => exact ⟨h.fire _, rfl⟩
  | message => exact ⟨h.fire _, rfl⟩
  | roster => exact h.handleRoster e
  | disco => exact h.handleDiscovery e
  | extra name => exact h.handleExtra name tag e

/-! ## The controller -/

theorem stop (message : String) : (s.stop message).Alike (t.stop message) := h.fire _

omit h in
theorem reportLogin {p q : Session × Option Error} (h : AlikeWith p q) :
    (Session.reportLogin p).Alike (Session.reportLogin q) := by
  obtain ⟨s', error⟩ := p
  obtain ⟨t', error'⟩ := q
  obtain ⟨hsession, rfl : error = error'⟩ := h
  have hsession : s'.Alike t' := hsession
  cases error with
  | none => exact hsession
  | some e =>
    cases e with
    | auth e => exact hsession.stop _
    | _ => exact hsession.stop _

theorem forgetUnlessResumable : s.forgetUnlessResumable.Alike t.forgetUnlessResumable := by
  unfold Session.forgetUnlessResumable
  rw [h.canResume]
  split
  · exact h
  · exact h.resetManagement

theorem getIn (registered : Bool) : (s.getIn registered).Alike (t.getIn registered) := by
  have ready := h.forgetUnlessResumable
  unfold Session.getIn
  dsimp only
  rw [ready.canLogin2, ready.canLogin, ready.canResume, ready.offersRegistration, ready.config]
  split
  · exact reportLogin (ready.login2 _)
  · split
    · exact reportLogin ready.login
    · split
      · exact ready.requestForm
      · exact ready.stop _

theorem settleIn (jid : Jid) (inline : Bool) :
    (s.settleIn jid inline).Alike (t.settleIn jid inline) := by
  have addressed := (h.setProperty .session Properties.boundKey jid).setOwnJid (some jid)
  unfold Session.settleIn
  dsimp only
  split
  · exact addressed.stop _
  · rename_i server _
    have announced := (((addressed.requestFeatures server).requestFeatures
      jid.bare).sendPresence).requestRoster
    split
    · exact announced.fire _
    · exact announced.enableManagement.fire _

theorem wrapUp : s.wrapUp.Alike t.wrapUp := by
  have cleared := (h.timeoutAll.resetManagement).clear .session
  unfold Session.wrapUp
  dsimp only
  rw [cleared.config]
  exact cleared.setOwnJid _

theorem suspend : s.suspend.Alike t.suspend :=
  h.deactivateManagement.clear _

theorem followConnector (old new : ConnectorState) :
    (s.followConnector old new).Alike (t.followConnector old new) := by
  cases new with
  | disconnecting => exact h.timeoutAll.resetManagement
  | disconnected =>
    unfold Session.followConnector
    dsimp only
    rw [h.canResume]
    split
    · exact h.wrapUp
    · exact h.suspend
  | connecting => exact h
  | connected => exact h

theorem resumeOrBind (c : Controller) :
    (c.resumeOrBind s).1 = (c.resumeOrBind t).1
      ∧ (c.resumeOrBind s).2.Alike (c.resumeOrBind t).2 := by
  have hasked : ∀ s : Session, s.resume.1 = s.canResume := fun s => by
    unfold Session.resume Session.canResume
    split
    · rename_i hinfo
      rw [hinfo]
      rfl
    · rename_i hinfo
      rw [hinfo]
      rfl
  unfold Controller.resumeOrBind
  rw [h.canResume, h.canBind]
  split
  · refine ⟨?_, (resume s).trans (h.trans (resume t).symm)⟩
    show { c with resuming := s.resume.1 } = { c with resuming := t.resume.1 }
    rw [hasked, hasked, h.canResume]
  · split
    · exact ⟨rfl, h.bind⟩
    · exact ⟨rfl, h⟩

/-- **The controller reacts alike.** -/
theorem react (c : Controller) (event : Event) :
    (c.react s event).1 = (c.react t event).1 ∧ (c.react s event).2.Alike (c.react t event).2 := by
  cases event with
  | features =>
    unfold Controller.react
    rw [h.authState]
    cases t.properties.authState with
    | unknown => exact ⟨rfl, h.getIn _⟩
    | succeeded => exact h.resumeOrBind c
    | inProgress => exact ⟨rfl, h⟩
    | failed => exact ⟨rfl, h⟩
  | authSucceeded restartRequired inlineBound =>
    cases restartRequired <;> cases inlineBound
    · exact h.resumeOrBind c
    · exact ⟨rfl, h⟩
    · exact ⟨rfl, h⟩
    · exact ⟨rfl, h⟩
  | managementFailed condition =>
    unfold Controller.react
    dsimp only
    split
    · exact ⟨rfl, ((h.timeoutAll).clear _).bind⟩
    · exact ⟨rfl, h⟩
  | formReceived form =>
    unfold Controller.react
    rw [h.config]
    exact ⟨rfl, h.submitForm _⟩
  | authFailed e => exact ⟨rfl, h.stop _⟩
  | bound jid inline => exact ⟨rfl, h.settleIn jid inline⟩
  | bindFailed e => exact ⟨rfl, h.fire _⟩
  | resumed report previd => exact ⟨rfl, h.fire _⟩
  | registered => exact ⟨rfl, h.close⟩
  | registrationFailed e => exact ⟨rfl, h.stop _⟩
  | parseError message => exact ⟨rfl, h.fire _⟩
  | streamError condition text seeOtherHost => exact ⟨rfl, (h.clear _).fire _⟩
  | connector old new => exact ⟨rfl, h.followConnector old new⟩
  | _ => exact ⟨rfl, h⟩

/-! ## Calls -/

/-- **A change is made alike.** -/
theorem change (change : Change) : (s.change change).Alike (t.change change) := by
  cases change with
  | draw drawn => exact h.withDrawn drawn
  | write element => exact h.write element
  | give request => exact h.enqueue _ _
  | restart => exact h.restart
  | close => exact h.close
  | fire event => exact h.fire event
  | note line => exact h.note line
  | remember scope key value => exact h.remember scope key rfl
  | clear scope => exact h.clear scope
  | logins logins => exact h.withLogins logins
  | advertise features => exact h.advertise features
  | identify jid => exact h.setOwnJid jid
  | receive =>
    exact (modify_counts s Context.core_recordReceived).trans
      (h.trans (modify_counts t Context.core_recordReceived).symm)
  | report =>
    exact (modify_counts s Context.core_recordReport).trans
      (h.trans (modify_counts t Context.core_recordReport).symm)
  | deactivate => exact h.deactivateManagement
  | abandon => exact h.abandonResumption
  | reset => exact h.resetManagement
  | begin context => exact h.startResumption context
  | enable e =>
    exact h.modifyResumption (g := (·.enable e)) (fun c => c.core_enable e) fun c => c.core_enable e
  | acknowledge report => exact h.acknowledge report
  | resume report => exact h.continueFrom report
  | answer reply => exact h.answer reply
  | sweep condition =>
    unfold Session.change
    rw [h.registry]
    exact h.swept _
  | prune => exact h.prune
  | cancel key => exact h.cancel key
  | pass duration => exact h.pass duration

omit h in
theorem changes (h : s.Alike t) (changes : List Change) :
    (changes.foldl Session.change s).Alike (changes.foldl Session.change t) := by
  induction changes generalizing s t with
  | nil => exact h
  | cons change rest ih => exact ih (h.change change)

end

end Xmpp.Session.Alike
