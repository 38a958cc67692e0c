import Mathlib.Data.List.Basic
import Xmpp.Proofs.Client.Asking
import Xmpp.Proofs.Client.Precedence
import Xmpp.Proofs.Client.Replies
import Xmpp.Proofs.Resumption.Answers
import Xmpp.Proofs.Session.Tally

/-!
# Telling how much was received

The peer keeps what it has sent until we tell how many stanzas were received, and drops or repeats
what the number we tell makes it. So the number should be true, and a client is followed through
all it does here to see that it is. A session begins when the request to enable stream management
is handed over, and also when the server enables it although nothing waits for that, and it lives
through the loss of connections; all the while the stanzas that come in are counted if it is live.

Whatever happens to a client, what it tells is the count up to the element being handled, modulo
2^32, and no report is written unless the session is live. A request for a report is answered once,
since stream management gets it before the application could end the session, and housekeeping
reports whenever there is something new to report (`Client.counts_of_created`).
-/

namespace Xmpp

open Delivery Resumption CountTurn

/-! ## Handling elements -/

/-- Whether an event tells that stream management was enabled. -/
def Event.isEnabled : Event → Bool
  | .managementEnabled _ _ _ => true
  | _ => false

namespace Session

variable {s s' : Session} {turns : List CountTurn}

/-- Whether a module began a session by handling an element: it told that stream management was
enabled, though nothing waited for that. -/
def begins (id : ModuleId) (e : Element) (s s' : Session) : Bool :=
  (id = .streamManagement && e.name == "enabled" || id = .sasl2 && e.name == "success")
    && s.managementStatus? ≠ some .pending && (s'.events.drop s.events.length).any Event.isEnabled

/-- **What there is to tell** of a module that handled an element: whether it began a session, and
what stream management told. -/
def handlingTurns (id : ModuleId) (e : Element) (s s' : Session) : List CountTurn :=
  (if begins id e s s' then [.began] else [])
    ++ if id = .streamManagement then s.tells s' else []

/-- Nothing began if the element is another. -/
theorem begins_eq_false (id : ModuleId) {e : Element}
    (hmanagement : id = .streamManagement → e.name ≠ "enabled")
    (hsasl2 : id = .sasl2 → e.name ≠ "success") (s s' : Session) :
    begins id e s s' = false := by
  have hother : (id = .streamManagement && e.name == "enabled"
      || id = .sasl2 && e.name == "success") = false := by
    rw [Bool.eq_false_iff]
    intro h
    simp only [Bool.or_eq_true, Bool.and_eq_true, decide_eq_true_eq, beq_iff_eq] at h
    exact h.elim (fun h => hmanagement h.1 h.2) fun h => hsasl2 h.1 h.2
  rw [begins, hother, Bool.false_and, Bool.false_and]

/-- For an answer to the request to enable stream management, what was published decides. -/
theorem handlingTurns_of_answer {id : ModuleId} {e : Element} {fired : List Event}
    (hid : id = .streamManagement ∧ e.name = "enabled" ∨ id = .sasl2 ∧ e.name = "success")
    (ho : s'.outbox = s.outbox) (hevents : s'.events = s.events ++ fired) :
    handlingTurns id e s s'
      = if s.managementStatus? ≠ some .pending ∧ fired.any Event.isEnabled then [.began]
        else [] := by
  have hthis : (id = .streamManagement && e.name == "enabled"
      || id = .sasl2 && e.name == "success") = true := by
    simpa only [Bool.or_eq_true, Bool.and_eq_true, decide_eq_true_eq, beq_iff_eq] using hid
  rw [handlingTurns, (Hushed.of_outbox ho).tells, ite_self, List.append_nil, begins, hthis,
    Bool.true_and, hevents, List.drop_left]
  simp only [Bool.and_eq_true, decide_eq_true_eq]

/-- **A session that is upheld** is counted from the start unless it waited for that. -/
theorem Tallies.upheld (h : s.Tallies turns) (enabled : Enabled) :
    (s.upheld enabled).Tallies
      (turns ++ if s.managementStatus? ≠ some .pending then [.began] else []) := by
  unfold Session.upheld
  by_cases hpending : s.managementStatus? = some .pending
  · rw [if_pos hpending, if_neg (not_not.2 hpending), List.append_nil]
    have leaves : (Change.enable enabled).LeavesCount := trivial
    exact h.change leaves
  · rw [if_neg hpending, if_pos hpending]
    refine ⟨h.clean.set _, h.truthful.append trivial, fun context hs => ?_⟩
    rw [resumption?_startResumption] at hs
    obtain rfl := Option.some.inj hs
    exact Context.tallies_start.inherits ⟨rfl, rfl, List.Subset.refl _⟩

theorem outbox_upheld (s : Session) (enabled : Enabled) :
    (s.upheld enabled).outbox = s.outbox ∧ (s.upheld enabled).events = s.events := by
  unfold Session.upheld
  split <;> exact ⟨rfl, rfl⟩

/-- A module that was told that stream management was enabled upholds the session. -/
theorem Tallies.takeEnabled (h : s.Tallies turns) (enabled : Enabled) :
    (s.takeEnabled enabled).Tallies
        (turns ++ if s.managementStatus? ≠ some .pending then [.began] else [])
      ∧ (s.takeEnabled enabled).outbox = s.outbox
      ∧ ∃ context, (s.takeEnabled enabled).events = s.events ++ [enabledEvent context] := by
  obtain ⟨context, -, htaken⟩ := s.takeEnabled_eq enabled
  have hupheld := s.outbox_upheld enabled
  rw [htaken]
  exact ⟨(h.upheld enabled).of_eq rfl, hupheld.1, context, congrArg (· ++ _) hupheld.2⟩

/-- **Stream management leaves the count right**, with what it tells. -/
theorem Tallies.handleManagement (h : s.Tallies turns) (e : Element) :
    (s.handleManagement e).1.Tallies
      (turns ++ handlingTurns .streamManagement e s (s.handleManagement e).1) := by
  by_cases hname : e.name = "enabled"
  · unfold Session.handleManagement
    rw [if_pos (by simpa using hname)]
    cases Enabled.read? e with
    | none =>
      show s.Tallies (turns ++ handlingTurns .streamManagement e s s)
      rw [handlingTurns_of_answer (.inl ⟨rfl, hname⟩) rfl (List.append_nil _).symm,
        if_neg (by simp), List.append_nil]
      exact h
    | some enabled =>
      obtain ⟨tallies, ho, context, hevents⟩ := h.takeEnabled enabled
      show (s.takeEnabled enabled).Tallies
        (turns ++ handlingTurns .streamManagement e s (s.takeEnabled enabled))
      rw [handlingTurns_of_answer (.inl ⟨rfl, hname⟩) ho hevents]
      simpa [Event.isEnabled, enabledEvent] using tallies
  · have began (s' : Session) : begins .streamManagement e s s' = false :=
      begins_eq_false .streamManagement (fun _ => hname) nofun s s'
    have quietly {s' : Session} (course : s.Course (fun _ change => change.Uncounted) s') :
        s'.Tallies (turns ++ handlingTurns .streamManagement e s s') := by
      obtain ⟨tallies, hushed⟩ := h.uncounted course fun _ _ => id
      rw [handlingTurns, began, hushed.tells]
      simpa using tallies
    have routine : ∀ (s : Session) (change : Change), change.Routine → change.Uncounted :=
      fun _ _ => Change.Routine.uncounted
    have rules (hsuccess : e.name ≠ "success") (s : Session) (change : Change)
        (h : e.Rules s change) : change.Uncounted := h.uncounted hname hsuccess
    unfold Session.handleManagement
    rw [if_neg (by simpa using hname)]
    split
    · rename_i hresumed
      have hresumed : e.name = "resumed" := by simpa using hresumed
      split
      · rename_i resumed hread
        exact quietly (.takeResumed routine (rules (by rw [hresumed]; decide)) s hread)
      · exact quietly .refl
    · split
      · rename_i hfailed
        have hfailed : e.name = "failed" := by simpa using hfailed
        exact quietly (.takeFailed routine (rules (by rw [hfailed]; decide)) s hfailed)
      · split
        · split
          · rename_i report hread
            exact quietly (.one s (.acknowledge report) ⟨trivial, trivial⟩)
          · exact quietly .refl
        · split
          · show (s.sendAck true).Tallies
              (turns ++ handlingTurns .streamManagement e s (s.sendAck true))
            rw [handlingTurns, began, if_neg Bool.false_ne_true, if_pos rfl, List.nil_append]
            exact h.sendAck true
          · exact quietly .refl

/-- So does the login, along with which stream management may be enabled. -/
theorem Tallies.takeSuccess2 (h : s.Tallies turns) {e : Element} (hname : e.name = "success") :
    (s.takeSuccess2 e).1.Tallies (turns ++ handlingTurns .sasl2 e s (s.takeSuccess2 e).1) := by
  have plainly {s' : Session} (fired : List Event) (hevents : s'.events = s.events ++ fired)
      (hfired : fired.any Event.isEnabled = false) (ho : s'.outbox = s.outbox)
      (tallies : s'.Tallies turns) : s'.Tallies (turns ++ handlingTurns .sasl2 e s s') := by
    rw [handlingTurns_of_answer (.inr ⟨rfl, hname⟩) ho hevents, if_neg (by simp [hfired]),
      List.append_nil]
    exact tallies
  have settled (state : AuthState) : (s.setAuthState state).Tallies turns :=
    h.course (.of_steps (Steps.setAuthState s state) fun _ _ => id) fun _ _ routine =>
      routine.uncounted.leaves
  unfold Session.takeSuccess2
  split
  · exact plainly [] (List.append_nil _).symm rfl rfl h
  · dsimp only
    split
    · rename_i error _
      exact plainly [.authFailed error] rfl rfl rfl ((settled .failed).of_eq rfl)
    · split
      · exact plainly [] (List.append_nil _).symm rfl rfl (h.of_eq rfl)
      · rename_i jid _
        generalize hinline : (s.logins.bindRequested && !jid.isBare) = inline
        have accepted : ∀ s' : Session, s'.properties = (s.setAuthState .succeeded).properties →
            s'.Tallies turns := fun s' hproperties => (settled .succeeded).of_eq hproperties
        split
        · split
          · exact plainly [.authSucceeded false inline] rfl rfl rfl (accepted _ rfl)
          · rename_i enabled _
            let accepting : Session :=
              ({ s with logins := { s.logins with sasl2 := none, bindRequested := false }
                }.setAuthState .succeeded).fire (.authSucceeded false inline)
            have hresumption : accepting.resumption? = s.resumption? :=
              s.properties.get?_set_of_ne .connection AuthState.succeeded (by decide)
            obtain ⟨tallies, ho, context, hevents⟩ :=
              (accepted accepting rfl).takeEnabled enabled
            have hall : ((accepting.takeEnabled enabled).fire (.bound jid true)).events
                = s.events
                  ++ [.authSucceeded false inline, enabledEvent context, .bound jid true] := by
              show (accepting.takeEnabled enabled).events ++ _ = _
              rw [hevents]
              simp [accepting, Session.fire, Session.setAuthState, Session.setProperty]
            have hsame : ((accepting.takeEnabled enabled).fire (.bound jid true)).outbox
                = s.outbox := ho
            show ((accepting.takeEnabled enabled).fire (.bound jid true)).Tallies (turns
              ++ handlingTurns .sasl2 e s ((accepting.takeEnabled enabled).fire (.bound jid true)))
            rw [handlingTurns_of_answer (.inr ⟨rfl, hname⟩) hsame hall]
            rw [managementStatus?, hresumption, ← managementStatus?] at tallies
            refine Tallies.of_eq (s := accepting.takeEnabled enabled) ?_ rfl
            simpa [Event.isEnabled, enabledEvent] using tallies
          · exact plainly [.authSucceeded false inline, .bound jid true]
              (List.append_assoc _ _ _) rfl rfl (accepted _ rfl)
        · exact plainly [.authSucceeded false inline] rfl rfl rfl (accepted _ rfl)

/-- **Whatever module handles an element**, the count stays right, with what there is to tell. -/
theorem Tallies.handle (h : s.Tallies turns) (id : ModuleId) (tag : Option String) (e : Element) :
    (s.handle id tag e).1.Tallies (turns ++ handlingTurns id e s (s.handle id tag e).1) := by
  by_cases hmanagement : id = .streamManagement
  · subst hmanagement
    exact h.handleManagement e
  · by_cases hsuccess : id = .sasl2 ∧ e.name = "success"
    · obtain ⟨rfl, hname⟩ := hsuccess
      rw [show s.handle .sasl2 tag e = s.takeSuccess2 e from s.handleSasl2_of_success hname]
      exact h.takeSuccess2 hname
    · have hsasl2 : id = .sasl2 → e.name ≠ "success" := fun hid hname => hsuccess ⟨hid, hname⟩
      have course : s.Course (fun _ change => change.LeavesCount) (s.handle id tag e).1 :=
        .handleOther (fun _ _ routine => routine.uncounted.leaves) s tag
          s.catalogue.within_leavesCount hmanagement hsasl2
          (fun _ _ duty => duty.leavesCount hmanagement) fun _ _ h => h
      rw [handlingTurns, begins_eq_false id (fun hid => absurd hid hmanagement) hsasl2,
        if_neg hmanagement, if_neg Bool.false_ne_true, List.append_nil, List.append_nil]
      exact h.course course fun _ _ h => h

/-- A modest change reports nothing. -/
theorem filter_isReport_adds {change : Change} (modest : change.Modest) (quiet : change.Quiet) :
    (s.adds change).filter (·.stanza.isReport) = [] := by
  have single {entry : Entry} (h : entry.stanza.isReport = false) :
      [entry].filter (·.stanza.isReport) = [] :=
    List.filter_eq_nil_iff.2 fun other hmem => by simp [List.mem_singleton.1 hmem, h]
  cases change with
  | write element => exact single modest
  | give request => exact single modest.2
  | resume report => cases quiet
  | _ => rfl

/-- **In its reactions the controller tells the count only if it asks for the session.** -/
theorem hushed_react (c : Controller) {event : Event}
    (hprompt : c.prompt? s event ≠ some .resume) : s.Hushed (c.react s event).2 := by
  obtain ⟨k, -, steps⟩ := Steps.does_react c s event
  obtain ⟨written, hwritten⟩ := steps.exists_unsent
  have hreports : (c.react s event).2.unsent.filter (·.stanza.isReport)
      = s.unsent.filter (·.stanza.isReport) :=
    steps.invariant (I := fun s' => s'.unsent.filter (·.stanza.isReport)
      = s.unsent.filter (·.stanza.isReport)) rfl fun s' change does hs' => by
        rw [unsent_change, List.filter_append, hs', filter_isReport_adds does.modest does.quiet,
          List.append_nil]
  have hdemands : (c.react s event).2.demands = s.demands ++ (c.prompt? s event).toList :=
    s.demands_react c event
  rw [hwritten, List.filter_append] at hreports
  rw [demands, hwritten, List.filterMap_append, ← demands] at hdemands
  have unreported := List.filter_eq_nil_iff.1
    (List.append_cancel_left (hreports.trans (List.append_nil _).symm))
  refine ⟨written, hwritten, fun entry hmem => ?_⟩
  refine Element.tellsCount_of_demand? (Bool.eq_false_iff.2 (unreported entry hmem)) ?_
  intro hdemand
  have hasked : Demand.resume ∈ written.filterMap (·.stanza.demand?) :=
    List.mem_filterMap.2 ⟨entry, hmem, hdemand⟩
  rw [List.append_cancel_left hdemands, Option.mem_toList] at hasked
  exact hprompt hasked

/-- If it asks for the session, that is all it does. -/
theorem react_of_prompt {c : Controller} {event : Event}
    (hprompt : c.prompt? s event = some .resume) : (c.react s event).2 = s.resume.2 := by
  have seeking (h : s.seeks? = some .resume) : (c.resumeOrBind s).2 = s.resume.2 := by
    unfold seeks? at h
    unfold Controller.resumeOrBind
    split at h
    · rename_i hresume
      rw [if_pos hresume]
    · split at h <;> cases h
  cases event with
  | features =>
    unfold Controller.prompt? at hprompt
    unfold Controller.react
    dsimp only at hprompt ⊢
    split at hprompt
    · rename_i hauth
      rw [hauth]
      exact seeking hprompt
    · cases hprompt
  | authSucceeded restartRequired inlineBound =>
    cases restartRequired <;> cases inlineBound
    · exact seeking hprompt
    · cases hprompt
    · cases hprompt
    · cases hprompt
  | managementFailed condition =>
    unfold Controller.prompt? at hprompt
    dsimp only at hprompt
    split at hprompt <;> cases hprompt
  | _ => cases hprompt

/-- **A reaction of the controller leaves the count right**, with what it tells. -/
theorem Tallies.react (h : s.Tallies turns) (c : Controller) (event : Event) :
    (c.react s event).2.Tallies (turns ++ s.tells (c.react s event).2) := by
  by_cases hprompt : c.prompt? s event = some .resume
  · rw [react_of_prompt hprompt]
    exact h.resume
  · rw [(hushed_react c hprompt).tells, List.append_nil]
    obtain ⟨k, -, steps⟩ := Steps.does_react c s event
    exact h.course (.of_steps steps fun _ _ h => h) fun _ _ does =>
      does.modest.leavesCount does.quiet

end Session

/-! ## Annals of the count -/

namespace Client

variable {c c₀ : Client} {s : Session} {turns : List CountTurn}

/-- What there is to tell of an element that is routed to these modules. -/
def routingTurns (e : Element) : Session × Bool → List Slot → List CountTurn
  | _, [] => []
  | state, slot :: rest =>
    Session.handlingTurns slot.id e state.1 (Modules.process slot state.1 e).1
      ++ routingTurns e (routeTo e state slot) rest

/-- **What there is to tell of the count**: stanzas that come in while the session is live, sessions
that begin, and whatever stream management tells. What the owner writes and what his modules write
is no word of stream management. A module that is called has no part in the count, unless it has
stream management tell it. -/
def counter : Scribe CountTurn where
  admits c op := ∀ changes, op = .call changes →
    (∀ change ∈ changes, change.Uncounted) ∨ c.session.Reports (c.prepare op).session
  operation c op :=
    match op with
    | .receive e =>
      c.session.counts e ++
        if ((c.session.countReceived e).registry.resolve? e).isSome then []
        else routingTurns e (c.session.countReceived e, false) (c.modules.targets e)
    | .process id e => Session.handlingTurns id e c.session (c.prepare op).session
    | .install _ | .write _ | .submit _ | .send _ => []
    | op => c.session.tells (c.prepare op).session
  item c item :=
    match item with
    | .element entry _ =>
      if c.accepts && entry.stanza.is "enable" Namespace.streamManagement then [.began] else []
    | .restart | .close => []
  reaction c s event := s.tells (c.react s event).2

/-- Nothing happened, so there is nothing to tell. -/
theorem handlingTurns_self (id : ModuleId) (e : Element) (s : Session) :
    Session.handlingTurns id e s s = [] := by
  rw [Session.handlingTurns, (Session.Hushed.refl s).tells, ite_self, List.append_nil,
    Session.begins, List.drop_length, List.any_nil, Bool.and_false, if_neg Bool.false_ne_true]

theorem tallies_process (h : s.Tallies turns) (slot : Slot) (e : Element) :
    (Modules.process slot s e).1.Tallies
      (turns ++ Session.handlingTurns slot.id e s (Modules.process slot s e).1) := by
  unfold Modules.process
  split
  · rw [handlingTurns_self, List.append_nil]
    exact h
  · exact h.handle slot.id _ e

/-- What a module refuses is answered at most. -/
theorem properties_routeTo (e : Element) (s : Session) (replied : Bool) (slot : Slot) :
    (routeTo e (s, replied) slot).1.properties = (Modules.process slot s e).1.properties := by
  unfold routeTo
  dsimp only
  generalize Modules.process slot s e = processed
  obtain ⟨s', _ | error⟩ := processed
  · rfl
  · dsimp only
    split <;> rfl

/-- **Routing an element** leaves the count right. -/
theorem tallies_routing (e : Element) (slots : List Slot) (h : s.Tallies turns) (replied : Bool) :
    (slots.foldl (routeTo e) (s, replied)).1.Tallies
      (turns ++ routingTurns e (s, replied) slots) := by
  induction slots generalizing s turns replied with
  | nil => exact (List.append_nil turns).symm ▸ h
  | cons slot rest ih =>
    rw [routingTurns, ← List.append_assoc]
    exact ih ((tallies_process h slot e).of_eq (properties_routeTo e s replied slot)) _

/-- **Receiving an element** leaves the count right. -/
theorem tallies_take (h : c.session.Tallies turns) (e : Element) :
    (c.take e).Tallies (turns ++ counter.operation c (.receive e)) := by
  have counted := h.countReceived e
  show (c.take e).Tallies (turns ++ (c.session.counts e ++ _))
  unfold Client.take
  rw [← List.append_assoc]
  dsimp only
  generalize c.session.countReceived e = s at counted ⊢
  split
  · rw [List.append_nil]
    have leaves : (Change.answer e).LeavesCount := trivial
    exact counted.change leaves
  · unfold Client.route
    split
    · rename_i htargets
      rw [htargets, routingTurns, List.append_nil]
      exact counted.course (Session.Course.routinely (fun _ _ h => h)
        (.turnAway (fun _ h => h) s e)) fun _ _ routine => routine.uncounted.leaves
    · exact tallies_routing e _ counted false

/-- **Housekeeping** leaves the count right, and tells it if there is a transport, the session is
live, and the last report was another. -/
theorem tallies_housekeep (h : c.session.Tallies turns) (now : Nat) :
    (c.housekeep now).Tallies (turns ++ c.session.tells (c.housekeep now))
      ∧ c.session.tells (c.housekeep now)
        = if c.transport.isSome = true ∧ c.session.isManaged = true
            ∧ lastReport? turns ≠ some (ack (.ofNat (count turns)))
          then [.told true (ack (.ofNat (count turns)))] else [] := by
  unfold Client.housekeep
  dsimp only
  generalize hswept : c.session.prune.swept
    (c.session.prune.registry.sweep fun r => r.isOutdated now) = s
  obtain ⟨hproperties, ho⟩ : s.properties = c.session.properties
      ∧ s.outbox = c.session.outbox := by
    rw [← hswept, Session.swept, Session.perform_eq]
    exact ⟨rfl, rfl⟩
  have tallies : s.Tallies turns := h.of_eq hproperties
  have hlive : s.isManaged = c.session.isManaged := by
    rw [Session.isManaged, Session.managementStatus?, Session.resumption?, hproperties]
    rfl
  by_cases attached : c.transport.isSome = true
  · rw [if_pos attached]
    obtain ⟨managed, htells⟩ := tallies.manage
    obtain ⟨more, hmore⟩ := (Session.Steps.manage (P := fun _ => True) s (fun _ _ => trivial)
      trivial fun _ _ _ => trivial).exists_unsent
    rw [(Session.Hushed.of_outbox ho).tells_trans hlive hmore]
    refine ⟨managed, ?_⟩
    rw [htells, hlive]
    simp only [attached, true_and]
  · rw [if_neg attached, if_neg fun due => attached due.1, (Session.Hushed.of_outbox ho).tells,
      List.append_nil]
    exact ⟨tallies, rfl⟩

/-- **An operation leaves the count right**, with what there is to tell. -/
theorem tallies_prepare (h : c.session.Tallies turns) {op : Operation}
    (admits : counter.admits c op) :
    (c.prepare op).session.Tallies (turns ++ counter.operation c op) := by
  have quietly {s : Session} (changes : c.session.Changes Change.Uncounted s) :
      s.Tallies (turns ++ c.session.tells s) := by
    obtain ⟨tallies, hushed⟩ := h.uncounted (.of_changes changes fun _ _ h => h) fun _ _ h => h
    rw [hushed.tells, List.append_nil]
    exact tallies
  have leaving {s : Session} (changes : c.session.Changes Change.LeavesCount s) :
      s.Tallies (turns ++ []) := by
    rw [List.append_nil]
    exact h.course (.of_changes changes fun _ _ h => h) fun _ _ h => h
  cases op with
  | install batch =>
    exact leaving (.install (fun _ routine => routine.uncounted.leaves) (fun _ => trivial) c.modules
      c.session batch c.session.catalogue.within_leavesCount)
  | write element => exact leaving (.one c.session (.write element) trivial)
  | submit request => exact leaving (.one c.session (.give request) trivial)
  | send draft =>
    exact leaving ⟨_, .post c.session draft (fun _ => trivial) fun _ _ _ => trivial⟩
  | call changes =>
    rcases admits changes rfl with uncounted | reports
    · exact quietly (.foldl uncounted c.session)
    · exact h.reports reports
  | cancel key => exact quietly (.one c.session (.cancel key) ⟨trivial, trivial⟩)
  | connecting => exact quietly (.setConnector c .connecting fun _ _ => ⟨trivial, trivial⟩)
  | connected transport =>
    exact quietly (.setConnector { c with transport := some transport } .connected
      fun _ _ => ⟨trivial, trivial⟩)
  | lost =>
    exact quietly (.setConnector { c with transport := none } .disconnected
      fun _ _ => ⟨trivial, trivial⟩)
  | disconnect =>
    refine quietly (s := Client.session (if c.transport.isNone then c else _)) ?_
    split
    · exact .refl c.session
    · exact .one c.session .close ⟨trivial, trivial⟩
  | parseError message =>
    exact quietly (.one c.session (.fire (.parseError message)) ⟨trivial, trivial⟩)
  | receive e => exact tallies_take h e
  | process id e =>
    show (Client.session _).Tallies
      (turns ++ Session.handlingTurns id e c.session (Client.session _))
    unfold Client.prepare
    dsimp only
    split
    · rw [handlingTurns_self, List.append_nil]
      exact h
    · exact h.handle id _ e
  | advance duration => exact quietly (.one c.session (.pass duration) ⟨trivial, trivial⟩)
  | tick now => exact (tallies_housekeep h now).1
  | takeEvents => exact quietly (.refl c.session)
  | nextEvent =>
    refine quietly (s := c.nextEvent.2.session) ?_
    unfold Client.nextEvent
    split <;> exact .refl c.session

/-- **Handing over an item leaves the count right.** -/
theorem tallies_deliver (h : c.session.Tallies turns) (item : Outgoing) :
    (c.deliver item).session.Tallies (turns ++ counter.item c item) := by
  have delivers := c.delivers item
  generalize (c.deliver item).session = s' at delivers ⊢
  cases delivers with
  | restart =>
    have leaves : (Change.clear .stream).LeavesCount := trivial
    exact (List.append_nil turns).symm ▸ h.change leaves
  | close => exact (List.append_nil turns).symm ▸ h
  | closing => exact (List.append_nil turns).symm ▸ h.of_eq rfl
  | lost entry request state error refused =>
    show Session.Tallies _ (turns ++ if c.accepts && _ then _ else _)
    rw [refused, Bool.false_and, if_neg Bool.false_ne_true, List.append_nil]
    exact h.of_eq (congrArg (·.properties) (Session.failUnsent_eq _ request error))
  | taken entry request accepts =>
    show Session.Tallies _ (turns ++ if c.accepts && _ then _ else _)
    rw [accepts, Bool.true_and]
    have awaited : (Session.awaitReply (c.session.mark [entry] .sent) request).Tallies turns :=
      h.of_eq (congrArg (·.properties) (Session.awaitReply_eq _ request))
    exact awaited.countSent entry

/-- **The annals tell the count.** -/
theorem tallies_of_annals (annals : counter.Annals c₀ turns c) (h : c₀.session.Tallies []) :
    c.session.Tallies turns := by
  induction annals with
  | start => exact h
  | operate _ _ op admits ih => exact tallies_prepare ih admits
  | @deliver _ c item rest _ _ ih =>
    have tallies : (c.withOutbox rest).session.Tallies _ := ih.of_eq rfl
    exact tallies_deliver tallies item
  | @react _ c event rest _ _ _ ih =>
    have tallies : (c.withEvents rest).session.Tallies _ := ih.of_eq rfl
    exact tallies.react c.controller event

/-- Requests that are registered are `iq`s, whatever the owner of a client does. -/
theorem iq_foldl_operate (config : Config) (catalogue : Catalogue) (ops : List Operation) :
    ∀ r ∈ (ops.foldl operate (blank config catalogue)).session.registry.requests,
      r.key.name = "iq" := by
  refine foldl_operate_invariant
    (I := fun c => ∀ r ∈ c.session.registry.requests, r.key.name = "iq")
    (atRest_blank config catalogue) (fun _ hmem => absurd hmem List.not_mem_nil)
    (fun op _ c _ h => ?_) fun moves h => ?_
  · exact (Session.Course.entailed c op c.session.catalogue.within_leavesCount).invariant
      (I := fun s => ∀ r ∈ s.registry.requests, r.key.name = "iq") h fun s change _ h r hmem =>
        h r ((s.requests_change_sublist change).subset hmem)
  · induction moves with
    | refl => exact h
    | deliver _ _ ih =>
      exact fun r hmem =>
        (Kept.mem_requests_deliver hmem).elim (fun h => (Kept.request?_of_awaits? h).2) (ih r)
    | @react c _ event rest _ _ _ ih =>
      obtain ⟨k, -, steps⟩ :=
        Session.Steps.does_react c.controller (c.withEvents rest).session event
      exact steps.invariant (I := fun s => ∀ r ∈ s.registry.requests, r.key.name = "iq") ih
        fun s change _ h r hmem => h r ((s.requests_change_sublist change).subset hmem)

/-! ## Answers to the peer -/

theorem routingTurns_append (e : Element) (state : Session × Bool) (slots more : List Slot) :
    routingTurns e state (slots ++ more)
      = routingTurns e state slots ++ routingTurns e (slots.foldl (routeTo e) state) more := by
  induction slots generalizing state with
  | nil => rfl
  | cons slot rest ih =>
    rw [List.cons_append, routingTurns, ih, routingTurns, List.append_assoc, List.foldl_cons]

/-- **A request for a report is of no concern to other modules**: they have nothing to tell. -/
theorem routingTurns_request {e : Element} (hname : e.name = "r") {slots : List Slot}
    (others : ∀ slot ∈ slots, slot.id ≠ .streamManagement) (state : Session × Bool) :
    routingTurns e state slots = [] := by
  induction slots generalizing state with
  | nil => rfl
  | cons slot rest ih =>
    have hslot := others slot List.mem_cons_self
    rw [routingTurns, ih fun other hmem => others other (List.mem_cons_of_mem slot hmem),
      Session.handlingTurns, Session.begins_eq_false slot.id (fun hid => absurd hid hslot)
        (fun _ => by rw [hname]; decide), if_neg hslot]
    rfl

/-- The built-in ones leave the resumable session as it is. -/
theorem resumption?_process {e : Element} (hname : e.name = "r") {slot : Slot}
    (builtIn : slot.id ∈ ModuleId.builtIn) (hslot : slot.id ≠ .streamManagement) (s : Session) :
    (Modules.process slot s e).1.resumption? = s.resumption? := by
  unfold Modules.process
  cases slot.occupant with
  | none => rfl
  | some occupant =>
    dsimp only
    generalize slot.id = id at builtIn hslot ⊢
    cases id with
    | streamFeatures => exact s.properties.get?_set_of_ne .stream e (by decide)
    | streamError | bind | registration | presence | message => rfl
    | sasl2 =>
      show (s.handleSasl2 e).1.resumption? = _
      unfold Session.handleSasl2
      rw [hname]
      rfl
    | sasl =>
      show (s.handleSasl e).1.resumption? = _
      unfold Session.handleSasl
      rw [hname]
      rfl
    | streamManagement => exact absurd rfl hslot
    | roster =>
      have accepted : (s.acceptRoster e).1.resumption? = s.resumption? := by
        unfold Session.acceptRoster
        split <;> rfl
      show (s.handleRoster e).1.resumption? = _
      unfold Session.handleRoster
      split
      · rfl
      · split
        · rfl
        · split
          · exact accepted
          · rfl
        · exact accepted
    | disco =>
      show (s.handleDiscovery e).1.resumption? = _
      unfold Session.handleDiscovery
      split <;> rfl
    | extra name => exact absurd builtIn (by simp [ModuleId.builtIn])

/-- So the session is live after them if it was before. -/
theorem isManaged_routing {e : Element} (hname : e.name = "r") {slots : List Slot}
    (builtIn : ∀ slot ∈ slots, slot.id ∈ ModuleId.builtIn)
    (others : ∀ slot ∈ slots, slot.id ≠ .streamManagement) (s : Session) (replied : Bool) :
    (slots.foldl (routeTo e) (s, replied)).1.isManaged = s.isManaged := by
  induction slots generalizing s replied with
  | nil => rfl
  | cons slot rest ih =>
    have hlive : (routeTo e (s, replied) slot).1.isManaged = s.isManaged := by
      rw [Session.isManaged, Session.managementStatus?, Session.resumption?,
        properties_routeTo e s replied slot, ← Session.resumption?,
        resumption?_process hname (builtIn slot List.mem_cons_self)
          (others slot List.mem_cons_self)]
      rfl
    exact (ih (fun other hmem => builtIn other (List.mem_cons_of_mem slot hmem))
      (fun other hmem => others other (List.mem_cons_of_mem slot hmem)) _ _).trans hlive

/-- **The turn of stream management**: it reports. -/
theorem routeTo_request {e : Element} (hname : e.name = "r") {slot : Slot}
    (hid : slot.id = .streamManagement) (occupied : slot.occupant.isSome) (s : Session)
    (replied : Bool) :
    Modules.process slot s e = (s.sendAck true, none)
      ∧ routeTo e (s, replied) slot = (s.sendAck true, replied) := by
  obtain ⟨occupant, hoccupant⟩ := Option.isSome_iff_exists.1 occupied
  have hprocess : Modules.process slot s e = (s.sendAck true, none) := by
    rw [Modules.process, hoccupant, hid]
    show s.handleManagement e = _
    unfold Session.handleManagement
    rw [hname]
    rfl
  refine ⟨hprocess, ?_⟩
  unfold routeTo
  dsimp only
  rw [hprocess]

/-- **A request for a report is answered once** if the session is live, by the count there is, and
otherwise not at all. -/
theorem turns_of_request {e : Element} (asks : e.is "r" Namespace.streamManagement = true)
    (h : c.session.Tallies turns) (whole : c.modules.Whole) (leads : c.modules.Leads)
    (iq : ∀ r ∈ c.session.registry.requests, r.key.name = "iq") :
    counter.operation c (.receive e)
      = if c.session.isManaged = true then [.told true (ack (.ofNat (count turns)))] else [] := by
  have hname := Element.name_of_is asks
  have nonza := Element.not_isStanza_of_name hname (by decide)
  have concerned : ModuleId.streamManagement.concerns e = true := by
    simp only [Element.is, Bool.and_eq_true] at asks
    exact asks.2
  obtain ⟨before, slot, behind, hsplit, hid, builtIn⟩ := leads.exists_split (by decide) concerned
  have distinct : ((c.modules.targets e).map (·.id)).Nodup :=
    whole.distinct.sublist (List.filter_sublist.map _)
  rw [hsplit, List.map_append, List.map_cons, List.nodup_append, List.nodup_cons] at distinct
  obtain ⟨-, ⟨hbehind, -⟩, hbefore⟩ := distinct
  have earlier : ∀ other ∈ before, other.id ≠ .streamManagement := fun other hmem heq =>
    hbefore other.id (List.mem_map_of_mem hmem) slot.id List.mem_cons_self (heq.trans hid.symm)
  have later : ∀ other ∈ behind, other.id ≠ .streamManagement := fun other hmem heq =>
    hbehind ((hid.trans heq.symm) ▸ List.mem_map_of_mem hmem)
  have occupied : slot.occupant.isSome := by
    have hmem : slot ∈ c.modules.targets e := by simp [hsplit]
    exact whole.occupied slot (List.mem_of_mem_filter hmem)
  have hcounted : c.session.countReceived e = c.session := by
    unfold Session.countReceived
    rw [nonza, if_neg Bool.false_ne_true]
  have hcounts : c.session.counts e = [] := by
    rw [Session.counts, nonza, Bool.false_and, if_neg Bool.false_ne_true]
  -- stream management finds the session as live as it was, and the others have nothing to tell
  have hfirst := routingTurns_request hname earlier (c.session, false)
  have hlive := isManaged_routing hname builtIn earlier c.session false
  have tallies := tallies_routing e before h false
  rw [hfirst, List.append_nil] at tallies
  show c.session.counts e ++ (if ((c.session.countReceived e).registry.resolve? e).isSome then _
    else routingTurns e (c.session.countReceived e, false) (c.modules.targets e)) = _
  rw [hcounted, hcounts, Registry.resolve?_eq_none iq nonza, Option.isSome_none,
    if_neg Bool.false_ne_true, List.nil_append, hsplit, routingTurns_append, hfirst,
    List.nil_append, routingTurns, routingTurns_request hname later, List.append_nil]
  generalize before.foldl (routeTo e) (c.session, false) = state at tallies hlive ⊢
  rw [(routeTo_request hname hid occupied state.1 state.2).1, hid, Session.handlingTurns,
    Session.begins_eq_false .streamManagement (fun _ => by rw [hname]; decide)
      (fun hid => absurd hid (by decide)),
    if_neg Bool.false_ne_true, if_pos rfl, List.nil_append, tallies.tells_sendAck true, hlive]
  simp only [true_or, and_true]

/-! ## Reports in a whole operation -/

/-- Asking for the session reports nothing. -/
theorem isReport_of_mem_tells_resume {turn : CountTurn} (hmem : turn ∈ s.tells s.resume.2) :
    turn.isReport = false := by
  unfold Session.resume at hmem
  cases hinfo : s.resumeInfo? with
  | none =>
    rw [hinfo, (Session.Hushed.refl s).tells] at hmem
    exact absurd hmem List.not_mem_nil
  | some info =>
    rw [hinfo, Session.tells_write (by rfl) rfl] at hmem
    rw [List.mem_singleton.1 hmem]
    rfl

/-- **By coming to rest a client reports nothing**: the controller asks for the session at most. -/
theorem isReport_of_mem_moved {later : List CountTurn} (moved : counter.lookingOn.Annals c₀ later c)
    {turn : CountTurn} (hmem : turn ∈ later) : turn.isReport = false := by
  induction moved with
  | start => exact absurd hmem List.not_mem_nil
  | operate _ _ _ admits => exact admits.elim
  | @deliver told c item rest _ _ ih =>
    refine (List.mem_append.1 hmem).elim ih fun hitem => ?_
    change turn ∈ counter.item (c.withOutbox rest) item at hitem
    cases item with
    | element entry request =>
      change turn ∈ (if _ then [CountTurn.began] else []) at hitem
      split at hitem
      · rw [List.mem_singleton.1 hitem]
        rfl
      · exact absurd hitem List.not_mem_nil
    | restart | close => exact absurd hitem List.not_mem_nil
  | @react told c event rest _ _ _ ih =>
    refine (List.mem_append.1 hmem).elim ih fun hreaction => ?_
    change turn ∈ (c.withEvents rest).session.tells
      (c.controller.react (c.withEvents rest).session event).2 at hreaction
    by_cases hprompt : c.controller.prompt? (c.withEvents rest).session event = some .resume
    · rw [Session.react_of_prompt hprompt] at hreaction
      exact isReport_of_mem_tells_resume hreaction
    · rw [(Session.hushed_react c.controller hprompt).tells] at hreaction
      exact absurd hreaction List.not_mem_nil

/-! ## The count in a run -/

/-- **The count a client tells is true**, with this to tell of its past. -/
structure Counts (c : Client) (turns : List CountTurn) : Prop where
  /-- Whatever was told was the count there was then, and reports were told of live sessions
  only. -/
  truthful : Truthful turns
  /-- The number the session holds is the count modulo 2^32. -/
  stored : ∀ context, c.session.resumption? = some context →
    context.incoming = .ofNat (count turns)
  /-- There is something to tell of everything that may happen next. -/
  told : ∀ op, ∃ told, counter.Tale c op told (c.operate op)
  /-- A request for a report is answered by one report if the session is live. Nothing else is
  reported until the element is dealt with. -/
  answers : ∀ e : Element, e.is "r" Namespace.streamManagement = true →
    ∀ told, counter.Tale c (.receive e) told (c.receive e) → ∃ later,
      told = (if c.session.isManaged = true then [.told true (ack (.ofNat (count turns)))] else [])
          ++ later
        ∧ ∀ turn ∈ later, turn.isReport = false
  /-- Housekeeping reports if there is a transport, the session is live, and the last report was
  none or another. Nothing else is reported until it is done. -/
  ticks : ∀ now told, counter.Tale c (.tick now) told (c.tick now) → ∃ later,
      told = (if c.transport.isSome = true ∧ c.session.isManaged = true
            ∧ lastReport? turns ≠ some (ack (.ofNat (count turns)))
          then [.told true (ack (.ofNat (count turns)))] else [])
          ++ later
        ∧ ∀ turn ∈ later, turn.isReport = false

/-- **How many stanzas were received is told truly.** Of every run of a client, from its creation
on, there is something to tell of the count, and whatever was told, the client counted right. -/
theorem counts_of_created {config : Config} {catalogue : Catalogue} {batch : List Descriptor}
    (created : create config catalogue batch = .ok c₀) (genuine : ∀ d ∈ batch, d.Genuine)
    {ops : List Operation} (admits : counter.AdmitsAll c₀ ops) :
    (∃ turns, counter.Annals (blank config catalogue) turns (ops.foldl operate c₀))
      ∧ ∀ turns, counter.Annals (blank config catalogue) turns (ops.foldl operate c₀) →
        (ops.foldl operate c₀).Counts turns := by
  have hrun : ops.foldl operate c₀ = (Operation.install
      (ModuleId.builtIn.map (Descriptor.default catalogue) ++ batch) :: ops).foldl operate
        (blank config catalogue) := by
    rw [List.foldl_cons, ← eq_of_create created]
  constructor
  · rw [hrun]
    exact Scribe.Annals.exists_foldl_operate (atRest_blank config catalogue)
      ⟨nofun, eq_of_create created ▸ admits⟩
  · intro turns annals
    have start : (blank config catalogue).session.Tallies [] :=
      ⟨(Fit.blank config catalogue).clean, truthful_nil, nofun⟩
    have tallies := tallies_of_annals annals start
    have iq := iq_foldl_operate config catalogue
      (.install (ModuleId.builtIn.map (Descriptor.default catalogue) ++ batch) :: ops)
    rw [← hrun] at iq
    obtain ⟨origins, called, wellFormed⟩ := modules_wellFormed_of_create created ops
    have leads := leads_of_created created genuine ops
    have atRest : (ops.foldl operate c₀).AtRest :=
      AtRest.foldl_operate (atRest_of_create created) ops
    refine ⟨tallies.truthful, fun context hs => (tallies.stored context hs).incoming,
      Scribe.Annals.exists_tale counter atRest, ?answers, ?ticks⟩
    case answers =>
      rintro e asks _ ⟨-, later, rfl, moved⟩
      exact ⟨later, congrArg (· ++ later) (turns_of_request asks tallies wellFormed.whole leads iq),
        fun turn => isReport_of_mem_moved moved⟩
    case ticks =>
      rintro now _ ⟨-, later, rfl, moved⟩
      exact ⟨later, congrArg (· ++ later) (tallies_housekeep tallies now).2,
        fun turn => isReport_of_mem_moved moved⟩

namespace Rehearsal

/-- The server goes on with the session. -/
def resumes : Element where
  name := "resumed"
  ns := Namespace.streamManagement
  attributes := [("h", "1"), ("previd", "orchard")]

/-- The server asks for a report. -/
def asksReport : Element where
  name := "r"
  ns := Namespace.streamManagement

/-- A message comes in before the session is live, one while it is, and one after it was resumed on
another connection. -/
def listens : List Operation :=
  connects
    ++ [.receive welcomes, .receive offersManagement, .receive (binds "1"),
      .receive (Dialogue.Rehearsal.message "He jests"), .receive enables,
      .receive (Dialogue.Rehearsal.message "at scars"), .lost]
    ++ connects
    ++ [.receive welcomes, .receive offersManagement, .receive resumes,
      .receive (Dialogue.Rehearsal.message "that never felt a wound")]

/-- The client that went through it. -/
def listened : Client :=
  listens.foldl operate ((blank account []).operate
    (.install (ModuleId.builtIn.map (Descriptor.default []))))

end Rehearsal

open Rehearsal

/-- In the rehearsal the last two messages are counted and reported. -/
theorem counts_of_created_rehearsal :
    ∃ c₀, create account [] [] = .ok c₀ ∧ counter.AdmitsAll c₀ listens
      ∧ (∃ turns, counter.Annals (blank account []) turns (listens.foldl operate c₀))
      ∧ (listens.foldl operate c₀).session.isManaged = true
      ∧ ∃ told later, counter.Tale (listens.foldl operate c₀) (.receive asksReport) told
          ((listens.foldl operate c₀).receive asksReport)
        ∧ told = .told true (ack 2) :: later ∧ ∀ turn ∈ later, turn.isReport = false := by
  have bare : ∀ op ∈ listens, op.isBare = true := List.all_eq_true.1 (by decide)
  have admits : ∀ c₀, counter.AdmitsAll c₀ listens :=
    Scribe.admitsAll_of_forall fun op hop c changes heq => by
      have hbare := bare op hop
      rw [heq] at hbare
      cases hbare
  obtain ⟨⟨turns, annals⟩, counted⟩ :=
    counts_of_created create_account (List.forall_mem_nil _) (admits _)
  have counts : listened.Counts turns := counted turns annals
  have live : listened.session.isManaged = true := by decide +kernel
  have hincoming : listened.session.resumption?.map (·.incoming) = some 2 := by decide +kernel
  obtain ⟨context, hs, htwo⟩ := Option.map_eq_some_iff.1 hincoming
  obtain ⟨told, tale⟩ := counts.told (.receive asksReport)
  obtain ⟨later, htold, unreported⟩ := counts.answers asksReport rfl told tale
  rw [if_pos live, ← counts.stored context hs, htwo] at htold
  exact ⟨_, create_account, admits _, ⟨turns, annals⟩, live, told, later, tale, htold, unreported⟩

end Client

end Xmpp
