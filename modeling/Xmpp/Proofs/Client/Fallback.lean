import Xmpp.Proofs.Client.Greeting
import Xmpp.Proofs.Client.Reach

/-!
# When a session cannot be resumed

A client that logs in on a new connection first tries to resume the session it
has. If the server refuses, it fails what still waits for a reply, clears the
scope of the session and binds a resource, and from then on all should be as if
there had never been an earlier session.

It is not. The scopes are nested, so clearing the scope of the session clears those
of the connection and of the stream along with it, and with them the state of the
login and the stream features, though the connection and the stream are the same
as before. What follows reads them: whether stream management is asked for is a
question to the stream features. Here the two ways to a session are followed on the
same stream to the point where the client waits for its address, one without an
earlier session (`LoggedIn.awaitsAddress`), the other by way of a refusal
(`Resuming.refused`).
-/

namespace Xmpp

open Delivery Resumption

/-! ## Properties that live no longer than a scope -/

namespace Properties

/-- Whether a property lives no longer than a scope, if it is there. -/
def Within (p : Properties) (key : String) (scope : Scope) : Prop :=
  ∀ entry ∈ p.entries, entry.key = key → entry.scope ≤ scope

variable {p : Properties} {key : String} {scope : Scope} {α : Type} [Storable α]

theorem within_set (p : Properties) (scope : Scope) (key : String) (value : α) :
    (p.set scope key value).Within key scope := by
  intro entry hmem hkey
  rcases List.mem_cons.1 hmem with rfl | hmem
  · exact Nat.le_refl _
  · have := (List.mem_filter.1 hmem).2
    simp [hkey] at this

theorem Within.erase (h : p.Within key scope) (other : String) :
    (p.erase other).Within key scope :=
  fun entry hmem => h entry (List.mem_filter.1 hmem).1

theorem Within.set (h : p.Within key scope) (other : Scope) {name : String} (value : α)
    (hne : name ≠ key) : (p.set other name value).Within key scope := by
  intro entry hmem hkey
  rcases List.mem_cons.1 hmem with rfl | hmem
  · exact absurd hkey hne
  · exact h.erase name entry hmem hkey

theorem Within.clear (h : p.Within key scope) (other : Scope) :
    (p.clear other).Within key scope :=
  fun entry hmem => h entry (List.mem_filter.1 hmem).1

theorem Within.modify (h : p.Within key scope) (name : String) (f : α → α) :
    (p.modify name f).Within key scope := by
  intro entry hmem hkey
  obtain ⟨old, hold, rfl⟩ := List.mem_map.1 hmem
  have hscope : (old.revise name f).scope = old.scope := by
    unfold PropertyEntry.revise
    split
    · split <;> rfl
    · rfl
  rw [key_revise] at hkey
  rw [hscope]
  exact h old hold hkey

/-- Clearing a scope forgets the properties that live no longer. -/
theorem Within.get?_clear (h : p.Within key scope) {wider : Scope} (hle : scope ≤ wider) :
    (p.clear wider).get? (α := α) key = none := by
  have hnone : (p.clear wider).find? key = none := by
    refine List.find?_eq_none.2 fun entry hmem hkey => ?_
    obtain ⟨hmem, hkept⟩ := List.mem_filter.1 hmem
    have hscope : entry.scope ≤ wider := Nat.le_trans (h entry hmem (by simpa using hkey)) hle
    simp [hscope] at hkept
  unfold get?
  rw [hnone]
  rfl

/-- Clearing a narrower scope keeps a property that was set. -/
theorem get?_clear_set (p : Properties) {narrower : Scope} (key : String) (value : α)
    (h : ¬ scope ≤ narrower) :
    ((p.set scope key value).clear narrower).get? key = some value := by
  simp [get?, find?, Properties.clear, Properties.set, h, Storable.ofProperty?_toProperty]

/-- Nothing is found of what is not there, whatever is cleared. -/
theorem contains_clear (h : p.contains key = false) (scope : Scope) :
    (p.clear scope).contains key = false := by
  unfold contains find? at *
  rw [Option.isSome_eq_false_iff, Option.isNone_iff_eq_none, List.find?_eq_none] at *
  exact fun entry hmem => h entry (List.mem_filter.1 hmem).1

theorem contains_set_of_ne {name : String} {value : α} (hne : name ≠ key)
    (h : p.contains key = false) : (p.set scope name value).contains key = false := by
  unfold contains find? at *
  rw [Option.isSome_eq_false_iff, Option.isNone_iff_eq_none, List.find?_eq_none] at *
  intro entry hmem
  rcases List.mem_cons.1 hmem with rfl | hmem
  · simpa using hne
  · exact h entry (List.mem_filter.1 hmem).1

theorem contains_erase (p : Properties) (key : String) :
    (p.erase key).contains key = false := by
  unfold contains find?
  rw [Option.isSome_eq_false_iff, Option.isNone_iff_eq_none, List.find?_eq_none]
  intro entry hmem
  have := (List.mem_filter.1 hmem).2
  simpa using this

theorem get?_eq_none (h : p.contains key = false) : p.get? (α := α) key = none := by
  unfold contains at h
  rw [Option.isSome_eq_false_iff, Option.isNone_iff_eq_none] at h
  unfold get?
  rw [h]
  rfl

/-- The features of a stream say nothing about the login. -/
theorem authState_set_features (p : Properties) (features : Element) :
    (p.set .stream featuresKey features).authState = p.authState := by
  unfold authState
  rw [get?_set_of_ne _ _ _ (by decide)]

end Properties

/-! ## Completing a login -/

namespace Session

/-- Whether an element completes the login of the first generation that is under
way. -/
def completesLogin (s : Session) (e : Element) : Bool :=
  s.logins.sasl.any fun mechanism =>
    (readData? e "success").any fun data => (mechanism.accept data).toOption.isSome

/-- A login is completed by a success that the mechanism accepts. -/
theorem handleSasl_of_completesLogin {s : Session} {e : Element} (h : s.completesLogin e = true) :
    e.isStanza = false ∧ s.handleSasl e =
      (({ s with logins := { s.logins with sasl := none } }.setAuthState
        .succeeded).restart.fire (.authSucceeded true false), none) := by
  obtain ⟨mechanism, hmechanism, haccepts⟩ := (Option.any_eq_true _ _).1 h
  obtain ⟨data, hdata, haccept⟩ := (Option.any_eq_true _ _).1 haccepts
  have hname : e.name = "success" := by
    unfold readData? at hdata
    split at hdata
    · rename_i h
      exact Element.name_of_is (Bool.and_eq_true_iff.1 (Bool.and_eq_true_iff.1 h).1).1
    · cases hdata
  constructor
  · exact Element.not_isStanza_of_name hname (by decide)
  · unfold handleSasl
    rw [hname, if_neg (by decide), if_pos (by decide), hdata]
    show (s.takeSuccess data, none) = _
    unfold takeSuccess
    rw [hmechanism]
    dsimp only
    cases hresult : mechanism.accept data with
    | error e =>
      rw [hresult] at haccept
      cases haccept
    | ok u => rfl

/-- The stanza that asks for a resource. -/
def bindRequest (s : Session) : Element :=
  (Draft.iqSet none (Binding.query s.config.jid.resource)).stanza

theorem posted_bind (s : Session) : s.Posted [s.bindRequest] s.bind.2 := by
  refine posted_send s (((Draft.iqSet none (Binding.query s.config.jid.resource)).labelled
    "bind" |>.interpret Binding.ofReply .jid).respond .bind) (.inl rfl) ?_
  show "iq" ≠ "enable"
  decide

end Session

/-- With nothing to resume, the controller binds a resource if it can. -/
theorem Controller.resumeOrBind_of_not_canResume (c : Controller) {s : Session}
    (h : s.canResume = false) :
    ∃ elements s', s.Posted elements s' ∧ c.resumeOrBind s = (c, s') := by
  unfold Controller.resumeOrBind
  rw [if_neg (by rw [h]; decide)]
  split
  · exact ⟨_, _, s.posted_bind, rfl⟩
  · exact ⟨[], s, ⟨[], (List.append_nil _).symm, rfl, by simp, by simp, rfl, rfl, rfl⟩, rfl⟩

namespace Client

/-! ## Logging in -/

/-- **A login about to succeed.** The client exchanged what the first generation of
the login protocol asks for, over a transport that takes whatever it is given; the
server accepts it, and the new stream has these features. -/
structure Login (c : Client) (success features : Element) : Prop where
  reachable : c.Reachable
  reliable : c.Reliable
  accepted : c.session.completesLogin success = true
  success : c.modules.Entrusts .sasl success
  isFeatures : features.is "features" Namespace.stream = true
  features : c.modules.Entrusts .streamFeatures features

/-- **The login succeeded**, and the stream was restarted. -/
structure LoggedIn (c c₁ : Client) : Prop where
  reachable : c₁.Reachable
  reliable : c₁.Reliable
  modules : c₁.modules = c.modules
  config : c₁.session.config = c.session.config
  auth : c₁.session.properties.authState = .succeeded
  /-- What is known about the login belongs to the connection. -/
  narrow : c₁.session.properties.Within Properties.authKey .connection
  /-- No resumable session comes from nowhere. -/
  fresh : c.session.properties.contains Properties.resumptionKey = false →
    c₁.session.properties.contains Properties.resumptionKey = false

/-- The server accepts us. -/
theorem Login.loggedIn {c : Client} {success features : Element}
    (login : c.Login success features) : c.LoggedIn (c.receive success) := by
  obtain ⟨nonza, hhandle⟩ := Session.handleSasl_of_completesLogin login.accepted
  let accepted : Session :=
    ({ c.session with logins := { c.session.logins with sasl := none } }.setAuthState
      .succeeded).restart.fire (.authSucceeded true false)
  have hreceive : c.receive success = ({ c with session := accepted } : Client).run :=
    login.reachable.receive_entrusted nonza login.success fun _ => congrArg Prod.fst hhandle
  have ho : accepted.outbox = [.restart] := by
    show c.session.outbox ++ [.restart] = _
    rw [login.reachable.atRest.1]
    rfl
  have he : accepted.events = [.authSucceeded true false] := by
    show c.session.events ++ [.authSucceeded true false] = _
    rw [login.reachable.atRest.2]
    rfl
  let restarted := (({ c with session := accepted } : Client).withOutbox []).deliver .restart
  have hidle : ∀ e ∈ restarted.session.events, e.isIdle = true := by
    rw [show restarted.session.events = _ from he]
    exact fun e hmem => List.mem_singleton.1 hmem ▸ rfl
  have hrun := run_of_isIdle (c := restarted) rfl hidle
  have hproperties : restarted.session.properties
      = (c.session.properties.set .connection Properties.authKey AuthState.succeeded).clear
        .stream := rfl
  have reachable := login.reachable.receive success
  rw [hreceive, run_deliver ho, hrun] at reachable ⊢
  refine ⟨reachable, login.reliable, rfl, rfl, ?_, ?_, fun hfresh => ?_⟩
  · show restarted.session.properties.authState = _
    unfold Properties.authState
    rw [hproperties, Properties.get?_clear_set _ _ _ (by decide)]
    rfl
  · show restarted.session.properties.Within _ _
    rw [hproperties]
    exact Properties.Within.clear (Properties.within_set _ _ _ _) _
  · show restarted.session.properties.contains _ = false
    rw [hproperties]
    exact Properties.contains_clear (Properties.contains_set_of_ne (by decide) hfresh) _

/-- Features are remembered and told to the controller. -/
theorem Reachable.take_features {c : Client} {features : Element} (h : c.Reachable)
    (isFeatures : features.is "features" Namespace.stream = true)
    (entrusted : c.modules.Entrusts .streamFeatures features) :
    c.take features
      = (c.session.setProperty .stream Properties.featuresKey features).fire .features :=
  h.take_entrusted (Element.not_isStanza_of_name (Element.name_of_is isFeatures) (by decide))
    entrusted fun _ => rfl

/-- The features of the new stream arrive, and the controller goes on with a client
that is logged in. -/
theorem Reachable.receive_features {c : Client} {features : Element} (h : c.Reachable)
    (hauth : c.session.properties.authState = .succeeded)
    (isFeatures : features.is "features" Namespace.stream = true)
    (entrusted : c.modules.Entrusts .streamFeatures features) :
    let s := c.session.setProperty .stream Properties.featuresKey features
    c.receive features =
      ({ c with
          controller := (c.controller.resumeOrBind s).1
          session := (c.controller.resumeOrBind s).2
          published := c.published ++ [.features] } : Client).run := by
  intro s
  have hreceive : c.receive features
      = ({ c with session := c.take features } : Client).run :=
    operate_eq h.atRest (.receive features)
  have hevents : (s.fire .features).events = [.features] := by
    show c.session.events ++ _ = _
    rw [h.atRest.2]
    rfl
  have hback : (({ c with session := s.fire .features } : Client).withEvents []).session = s := by
    show { s.fire .features with events := [] } = s
    rw [← h.atRest.2]
    rfl
  have hstate : s.properties.authState = .succeeded :=
    (c.session.properties.authState_set_features features).trans hauth
  rw [hreceive, h.take_features isFeatures entrusted,
    run_react (c := { c with session := s.fire .features }) h.atRest.1 hevents]
  unfold handleEvent Controller.react
  rw [hback]
  dsimp only
  rw [hstate]
  rfl

/-- What the controller does about the features of the new stream. -/
theorem LoggedIn.receive_features {c c₁ : Client} {success features : Element}
    (loggedIn : c.LoggedIn c₁) (login : c.Login success features) {controller : Controller}
    {s : Session}
    (hgoes : c₁.controller.resumeOrBind
      (c₁.session.setProperty .stream Properties.featuresKey features) = (controller, s)) :
    c₁.receive features =
      ({ c₁ with controller, session := s, published := c₁.published ++ [.features] } :
        Client).run := by
  rw [loggedIn.reachable.receive_features loggedIn.auth login.isFeatures
    (loggedIn.modules ▸ login.features), hgoes]

/-- **What was posted is written**, and without a resumable session the client waits
for an address from then on. -/
theorem Reliable.run_posted {c : Client} {s : Session} {elements : List Element}
    (h : c.Reliable) (posted : s.Posted elements c.session) (ho : s.outbox = [])
    (idle : ∀ e ∈ s.events, e.isIdle = true) (hres : s.resumption? = none) :
    c.run.AwaitsAddress ∧ c.run.session.properties.authState = s.properties.authState
      ∧ c.run.session.properties.features? = s.properties.features?
      ∧ c.run.session.config = s.config := by
  obtain ⟨items, hitems, -, silent, plain, hproperties, hconfig, hevents⟩ := posted
  have hout : c.session.outbox = items.map (fun item => .element item.1 item.2) ++ [] := by
    rw [hitems, ho, List.append_nil, List.nil_append]
  have hunmanaged : c.session.resumption? = none := by
    show c.session.properties.get? _ = none
    rw [hproperties]
    exact hres
  obtain ⟨c', hrun, reliable, setting, -, outbox, events, resumption⟩ :=
    h.run_elements items silent plain hout hunmanaged
  have hidle : ∀ e ∈ c'.session.events, e.isIdle = true := by
    rw [events, hevents]
    exact idle
  rw [hrun, run_of_isIdle outbox hidle]
  exact ⟨⟨⟨outbox, rfl⟩, reliable, resumption⟩,
    (congrArg (·.auth) setting).trans (congrArg (·.authState) hproperties),
    (congrArg (·.features) setting).trans (congrArg (·.features?) hproperties),
    (congrArg (·.config) setting).trans hconfig⟩

/-- **Without an earlier session** the client binds a resource, if the features
offer that. -/
theorem LoggedIn.awaitsAddress {c c₁ : Client} {success features : Element}
    (loggedIn : c.LoggedIn c₁) (login : c.Login success features)
    (fresh : c.session.properties.contains Properties.resumptionKey = false) :
    let c₂ := c₁.receive features
    c₂.AwaitsAddress ∧ c₂.session.properties.authState = .succeeded
      ∧ c₂.session.properties.features? = some features
      ∧ c₂.session.config = c.session.config := by
  have reachable := loggedIn.reachable
  let s := c₁.session.setProperty .stream Properties.featuresKey features
  have hnone : s.resumption? = none := by
    have hcontains : s.properties.contains Properties.resumptionKey = false :=
      Properties.contains_set_of_ne (by decide) (loggedIn.fresh fresh)
    exact Properties.get?_eq_none hcontains
  have hresume : s.canResume = false := by
    unfold Session.canResume Session.resumeInfo?
    rw [hnone]
    rfl
  have hidle : ∀ e ∈ s.events, e.isIdle = true := by
    rw [show s.events = [] from reachable.atRest.2]
    exact List.forall_mem_nil _
  obtain ⟨elements, s', posted, hgoes⟩ := c₁.controller.resumeOrBind_of_not_canResume hresume
  obtain ⟨awaits, hauth, hfeatures, hconfig⟩ := Reliable.run_posted
    (c := { c₁ with session := s', published := c₁.published ++ [.features] })
    loggedIn.reliable posted reachable.atRest.1 hidle hnone
  intro c₂
  rw [show c₂ = _ from loggedIn.receive_features login hgoes]
  exact ⟨awaits,
    hauth.trans ((c₁.session.properties.authState_set_features features).trans loggedIn.auth),
    hfeatures.trans (Properties.get?_set_self ..), hconfig.trans loggedIn.config⟩

/-! ## Asking to resume -/

/-- **A client that asked to resume its session.** What it knows about the login and
the stream belongs to the connection and the stream. -/
structure Resuming (c : Client) : Prop where
  reliable : c.Reliable
  asked : c.controller.resuming = true
  negotiated : ∃ context, c.session.resumption? = some context ∧ context.status ≠ .pending
  login : c.session.properties.Within Properties.authKey .connection
  features : c.session.properties.Within Properties.featuresKey .stream

/-- **With an earlier session** the client asks to resume it. -/
theorem LoggedIn.resuming {c c₁ : Client} {success features : Element}
    (loggedIn : c.LoggedIn c₁) (login : c.Login success features)
    (resumable : c₁.session.canResume = true) :
    let c₂ := c₁.receive features
    c₂.Resuming ∧ c₂.modules = c.modules ∧ c₂.session.config = c.session.config := by
  have reachable := loggedIn.reachable
  let s := c₁.session.setProperty .stream Properties.featuresKey features
  -- the new features do not touch the session that is to be resumed
  have hinfo : s.resumeInfo? = c₁.session.resumeInfo? := by
    show ((c₁.session.properties.set .stream Properties.featuresKey features).get?
      Properties.resumptionKey).bind _ = _
    rw [Properties.get?_set_of_ne _ _ _ (by decide)]
    rfl
  have hresume : s.canResume = true := (congrArg Option.isSome hinfo).trans resumable
  obtain ⟨⟨previd, h⟩, hsome⟩ := Option.isSome_iff_exists.1 hresume
  obtain ⟨context, hcontext, hcontextInfo⟩ := Option.bind_eq_some_iff.1 hsome
  have hpending := Context.status_ne_pending_of_resumeInfo? hcontextInfo
  have hgoes : c₁.controller.resumeOrBind s
      = ({ c₁.controller with resuming := true }, s.write (resume h previd)) := by
    unfold Controller.resumeOrBind
    rw [if_pos hresume]
    unfold Session.resume
    rw [hsome]
  let asking : Client :=
    { c₁ with
      controller := { c₁.controller with resuming := true }
      session := s.write (resume h previd)
      published := c₁.published ++ [.features] }
  have hrun : c₁.receive features = asking.run := loggedIn.receive_features login hgoes
  let entry : Entry := ⟨resume h previd, s.board.states.length⟩
  have hout : asking.session.outbox = [.element entry none] := by
    show c₁.session.outbox ++ _ = _
    rw [reachable.atRest.1]
    rfl
  have handed : (asking.withOutbox []).HandedOver entry
      ((asking.withOutbox []).deliver (.element entry none)) :=
    Reliable.deliver (c := asking.withOutbox []) loggedIn.reliable entry (by simp)
  have rest : ((asking.withOutbox []).deliver (.element entry none)).AtRest :=
    ⟨handed.outbox, handed.events.trans reachable.atRest.2⟩
  have hplain : entry.stanza.is "enable" Namespace.streamManagement = false := by
    simp [entry, Element.is, resume]
  show (c₁.receive features).Resuming ∧ (c₁.receive features).modules = _
    ∧ (c₁.receive features).session.config = _
  rw [hrun, run_deliver hout, rest.run]
  have hproperties := handed.properties hplain
  refine ⟨⟨handed.reliable, congrArg (·.controller.resuming) handed.setting, ?_, ?_, ?_⟩,
    (congrArg (·.modules) handed.setting).trans loggedIn.modules,
    (congrArg (·.config) handed.setting).trans loggedIn.config⟩
  · have hstatus : (context.recordSent entry).status = context.status := by
      unfold Context.recordSent
      split <;> rfl
    refine ⟨context.recordSent entry, ?_, hstatus ▸ hpending⟩
    rw [handed.resumption, hplain]
    show s.resumption?.map _ = _
    rw [hcontext]
    rfl
  · rw [hproperties]
    exact (loggedIn.narrow.set _ _ (by decide)).modify _ _
  · rw [hproperties]
    exact Properties.Within.modify (Properties.within_set _ _ _ _) _ _

/-! ## Being refused -/

/-- The controller gives the earlier session up: whoever waits for a reply learns
that none came, the scope of the session is cleared, and a resource is bound. -/
theorem handleEvent_managementFailed {c : Client} (asked : c.controller.resuming = true)
    (condition : Option Condition) :
    c.handleEvent (.managementFailed condition) =
      { c with
        controller := { c.controller with resuming := false }
        session := ((c.session.timeoutAll.clear .session).bind).2
        published := c.published ++ [.managementFailed condition] } := by
  unfold handleEvent Controller.react
  dsimp only
  rw [if_pos asked]

end Client

/-- **A request is quiet** if its handlers publish nothing that the controller
reacts to when no reply comes. -/
def Request.isQuiet (r : Request) : Bool :=
  ((Request.effectsOf r.expire?).filterMap Effect.event?).all Event.isIdle

namespace Session

/-- With quiet requests a timeout of all of them is quiet. -/
theorem isIdle_of_mem_timeoutAll {s : Session} (quiet : ∀ r ∈ s.registry.requests, r.isQuiet = true)
    (he : s.events = []) : ∀ e ∈ s.timeoutAll.events, e.isIdle = true := by
  intro e hmem
  unfold timeoutAll swept at hmem
  rw [perform_eq] at hmem
  change e ∈ s.events ++ _ at hmem
  rw [he, List.nil_append] at hmem
  obtain ⟨effect, hmem, hevent⟩ := List.mem_filterMap.1 hmem
  obtain ⟨result, hmem, heffect⟩ := List.mem_flatMap.1 hmem
  obtain ⟨r, hr, hexpire⟩ := List.mem_filterMap.1 hmem
  refine List.all_eq_true.1 (quiet r (List.mem_filter.1 hr).1) e
    (List.mem_filterMap.2 ⟨effect, ?_, hevent⟩)
  rw [hexpire]
  exact heffect

/-- Forgetting a session that cannot be resumed, after confirming what the peer
says to have handled. -/
theorem takeFailed_eq {s : Session} {context : Context} (hs : s.resumption? = some context)
    (negotiated : context.status ≠ .pending) (f : Failed) :
    ∃ properties board, s.takeFailed f =
        { s with
          properties, board
          events := s.events ++ [.managementFailed f.condition] }
      ∧ properties.contains Properties.resumptionKey = false
      ∧ ∀ key scope, s.properties.Within key scope → properties.Within key scope := by
  -- the session after the report that may come with the refusal
  let told : Session := f.h.elim s s.acknowledge
  have htold : told = { s with properties := told.properties, board := told.board }
      ∧ told.resumption?.isSome = true
      ∧ ∀ key scope, s.properties.Within key scope → told.properties.Within key scope := by
    cases hh : f.h with
    | none =>
      rw [show told = s by simp only [told, hh, Option.elim_none]]
      exact ⟨rfl, hs ▸ rfl, fun _ _ h => h⟩
    | some h =>
      rw [show told = s.acknowledge h by simp only [told, hh, Option.elim_some]]
      refine ⟨s.acknowledge_eq h, ?_, fun key scope hwithin => ?_⟩
      · rw [resumption?_acknowledge, hs]
        rfl
      · unfold acknowledge
        rw [hs]
        exact hwithin.modify _ _
  obtain ⟨heq, hsome, hwithin⟩ := htold
  have hreset : told.resetManagement.properties
      = told.properties.erase Properties.resumptionKey := by
    unfold resetManagement abandonResumption
    rw [resumption?_mark, if_pos hsome]
    rfl
  have htaken : s.takeFailed f = told.resetManagement.fire (.managementFailed f.condition) := by
    unfold takeFailed managementStatus?
    rw [hs]
    dsimp only [Option.map_some]
    cases hstatus : context.status with
    | pending => exact absurd hstatus negotiated
    | active => simp only [told]; cases f.h <;> rfl
    | inactive => simp only [told]; cases f.h <;> rfl
  refine ⟨told.resetManagement.properties, told.resetManagement.board, ?_, ?_, ?_⟩
  · have hfire (properties : Properties) (board : Board) :
        ({ told with properties, board } : Session).fire (.managementFailed f.condition) =
          { s with
            properties, board
            events := s.events ++ [.managementFailed f.condition] } := by
      rw [heq]
      rfl
    rw [htaken]
    exact (congrArg (Session.fire · (.managementFailed f.condition))
      told.resetManagement_eq).trans (hfire _ _)
  · rw [hreset]
    exact Properties.contains_erase ..
  · rw [hreset]
    exact fun key scope h => (hwithin key scope h).erase _

end Session

namespace Client

/-- **A session that was given up**: nothing of it, of the login and of the stream is
remembered, and nothing that is left to do matters to the next one. -/
structure GivenUp (c : Client) (s : Session) : Prop where
  outbox : s.outbox = []
  idle : ∀ e ∈ s.events, e.isIdle = true
  config : s.config = c.session.config
  resumption : s.resumption? = none
  login : s.properties.authState = .unknown
  features : s.properties.features? = none

/-- Failing the requests and clearing the scope of the session gives it up. -/
theorem givenUp_clear {c : Client} {s : Session} (outbox : s.outbox = []) (events : s.events = [])
    (config : s.config = c.session.config)
    (quiet : ∀ r ∈ s.registry.requests, r.isQuiet = true)
    (forgotten : s.properties.contains Properties.resumptionKey = false)
    (login : s.properties.Within Properties.authKey .connection)
    (features : s.properties.Within Properties.featuresKey .stream) :
    c.GivenUp (s.timeoutAll.clear .session) := by
  have hswept : s.timeoutAll =
      { s with
        registry := s.timeoutAll.registry
        events := s.timeoutAll.events
        settled := s.timeoutAll.settled
        notes := s.timeoutAll.notes } := by
    unfold Session.timeoutAll Session.swept
    rw [Session.perform_eq]
  have hcleared : (s.timeoutAll.clear .session).properties = s.properties.clear .session :=
    congrArg (·.properties.clear .session) hswept
  refine ⟨(congrArg (·.outbox) hswept).trans outbox, Session.isIdle_of_mem_timeoutAll quiet events,
    (congrArg (·.config) hswept).trans config, ?_, ?_, ?_⟩
  · show (s.timeoutAll.clear .session).properties.get? _ = none
    rw [hcleared]
    exact Properties.get?_eq_none (Properties.contains_clear forgotten _)
  · unfold Properties.authState
    rw [hcleared, login.get?_clear (by decide)]
    rfl
  · unfold Properties.features?
    rw [hcleared, features.get?_clear (by decide)]

/-- **A session that is not resumed** is given up, and a resource is bound. -/
theorem Resuming.receive_failed {c : Client} {failed : Element} (resuming : c.Resuming)
    (reachable : c.Reachable) (refused : failed.is "failed" Namespace.streamManagement = true)
    (entrusted : c.modules.Entrusts .streamManagement failed)
    (quiet : ∀ r ∈ c.session.registry.requests, r.isQuiet = true) :
    ∃ s published, c.GivenUp s ∧ c.receive failed =
      ({ c with
          controller := { c.controller with resuming := false }
          session := s.bind.2
          published } : Client).run := by
  have hname := Element.name_of_is refused
  have nonza := Element.not_isStanza_of_name hname (by decide)
  let f : Failed := .salvage failed
  have hreceive : c.receive failed
      = ({ c with session := c.session.takeFailed f } : Client).run := by
    refine reachable.receive_entrusted nonza entrusted fun tag => ?_
    show (c.session.handleManagement failed).1 = _
    unfold Session.handleManagement
    rw [hname]
    rfl
  obtain ⟨context, hcontext, negotiated⟩ := resuming.negotiated
  obtain ⟨properties, board, htaken, forgotten, hwithin⟩ :=
    Session.takeFailed_eq hcontext negotiated f
  let s : Session := { c.session with properties, board, events := [] }
  have hout : (c.session.takeFailed f).outbox = [] := by
    rw [htaken]
    exact reachable.atRest.1
  have hevents : (c.session.takeFailed f).events = [.managementFailed f.condition] := by
    rw [htaken]
    show c.session.events ++ _ = _
    rw [reachable.atRest.2]
    rfl
  have hback : ({ c with session := c.session.takeFailed f } : Client).withEvents []
      = { c with session := s } := by
    rw [htaken]
    rfl
  refine ⟨s.timeoutAll.clear .session, c.published ++ [.managementFailed f.condition],
    givenUp_clear reachable.atRest.1 rfl rfl quiet forgotten (hwithin _ _ resuming.login)
      (hwithin _ _ resuming.features), ?_⟩
  rw [hreceive, run_react hout hevents, hback,
    handleEvent_managementFailed (c := { c with session := s }) resuming.asked]

/-- **After the refusal** the client waits for an address of its own, but knows
neither that it is logged in nor what the stream offers. -/
theorem Resuming.refused {c : Client} {failed : Element} (resuming : c.Resuming)
    (reachable : c.Reachable) (refused : failed.is "failed" Namespace.streamManagement = true)
    (entrusted : c.modules.Entrusts .streamManagement failed)
    (quiet : ∀ r ∈ c.session.registry.requests, r.isQuiet = true) :
    let c₃ := c.receive failed
    c₃.AwaitsAddress ∧ c₃.session.properties.authState = .unknown
      ∧ c₃.session.properties.features? = none ∧ c₃.session.config = c.session.config := by
  obtain ⟨s, published, givenUp, hreceive⟩ :=
    resuming.receive_failed reachable refused entrusted quiet
  obtain ⟨awaits, hauth, hfeatures, hconfig⟩ := Reliable.run_posted
    (c := { c with
      controller := { c.controller with resuming := false }
      session := s.bind.2
      published })
    resuming.reliable s.posted_bind givenUp.outbox givenUp.idle givenUp.resumption
  intro c₃
  rw [show c₃ = _ from hreceive]
  exact ⟨awaits, hauth.trans givenUp.login, hfeatures.trans givenUp.features,
    hconfig.trans givenUp.config⟩

end Client

end Xmpp
