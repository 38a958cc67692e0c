import Xmpp.Proofs.Session.Housing

/-!
# Login exchanges

A login is an exchange: it is opened by us, and a word of the server ends it. How far it
has come is remembered twice. The login of either generation holds a mechanism from the
first word on, and the properties have the state of the login on the current connection.
Nothing keeps the two together. A mechanism is given up by the outcome of its own exchange
only, while the state of the login is overwritten by whatever comes next, and forgotten
along with the connection.

So both are accounted for by the *turns* of the logins (`LoginTurn`), in their order: an
exchange was opened, it succeeded, it failed, the connection was forgotten. This file tells
for each function of the library which turns it takes (`Session.turnsOfHandling`,
`Controller.turns`), and that its turns explain what it does to the logins
(`Progress.Goes`). Nearly all of them take none; what takes turns is logging in, hearing the
server, and clearing a scope.
-/

namespace Xmpp

open Delivery Resumption

/-- **The generations of the login protocol.** -/
inductive Generation where
  /-- The login is a conversation of its own. -/
  | first
  /-- The login may do other things along with it. -/
  | second
deriving DecidableEq

/-- The mechanism the login of a generation holds. -/
def Logins.mechanism? (logins : Logins) : Generation → Option Login.Mechanism
  | .first => logins.sasl
  | .second => logins.sasl2

namespace Session

/-- Logging in by a generation. The first one has nothing to bind along with it. -/
def logIn (s : Session) (bind : Bool) : Generation → Session × Option Error
  | .first => s.login
  | .second => s.login2 bind

/-- The login of a generation hears an element. -/
def hear (s : Session) (g : Generation) (e : Element) : Session × Option Error :=
  match g with
  | .first => s.handleSasl e
  | .second => s.handleSasl2 e

end Session

/-! ## Turns -/

/-- **The turns of the logins.** -/
inductive LoginTurn where
  /-- A transport is attached, and with it another connection begins. -/
  | attached
  /-- An exchange is opened: its first word is written, and its mechanism held. The owner of
  the client may have asked for it; otherwise the controller did. -/
  | opened (g : Generation) (asked : Bool)
  /-- The server accepts us with this element, and we accept it. -/
  | succeeded (g : Generation) (e : Element)
  /-- The server accepts us by the second generation, but does not tell as whom. -/
  | abandoned (e : Element)
  /-- The exchange failed, or the server refuses us without one. -/
  | failed (g : Generation)
  /-- What belongs to the connection is forgotten. -/
  | forgotten

/-- **How far the logins have come**: who holds a mechanism, and the state of the login. -/
@[ext]
structure Progress where
  /-- Whether the login of a generation holds a mechanism. -/
  holds : Generation → Bool
  /-- The state of the login. -/
  auth : AuthState

/-- How far the logins of a session have come. -/
def Session.progress (s : Session) : Progress where
  holds g := (s.logins.mechanism? g).isSome
  auth := s.properties.authState

namespace Progress

/-- Before anything happens. -/
def start : Progress where
  holds _ := false
  auth := .unknown

/-- The login of a generation begins or ceases to hold a mechanism. -/
def hold (p : Progress) (g : Generation) (held : Bool) : Progress :=
  { p with holds := fun other => if other = g then held else p.holds other }

/-- **What a turn does.** -/
def after (p : Progress) : LoginTurn → Progress
  | .attached => p
  | .opened g _ => { p.hold g true with auth := .inProgress }
  | .succeeded g _ => { p.hold g false with auth := .succeeded }
  | .abandoned _ => p.hold .second false
  | .failed g => { p.hold g false with auth := .failed }
  | .forgotten => { p with auth := .unknown }

/-- **When a turn can be taken.** The server is heard to accept us only by a login that holds
a mechanism, and the controller opens an exchange only where nothing happened yet. -/
def Allows (p : Progress) : LoginTurn → Prop
  | .opened _ asked => asked = true ∨ p.auth = .unknown
  | .succeeded g e => p.holds g = true ∧ e.name = "success"
  | .abandoned e => p.holds .second = true ∧ e.name = "success"
  | .attached | .failed _ | .forgotten => True

/-- **Turns that explain what became of the logins**, one after another. -/
inductive Goes (p : Progress) : List LoginTurn → Progress → Prop
  /-- No turn is taken. -/
  | refl : Goes p [] p
  /-- Another turn. -/
  | turn {turns : List LoginTurn} {p' : Progress} (goes : Goes p turns p') (turn : LoginTurn)
      (allowed : p'.Allows turn) : Goes p (turns ++ [turn]) (p'.after turn)

namespace Goes

variable {p p' p'' : Progress} {turns turns' : List LoginTurn}

theorem of_eq (h : p' = p) : p.Goes [] p' :=
  h ▸ .refl

theorem one (p : Progress) (turn : LoginTurn) (allowed : p.Allows turn) :
    p.Goes [turn] (p.after turn) :=
  Goes.refl.turn turn allowed

theorem trans (first : p.Goes turns p') (second : p'.Goes turns' p'') :
    p.Goes (turns ++ turns') p'' := by
  induction second with
  | refl => exact (List.append_nil turns).symm ▸ first
  | turn _ turn allowed ih => exact List.append_assoc .. ▸ ih.turn turn allowed

end Goes

end Progress

/-- The state of the login is what it was set to. -/
theorem Properties.authState_set (p : Properties) (scope : Scope) (state : AuthState) :
    (p.set scope authKey state).authState = state := by
  unfold authState
  rw [get?_set_self]
  rfl

namespace Session

variable {s s' : Session} {e : Element}

/-! ## Functions that take no turn -/

theorem progress_congr (logins : s'.logins = s.logins)
    (auth : s'.properties.get? (α := AuthState) Properties.authKey =
      s.properties.get? Properties.authKey) : s'.progress = s.progress := by
  unfold progress Properties.authState
  rw [logins, auth]

/-- The state of the login is not the resumable session. -/
theorem progress_modifyResumption (s : Session) (f : Context → Context) :
    (s.modifyResumption f).progress = s.progress :=
  progress_congr rfl (Properties.get?_modify_of_ne _ f (by decide))

theorem progress_startResumption (s : Session) (context : Context) :
    (s.startResumption context).progress = s.progress :=
  progress_congr rfl (Properties.get?_set_of_ne _ _ context (by decide))

theorem progress_abandonResumption (s : Session) :
    s.abandonResumption.progress = s.progress := by
  unfold abandonResumption
  split
  · exact progress_congr rfl ((Properties.get?_erase ..).trans (if_neg (by decide)))
  · rfl

theorem progress_resetManagement (s : Session) : s.resetManagement.progress = s.progress :=
  progress_abandonResumption _

theorem progress_acknowledge (s : Session) (h : UInt32) :
    (s.acknowledge h).progress = s.progress := by
  unfold acknowledge
  split
  · exact progress_modifyResumption _ _
  · rfl

theorem progress_perform (s : Session) (effects : List Effect) :
    (s.perform effects).progress = s.progress := by
  rw [perform_eq]
  rfl

theorem progress_timeoutAll (s : Session) : s.timeoutAll.progress = s.progress :=
  progress_perform _ _

theorem Resolves.progress (h : s.Resolves s') : s'.progress = s.progress := by
  rw [h.eq]
  rfl

theorem progress_takeEnabled (s : Session) (enabled : Enabled) :
    (s.takeEnabled enabled).progress = s.progress := by
  unfold takeEnabled
  split
  · have managed := s.progress_modifyResumption (·.enable enabled)
    dsimp only
    split <;> exact managed
  · have managed := s.progress_startResumption (Context.start.enable enabled)
    dsimp only
    split <;> exact managed

theorem progress_takeResumed (s : Session) (resumed : Resumed) :
    (s.takeResumed resumed).1.progress = s.progress := by
  unfold takeResumed
  split
  · rfl
  · rename_i context _
    exact progress_modifyResumption (s.mark (context.confirmed resumed.h) .acked) _

theorem progress_takeFailed (s : Session) (failed : Failed) :
    (s.takeFailed failed).progress = s.progress := by
  unfold takeFailed
  dsimp only
  split
  · exact progress_abandonResumption _
  · refine (progress_resetManagement _).trans ?_
    split
    · exact progress_acknowledge _ _
    · rfl

theorem progress_sendAck (s : Session) (force : Bool) :
    (s.sendAck force).progress = s.progress := by
  unfold sendAck
  split
  · exact progress_modifyResumption s Context.recordReport
  · rfl

theorem progress_manage (s : Session) : s.manage.progress = s.progress := by
  have asked : s.requestAck.progress = s.progress := by
    unfold requestAck
    split <;> rfl
  unfold manage
  split
  · refine (progress_sendAck _ _).trans ?_
    split
    · exact asked
    · rfl
  · rfl

theorem progress_handleManagement (s : Session) (e : Element) :
    (s.handleManagement e).1.progress = s.progress := by
  unfold handleManagement
  split
  · split
    · exact progress_takeEnabled _ _
    · rfl
  · split
    · split
      · exact progress_takeResumed _ _
      · rfl
    · split
      · exact progress_takeFailed _ _
      · split
        · split
          · exact progress_acknowledge _ _
          · rfl
        · split
          · exact progress_sendAck _ _
          · rfl

theorem progress_takeFeatures (s : Session) (e : Element) :
    (s.takeFeatures e).progress = s.progress :=
  progress_congr rfl (Properties.get?_set_of_ne _ _ e (by decide))

theorem progress_handleRoster (s : Session) (e : Element) :
    (s.handleRoster e).1.progress = s.progress := by
  have accepted : (s.acceptRoster e).1.progress = s.progress := by
    unfold acceptRoster
    split <;> rfl
  unfold handleRoster
  split
  · rfl
  · split
    · rfl
    · split
      · exact accepted
      · rfl
    · exact accepted

theorem progress_handleDiscovery (s : Session) (e : Element) :
    (s.handleDiscovery e).1.progress = s.progress := by
  unfold handleDiscovery
  split <;> rfl

theorem progress_settleIn (s : Session) (jid : Jid) (inline : Bool) :
    (s.settleIn jid inline).progress = s.progress := by
  have named : (s.setProperty .session Properties.boundKey jid).progress = s.progress :=
    progress_congr rfl (Properties.get?_set_of_ne _ _ jid (by decide))
  have enabled (s : Session) : s.enableManagement.2.progress = s.progress := by
    unfold enableManagement
    split <;> rfl
  unfold settleIn
  dsimp only
  split
  · exact named
  · split
    · exact named
    · exact (enabled _).trans named

theorem progress_resumeOrBind (c : Controller) (s : Session) :
    (c.resumeOrBind s).2.progress = s.progress := by
  have resumed : s.resume.2.progress = s.progress := by
    unfold resume
    split <;> rfl
  unfold Controller.resumeOrBind
  split
  · exact resumed
  · split <;> rfl

theorem progress_forgetUnlessResumable (s : Session) :
    s.forgetUnlessResumable.progress = s.progress := by
  unfold forgetUnlessResumable
  split
  · rfl
  · exact progress_resetManagement s

theorem progress_reportLogin (result : Session × Option Error) :
    (reportLogin result).progress = result.1.progress := by
  unfold reportLogin
  split <;> rfl

end Session

/-! ## Clearing a scope -/

/-- The turn that is taken as a scope is cleared. -/
def Scope.turns (scope : Scope) : List LoginTurn :=
  if .connection ≤ scope then [.forgotten] else []

theorem Session.goes_clear {s : Session} (housed : s.properties.Housed) (scope : Scope) :
    s.progress.Goes scope.turns (s.clear scope).progress := by
  unfold Scope.turns
  split
  · rename_i wide
    have hforgotten : (s.clear scope).progress = s.progress.after .forgotten :=
      congrArg (Progress.mk _) (housed.authState_clear wide)
    rw [hforgotten]
    exact .one _ _ trivial
  · rename_i narrow
    exact .of_eq (progress_congr rfl
      (housed.get?_clear_of_not_le Properties.home?_authKey narrow))

/-! ## Logging in -/

namespace Session

variable {s : Session} {g : Generation} {e : Element}

/-- **A login that was started opens an exchange.** -/
theorem progress_logIn {bind : Bool} (asked : Bool) (started : (s.logIn bind g).2 = none) :
    (s.logIn bind g).1.progress = s.progress.after (.opened g asked) := by
  have hauth := s.properties.authState_set .connection .inProgress
  cases g with
  | first =>
    show s.login.1.progress = _
    have hstarted : s.login.2 = none := started
    unfold login at hstarted ⊢
    split at hstarted
    · cases hstarted
    · split at hstarted
      · cases hstarted
      · exact Progress.ext (funext fun g => by cases g <;> rfl) hauth
  | second =>
    show (s.login2 bind).1.progress = _
    have hstarted : (s.login2 bind).2 = none := started
    unfold login2 at hstarted ⊢
    split at hstarted
    · cases hstarted
    · split at hstarted
      · cases hstarted
      · exact Progress.ext (funext fun g => by cases g <;> rfl) hauth

/-! ## Hearing an element -/

/-- **What comes of an element a login hears**: the exchange goes on, or it ends in one way
or another. What is published tells which, unless the exchange is abandoned. -/
inductive Outcome (s : Session) (g : Generation) (e : Element) (s' : Session) : Prop
  /-- The exchange goes on, or there was none. -/
  | goesOn (events : s'.events = s.events) (progress : s'.progress = s.progress)
  /-- The server is accepted. -/
  | succeeded {restart inline : Bool} {rest : List Event} (held : s.progress.holds g = true)
      (name : e.name = "success")
      (events : s'.events = s.events ++ .authSucceeded restart inline :: rest)
      (progress : s'.progress = s.progress.after (.succeeded g e))
  /-- The server is accepted, but nobody knows as whom. -/
  | abandoned (second : g = .second) (held : s.progress.holds .second = true)
      (name : e.name = "success") (events : s'.events = s.events)
      (progress : s'.progress = s.progress.after (.abandoned e))
  /-- The login failed. -/
  | failed {error : AuthError} (events : s'.events = s.events ++ [.authFailed error])
      (progress : s'.progress = s.progress.after (.failed g))

/-- A mechanism is held. -/
theorem holds_of_eq {mechanism : Login.Mechanism} (h : s.logins.mechanism? g = some mechanism) :
    s.progress.holds g = true :=
  congrArg (·.isSome) h

/-- Going on with an exchange. -/
theorem progress_respond {logins : Logins} {element : Element}
    (h : ∀ g, (logins.mechanism? g).isSome = (s.logins.mechanism? g).isSome) :
    (({ s with logins } : Session).write element).progress = s.progress :=
  Progress.ext (funext h) rfl

/-- The login of a generation failed. -/
def fail (s : Session) (g : Generation) (error : AuthError) : Session :=
  match g with
  | .first => s.failLogin error
  | .second => s.failLogin2 error

theorem outcome_fail {s' : Session} (g : Generation) (error : AuthError)
    (events : s'.events = s.events)
    (holds : (s'.progress.hold g false).holds = (s.progress.hold g false).holds) :
    s.Outcome g e (s'.fail g error) := by
  have hauth := s'.properties.authState_set .connection .failed
  cases g <;> refine .failed (congrArg (· ++ _) events) (Progress.ext (Eq.trans ?_ holds) hauth)
  · exact funext fun g => by cases g <;> rfl
  · exact funext fun g => by cases g <;> rfl

theorem outcome_takeChallenge (s : Session) (challenge : List UInt8) :
    s.Outcome .first e (s.takeChallenge challenge) := by
  unfold takeChallenge
  split
  · exact .goesOn rfl rfl
  · rename_i mechanism hheld
    split
    · exact outcome_fail .first _ rfl rfl
    · refine .goesOn rfl (progress_respond fun g => ?_)
      cases g with
      | first => exact (congrArg Option.isSome hheld).symm
      | second => rfl

theorem outcome_takeSuccess (s : Session) (name : e.name = "success") (data : List UInt8) :
    s.Outcome .first e (s.takeSuccess data) := by
  unfold takeSuccess
  split
  · exact .goesOn rfl rfl
  · rename_i mechanism hheld
    dsimp only
    split
    · exact outcome_fail .first _ rfl (funext fun g => by cases g <;> rfl)
    · refine .succeeded (holds_of_eq hheld) name rfl (Progress.ext ?_ ?_)
      · exact funext fun g => by cases g <;> rfl
      · exact s.properties.authState_set .connection .succeeded

theorem outcome_handleSasl (s : Session) (e : Element) :
    s.Outcome .first e (s.handleSasl e).1 := by
  unfold handleSasl
  split
  · split
    · exact outcome_takeChallenge s _
    · exact .goesOn rfl rfl
  · split
    · rename_i hname
      split
      · exact outcome_takeSuccess s (by simpa using hname) _
      · exact .goesOn rfl rfl
    · split
      · split
        · exact outcome_fail .first _ rfl rfl
        · exact .goesOn rfl rfl
      · exact .goesOn rfl rfl

theorem outcome_takeChallenge2 (s : Session) (e : Element) :
    s.Outcome .second e (s.takeChallenge2 e) := by
  unfold takeChallenge2
  split
  · exact .goesOn rfl rfl
  · rename_i mechanism hheld
    split
    · exact outcome_fail .second _ rfl rfl
    · split
      · exact outcome_fail .second _ rfl rfl
      · refine .goesOn rfl (progress_respond fun g => ?_)
        cases g with
        | first => rfl
        | second => exact (congrArg Option.isSome hheld).symm

/-- What is published as a session is enabled. -/
theorem events_takeEnabled (s : Session) (enabled : Enabled) :
    ∃ rest, (s.takeEnabled enabled).events = s.events ++ rest := by
  unfold takeEnabled
  split
  · dsimp only
    split
    · exact ⟨_, rfl⟩
    · exact ⟨[], (List.append_nil _).symm⟩
  · dsimp only
    split
    · exact ⟨_, rfl⟩
    · exact ⟨[], (List.append_nil _).symm⟩

/-- The session once the second generation accepted the server. -/
def acceptServer (s : Session) (inline : Bool) : Session :=
  (({ s with logins := { s.logins with sasl2 := none, bindRequested := false }
    } : Session).setAuthState .succeeded).fire (.authSucceeded false inline)

/-- Whatever is done along with the login leaves the logins alone. -/
theorem outcome_acceptServer {s' : Session} {inline : Bool} (held : s.progress.holds .second = true)
    (name : e.name = "success")
    (events : ∃ rest, s'.events = (s.acceptServer inline).events ++ rest)
    (progress : s'.progress = (s.acceptServer inline).progress) : s.Outcome .second e s' := by
  obtain ⟨rest, events⟩ := events
  refine .succeeded held name (events.trans (List.append_assoc ..))
    (progress.trans (Progress.ext ?_ ?_))
  · exact funext fun g => by cases g <;> rfl
  · exact s.properties.authState_set .connection .succeeded

theorem outcome_takeSuccess2 (s : Session) (name : e.name = "success") :
    s.Outcome .second e (s.takeSuccess2 e).1 := by
  unfold takeSuccess2
  split
  · exact .goesOn rfl rfl
  · rename_i mechanism hheld
    have held := holds_of_eq (g := .second) hheld
    dsimp only
    split
    · exact outcome_fail .second _ rfl (funext fun g => by cases g <;> rfl)
    · split
      -- The mechanism is given up before the server says as whom it accepts us, so it is gone
      -- also where the server does not say.
      · refine .abandoned rfl held name rfl (Progress.ext ?_ rfl)
        exact funext fun g => by cases g <;> rfl
      · rename_i jid _
        let inline := s.logins.bindRequested && !jid.isBare
        split
        · split
          · exact outcome_acceptServer held name ⟨[], (List.append_nil _).symm⟩ rfl
          · rename_i enabled _
            obtain ⟨rest, hrest⟩ := events_takeEnabled (s.acceptServer inline) enabled
            refine outcome_acceptServer held name ⟨rest ++ [.bound jid true], ?_⟩
              (progress_takeEnabled (s.acceptServer inline) enabled)
            exact (congrArg (· ++ _) hrest).trans (List.append_assoc ..)
          · exact outcome_acceptServer held name ⟨[.bound jid true], rfl⟩ rfl
        · exact outcome_acceptServer held name ⟨[], (List.append_nil _).symm⟩ rfl

theorem outcome_handleSasl2 (s : Session) (e : Element) :
    s.Outcome .second e (s.handleSasl2 e).1 := by
  unfold handleSasl2
  split
  · exact outcome_takeChallenge2 s e
  · split
    · rename_i hname
      exact outcome_takeSuccess2 s (by simpa using hname)
    · split
      · exact outcome_fail .second _ rfl rfl
      · split
        · exact outcome_fail .second _ rfl rfl
        · exact .goesOn rfl rfl

/-- **The turn that is taken as a login hears an element**, judged by what is published, and
by whether a mechanism was given up without a word. -/
def turnOfHearing? (s : Session) (g : Generation) (e : Element) : Option LoginTurn :=
  let s' := (s.hear g e).1
  match s'.events.drop s.events.length with
  | .authSucceeded _ _ :: _ => some (.succeeded g e)
  | .authFailed _ :: _ => some (.failed g)
  | _ => if s.progress.holds g && !s'.progress.holds g then some (.abandoned e) else none

theorem goes_hear (s : Session) (g : Generation) (e : Element) :
    s.progress.Goes (s.turnOfHearing? g e).toList (s.hear g e).1.progress := by
  have outcome : s.Outcome g e (s.hear g e).1 := by
    cases g with
    | first => exact outcome_handleSasl s e
    | second => exact outcome_handleSasl2 s e
  unfold turnOfHearing?
  dsimp only
  cases outcome with
  | goesOn events progress =>
    rw [events, progress, List.drop_length, Bool.and_not_self]
    exact .refl
  | succeeded held name events progress =>
    rw [events, progress, List.drop_left]
    exact .one _ _ ⟨held, name⟩
  | abandoned second held name events progress =>
    subst second
    rw [events, progress, List.drop_length, held]
    exact .one _ _ ⟨held, name⟩
  | failed events progress =>
    rw [events, progress, List.drop_left]
    exact .one _ _ trivial

/-! ## Modules -/

/-- The turns that actions of a module of the application take, until one fails. -/
def turnsOfActions : List Action → List LoginTurn
  | [] => []
  | .clear scope :: rest => scope.turns ++ turnsOfActions rest
  | .fail _ :: _ => []
  | _ :: rest => turnsOfActions rest

theorem goes_actAll (housed : s.properties.Housed) (actions : List Action) :
    s.progress.Goes (turnsOfActions actions) (s.actAll actions).1.progress := by
  induction actions generalizing s with
  | nil => exact .refl
  | cons action rest ih =>
    cases action with
    | clear scope =>
      exact (goes_clear housed scope).trans (ih (s := s.clear scope) (housed.clear scope))
    | fail error => exact .refl
    | write element => exact ih (s := s.write element) housed
    | request draft => exact ih (s := s.post draft) housed
    | fire event => exact ih (s := s.fire event) housed
    | restart => exact ih (s := s.restart) housed
    | close => exact ih (s := s.close) housed

theorem properties_noteFor (s : Session) (description : Description) (line : Note) :
    (s.noteFor description line).properties = s.properties := by
  unfold noteFor
  split <;> rfl

theorem progress_noteFor (s : Session) (description : Description) (line : Note) :
    (s.noteFor description line).progress = s.progress := by
  unfold noteFor
  split <;> rfl

/-- The actions of a module of the application, which may be recorded first. -/
theorem goes_actAll_noteFor (housed : s.properties.Housed) (description : Description)
    (line : Note) (actions : List Action) :
    s.progress.Goes (turnsOfActions actions)
      ((s.noteFor description line).actAll actions).1.progress := by
  rw [← progress_noteFor s description line]
  exact goes_actAll (by rwa [properties_noteFor]) actions

/-- **The turns a module takes with an element.** -/
def turnsOfHandling (s : Session) (id : ModuleId) (e : Element) : List LoginTurn :=
  match id with
  | .sasl => (s.turnOfHearing? .first e).toList
  | .sasl2 => (s.turnOfHearing? .second e).toList
  | .extra name => turnsOfActions ((s.catalogue.describe name).handle e)
  | _ => []

/-- **Handling an element.** -/
theorem goes_handle (housed : s.properties.Housed) (id : ModuleId) (tag : Option String)
    (e : Element) :
    s.progress.Goes (s.turnsOfHandling id e) (s.handle id tag e).1.progress := by
  cases id with
  | sasl => exact goes_hear s .first e
  | sasl2 => exact goes_hear s .second e
  | extra name => exact goes_actAll_noteFor housed _ _ _
  | streamFeatures => exact .of_eq (progress_takeFeatures s e)
  | streamManagement => exact .of_eq (progress_handleManagement s e)
  | roster => exact .of_eq (progress_handleRoster s e)
  | disco => exact .of_eq (progress_handleDiscovery s e)
  | streamError => exact .refl
  | bind => exact .refl
  | registration => exact .refl
  | presence => exact .refl
  | message => exact .refl

/-! ## The controller -/

/-- The generation by which the controller logs in, if it does: the second one if there is a
choice. -/
def opening? (s : Session) : Option Generation :=
  if s.canLogin2 then some .second else if s.canLogin then some .first else none

/-- Whoever can log in by the first generation will. -/
theorem started_of_canLogin (h : s.canLogin = true) : s.login.2 = none := by
  unfold canLogin at h
  cases hfeature : s.saslFeature? with
  | none =>
    rw [hfeature] at h
    cases h
  | some feature =>
    rw [hfeature] at h
    obtain ⟨mechanism, hmechanism⟩ := Option.isSome_iff_exists.1 h
    have hchoice : Login.choose? s.config ((s.saslFeature?.map Login.offeredBy).getD []) =
        some mechanism := by
      rw [hfeature]
      exact hmechanism
    obtain ⟨registered, hregistered, -⟩ := mechanism.exists_ofName?_name
    unfold login
    rw [hchoice]
    dsimp only
    rw [hregistered]

/-- Whoever can log in by the second generation will. -/
theorem started_of_canLogin2 (bind : Bool) (h : s.canLogin2 = true) : (s.login2 bind).2 = none := by
  unfold canLogin2 at h
  cases hfeature : s.sasl2Feature? with
  | none =>
    rw [hfeature] at h
    cases h
  | some feature =>
    rw [hfeature] at h
    obtain ⟨mechanism, hmechanism⟩ := Option.isSome_iff_exists.1 h
    unfold login2
    rw [hfeature]
    dsimp only
    rw [hmechanism]

/-- **The controller logs in** by a generation the server offers, if there is one. -/
theorem goes_getIn (unknown : s.properties.authState = .unknown) (registered : Bool) :
    s.progress.Goes (s.forgetUnlessResumable.opening?.toList.map (.opened · false))
      (s.getIn registered).progress := by
  have hforget := progress_forgetUnlessResumable s
  have opens {bind : Bool} {g : Generation}
      (started : (s.forgetUnlessResumable.logIn bind g).2 = none) :
      s.progress.Goes [.opened g false]
        (reportLogin (s.forgetUnlessResumable.logIn bind g)).progress := by
    have hlogin := (progress_reportLogin _).trans (progress_logIn false started)
    rw [hforget] at hlogin
    rw [hlogin]
    exact .one _ _ (.inr unknown)
  unfold getIn opening?
  dsimp only
  split
  · rename_i hcan
    exact opens (started_of_canLogin2 _ hcan)
  · split
    · rename_i hcan
      exact @opens false .first (started_of_canLogin hcan)
    · split
      · exact .of_eq hforget
      · exact .of_eq hforget

end Session

/-- **The turns the controller takes as it reacts to an event.** -/
def Controller.turns (c : Controller) (s : Session) : Event → List LoginTurn
  | .features =>
    if s.properties.authState = .unknown then
      s.forgetUnlessResumable.opening?.toList.map (.opened · false)
    else []
  | .streamError _ _ _ | .connector _ .disconnected => [.forgotten]
  | .managementFailed _ => if c.resuming then [.forgotten] else []
  | _ => []

namespace Session

variable {s : Session}

theorem housed_timeoutAll (housed : s.properties.Housed) : s.timeoutAll.properties.Housed := by
  have hchange : (s.change (.sweep fun _ => true)).properties.Housed := housed_change housed trivial
  exact hchange

theorem goes_followConnector (housed : s.properties.Housed) (c : Controller)
    (old new : ConnectorState) :
    s.progress.Goes (c.turns s (.connector old new)) (s.followConnector old new).progress := by
  unfold followConnector
  cases new with
  | disconnecting => exact .of_eq ((progress_resetManagement _).trans (progress_timeoutAll s))
  | disconnected =>
    dsimp only
    -- Whether the session can be resumed decides how much is forgotten. The state of the login
    -- belongs to the connection, so it is forgotten either way.
    split
    · have hreset : s.timeoutAll.resetManagement.progress = s.progress :=
        (progress_resetManagement _).trans (progress_timeoutAll s)
      have hhoused : (s.timeoutAll.change .reset).properties.Housed :=
        housed_change (housed_timeoutAll housed) trivial
      rw [← hreset]
      exact goes_clear hhoused .session
    · have hhoused : (s.change .deactivate).properties.Housed := housed_change housed trivial
      rw [← progress_modifyResumption s Context.deactivate]
      exact goes_clear hhoused .connection
  | connecting => exact .refl
  | connected => exact .refl

/-- **Reacting to an event.** -/
theorem goes_react (housed : s.properties.Housed) (c : Controller) (event : Event) :
    s.progress.Goes (c.turns s event) (c.react s event).2.progress := by
  cases event with
  | features =>
    unfold Controller.react Controller.turns
    dsimp only
    cases hauth : s.properties.authState with
    | unknown => exact goes_getIn hauth _
    | succeeded => exact .of_eq (progress_resumeOrBind c s)
    | inProgress => exact .refl
    | failed => exact .refl
  | authSucceeded restart inline =>
    cases restart <;> cases inline
    · exact .of_eq (progress_resumeOrBind c s)
    · exact .refl
    · exact .refl
    · exact .refl
  | bound jid inline => exact .of_eq (progress_settleIn s jid inline)
  | managementFailed condition =>
    unfold Controller.react Controller.turns
    dsimp only
    split
    · rw [← progress_timeoutAll s]
      exact goes_clear (housed_timeoutAll housed) .session
    · exact .refl
  | streamError condition text seeOtherHost => exact goes_clear housed .connection
  | connector old new => exact goes_followConnector housed c old new
  | _ => exact .refl

end Session

end Xmpp
