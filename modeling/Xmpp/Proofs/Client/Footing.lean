import Xmpp.Proofs.Client.Fallback

/-!
# The footing of a session

How a session stands when it starts is its *footing*: what the client knows about its
login and the stream features, the phase of the resumable session, and what was
written in reaction to the address. A client whose session could not be resumed
should end up on the footing of one that never had a session, on the same stream and
with the same address.

The two footings are worked out for all clients that can be reached
(`FallsBack.footing`, `StartsAfresh.footing`), and they are never the same
(`footings_of_refused`).
-/

namespace Xmpp

open Delivery Resumption

namespace Client

/-- **The footing of a session** at its start: what the client knows about itself and
the stream, and what it wrote, whatever the ids. -/
structure Footing where
  /-- How far the login has come. -/
  auth : AuthState
  /-- The stream features. -/
  features : Option Element
  /-- The phase of the resumable session. -/
  status : Option Status
  /-- What was written in reaction to the address. -/
  written : List Element

/-- The footing a reply puts a client on. -/
def footing (c : Client) (reply : Element) : Footing where
  auth := (c.receive reply).session.properties.authState
  features := (c.receive reply).session.properties.features?
  status := (c.receive reply).session.managementStatus?
  written := ((c.receive reply).wire.drop c.wire.length).filterMap fun
    | .element entry => some entry.stanza.anonymous
    | .restart | .close | .failed _ => none

/-- Whether a session with this address should enable stream management on a stream
with these features. -/
def wantsManagement (config : Config) (features : Element) (jid : Jid) : Bool :=
  Session.serves jid
    && (config.streamManagement && (features.child? "sm" Namespace.streamManagement).isSome)

/-- Whether two clients were configured alike in what concerns stream management. -/
def SameManagement (c d : Client) : Prop :=
  c.session.config.streamManagement = d.session.config.streamManagement
    ∧ c.session.config.resumptionWindow = d.session.config.resumptionWindow

/-- How a session opens decides its footing. -/
theorem AwaitsAddress.footing_eq {c : Client} {reply : Element} {jid : Jid}
    (awaits : c.AwaitsAddress) (binds : c.Binds reply jid) :
    c.footing reply =
      { auth := c.session.properties.authState
        features := c.session.properties.features?
        status := if c.session.asksToManage jid then some .pending else none
        written := c.session.opening jid } := by
  have opened := awaits.receive binds
  have hstatus : (c.receive reply).session.managementStatus?
      = if c.session.asksToManage jid then some .pending else none := by
    unfold Session.managementStatus?
    rw [opened.resumption]
    split <;> rfl
  unfold footing
  rw [Footing.mk.injEq]
  refine ⟨congrArg (·.auth) opened.setting, congrArg (·.features) opened.setting, hstatus, ?_⟩
  obtain ⟨entries, hwire, hopening⟩ := opened.wrote
  rw [hwire, List.drop_left, ← hopening, List.filterMap_map]
  exact congrFun List.filterMap_eq_map entries

/-- **A reconnect on which the session is not resumed.** The client logs in and asks
to resume its session; this is refused, whether or not the server tells how much it
has handled, and a reply binds a resource instead. -/
structure FallsBack (c : Client) (success features failed reply : Element) (jid : Jid) :
    Prop where
  login : c.Login success features
  resumable : (c.receive success).session.canResume = true
  refused : failed.is "failed" Namespace.streamManagement = true
  entrusted : c.modules.Entrusts .streamManagement failed
  quiet : ∀ r ∈ ((c.receive success).receive features).session.registry.requests,
    r.isQuiet = true
  binds : (((c.receive success).receive features).receive failed).Binds reply jid

/-- **A start without an earlier session.** The client logs in, and a reply binds a
resource. -/
structure StartsAfresh (c : Client) (success features reply : Element) (jid : Jid) :
    Prop where
  login : c.Login success features
  fresh : c.session.properties.contains Properties.resumptionKey = false
  binds : ((c.receive success).receive features).Binds reply jid

variable {c d : Client} {success success' features failed reply reply' : Element} {jid : Jid}

/-- **The footing after a refusal**: a session starts, but the client does not know
that it is logged in, nor what the stream offers, so stream management is never asked
for. -/
theorem FallsBack.footing (fallsBack : c.FallsBack success features failed reply jid) :
    (((c.receive success).receive features).receive failed).footing reply =
      { auth := .unknown
        features := none
        status := none
        written := Session.greeting jid } := by
  have loggedIn := fallsBack.login.loggedIn
  obtain ⟨resuming, hmodules, -⟩ := loggedIn.resuming fallsBack.login fallsBack.resumable
  obtain ⟨awaits, hauth, hfeatures, -⟩ := resuming.refused
    (loggedIn.reachable.receive features) fallsBack.refused (hmodules ▸ fallsBack.entrusted)
    fallsBack.quiet
  rw [awaits.footing_eq fallsBack.binds, hauth, hfeatures]
  have hasks : ((((c.receive success).receive features).receive failed).session.asksToManage jid)
      = false := by
    unfold Session.asksToManage Session.canManage Properties.feature?
    rw [hfeatures]
    simp
  unfold Session.opening
  rw [hasks, if_neg Bool.false_ne_true, if_neg Bool.false_ne_true, List.append_nil]

/-- **The footing without an earlier session.** -/
theorem StartsAfresh.footing (startsAfresh : c.StartsAfresh success features reply jid) :
    ((c.receive success).receive features).footing reply =
      { auth := .succeeded
        features := some features
        status := if wantsManagement c.session.config features jid then some .pending else none
        written := Session.greeting jid ++
          if wantsManagement c.session.config features jid then
            [enable c.session.config.resumptionWindow]
          else [] } := by
  obtain ⟨awaits, hauth, hfeatures, hconfig⟩ :=
    startsAfresh.login.loggedIn.awaitsAddress startsAfresh.login startsAfresh.fresh
  rw [awaits.footing_eq startsAfresh.binds, hauth, hfeatures]
  have hasks : ((c.receive success).receive features).session.asksToManage jid
      = wantsManagement c.session.config features jid := by
    unfold Session.asksToManage Session.canManage Properties.feature? wantsManagement
    rw [hfeatures, hconfig]
    rfl
  unfold Session.opening
  rw [hasks, hconfig]

/-- **A refusal does not lead to an ordinary session.** On the same stream with the
same address, a client whose session was not resumed and one that never had a session
know different things about the login and the stream features, always; and they differ
in what they wrote and in the phase of the resumable session exactly if stream
management is configured and offered. -/
theorem footings_of_refused (fallsBack : c.FallsBack success features failed reply jid)
    (startsAfresh : d.StartsAfresh success' features reply' jid)
    (same : c.SameManagement d) :
    let refused := (((c.receive success).receive features).receive failed).footing reply
    let afresh := ((d.receive success').receive features).footing reply'
    let wanted := wantsManagement c.session.config features jid
    refused =
        { auth := .unknown
          features := none
          status := none
          written := Session.greeting jid }
      ∧ afresh =
        { auth := .succeeded
          features := some features
          status := if wanted then some .pending else none
          written := Session.greeting jid ++
            if wanted then [enable c.session.config.resumptionWindow] else [] }
      ∧ refused.auth ≠ afresh.auth ∧ refused.features ≠ afresh.features
      ∧ (refused.status = afresh.status ↔ wanted = false)
      ∧ (refused.written = afresh.written ↔ wanted = false) := by
  intro refused afresh wanted
  have hrefused : refused = _ := fallsBack.footing
  have hafresh : afresh = _ := startsAfresh.footing
  unfold wantsManagement at hafresh
  rw [← same.1, ← same.2] at hafresh
  change afresh = Footing.mk _ _ (if wanted then _ else _) (_ ++ if wanted then _ else _) at hafresh
  refine ⟨hrefused, hafresh, ?_, ?_, ?_, ?_⟩
  · rw [hrefused, hafresh]
    show AuthState.unknown ≠ .succeeded
    decide
  · rw [hrefused, hafresh]
    show none ≠ some features
    exact Option.some_ne_none _ |>.symm
  · rw [hrefused, hafresh]
    show (none = if wanted then some Status.pending else none) ↔ _
    cases wanted <;> simp
  · rw [hrefused, hafresh]
    show (Session.greeting jid = Session.greeting jid ++ if wanted then _ else []) ↔ _
    cases wanted <;> simp

namespace Rehearsal

/-- An account with a password. -/
def account : Config where
  jid := ⟨some "juliet", "capulet.lit", some "balcony"⟩
  password := some "secret"
  userAgentId := "capulet"

/-- Features that offer to log in. -/
def offersLogin : Element where
  name := "features"
  ns := Namespace.stream
  content := Element.nodes
    [{ name := "mechanisms"
       ns := Namespace.sasl
       content := Element.nodes [.ofText "mechanism" Namespace.sasl "PLAIN"] }]

/-- The server welcomes the login. -/
def welcomes : Element where
  name := "success"
  ns := Namespace.sasl

/-- Features that offer to bind a resource and to manage the stream. -/
def offersManagement : Element where
  name := "features"
  ns := Namespace.stream
  content := Element.nodes
    [{ name := "bind", ns := Namespace.bind }, { name := "sm", ns := Namespace.streamManagement }]

/-- The server does not resume the session. -/
def refuses : Element where
  name := "failed"
  ns := Namespace.streamManagement

/-- The server binds the resource that was asked for under this id. -/
def binds (id : String) : Element where
  name := "iq"
  ns := Namespace.client
  attributes := [("type", "result"), ("id", id)]
  content := Element.nodes
    [{ name := "bind"
       ns := Namespace.bind
       content := Element.nodes [.ofText "jid" Namespace.bind "juliet@capulet.lit/balcony"] }]

/-- The server enables stream management. -/
def enables : Element where
  name := "enabled"
  ns := Namespace.streamManagement
  attributes := [("id", "orchard"), ("resume", "true")]

/-- Connecting and starting to log in. -/
def connects : List Operation :=
  [.connecting, .connected {}, .receive offersLogin]

/-- A client that logs in for the first time. -/
def newcomer : Client :=
  (Operation.install (ModuleId.builtIn.map (Descriptor.default [])) :: connects).foldl
    Client.operate (blank account [])

/-- A session that can be resumed is started, and the connection is lost. -/
def loses : List Operation :=
  [.receive welcomes, .receive offersManagement, .receive (binds "1"), .receive enables, .lost]

/-- The same client when it logs in again. -/
def returner : Client :=
  (loses ++ connects).foldl Client.operate newcomer

/-- The transports of the rehearsal take whatever they are given. -/
theorem accepts_of_mem {transport : Transport} (h : .connected transport ∈ loses ++ connects) :
    transport.Accepts := by
  simp only [loses, connects, List.cons_append, List.nil_append, List.mem_cons, reduceCtorEq,
    Operation.connected.injEq, List.not_mem_nil, or_false, false_or] at h
  rw [h]
  exact fun _ => rfl

theorem reachable_newcomer : newcomer.Reachable := by
  refine Reachable.foldl_operate ⟨_, _, _, _, .start⟩ _ fun op hop => Operation.within_sound ?_
  exact List.all_eq_true.1 (by decide) op hop

theorem reachable_returner : returner.Reachable := by
  refine reachable_newcomer.foldl_operate _ fun op hop => Operation.within_sound ?_
  exact List.all_eq_true.1 (by decide) op hop

theorem neverRefused_newcomer : newcomer.NeverRefused := by
  have start : (blank account []).NeverRefused := fun _ h => nomatch h
  refine start.foldl_operate (atRest_blank _ _) _ fun transport hmem => ?_
  rcases List.mem_cons.1 hmem with h | h
  · cases h
  · exact accepts_of_mem (List.mem_append_right _ h)

theorem neverRefused_returner : returner.NeverRefused :=
  neverRefused_newcomer.foldl_operate reachable_newcomer.atRest _ fun _ => accepts_of_mem

/-- The address the server binds. -/
def address : Jid :=
  account.jid

theorem startsAfresh_newcomer :
    newcomer.StartsAfresh welcomes offersManagement (binds "1") address where
  login :=
    { reachable := reachable_newcomer
      reliable := neverRefused_newcomer.reliable (by decide +kernel)
      accepted := by decide +kernel
      success := by unfold Modules.Entrusts; decide +kernel
      isFeatures := by decide
      features := by unfold Modules.Entrusts; decide +kernel }
  fresh := by decide +kernel
  binds := by unfold Client.Binds; decide +kernel

theorem fallsBack_returner :
    returner.FallsBack welcomes offersManagement refuses (binds "6") address where
  login :=
    { reachable := reachable_returner
      reliable := neverRefused_returner.reliable (by decide +kernel)
      accepted := by decide +kernel
      success := by unfold Modules.Entrusts; decide +kernel
      isFeatures := by decide
      features := by unfold Modules.Entrusts; decide +kernel }
  resumable := by decide +kernel
  refused := by decide
  entrusted := by unfold Modules.Entrusts; decide +kernel
  quiet := by decide +kernel
  binds := by unfold Client.Binds; decide +kernel

theorem sameManagement : returner.SameManagement newcomer := by
  unfold Client.SameManagement
  decide +kernel

end Rehearsal

open Rehearsal in
/-- In the rehearsal stream management is wanted, and only the newcomer asks for
it. -/
theorem footings_of_refused_rehearsal :
    returner.FallsBack welcomes offersManagement refuses (binds "6") address
      ∧ newcomer.StartsAfresh welcomes offersManagement (binds "1") address
      ∧ returner.SameManagement newcomer
      ∧ ((((returner.receive welcomes).receive offersManagement).receive refuses).footing
          (binds "6")).written
        ≠ (((newcomer.receive welcomes).receive offersManagement).footing (binds "1")).written := by
  obtain ⟨-, -, -, -, -, hwritten⟩ :=
    footings_of_refused fallsBack_returner startsAfresh_newcomer sameManagement
  refine ⟨fallsBack_returner, startsAfresh_newcomer, sameManagement, fun heq => ?_⟩
  have hwanted : wantsManagement returner.session.config offersManagement address = true := by
    decide +kernel
  exact Bool.false_ne_true ((hwritten.1 heq).symm.trans hwanted)

open Rehearsal in
/-- **The footings are not always the same.** -/
theorem not_forall_footing_eq :
    ¬ ∀ (c d : Client) (success success' features failed reply reply' : Element) (jid : Jid),
      c.FallsBack success features failed reply jid →
        d.StartsAfresh success' features reply' jid → c.SameManagement d →
          (((c.receive success).receive features).receive failed).footing reply
            = ((d.receive success').receive features).footing reply' := by
  intro h
  have heq := h _ _ _ _ _ _ _ _ _ fallsBack_returner startsAfresh_newcomer sameManagement
  rw [fallsBack_returner.footing, startsAfresh_newcomer.footing] at heq
  cases congrArg Footing.auth heq

end Client

end Xmpp
