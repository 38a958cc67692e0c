import Xmpp.Proofs.Client.Asking
import Xmpp.Proofs.Client.Chronicle
import Xmpp.Proofs.Client.Logins
import Xmpp.Proofs.Client.Loss
import Xmpp.Proofs.Client.Replies
import Xmpp.Proofs.Resumption.Answers

/-!
# What a login makes of what it hears

The server is to be heard in the course of an exchange, and the exchange is to end with an
outcome. Neither is quite so. A login that has no exchange ignores what it hears, but not a
refusal: that makes it fail all the same, before the login as well as long after it
(`Client.Reachable.receive_of_idle`). And nothing comes of a success of the second
generation if the server does not say in a way we understand as whom we are logged in. The
mechanism is given up then, and the login counts as being in progress ever after
(`Client.Reachable.receive_success_of_held`).

Both are about all that is published until the client is at rest again. On the way elements
are written, and a request among them may fail on the spot, which is published, too. So of
each function that is involved it is told what it publishes, now and as what it has written
is handed over (`Session.Tamely`), and no more than that is published in the end
(`Client.run_tame`).
-/

namespace Xmpp

open Delivery Resumption

/-! ## Tame reactions -/

/-- **An element that is handed over quietly**: whatever comes of it, nothing is published
on the spot but certain events. -/
def Outgoing.Tame (F : Event → Prop) : Outgoing → Prop
  | .element entry request => ∀ c : Client, ∀ event ∈ c.firedBy (.element entry request), F event
  | .restart | .close => False

/-- **A request** publishes what its handlers say of a failure, if they wait for a reply. -/
theorem Outgoing.tame_request {F : Event → Prop} (entry : Entry) {r : Request}
    (waits : r.isFireAndForget = false ∨ r.handlers = [])
    (errors : ∀ handler ∈ r.handlers, ∀ error, ∀ event ∈ handler.events (.error error), F event) :
    (Outgoing.element entry (some r)).Tame F := by
  have fails (error : RequestError) :
      ∀ event ∈ Effect.published (Request.effectsOf (r.complete? (.error error))), F event := by
    intro event hmem
    rw [Effect.published, Request.effectsOf_fail, List.filterMap_flatMap] at hmem
    obtain ⟨handler, hhandler, hmem⟩ := List.mem_flatMap.1 hmem
    rw [handler.filterMap_event?_effects] at hmem
    exact errors handler hhandler error event hmem
  have settles : Effect.published (Request.effectsOf r.markSent?) = [] := by
    unfold Request.markSent?
    split
    · rename_i hforget
      have hnone : r.handlers = [] := waits.resolve_left fun hwaits => by
        rw [hforget] at hwaits
        cases hwaits
      unfold Request.handlers at hnone
      unfold Request.complete?
      cases hp : r.pipeline with
      | none => rfl
      | some p =>
        rw [hp] at hnone
        exact p.events_run hnone _
    · rfl
  intro c event hfired
  unfold Client.firedBy at hfired
  dsimp only at hfired
  split at hfired
  · exact fails _ event hfired
  · exact fails _ event hfired
  · rw [settles] at hfired
    cases hfired

namespace Session

/-- How far the login has come, by both accounts. -/
def standing (s : Session) : Logins × AuthState :=
  (s.logins, s.properties.authState)

variable {F : Event → Prop} {s s' s'' : Session}

/-- **What becomes of a session without much ado**: certain events are published, and
elements written that publish no others, while the login stays where it is. -/
structure Tamely (F : Event → Prop) (s s' : Session) : Prop where
  /-- The events that are published. -/
  events : ∃ news, s'.events = s.events ++ news ∧ ∀ event ∈ news, F event
  /-- The elements that are written. -/
  outbox : ∃ items, s'.outbox = s.outbox ++ items ∧ ∀ item ∈ items, item.Tame F
  /-- The login. -/
  standing : s'.standing = s.standing

namespace Tamely

theorem of_eq (events : s'.events = s.events) (outbox : s'.outbox = s.outbox)
    (standing : s'.standing = s.standing) : s.Tamely F s' :=
  ⟨⟨[], events.trans (List.append_nil _).symm, List.forall_mem_nil _⟩,
    ⟨[], outbox.trans (List.append_nil _).symm, List.forall_mem_nil _⟩, standing⟩

theorem refl (s : Session) : s.Tamely F s :=
  of_eq rfl rfl rfl

theorem trans (first : s.Tamely F s') (second : s'.Tamely F s'') : s.Tamely F s'' := by
  obtain ⟨⟨news, hevents, hnews⟩, ⟨items, houtbox, hitems⟩, hstanding⟩ := first
  obtain ⟨⟨news', hevents', hnews'⟩, ⟨items', houtbox', hitems'⟩, hstanding'⟩ := second
  refine ⟨⟨news ++ news', by rw [hevents', hevents, List.append_assoc], fun event hmem => ?_⟩,
    ⟨items ++ items', by rw [houtbox', houtbox, List.append_assoc], fun item hmem => ?_⟩,
    hstanding'.trans hstanding⟩
  · exact (List.mem_append.1 hmem).elim (hnews event) (hnews' event)
  · exact (List.mem_append.1 hmem).elim (hitems item) (hitems' item)

theorem fire {event : Event} (h : F event) (s : Session) : s.Tamely F (s.fire event) :=
  ⟨⟨[event], rfl, fun _ hmem => List.mem_singleton.1 hmem ▸ h⟩,
    ⟨[], (List.append_nil _).symm, List.forall_mem_nil _⟩, rfl⟩

/-- An element without a request publishes nothing. -/
theorem write (s : Session) (element : Element) : s.Tamely F (s.write element) :=
  ⟨⟨[], (List.append_nil _).symm, List.forall_mem_nil _⟩,
    ⟨[_], rfl, fun _ hmem => List.mem_singleton.1 hmem ▸ fun _ _ h => nomatch h⟩, rfl⟩

/-- A request of the library. -/
theorem send (s : Session) (draft : Draft)
    (waits : draft.stanza.name = "iq" ∨ draft.pipeline.handlers = [])
    (errors : ∀ handler ∈ draft.pipeline.handlers, ∀ error,
      ∀ event ∈ handler.events (.error error), F event) : s.Tamely F (s.send draft).2 := by
  let made := (draft.build s.config.requestTimeout s.clock s.drawn).1
  have hname : made.key.name = draft.stanza.name := by
    show (draft.build _ _ _).1.key.name = _
    unfold Draft.build
    cases draft.id? <;> rfl
  have hwaits : made.isFireAndForget = false ∨ made.handlers = [] := by
    refine waits.imp (fun hiq => ?_) id
    rw [Request.isFireAndForget, hname, hiq]
    rfl
  exact ⟨⟨[], (List.append_nil _).symm, List.forall_mem_nil _⟩,
    ⟨[.element _ (some made)], rfl,
      fun _ hmem => List.mem_singleton.1 hmem ▸ Outgoing.tame_request _ hwaits errors⟩, rfl⟩

end Tamely

/-- Handing over an element does nothing to the login. -/
theorem standing_deliver (c : Client) (entry : Entry) (request : Option Request) :
    (c.deliver (.element entry request)).session.standing = c.session.standing := by
  have delivers := c.delivers (.element entry request)
  generalize (c.deliver (.element entry request)).session = s' at delivers
  cases delivers with
  | lost entry request state error _ =>
    rw [failUnsent_eq]
    rfl
  | taken entry request _ =>
    have hawait := (c.session.mark [entry] .sent).awaitReply_eq request
    have hlogins : (((c.session.mark [entry] .sent).awaitReply request).countSent entry).logins
        = c.session.logins := by
      rw [countSent_eq, hawait]
      rfl
    have hauth : (((c.session.mark [entry] .sent).awaitReply request).countSent
        entry).properties.authState = c.session.properties.authState := by
      unfold Properties.authState
      rw [get?_countSent _ _ (by decide), hawait]
      rfl
    unfold standing
    rw [hlogins, hauth]

end Session

namespace Client

open Session

/-- **A client that has nothing to do but tame things** publishes the events that wait, and
others that come of them, and the login stays where it is. -/
theorem run_tame {F B : Event → Prop} (known : ∀ event, F event → B event)
    (reacts : ∀ (k : Controller) (s : Session) (event : Event), B event →
      s.Tamely F (k.react s event).2)
    {c : Client} (ho : ∀ item ∈ c.session.outbox, item.Tame F)
    (he : ∀ event ∈ c.session.events, B event) :
    ∃ fired, (∀ event ∈ fired, F event)
      ∧ c.run.published = c.published ++ c.session.events ++ fired
      ∧ c.run.session.standing = c.session.standing := by
  obtain ⟨log, moves⟩ := Moves.run c
  obtain ⟨fired, shown, chronicle⟩ := Chronicle.of_moves moves
  -- along the way everything that fires is harmless, and so is whatever still waits
  have htame : ∀ {fired shown : List Event} {c' : Client}, c.Chronicle fired shown c' →
      (∀ event ∈ fired, F event) ∧ (∀ item ∈ c'.session.outbox, item.Tame F)
        ∧ (∀ event ∈ c'.session.events, B event) ∧ c'.session.standing = c.session.standing := by
    intro fired shown c' chronicle
    induction chronicle with
    | refl => exact ⟨List.forall_mem_nil _, ho, he, rfl⟩
    | @move fired shown fired' shown' c' c'' _ move ih =>
      obtain ⟨hfired, houtbox, hevents, hstanding⟩ := ih
      cases move with
      | @deliver item rest ho' =>
        have htame := houtbox item (ho' ▸ List.mem_cons_self)
        cases item with
        | restart => cases htame
        | close => cases htame
        | element entry request =>
          have hnews : ∀ event ∈ c'.firedBy (.element entry request), F event := htame c'
          refine ⟨fun event hmem => (List.mem_append.1 hmem).elim (hfired event) (hnews event),
            fun other hmem => ?_, fun event hmem => ?_,
            (standing_deliver (c'.withOutbox rest) entry request).trans hstanding⟩
          · rw [outbox_deliver] at hmem
            exact houtbox other (ho' ▸ List.mem_cons_of_mem _ hmem)
          · rw [events_deliver] at hmem
            exact (List.mem_append.1 hmem).elim (hevents event)
              fun hmem => known event (hnews event hmem)
      | @react event rest log ho' he' fires =>
        obtain ⟨⟨news, hnews, hF⟩, ⟨items, hitems, hquiet⟩, hsame⟩ :=
          reacts c'.controller (c'.withEvents rest).session event
            (hevents event (he' ▸ List.mem_cons_self))
        obtain rfl : fired' = news := List.append_cancel_left (fires.events.symm.trans hnews)
        refine ⟨fun event hmem => (List.mem_append.1 hmem).elim (hfired event) (hF event),
          fun item hmem => ?_, fun event hmem => ?_, hsame.trans hstanding⟩
        · dsimp only at hmem
          rw [hitems] at hmem
          exact (List.mem_append.1 hmem).elim (houtbox item) (hquiet item)
        · dsimp only at hmem
          rw [hnews] at hmem
          exact (List.mem_append.1 hmem).elim
            (fun hmem => hevents event (he' ▸ List.mem_cons_of_mem _ hmem))
            fun hmem => known event (hF event hmem)
  obtain ⟨hfired, -, -, hstanding⟩ := htame chronicle
  refine ⟨fired, hfired, ?_, hstanding⟩
  have hshown := chronicle.events
  rw [(atRest_run c).2, List.append_nil] at hshown
  rw [chronicle.published, ← hshown, List.append_assoc]

end Client

/-! ## What failed logins leave behind -/

/-- **The client once its login failed**, which is the end of the session. -/
def Client.failed (c : Client) (g : Generation) (error : AuthError) : Client :=
  { c with
    session := { c.session.fail g error with events := [] }
    published := c.published
      ++ [.authFailed error, .stopped ("Authentication error: " ++ error.message)] }

namespace Client

variable {c : Client} {g : Generation} {e : Element}

theorem authState_failed (c : Client) (g : Generation) (error : AuthError) :
    (c.failed g error).session.properties.authState = .failed := by
  have hauth := c.session.properties.authState_set .connection .failed
  cases g <;> exact hauth

/-- **A login that fails** ends the session. -/
theorem AtRest.run_fail (h : c.AtRest) (g : Generation) (error : AuthError) :
    ({ c with session := c.session.fail g error } : Client).run = c.failed g error := by
  let c' : Client := { c with session := c.session.fail g error }
  have hs : c'.session.outbox = [] ∧ c'.session.events = [.authFailed error] := by
    have hevents : c.session.events ++ [.authFailed error] = [.authFailed error] := by
      rw [h.2]
      rfl
    cases g <;> exact ⟨h.1, hevents⟩
  have hrun := run_of_isIdle (c := c') hs.1 fun event hmem => by
    rw [hs.2] at hmem
    rw [List.mem_singleton.1 hmem]
    rfl
  rw [hs.2] at hrun
  rw [show ({ c with session := c.session.fail g error } : Client).run = c'.run from rfl, hrun,
    List.append_assoc]
  rfl

end Client

/-! ## A login without an exchange -/

namespace Generation

/-- The module of a generation. -/
def moduleId : Generation → ModuleId
  | .first => .sasl
  | .second => .sasl2

/-- The namespace of a generation. -/
def ns : Generation → String
  | .first => Namespace.sasl
  | .second => Namespace.sasl2

/-- **The error that a refusal tells**, if an element is one. The second generation takes
tasks for refusals, too. -/
def refusal? (g : Generation) (e : Element) : Option AuthError :=
  match g with
  | .first => if e.name = "failure" then (Login.Failure.read? e).map .refused else none
  | .second =>
    if e.name = "failure" then some (.refused2 (Session.refusal e))
    else if e.name = "continue" then some (.refused2 "continue")
    else none

variable {g : Generation} {e : Element}

/-- No stanza is a refusal. -/
theorem not_isStanza_of_refusal? {error : AuthError} (h : g.refusal? e = some error) :
    e.isStanza = false := by
  have hname : e.name = "failure" ∨ e.name = "continue" := by
    by_contra hneither
    obtain ⟨hfailure, hcontinue⟩ := not_or.1 hneither
    cases g <;> simp [refusal?, hfailure, hcontinue] at h
  exact hname.elim (Element.not_isStanza_of_name · (by decide))
    (Element.not_isStanza_of_name · (by decide))

end Generation

/-- Clients with the built-in modules alone entrust the namespace of a generation to its
module. -/
theorem Modules.Fitted.entrusts {m : Modules} (h : m.Fitted) {g : Generation} {e : Element}
    (hns : e.ns = g.ns) : m.Entrusts g.moduleId e := by
  have hconcerned : ModuleId.concerned e = [g.moduleId] := by
    cases g <;>
      simp [ModuleId.concerned, ModuleId.arranged, ModuleId.concerns, ModuleId.facts,
        ModuleId.selects_stanzaWith, Criterion.selects, Element.is, hns, Generation.ns,
        Generation.moduleId, Namespace.sasl, Namespace.sasl2, Namespace.client, Namespace.stream,
        Namespace.streamManagement]
  have htargets := h.targets_eq e
  rw [hconcerned] at htargets
  obtain ⟨slot, hslot, hid⟩ := List.map_eq_singleton_iff.1 htargets
  have hmem : slot ∈ m.slots := by
    refine List.mem_of_mem_filter (p := fun slot => slot.criterion.any (·.selects e)) ?_
    show slot ∈ m.targets e
    rw [hslot]
    exact List.mem_singleton.2 rfl
  unfold Modules.Entrusts
  rw [hslot, List.map_singleton, hid, h.occupied slot hmem]

namespace Session

variable {s : Session} {g : Generation}

theorem handle_moduleId (s : Session) (g : Generation) (tag : Option String) (e : Element) :
    s.handle g.moduleId tag e = s.hear g e := by
  cases g <;> rfl

/-- **A login without an exchange ignores everything but refusals.** -/
theorem hear_of_idle (idle : s.logins.mechanism? g = none) (e : Element) :
    (s.hear g e).1 = match g.refusal? e with
      | some error => s.fail g error
      | none => s := by
  cases g with
  | first =>
    have challenged (data : List UInt8) : s.takeChallenge data = s := by
      unfold takeChallenge
      rw [show s.logins.sasl = none from idle]
    have accepted (data : List UInt8) : s.takeSuccess data = s := by
      unfold takeSuccess
      rw [show s.logins.sasl = none from idle]
    show (s.handleSasl e).1 = _
    unfold handleSasl Generation.refusal?
    by_cases hfailure : e.name = "failure"
    · simp only [hfailure]
      cases Login.Failure.read? e <;> rfl
    · simp only [beq_iff_eq, hfailure, if_false]
      split
      · cases readData? e "challenge" with
        | none => rfl
        | some data => exact challenged data
      · split
        · cases readData? e "success" with
          | none => rfl
          | some data => exact accepted data
        · rfl
  | second =>
    have challenged : s.takeChallenge2 e = s := by
      unfold takeChallenge2
      rw [show s.logins.sasl2 = none from idle]
    have accepted : (s.takeSuccess2 e).1 = s := by
      unfold takeSuccess2
      rw [show s.logins.sasl2 = none from idle]
    show (s.handleSasl2 e).1 = _
    unfold handleSasl2 Generation.refusal?
    by_cases hfailure : e.name = "failure"
    · simp only [hfailure]
      rfl
    · by_cases hcontinue : e.name = "continue"
      · simp only [hcontinue]
        rfl
      · simp only [beq_iff_eq, hfailure, hcontinue, if_false]
        split
        · exact challenged
        · split
          · exact accepted
          · rfl

/-- Counting what is received does nothing to the login. -/
theorem standing_countReceived (s : Session) (e : Element) :
    (s.countReceived e).standing = s.standing := by
  have hlogins : (s.countReceived e).logins = s.logins := by
    rw [countReceived_eq]
  have hauth : (s.countReceived e).properties.authState = s.properties.authState := by
    unfold Properties.authState
    rw [get?_countReceived _ _ (by decide)]
  exact Prod.ext hlogins hauth

end Session

namespace Client

open Session

variable {c : Client} {g : Generation} {e : Element}

/-- **A client is unmoved**: nothing is published, and the login stays where it is. -/
structure Unmoved (c c' : Client) : Prop where
  published : c'.published = c.published
  standing : c'.session.standing = c.session.standing

/-- Whoever fails is not unmoved. -/
theorem not_unmoved_failed (c : Client) (g : Generation) (error : AuthError) :
    ¬ c.Unmoved (c.failed g error) := by
  intro unmoved
  have hnone := List.append_right_eq_self.1 unmoved.published
  cases hnone

namespace Reachable

variable (h : c.Reachable)

include h

/-- What is no stanza is heard, and that is all. -/
theorem receive_nonza (nonza : e.isStanza = false) (entrusted : c.modules.Entrusts g.moduleId e) :
    c.receive e = ({ c with session := (c.session.hear g e).1 } : Client).run :=
  h.receive_entrusted nonza entrusted fun tag => congrArg Prod.fst (handle_moduleId _ g tag e)

/-- **An element that is neither an answer nor a refusal** does not move a client whose login
has no exchange. If it is a stanza, the sender may be told that it makes no sense. -/
theorem unmoved_of_idle (idle : c.session.logins.mechanism? g = none)
    (entrusted : c.modules.Entrusts g.moduleId e)
    (unasked : c.session.registry.resolve? e = none) (accepted : g.refusal? e = none) :
    c.Unmoved (c.receive e) := by
  let counted := c.session.countReceived e
  have hstanding : counted.standing = c.session.standing := c.session.standing_countReceived e
  have hcounted : counted.outbox = [] ∧ counted.events = [] := by
    unfold counted
    rw [countReceived_eq]
    exact h.atRest
  have hheard (tag : Option String) : (counted.handle g.moduleId tag e).1 = counted := by
    have hidle : counted.logins.mechanism? g = none := by
      rw [show counted.logins = c.session.logins from congrArg Prod.fst hstanding]
      exact idle
    rw [handle_moduleId, hear_of_idle hidle, accepted]
  have htaken : counted.Tamely (fun _ => False) (c.take e) := by
    rcases take_of_entrusts entrusted unasked hheard with htake | ⟨-, refusal, htake⟩
    · rw [htake]
      exact .refl counted
    · rw [htake]
      exact .write counted refusal
  -- nothing waits but perhaps the element that tells the sender
  obtain ⟨⟨news, hevents, hnews⟩, ⟨items, houtbox, hitems⟩, htaken⟩ := htaken
  obtain rfl : news = [] := List.eq_nil_iff_forall_not_mem.2 hnews
  rw [hcounted.2] at hevents
  rw [hcounted.1, List.nil_append] at houtbox
  obtain ⟨fired, hfired, hpublished, hrun⟩ := run_tame (F := fun _ => False) (B := fun _ => False)
    (fun _ => id) (fun _ _ _ => False.elim) (c := { c with session := c.take e })
    (by rw [houtbox]; exact hitems) (by rw [hevents]; exact List.forall_mem_nil _)
  obtain rfl : fired = [] := List.eq_nil_iff_forall_not_mem.2 hfired
  have hreceive : c.receive e = ({ c with session := c.take e } : Client).run :=
    operate_eq h.atRest (.receive e)
  refine ⟨?_, ?_⟩
  · rw [hreceive, hpublished, hevents]
    simp
  · rw [hreceive, hrun, htaken, hstanding]

end Reachable

/-- **An element that a login gets without an exchange.** A refusal counts all the same: the
login fails, and with it the session, whatever state that is in. Anything else leaves the
client unmoved, and what is no stanza changes nothing at all; unless it answers a request
that waits, and then it is the answer, whatever namespace it is in. -/
theorem Reachable.receive_of_idle (h : c.Reachable) (idle : c.session.logins.mechanism? g = none)
    (entrusted : c.modules.Entrusts g.moduleId e) :
    (∀ error, g.refusal? e = some error → c.receive e = c.failed g error
        ∧ (c.receive e).session.properties.authState = .failed)
      ∧ (c.session.registry.resolve? e = none →
        (c.Unmoved (c.receive e) ↔ g.refusal? e = none))
      ∧ (e.isStanza = false → g.refusal? e = none → c.receive e = c)
      ∧ ((c.session.registry.resolve? e).isSome = true → c.receive e =
        ({ c with session := (c.session.countReceived e).answer e } : Client).run) := by
  have refused {error : AuthError} (hrefusal : g.refusal? e = some error) :
      c.receive e = c.failed g error := by
    rw [h.receive_nonza (Generation.not_isStanza_of_refusal? hrefusal) entrusted,
      hear_of_idle idle, hrefusal]
    exact h.atRest.run_fail g error
  refine ⟨fun error hrefusal => ?_, fun unasked => ⟨fun unmoved => ?_, ?_⟩,
    fun nonza accepted => ?_, fun answered => ?_⟩
  · have hfailed := refused hrefusal
    exact ⟨hfailed, hfailed ▸ c.authState_failed g error⟩
  · rw [Option.eq_none_iff_forall_ne_some]
    intro error hrefusal
    rw [refused hrefusal] at unmoved
    exact c.not_unmoved_failed g error unmoved
  · exact h.unmoved_of_idle idle entrusted unasked
  · rw [h.receive_nonza nonza entrusted, hear_of_idle idle, accepted]
    exact h.atRest.run
  · have hreceive : c.receive e = ({ c with session := c.take e } : Client).run :=
      operate_eq h.atRest (.receive e)
    have htake : c.take e = (c.session.countReceived e).answer e := by
      unfold take
      dsimp only
      rw [registry_countReceived, answered]
      rfl
    rw [hreceive, htake]

namespace Rehearsal

/-- The server says that the first generation of the login failed. -/
def turnsDown : Element where
  name := "failure"
  ns := Namespace.sasl
  content := Element.nodes [{ name := "not-authorized", ns := Namespace.sasl }]

/-- The server challenges us. -/
def challenges : Element where
  name := "challenge"
  ns := Namespace.sasl

/-- The server wants something else to be done before the login succeeds. -/
def setsTask : Element where
  name := "continue"
  ns := Namespace.sasl2

/-- A reply to the request to bind a resource, in the namespace of a login. -/
def strays : Element where
  name := "iq"
  ns := Namespace.sasl
  attributes := [("type", "error"), ("id", "1")]

theorem reachable_of_all {ops : List Operation}
    (h : ops.all Operation.isBare = true) :
    (ops.foldl operate (blank account [])).Reachable := by
  refine Reachable.foldl_operate ⟨_, _, _, _, .start⟩ _ fun op hop => Operation.within_sound ?_
  exact List.all_eq_true.1 h op hop

end Rehearsal

open Rehearsal

/-- In the rehearsal nothing has been said yet. The client ignores the challenge, and takes
the refusal for its own. -/
theorem receive_of_idle_rehearsal :
    listener.Reachable ∧ listener.receive challenges = listener
      ∧ listener.receive turnsDown = listener.failed .first (.refused .notAuthorized) := by
  have reachable : listener.Reachable := reachable_of_all (by decide)
  have idle : listener.session.logins.mechanism? .first = none := by decide +kernel
  have fitted := stock_listener.fitted
  obtain ⟨-, -, hignored, -⟩ :=
    reachable.receive_of_idle (e := challenges) idle (fitted.entrusts rfl)
  obtain ⟨hrefused, -⟩ := reachable.receive_of_idle (e := turnsDown) idle (fitted.entrusts rfl)
  exact ⟨reachable, hignored rfl rfl, (hrefused _ (by rfl)).1⟩

/-- **A login that has no exchange is not deaf.** A refusal before the login makes it fail, a
task ends a session that goes well, and a reply is a reply in any namespace. -/
theorem not_forall_unmoved :
    (¬ ∀ (c : Client) (e : Element), c.Reachable → (∀ g, c.session.logins.mechanism? g = none) →
        e.ns = Namespace.sasl →
          (c.receive e).session.properties.authState = c.session.properties.authState)
      ∧ (¬ ∀ (c : Client) (e : Element), c.Reachable →
        (∀ g, c.session.logins.mechanism? g = none) → e.ns = Namespace.sasl2 →
          ∀ message, .stopped message ∉ (c.receive e).published.drop c.published.length)
      ∧ ¬ ∀ (c : Client) (e : Element), c.Reachable →
        (∀ g, c.session.logins.mechanism? g = none) → e.ns = Namespace.sasl →
          ∀ error, .bindFailed error ∉ (c.receive e).published.drop c.published.length := by
  have idle {c : Client} (first : c.session.logins.sasl = none)
      (second : c.session.logins.sasl2 = none) (g : Generation) :
      c.session.logins.mechanism? g = none := by
    cases g with
    | first => exact first
    | second => exact second
  refine ⟨fun h => ?_, fun h => ?_, fun h => ?_⟩
  · have hsame := h listener turnsDown (reachable_of_all (by decide))
      (idle (by decide +kernel) (by decide +kernel)) rfl
    exact absurd hsame (by decide +kernel)
  · refine h Life.Rehearsal.resident setsTask Life.Rehearsal.reachable_resident
      (idle (by decide +kernel) (by decide +kernel)) rfl
      "Authentication error: failure from the server: continue" ?_
    decide +kernel
  · refine h (Life.Rehearsal.applies.foldl operate (blank account [])) strays
      (reachable_of_all (by decide)) (idle (by decide +kernel) (by decide +kernel)) rfl
      (.stanza .undefinedCondition none) ?_
    decide +kernel

end Client

/-! ## A login that the server accepts -/

/-- Whether an event tells how a login ended. -/
def Event.isOutcome : Event → Bool
  | .authSucceeded _ _ | .authFailed _ => true
  | _ => false

/-- Whether an event tells what the server has done for us with a login of the second
generation. -/
def Event.isWelcome : Event → Bool
  | .authSucceeded false _ | .managementEnabled _ _ _ | .bound _ true => true
  | _ => false

/-- Whether an event tells what came of the start of a session. -/
def Event.isSequel : Event → Bool
  | .bindFailed _ | .ready | .stopped _ | .reconnect _ _ _ => true
  | _ => false

namespace Session

variable {F : Event → Prop} {s : Session}

theorem tamely_fire {event : Event} (h : event.isSequel = true) (s : Session) :
    s.Tamely (·.isSequel = true) (s.fire event) :=
  .fire (F := (·.isSequel = true)) h s

/-- Asking somebody for features publishes nothing unless there is an answer. -/
theorem tamely_requestFeatures (s : Session) (jid : Jid) :
    s.Tamely F (s.requestFeatures jid).2 := by
  refine .send s _ (.inl rfl) fun handler hmem error event hevent => ?_
  rw [List.mem_singleton.1 hmem] at hevent
  cases hevent

theorem tamely_requestRoster (s : Session) : s.Tamely F s.requestRoster.2 := by
  refine .send s _ (.inl rfl) fun handler hmem error event hevent => ?_
  rw [List.mem_singleton.1 hmem] at hevent
  cases hevent

theorem tamely_sendPresence (s : Session) : s.Tamely F s.sendPresence.2 :=
  .send s _ (.inr rfl) (List.forall_mem_nil _)

/-- Binding a resource may fail at once. -/
theorem tamely_bind (s : Session) : s.Tamely (·.isSequel = true) s.bind.2 := by
  refine .send s _ (.inl rfl) fun handler hmem error event hevent => ?_
  rw [List.mem_singleton.1 hmem] at hevent
  rw [List.mem_singleton.1 hevent]
  rfl

/-- **A session that starts with the login** is ready after the greeting. -/
theorem tamely_settleIn (s : Session) (jid : Jid) :
    s.Tamely (·.isSequel = true) (s.settleIn jid true) := by
  let named := (s.setProperty .session Properties.boundKey jid).setOwnJid (some jid)
  have hauth : named.properties.authState = s.properties.authState := by
    unfold Properties.authState
    rw [show named.properties.get? Properties.authKey = s.properties.get? Properties.authKey from
      s.properties.get?_set_of_ne .session jid (by decide)]
  have hnamed : s.Tamely (·.isSequel = true) named := .of_eq rfl rfl (Prod.ext rfl hauth)
  unfold settleIn
  dsimp only
  split
  · exact hnamed.trans (tamely_fire rfl named)
  · rename_i server _
    exact ((((hnamed.trans (tamely_requestFeatures named server)).trans
      (tamely_requestFeatures _ jid.bare)).trans (tamely_sendPresence _)).trans
        (tamely_requestRoster _)).trans (tamely_fire rfl _)

theorem tamely_resumeOrBind (k : Controller) (s : Session) :
    s.Tamely (·.isSequel = true) (k.resumeOrBind s).2 := by
  have hresume : s.Tamely (·.isSequel = true) s.resume.2 := by
    unfold resume
    split
    · exact .write s _
    · exact .refl s
  unfold Controller.resumeOrBind
  split
  · exact hresume
  · split
    · exact tamely_bind s
    · exact .refl s

/-- **What comes of a welcome, and of its sequels**, are sequels. -/
theorem tamely_react (k : Controller) (s : Session) {event : Event}
    (h : event.isWelcome = true ∨ event.isSequel = true) :
    s.Tamely (·.isSequel = true) (k.react s event).2 := by
  cases event with
  | authSucceeded restart inline =>
    cases restart <;> cases inline
    · exact tamely_resumeOrBind k s
    · exact .refl s
    · exact .refl s
    · exact .refl s
  | bound jid inline =>
    cases inline with
    | false => cases h <;> contradiction
    | true => exact tamely_settleIn s jid
  | bindFailed error => exact tamely_fire rfl s
  | managementEnabled _ _ _ | ready | stopped _ | reconnect _ _ _ => exact .refl s
  | _ => cases h <;> contradiction

/-- A session that is enabled tells so, and that is all. -/
theorem takeEnabled_tells (s : Session) (enabled : Enabled) :
    ∃ context, (s.takeEnabled enabled).events = s.events ++ [enabledEvent context]
      ∧ (s.takeEnabled enabled).outbox = s.outbox
      ∧ (s.takeEnabled enabled).standing = s.standing := by
  have hupheld : (s.upheld enabled).events = s.events ∧ (s.upheld enabled).outbox = s.outbox
      ∧ (s.upheld enabled).progress = s.progress ∧ (s.upheld enabled).logins = s.logins := by
    unfold upheld
    split
    · exact ⟨rfl, rfl, progress_modifyResumption s _, rfl⟩
    · exact ⟨rfl, rfl, progress_startResumption s _, rfl⟩
  obtain ⟨hevents, houtbox, hprogress, hlogins⟩ := hupheld
  obtain ⟨context, -, htaken⟩ := s.takeEnabled_eq enabled
  rw [htaken]
  exact ⟨context, congrArg (· ++ _) hevents, houtbox,
    Prod.ext hlogins (congrArg Progress.auth hprogress)⟩

/-- **The session is told what was bound along with the login.** What the server says of
stream management along with that is read before; if it makes no sense, nothing is told. -/
def tellBound (s : Session) (jid : Jid) : Option (Option Enabled) → Session
  | none => s.fire (.bound jid true)
  | some none => s
  | some (some enabled) => (s.takeEnabled enabled).fire (.bound jid true)

theorem tellBound_tells (s : Session) (jid : Jid) (read? : Option (Option Enabled)) :
    ∃ news, (s.tellBound jid read?).events = s.events ++ news
      ∧ (∀ event ∈ news, event.isWelcome = true ∧ event.isOutcome = false)
      ∧ (∀ other along, .bound other along ∈ news ↔
        other = jid ∧ along = true ∧ read? ≠ some none)
      ∧ (s.tellBound jid read?).outbox = s.outbox
      ∧ (s.tellBound jid read?).standing = s.standing := by
  rcases read? with _ | _ | enabled
  · refine ⟨[.bound jid true], rfl, fun event hmem => ?_, fun other along => ?_, rfl, rfl⟩
    · rw [List.mem_singleton.1 hmem]
      exact ⟨rfl, rfl⟩
    · simp
  · exact ⟨[], (List.append_nil _).symm, List.forall_mem_nil _, fun other along => by simp, rfl,
      rfl⟩
  · obtain ⟨context, henabled, houtbox, hstanding⟩ := s.takeEnabled_tells enabled
    refine ⟨[enabledEvent context, .bound jid true], ?_, fun event hmem => ?_,
      fun other along => ?_, houtbox, hstanding⟩
    · show _ ++ [_] = _
      rw [henabled, List.append_assoc]
      rfl
    · rcases List.mem_pair.1 hmem with rfl | rfl
      · exact ⟨rfl, rfl⟩
      · exact ⟨rfl, rfl⟩
    · simp [enabledEvent]

/-- Whether a resource was bound along with a login that is granted to this address. -/
def bindsAlong (s : Session) (jid : Jid) : Bool :=
  s.logins.bindRequested && !jid.isBare

/-- **If we accept the server**, and it says as whom it accepts us, the login has succeeded,
and a resource that was asked for along with it is told. -/
theorem takeSuccess2_eq {mechanism : Login.Mechanism} {e : Element} {jid : Jid}
    (held : s.logins.sasl2 = some mechanism) (accepts : judge mechanism e = .ok ())
    (named : authorized e = .ok jid) :
    (s.takeSuccess2 e).1 =
      if s.bindsAlong jid = true then
        (s.acceptServer true).tellBound jid ((enabledAlong? e).map Enabled.read?)
      else s.acceptServer false := by
  unfold takeSuccess2
  rw [held]
  dsimp only
  rw [accepts]
  dsimp only
  rw [named]
  dsimp only
  rw [← bindsAlong]
  split
  · rename_i hinline
    rw [hinline]
    rcases (enabledAlong? e).map Enabled.read? with _ | _ | enabled <;> rfl
  · rename_i hinline
    rw [Bool.eq_false_iff.2 hinline]
    rfl

/-- **What is said then**, and how the session stands. -/
theorem exists_welcome {mechanism : Login.Mechanism} {e : Element} {jid : Jid}
    (held : s.logins.sasl2 = some mechanism) (accepts : judge mechanism e = .ok ())
    (named : authorized e = .ok jid) :
    ∃ news, (s.takeSuccess2 e).1.events
        = s.events ++ .authSucceeded false (s.bindsAlong jid) :: news
      ∧ (∀ event ∈ news, event.isWelcome = true ∧ event.isOutcome = false)
      ∧ (∀ other along, .bound other along ∈ news ↔ other = jid ∧ along = true
        ∧ s.bindsAlong jid = true ∧ (enabledAlong? e).map Enabled.read? ≠ some none)
      ∧ (s.takeSuccess2 e).1.outbox = s.outbox
      ∧ (s.takeSuccess2 e).1.standing = (s.acceptServer (s.bindsAlong jid)).standing := by
  rw [takeSuccess2_eq held accepts named]
  cases s.bindsAlong jid with
  | false => exact ⟨[], rfl, List.forall_mem_nil _, fun other along => by simp, rfl, rfl⟩
  | true =>
    obtain ⟨news, hnews, htold, hbound, houtbox, hstanding⟩ :=
      (s.acceptServer true).tellBound_tells jid ((enabledAlong? e).map Enabled.read?)
    refine ⟨news, hnews.trans (List.append_assoc ..), htold, fun other along => ?_, houtbox,
      hstanding⟩
    rw [hbound]
    simp

end Session

namespace Client

open Session

variable {c : Client} {e : Element}

/-- **A client is welcomed** as this address: the login has succeeded, this is the only
outcome that is published, and a resource that was bound along with the login is told unless
what the server says of stream management along with that makes no sense. -/
structure Welcomed (c : Client) (e : Element) (jid : Jid) (c' : Client) : Prop where
  auth : c'.session.properties.authState = .succeeded
  logins : c'.session.logins = { c.session.logins with sasl2 := none, bindRequested := false }
  published : ∃ news,
    c'.published = c.published ++ .authSucceeded false (c.session.bindsAlong jid) :: news
    ∧ (∀ event ∈ news, event.isOutcome = false)
    ∧ ∀ other along, .bound other along ∈ news ↔ other = jid ∧ along = true
      ∧ c.session.bindsAlong jid = true ∧ (enabledAlong? e).map Enabled.read? ≠ some none

/-- The client comes to rest welcomed. -/
theorem AtRest.run_welcomed (h : c.AtRest) {mechanism : Login.Mechanism} {jid : Jid}
    (held : c.session.logins.sasl2 = some mechanism) (accepts : judge mechanism e = .ok ())
    (named : authorized e = .ok jid) :
    c.Welcomed e jid ({ c with session := (c.session.takeSuccess2 e).1 } : Client).run := by
  obtain ⟨told, hevents, htold, hbound, houtbox, hstanding⟩ := exists_welcome held accepts named
  rw [h.1] at houtbox
  rw [h.2, List.nil_append] at hevents
  have hwelcome : ∀ event ∈ (c.session.takeSuccess2 e).1.events,
      event.isWelcome = true ∨ event.isSequel = true := by
    rw [hevents]
    exact List.forall_mem_cons.2 ⟨.inl rfl, fun event hmem => .inl (htold event hmem).1⟩
  obtain ⟨fired, hfired, hpublished, hrun⟩ := run_tame (F := (·.isSequel = true))
    (B := fun event => event.isWelcome = true ∨ event.isSequel = true) (fun _ => .inr)
    (fun k s _ => tamely_react k s) (c := { c with session := (c.session.takeSuccess2 e).1 })
    (by rw [houtbox]; exact List.forall_mem_nil _) hwelcome
  rw [hstanding] at hrun
  -- what comes of a welcome tells neither how the login ended nor which resource was bound
  refine ⟨?_, congrArg Prod.fst hrun, told ++ fired, ?_, fun event hmem => ?_,
    fun other along => ?_⟩
  · exact (congrArg Prod.snd hrun).trans
      (c.session.properties.authState_set .connection .succeeded)
  · rw [hpublished, hevents, List.append_assoc]
    rfl
  · rcases List.mem_append.1 hmem with hmem | hmem
    · exact (htold event hmem).2
    · have hsequel := hfired event hmem
      cases event with
      | authSucceeded _ _ | authFailed _ => cases hsequel
      | _ => rfl
  · have hnone : .bound other along ∉ fired := fun hmem => nomatch hfired _ hmem
    rw [List.mem_append, or_iff_left hnone]
    exact hbound other along

/-- **What comes of a success** of the second generation, in every client whose login holds
a mechanism. The mechanism is given up in any case. If we do not accept what the server
says, the login fails. If we do, and the server says as whom we are logged in, the client is
welcomed. But if the server does not say that in a way we understand, then nothing comes of
it: no outcome is published, and the login counts as being in progress as before. -/
theorem Reachable.receive_success_of_held (h : c.Reachable) {mechanism : Login.Mechanism}
    (held : c.session.logins.sasl2 = some mechanism) (name : e.name = "success")
    (entrusted : c.modules.Entrusts .sasl2 e) :
    (c.receive e).session.logins.sasl2 = none
      ∧ match judge mechanism e, authorized e with
        | .error error, _ => c.receive e = c.failed .second error
          ∧ (c.receive e).session.properties.authState = .failed
        | .ok (), .error _ => c.receive e =
          { c with
            session := { c.session with logins := { c.session.logins with sasl2 := none } } }
        | .ok (), .ok jid => c.Welcomed e jid (c.receive e) := by
  have hheard : (c.session.hear .second e).1 = (c.session.takeSuccess2 e).1 :=
    congrArg Prod.fst (c.session.handleSasl2_of_success name)
  rw [h.receive_nonza (g := .second) (Element.not_isStanza_of_name name (by decide)) entrusted,
    hheard]
  cases hjudge : judge mechanism e with
  | error error =>
    have hfail : (c.session.takeSuccess2 e).1 = c.session.fail .second error := by
      unfold takeSuccess2
      rw [held]
      dsimp only
      rw [hjudge]
      rfl
    rw [hfail, h.atRest.run_fail]
    exact ⟨rfl, rfl, c.authState_failed .second error⟩
  | ok accepted =>
    cases hnamed : authorized e with
    | error error =>
      have habandon : (c.session.takeSuccess2 e).1 =
          { c.session with logins := { c.session.logins with sasl2 := none } } := by
        unfold takeSuccess2
        rw [held]
        dsimp only
        rw [hjudge]
        dsimp only
        rw [hnamed]
      have hrest : ({ c with session :=
          { c.session with logins := { c.session.logins with sasl2 := none } } } : Client).AtRest :=
        h.atRest
      rw [habandon, hrest.run]
      exact ⟨rfl, rfl⟩
    | ok jid =>
      have welcomed := h.atRest.run_welcomed held hjudge hnamed
      exact ⟨congrArg (·.sasl2) welcomed.logins, welcomed⟩

namespace Rehearsal

/-- Logging in by the second generation, and having a resource bound along with that. -/
def appliesAlong : List Operation :=
  Life.Rehearsal.calls ++ [.receive Life.Rehearsal.offersAlong]

/-- A client that waits for the answer. -/
def candidate : Client :=
  appliesAlong.foldl operate (blank account [])

theorem reachable_candidate : candidate.Reachable :=
  reachable_of_all (by decide)

/-- The mechanism of the candidate. -/
theorem held_candidate : candidate.session.logins.sasl2 = some (.plain "juliet" "secret") := by
  decide +kernel

/-- The server accepts the login, and does not say as whom. -/
def nods : Element where
  name := "success"
  ns := Namespace.sasl2

/-- The server welcomes the login, but what it says of stream management makes no sense. -/
def mumbles : Element where
  name := "success"
  ns := Namespace.sasl2
  content := Element.nodes
    [.ofText "authorization-identifier" Namespace.sasl2 "juliet@capulet.lit/balcony",
      { name := "bound"
        ns := Namespace.bind2
        content := Element.nodes
          [{ name := "enabled"
             ns := Namespace.streamManagement
             attributes := [("resume", "perhaps")] }] }]

end Rehearsal

open Rehearsal

/-- In the rehearsal the candidate is welcomed with the resource that was bound along. -/
theorem receive_success_of_held_rehearsal :
    candidate.Reachable ∧ candidate.session.bindsAlong address = true
      ∧ candidate.Welcomed Life.Rehearsal.welcomesAlong address
        (candidate.receive Life.Rehearsal.welcomesAlong) := by
  obtain ⟨-, hmatch⟩ := reachable_candidate.receive_success_of_held held_candidate
    (e := Life.Rehearsal.welcomesAlong) rfl (by unfold Modules.Entrusts; decide +kernel)
  have hnamed : authorized Life.Rehearsal.welcomesAlong = .ok address := by rfl
  have haccepts : judge (.plain "juliet" "secret") Life.Rehearsal.welcomesAlong = .ok () := by rfl
  rw [haccepts, hnamed] at hmatch
  exact ⟨reachable_candidate, by decide +kernel, hmatch⟩

/-- **A success is not always the end of the login.** If the server does not say as whom we
are logged in, no outcome is published. And if it does, and says that a resource was bound
along with the login, that resource need not be told. -/
theorem not_forall_concluded :
    (¬ ∀ (c : Client) (e : Element), c.Reachable → c.session.logins.sasl2.isSome = true →
        e.name = "success" → e.ns = Namespace.sasl2 →
          ∃ event ∈ (c.receive e).published.drop c.published.length, event.isOutcome = true)
      ∧ ¬ ∀ (c : Client) (e : Element), c.Reachable → c.session.logins.sasl2.isSome = true →
        e.name = "success" → e.ns = Namespace.sasl2 →
          .authSucceeded false true ∈ (c.receive e).published.drop c.published.length →
            ∃ jid, .bound jid true ∈ (c.receive e).published.drop c.published.length := by
  refine ⟨fun h => ?_, fun h => ?_⟩
  · obtain ⟨event, hmem, houtcome⟩ :=
      h candidate nods reachable_candidate (by decide +kernel) rfl rfl
    have hnone : (candidate.receive nods).published.drop candidate.published.length = [] := by
      decide +kernel
    rw [hnone] at hmem
    cases hmem
  · obtain ⟨jid, hmem⟩ := h candidate mumbles reachable_candidate (by decide +kernel) rfl rfl
      (by decide +kernel)
    have hone : (candidate.receive mumbles).published.drop candidate.published.length
        = [.authSucceeded false true] := by
      decide +kernel
    rw [hone] at hmem
    cases List.mem_singleton.1 hmem

end Client

end Xmpp
