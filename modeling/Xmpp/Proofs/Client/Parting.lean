import Xmpp.Proofs.Client.Loss

/-!
# What is said at a parting

When the connection is lost, or the stream is closed, a new connection is the obvious
remedy, and one would not expect a client to say that nothing can be done. But a
parting that ends the session fails whatever waits for a reply, the failures are
published, and then the controller classifies them, without asking why the requests
failed. A resource that could not be bound calls for another connection. An account
that could not be created is the end, even if all that happened is that the connection
went away in the middle of it.

`Client.parting_spec` lists what is published at a parting, event by event, and says
when the end is among it: if the session ends, and a request that belongs to the
creation of the account waits.
-/

namespace Xmpp

/-- Whether a handler belongs to the creation of the account. -/
def Handler.isRegistration : Handler → Bool
  | .registrationForm | .registration => true
  | _ => false

namespace Session

/-- The handlers of the application that wait answer a timeout with silence. -/
def Mute (s : Session) : Prop :=
  ∀ r ∈ s.registry.requests, ∀ handler ∈ r.handlers, handler.isListener = true →
    handler.events (.error .timeout) = []

/-- Whether a request that belongs to the creation of the account waits. -/
def Registers (s : Session) : Prop :=
  ∃ r ∈ s.registry.requests, ∃ handler ∈ r.handlers, handler.isRegistration = true

variable {s : Session}

/-- **A lament is about a resource or about the account.** -/
theorem Mute.mem_laments_iff (mute : s.Mute) (event : Event) :
    event ∈ s.laments ↔
      (event = .bindFailed .timeout ∧ ∃ r ∈ s.registry.requests, .bind ∈ r.handlers)
        ∨ (event = .registrationFailed .timeout ∧ s.Registers) := by
  unfold laments
  constructor
  · intro hmem
    obtain ⟨r, hr, hmem⟩ := List.mem_flatMap.1 hmem
    obtain ⟨handler, hhandler, hmem⟩ := List.mem_flatMap.1 hmem
    cases handler with
    | listener mark publish =>
      rw [mute r hr _ hhandler rfl] at hmem
      cases hmem
    | bind => exact .inl ⟨List.mem_singleton.1 hmem, r, hr, hhandler⟩
    | registrationForm => exact .inr ⟨List.mem_singleton.1 hmem, r, hr, _, hhandler, rfl⟩
    | registration => exact .inr ⟨List.mem_singleton.1 hmem, r, hr, _, hhandler, rfl⟩
    | waiter _ | roster | discovery _ => cases hmem
  · rintro (⟨rfl, r, hr, hhandler⟩ | ⟨rfl, r, hr, handler, hhandler, registers⟩)
    · exact List.mem_flatMap.2 ⟨r, hr, List.mem_flatMap.2 ⟨_, hhandler, List.mem_singleton.2 rfl⟩⟩
    · refine List.mem_flatMap.2 ⟨r, hr, List.mem_flatMap.2 ⟨handler, hhandler, ?_⟩⟩
      cases handler with
      | registrationForm | registration => exact List.mem_singleton.2 rfl
      | _ => cases registers

/-- Nothing comes of the laments but what is published. -/
theorem Mute.isIdle (mute : s.Mute) : ∀ event ∈ s.laments, event.isIdle = true := by
  intro event hmem
  rcases (mute.mem_laments_iff event).1 hmem with ⟨rfl, -⟩ | ⟨rfl, -⟩ <;> rfl

/-- **The end is declared if an account was being created**, and for no other reason. -/
theorem Mute.stopped_mem_aftermath_iff (mute : s.Mute) (message : String) :
    .stopped message ∈ s.aftermath ↔
      message = "Registration error: " ++ RequestError.timeout.message ∧ s.Registers := by
  unfold aftermath
  rw [List.mem_append, List.mem_filterMap]
  constructor
  · rintro (hmem | ⟨event, hmem, hecho⟩)
    · rcases (mute.mem_laments_iff _).1 hmem with ⟨heq, -⟩ | ⟨heq, -⟩ <;> cases heq
    · rcases (mute.mem_laments_iff _).1 hmem with ⟨rfl, -⟩ | ⟨rfl, registers⟩
      · cases hecho
      · exact ⟨(Event.stopped.inj (Option.some.inj hecho)).symm, registers⟩
  · rintro ⟨rfl, registers⟩
    exact .inr ⟨_, (mute.mem_laments_iff _).2 (.inr ⟨rfl, registers⟩), rfl⟩

end Session

namespace Client

variable {c : Client}

/-- Whether losing the connection ends the session. -/
def endsByLoss (c : Client) : Bool :=
  c.connector ≠ .disconnected && (c.connector = .disconnecting || !c.session.canResume)

/-- Whether closing the stream ends the session. -/
def endsByClosing (c : Client) : Bool :=
  c.transport.isSome && c.connector ≠ .disconnecting

/-- The news of a transport that changes its state, unless it has that state already. -/
def news (c : Client) (new : ConnectorState) : List Event :=
  if c.connector = new then [] else [.connector c.connector new]

/-- A client that has nothing left but laments publishes them, and what comes of them. -/
theorem published_run_of_laments {s : Session} (mute : s.Mute) (ho : c.session.outbox = [])
    (he : c.session.events = s.laments) : c.run.published = c.published ++ s.aftermath := by
  rw [run_of_isIdle ho (he ▸ mute.isIdle), he]
  exact List.append_assoc ..

/-- **What is published as the connection is lost.** -/
theorem published_lost (h : c.AtRest) (mute : c.session.Mute) :
    c.lost.published = c.published
      ++ (c.news .disconnected ++ if c.endsByLoss then c.session.aftermath else []) := by
  unfold news endsByLoss
  by_cases attached : c.connector = .disconnected
  · have hlost : c.lost = { c with transport := none } := by
      unfold lost setConnector
      rw [if_pos (show ({ c with transport := none } : Client).connector = _ from attached)]
      exact AtRest.run ⟨h.1, h.2⟩
    rw [hlost, attached]
    exact (List.append_nil _).symm
  rw [lost_eq h attached]
  by_cases ends : c.connector = .disconnecting ∨ c.session.canResume = false
  · have hfollow : c.session.followConnector c.connector .disconnected = c.session.wrapUp :=
      if_pos ends
    have houtbox : c.session.wrapUp.outbox = [] := by
      rw [Session.wrapUp_eq]
      exact h.1
    have hevents : c.session.wrapUp.events = c.session.laments := by
      rw [Session.events_wrapUp, Session.events_timeoutAll h.2]
    rw [hfollow, published_run_of_laments mute houtbox hevents]
    simp [attached, ends]
  · have hfollow : c.session.followConnector c.connector .disconnected = c.session.suspend :=
      if_neg ends
    have hrest : ({ c with
        transport := none
        connector := .disconnected
        session := c.session.suspend
        published := c.published ++ [.connector c.connector .disconnected] } : Client).AtRest := h
    rw [hfollow, hrest.run]
    simp [attached, ends]

/-- Closing the stream of a client at rest is handing over the end of the stream. -/
theorem disconnect_eq (h : c.AtRest) (attached : c.transport.isSome = true) :
    c.disconnect.1 = c.deliverClose.run := by
  have ho : ({ c with session := c.session.close } : Client).session.outbox = [.close] := by
    show c.session.outbox ++ [.close] = _
    rw [h.1]
    rfl
  have hempty : ({ c with session := c.session.close } : Client).withOutbox [] = c := by
    show c.withOutbox [] = c
    rw [← h.1]
    rfl
  obtain ⟨transport, ht⟩ := Option.isSome_iff_exists.1 attached
  have hdisconnect : c.disconnect.1 = ({ c with session := c.session.close } : Client).run := by
    unfold disconnect
    rw [ht]
    rfl
  rw [hdisconnect, run_deliver ho, hempty]
  rfl

/-- **What is published as the stream is closed.** -/
theorem published_disconnect (h : c.AtRest) (mute : c.session.Mute) :
    c.disconnect.1.published = c.published
      ++ if c.endsByClosing then c.news .disconnecting ++ c.session.aftermath else [] := by
  unfold endsByClosing news
  by_cases attached : c.transport.isSome = true
  · let closed : Client := { c.record ((c.transport.map Transport.closeFrames).getD []) with
      transport := none }
    have hclose : c.deliverClose = closed.setConnector .disconnecting := rfl
    rw [disconnect_eq h attached, hclose]
    by_cases closing : c.connector = .disconnecting
    · have hsame : closed.setConnector .disconnecting = closed := if_pos closing
      rw [hsame, AtRest.run (c := closed) h]
      simp [closing, closed, record]
    · let told : Client :=
        { closed with
          connector := .disconnecting
          session := c.session.fire (.connector c.connector .disconnecting) }
      have hset : closed.setConnector .disconnecting = told := if_neg closing
      have hevents : told.session.events = [.connector c.connector .disconnecting] := by
        show c.session.events ++ _ = _
        rw [h.2, List.nil_append]
      rw [hset, run_react (c := told) h.1 hevents]
      have hsession : ((told.withEvents []).handleEvent
          (.connector c.connector .disconnecting)).session
            = c.session.timeoutAll.resetManagement := by
        have hempty : (told.withEvents []).session = c.session := by
          show { c.session with events := [] } = c.session
          rw [← h.2]
        exact congrArg (fun s : Session => s.timeoutAll.resetManagement) hempty
      have hreset : c.session.timeoutAll.resetManagement.outbox = []
          ∧ c.session.timeoutAll.resetManagement.events = c.session.laments := by
        rw [Session.resetManagement_eq]
        refine ⟨?_, Session.events_timeoutAll h.2⟩
        rw [Session.timeoutAll_eq, Session.perform_eq]
        exact h.1
      rw [published_run_of_laments mute (hsession ▸ hreset.1) (hsession ▸ hreset.2)]
      show c.published ++ [.connector c.connector .disconnecting] ++ _ = _
      simp [attached, closing]
  · have hdisconnect : c.disconnect.1 = c := by
      unfold disconnect
      rw [if_pos (by simpa using attached)]
    rw [hdisconnect, Bool.eq_false_iff.2 attached]
    exact (List.append_nil _).symm

/-- **Partings.** What is published as the connection is lost or the stream is closed is
the news of the transport, and if the session ends, the failures of the requests that
wait with what the controller says about them, as long as no handler of the application
that waits has anything to say. That nothing can be done is among it if and only if the
session ends and a request that belongs to the creation of the account waits. -/
theorem parting_spec (h : c.AtRest) (mute : c.session.Mute) :
    (c.lost.published = c.published
        ++ (c.news .disconnected ++ if c.endsByLoss then c.session.aftermath else []))
      ∧ (c.disconnect.1.published = c.published
        ++ if c.endsByClosing then c.news .disconnecting ++ c.session.aftermath else [])
      ∧ (∀ message, .stopped message ∈ c.lost.published.drop c.published.length ↔
        c.endsByLoss = true ∧ c.session.Registers
          ∧ message = "Registration error: " ++ RequestError.timeout.message)
      ∧ ∀ message, .stopped message ∈ c.disconnect.1.published.drop c.published.length ↔
        c.endsByClosing = true ∧ c.session.Registers
          ∧ message = "Registration error: " ++ RequestError.timeout.message := by
  have hlost := published_lost h mute
  have hclosed := published_disconnect h mute
  have noNews (new : ConnectorState) (message : String) : .stopped message ∉ c.news new := by
    unfold news
    split
    · exact List.not_mem_nil
    · exact fun hmem => nomatch List.mem_singleton.1 hmem
  refine ⟨hlost, hclosed, fun message => ?_, fun message => ?_⟩
  · rw [hlost, List.drop_left, List.mem_append, or_iff_right (noNews _ _)]
    cases c.endsByLoss with
    | false => simp
    | true =>
      rw [if_pos rfl, mute.stopped_mem_aftermath_iff]
      exact ⟨fun ⟨hmessage, registers⟩ => ⟨rfl, registers, hmessage⟩,
        fun ⟨_, registers, hmessage⟩ => ⟨hmessage, registers⟩⟩
  · rw [hclosed, List.drop_left]
    cases c.endsByClosing with
    | false => simp
    | true =>
      rw [if_pos rfl, List.mem_append, or_iff_right (noNews _ _), mute.stopped_mem_aftermath_iff]
      exact ⟨fun ⟨hmessage, registers⟩ => ⟨rfl, registers, hmessage⟩,
        fun ⟨_, registers, hmessage⟩ => ⟨hmessage, registers⟩⟩

namespace Rehearsal

/-- Features that offer to create the account. -/
def offersAccount : Element where
  name := "features"
  ns := Namespace.stream
  content := Element.nodes [{ name := "register", ns := Namespace.registerFeature }]

/-- The registration form. -/
def givesForm : Element where
  name := "iq"
  ns := Namespace.client
  attributes := [("type", "result"), ("id", "1")]
  content := Element.nodes
    [{ name := "query"
       ns := Namespace.register
       content := Element.nodes
        [{ name := "username", ns := Namespace.register },
          { name := "password", ns := Namespace.register }] }]

/-- Connecting to a server that creates accounts. -/
def registers : List Operation :=
  [.install (ModuleId.builtIn.map (Descriptor.default [])), .connecting, .connected {},
    .receive offersAccount]

/-- A client that asks for the registration form. -/
def applicant : Client :=
  registers.foldl operate (blank { account with registration := some [] } [])

theorem mute_of_all {s : Session}
    (h : (s.registry.requests.all fun r => r.handlers.all fun handler =>
      !handler.isListener || (handler.events (.error .timeout)).isEmpty) = true) : s.Mute := by
  intro r hr handler hhandler listens
  have hall := List.all_eq_true.1 (List.all_eq_true.1 h r hr) handler hhandler
  rw [listens] at hall
  exact List.isEmpty_iff.1 hall

end Rehearsal

open Rehearsal

/-- In the rehearsal the connection is lost before the registration form arrives, and the
client gives up for good. -/
theorem parting_spec_rehearsal :
    applicant.AtRest ∧ applicant.session.Mute ∧ applicant.lost.published = applicant.published
      ++ [.connector .connected .disconnected, .registrationFailed .timeout,
        .stopped "Registration error: error reply RemoteServerTimeout"] := by
  have atRest : applicant.AtRest := AtRest.foldl_operate (atRest_blank _ _) registers
  have mute : applicant.session.Mute := mute_of_all (by decide +kernel)
  obtain ⟨hlost, -⟩ := parting_spec atRest mute
  refine ⟨atRest, mute, hlost.trans (congrArg (applicant.published ++ ·) ?_)⟩
  decide +kernel

/-- **A parting may be declared the end**, though nobody but the transport is to blame: if
the connection is lost before the registration form arrives, and if the stream is closed
before the server says what it makes of the form. -/
theorem not_forall_remediable :
    (¬ ∀ (config : Config) (ops : List Operation), (∀ op ∈ ops, op.isBare = true) →
        ∀ message, .stopped message ∉
          ((ops.foldl operate (blank config [])).lost.published.drop
            (ops.foldl operate (blank config [])).published.length))
      ∧ ¬ ∀ (config : Config) (ops : List Operation), (∀ op ∈ ops, op.isBare = true) →
        ∀ message, .stopped message ∉
          ((ops.foldl operate (blank config [])).disconnect.1.published.drop
            (ops.foldl operate (blank config [])).published.length) := by
  let config : Config := { account with registration := some [] }
  let message := "Registration error: error reply RemoteServerTimeout"
  constructor
  · intro h
    refine h config registers (List.all_eq_true.1 (by decide)) message ?_
    decide +kernel
  · intro h
    refine h config (registers ++ [.receive givesForm]) (List.all_eq_true.1 (by decide)) message ?_
    decide +kernel

end Client

end Xmpp
