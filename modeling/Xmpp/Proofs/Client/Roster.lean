import Xmpp.Proofs.Client.Addresses
import Xmpp.Proofs.Client.Chronicle
import Xmpp.Proofs.Client.Loss
import Xmpp.Proofs.Request.Verification

/-!
# Who may touch the roster

The roster comes to us in two ways: as the reply to our own question, and as a change the server
tells us about. Whoever is neither the server nor our account should have no part in it, and
each of the two ways has a guard of its own. A reply has to come from whom we asked, and
the roster is asked of nobody in particular, so a reply with a sender has to come from the
account the registry judges by. A change has to come from the account the session is bound to.

The two accounts need not be the same (`Client.addresses_of_run`). But whoever belongs to neither
gets past neither guard: whatever is received from a foreigner, no roster is published, and
what was asked of nobody in particular goes on waiting (`Client.withstands_of_run`). This is so at
any time, also while no resource is bound, and whatever ids and children the element has.

Applications may publish rosters, too, so this is about those that do not, and whose handlers
publish nothing (`Change.Civil`, `Change.Polite`).
-/

namespace Xmpp

open Delivery

/-! ## Courteous requests -/

theorem Effect.published_append (effects more : List Effect) :
    published (effects ++ more) = published effects ++ published more :=
  List.filterMap_append

/-- A transformation that ran publishes nothing. -/
theorem Effect.published_transformed (mark : Option Mark) (fallible : Bool) (value : Value) :
    published [.transformed mark fallible value] = [] :=
  rfl

/-- **What resolving a pipeline publishes is published by its handlers.** An error stays one
until the end. -/
theorem Pipeline.mem_published_run {p : Pipeline} {outcome : Outcome} {event : Event}
    (h : event ∈ Effect.published (p.run outcome).2) :
    ∃ handler ∈ p.handlers, ∃ value : Outcome, event ∈ handler.events value
      ∧ ∀ e, outcome = .error e → value = .error e := by
  induction p with
  | reply => cases h
  | respond before handler ih =>
    rw [run, Effect.published_append] at h
    rcases List.mem_append.1 h with h | h
    · obtain ⟨other, hmem, rest⟩ := ih h
      exact ⟨other, List.mem_append_left _ hmem, rest⟩
    · refine ⟨handler, List.mem_append_right _ (List.mem_singleton.2 rfl),
        (before.run outcome).1, ?_, ?_⟩
      · rwa [Effect.published, handler.filterMap_event?_effects] at h
      · rintro e rfl
        rw [run_error]
  | map before mark transform ih | tryMap before mark transform ih =>
    refine ih ?_
    rw [run] at h
    split at h
    · rename_i heq
      rwa [heq]
    · rename_i heq
      rw [Effect.published_append, Effect.published_transformed, List.append_nil] at h
      rwa [heq]

/-- Who publishes a roster is a handler of the application, or the one for it, which has been
told a value. -/
theorem Handler.of_isRoster {handler : Handler} {outcome : Outcome} {event : Event}
    (h : event ∈ handler.events outcome) (hroster : event.isRoster = true) :
    (∃ mark publish, handler = .listener mark publish)
      ∨ handler = .roster ∧ ∃ value, outcome = .ok value := by
  cases handler with
  | listener mark publish => exact .inl ⟨mark, publish, rfl⟩
  | roster =>
    cases outcome with
    | error e => cases h
    | ok value => exact .inr ⟨rfl, value, rfl⟩
  | waiter ticket => cases h
  | bind | registrationForm | registration | discovery _ =>
    rcases outcome with e | value
    · simp only [events, List.mem_singleton, List.not_mem_nil] at h
      all_goals subst h; cases hroster
    · cases value <;> simp only [events, List.mem_singleton, List.not_mem_nil] at h <;>
        (subst h; cases hroster)

/-- **A courteous request publishes no roster** if it fails, and not in any case unless the
server was asked. -/
theorem Request.Courteous.published {r : Request} (h : r.Courteous) {outcome : Outcome}
    (hsafe : (∃ e, outcome = .error e) ∨ r.recipient ≠ none ∨ r.key.name ≠ "iq") :
    ∀ event ∈ Effect.published (effectsOf (r.complete? outcome)), event.isRoster = false := by
  intro event hevent
  unfold complete? at hevent
  cases hp : r.pipeline with
  | none =>
    rw [hp] at hevent
    cases hevent
  | some p =>
    rw [hp] at hevent
    obtain ⟨handler, hmem, value, hpublished, herror⟩ := Pipeline.mem_published_run hevent
    have courteous := h handler (by rw [handlers, hp]; exact hmem)
    refine Bool.eq_false_iff.2 fun hroster => ?_
    rcases Handler.of_isRoster hpublished hroster with
      ⟨mark, publish, rfl⟩ | ⟨rfl, answer, hvalue⟩
    · rw [Handler.events, courteous value] at hpublished
      cases hpublished
    · rcases hsafe with ⟨e, houtcome⟩ | asked | named
      · cases hvalue.symm.trans (herror e houtcome)
      · exact asked courteous.1
      · exact named courteous.2

/-! ## Civil clients -/

/-- **Civil changes**: a request that is given is courteous. -/
def Change.Civil : Change → Prop
  | .give request => request.Courteous
  | _ => True

theorem Change.Modest.civil {change : Change} (h : change.Modest) : change.Civil := by
  cases change with
  | give request => exact h.1
  | _ => trivial

/-- **Civil operations**: requests that are given are courteous, and whoever has modules called
leaves the properties of the library in their scopes. -/
structure Operation.Civil (op : Operation) : Prop where
  courteous : op.Within Change.Civil
  housed : op.Housed

/-- Bare operations are civil. -/
theorem Operation.Civil.of_isBare {op : Operation} (h : op.isBare = true) : op.Civil where
  courteous := within_of_isBare h (fun _ => trivial) (fun _ => trivial) (fun _ _ => trivial)
    fun change hverdict => by
      cases change with
      | begin _ | enable _ | acknowledge _ | resume _ => trivial
      | _ => cases hverdict
  housed := by
    rintro changes rfl
    cases h

/-- All that happens in a civil operation is. -/
theorem Operation.Civil.of_entails {op : Operation} (h : op.Civil) {s : Session} {change : Change}
    (entails : op.Entails Change.Civil s change) : change.Civil := by
  rcases entails with routine | duty | civil | brings
  · exact routine.modest.civil
  · cases duty.official <;> trivial
  · exact civil
  · exact h.courteous.brings trivial brings

/-- **Polite changes**: what the library keeps to itself is left to it. -/
structure Change.Polite (change : Change) : Prop where
  modest : change.Modest
  spares : change.SparesAddress
  housed : change.Housed

theorem Change.Routine.polite {change : Change} (h : change.Routine) : change.Polite :=
  ⟨h.modest, h.spares, h.silent.quiet.housed⟩

/-- Whatever an element rules is polite. -/
theorem Element.Rules.polite {e : Element} {s : Session} {change : Change}
    (h : e.Rules s change) : change.Polite := by
  cases change with
  | enable _ | begin _ | acknowledge _ | resume _ | abandon => exact ⟨trivial, trivial, trivial⟩
  | _ => cases h

namespace Session

variable {s s' : Session} {e : Element}

/-- **A courteous session**: all requests that were not resolved are. -/
def Courteous (s : Session) : Prop :=
  ∀ r ∈ s.openRequests, r.Courteous

theorem Courteous.change (h : s.Courteous) {change : Change} (civil : change.Civil) :
    (s.change change).Courteous := by
  intro r hr
  rcases Client.Kept.mem_openRequests.1 hr with hr | hr
  · rw [requests_outbox_change] at hr
    rcases List.mem_append.1 hr with hr | hr
    · exact h r (Client.Kept.mem_openRequests.2 (.inl hr))
    · cases change with
      | give request => exact List.mem_singleton.1 hr ▸ civil
      | _ => cases hr
  · exact h r (Client.Kept.mem_openRequests.2 (.inr ((s.requests_change_sublist change).subset hr)))

/-- **Modest changes of a courteous session publish no roster.** -/
theorem Courteous.fired (h : s.Courteous) {change : Change} (modest : change.Modest) :
    ∀ event ∈ s.fired change, event.isRoster = false := by
  have failing {r : Request} (hr : r ∈ s.registry.requests) (e : RequestError) :
      ∀ event ∈ Effect.published (Request.effectsOf (r.complete? (.error e))),
        event.isRoster = false :=
    (h r (Client.Kept.mem_openRequests.2 (.inr hr))).published (.inl ⟨e, rfl⟩)
  cases change with
  | fire event => exact fun other hmem => List.mem_singleton.1 hmem ▸ modest
  | answer reply => cases modest
  | cancel key =>
    intro event hevent
    change event ∈ Effect.published (((s.registry.cancel? key).bind (·.2)).getD []) at hevent
    unfold Registry.cancel? at hevent
    cases hr : s.registry.find? key with
    | none =>
      rw [hr] at hevent
      cases hevent
    | some r =>
      refine failing (List.mem_of_find?_eq_some hr) .cancelled event ?_
      rw [hr] at hevent
      change event ∈ Effect.published ((r.cancel?.map (·.2)).getD []) at hevent
      unfold Request.cancel? at hevent
      cases hcomplete : r.complete? (.error .cancelled) with
      | none =>
        rw [hcomplete] at hevent
        cases hevent
      | some result =>
        rw [hcomplete] at hevent
        exact hevent
  | sweep condition =>
    intro event hevent
    obtain ⟨effect, hmem, heffect⟩ := List.mem_filterMap.1 hevent
    obtain ⟨result, hmem, hresult⟩ := List.mem_flatMap.1 hmem
    obtain ⟨r, hr, hexpire⟩ := List.mem_filterMap.1 hmem
    refine failing (List.mem_filter.1 hr).1 .timeout event
      (List.mem_filterMap.2 ⟨effect, ?_, heffect⟩)
    rw [show r.complete? (.error .timeout) = some result from hexpire]
    exact hresult
  | _ => exact fun _ hmem => absurd hmem List.not_mem_nil

/-! ## Foreigners -/

/-- **Whether an element is from a foreigner**: it has a sender that cannot be read, or belongs
neither to the account the session is bound to nor to the one replies are judged by. -/
def isForeign (s : Session) (e : Element) : Bool :=
  match (e.attr "from").map Jid.parse with
  | some (.ok sender) => !s.isBoundTo sender && !s.registry.isOwnAccount sender
  | some (.error _) => true
  | none => false

theorem isForeign_congr (bound : s'.properties.boundJid? = s.properties.boundJid?)
    (own : s'.registry.ownJid = s.registry.ownJid) (e : Element) :
    s'.isForeign e = s.isForeign e := by
  simp only [isForeign, isBoundTo, Registry.isOwnAccount, bound, own]

/-- A foreigner has an address, and if it can be read it belongs to neither account. -/
theorem sender_of_isForeign (foreign : s.isForeign e = true) :
    ∃ address, e.attr "from" = some address ∧ ∀ sender, Jid.parse address = .ok sender →
      s.isBoundTo sender = false ∧ s.registry.isOwnAccount sender = false := by
  unfold isForeign at foreign
  cases hfrom : e.attr "from" with
  | none =>
    rw [hfrom] at foreign
    cases foreign
  | some address =>
    refine ⟨address, rfl, fun sender hsender => ?_⟩
    rw [hfrom, Option.map_some, hsender] at foreign
    simpa using foreign

/-- **A foreigner does not answer what was asked of nobody in particular.** -/
theorem recipient_of_answeredBy? (foreign : s.isForeign e = true) {r : Request}
    (h : s.registry.answeredBy? e = some r) : r.recipient ≠ none := by
  intro hnone
  obtain ⟨address, hfrom, hforeign⟩ := sender_of_isForeign foreign
  obtain ⟨-, -, -, verified⟩ := Registry.find?_of_answeredBy? h
  unfold Registry.verifies at verified
  rw [hfrom, Option.map_some, hnone] at verified
  cases hparse : Jid.parse address with
  | error error =>
    rw [hparse] at verified
    cases verified
  | ok sender =>
    rw [hparse] at verified
    exact Bool.false_ne_true ((hforeign sender hparse).2.symm.trans verified)

/-- Nor is it a change of the roster. -/
theorem not_isBoundTo_of_isForeign (foreign : s.isForeign e = true) :
    ¬ ∀ address, e.attr "from" = some address →
      ∃ sender, Jid.parse address = .ok sender ∧ s.isBoundTo sender = true := by
  intro h
  obtain ⟨address, hfrom, hforeign⟩ := sender_of_isForeign foreign
  obtain ⟨sender, hparse, hbound⟩ := h address hfrom
  exact Bool.false_ne_true ((hforeign sender hparse).1.symm.trans hbound)

/-- **On guard**: no roster is to be published, and an element is from a foreigner. -/
structure OnGuard (s : Session) (e : Element) : Prop where
  courteous : s.Courteous
  housed : s.properties.Housed
  foreign : s.isForeign e = true
  events : ∀ event ∈ s.events, event.isRoster = false

/-- **Taking in what a foreigner sent publishes no roster.** -/
theorem OnGuard.change (h : s.OnGuard e) {change : Change}
    (allowed : change.Polite ∨ (Operation.receive e).Duty s change) :
    (s.change change).OnGuard e := by
  obtain ⟨civil, housed, spares⟩ :
      change.Civil ∧ change.Housed ∧ change.SparesAddress := by
    rcases allowed with polite | duty
    · exact ⟨polite.modest.civil, polite.housed, polite.spares⟩
    · exact ⟨by cases duty.official <;> trivial, duty.silent.quiet.housed,
        by cases duty.official <;> trivial⟩
  have fired : ∀ event ∈ s.fired change, event.isRoster = false := by
    rcases allowed with polite | rfl | rfl | ⟨id, duty⟩
    · exact h.courteous.fired polite.modest
    · exact fun _ hmem => absurd hmem List.not_mem_nil
    · -- whoever is answered was asked something in particular
      intro event hevent
      change event ∈ Effect.published (((s.registry.resolve? e).map (·.2)).getD []) at hevent
      unfold Registry.resolve? at hevent
      cases hr : s.registry.answeredBy? e with
      | none =>
        rw [hr] at hevent
        cases hevent
      | some r =>
        rw [hr] at hevent
        have hopen : r ∈ s.openRequests := Client.Kept.mem_openRequests.2
          (.inr (List.mem_of_find?_eq_some (Registry.find?_of_answeredBy? hr).2.2.1))
        exact (h.courteous r hopen).published (.inr (.inl (recipient_of_answeredBy? h.foreign hr)))
          event hevent
    · cases change with
      | fire event => exact absurd duty.2.2 (not_isBoundTo_of_isForeign h.foreign)
      | report | write _ => exact fun _ hmem => absurd hmem List.not_mem_nil
      | _ => cases duty
  refine ⟨h.courteous.change civil, housed_change h.housed housed, ?_, fun event hmem => ?_⟩
  · rw [isForeign_congr (boundJid?_change h.housed spares) (s.ownJid_change spares)]
    exact h.foreign
  · rw [events_change] at hmem
    rcases List.mem_append.1 hmem with hmem | hmem
    · exact h.events event hmem
    · exact fired event hmem

end Session

namespace Client

variable {c c' : Client} {e : Element} {log : List Request}

/-! ## Coming to rest -/

theorem courteous_deliver {item : Outgoing} {rest : List Outgoing}
    (h : c.session.Courteous) (ho : c.session.outbox = item :: rest) :
    ((c.withOutbox rest).deliver item).session.Courteous :=
  fun r hr => h r (Kept.mem_openRequests_deliver ho hr)

theorem courteous_react {event : Event} {rest : List Event} (h : c.session.Courteous) :
    ((c.withEvents rest).handleEvent event).session.Courteous := by
  obtain ⟨k, -, steps⟩ := Session.Steps.does_react c.controller (c.withEvents rest).session event
  exact steps.invariant (I := Session.Courteous) h fun _ _ does h => h.change does.modest.civil

/-- **Nothing but courteous requests**, whatever is done. -/
theorem courteous_moves (moves : Moves c log c') (h : c.session.Courteous) :
    c'.session.Courteous := by
  induction moves with
  | refl => exact h
  | deliver _ ho ih => exact courteous_deliver ih ho
  | react _ _ _ ih => exact courteous_react ih

/-- What is published as a courteous request is handed over is no roster. -/
theorem isRoster_firedBy {item : Outgoing} {rest : List Outgoing} (h : c.session.Courteous)
    (ho : c.session.outbox = item :: rest) :
    ∀ event ∈ (c.withOutbox rest).firedBy item, event.isRoster = false := by
  intro event hevent
  cases item with
  | restart => cases hevent
  | close =>
    unfold firedBy at hevent
    dsimp only at hevent
    split at hevent
    · cases hevent
    · exact List.mem_singleton.1 hevent ▸ rfl
  | element entry request =>
    cases request with
    | none => cases hevent
    | some r =>
      have courteous : r.Courteous := h r (Kept.mem_openRequests.2 (.inl (by
        rw [ho]
        exact List.mem_cons_self)))
      unfold firedBy at hevent
      dsimp only at hevent
      split at hevent
      · exact courteous.published (.inl ⟨_, rfl⟩) event hevent
      · exact courteous.published (.inl ⟨_, rfl⟩) event hevent
      · unfold Request.markSent? at hevent
        split at hevent
        · rename_i hforget
          exact courteous.published (.inr (.inr (by simpa [Request.isFireAndForget] using hforget)))
            event hevent
        · cases hevent

/-- **A client keeps rosters to itself** since it had published certain events. -/
structure KeepsRosters (c : Client) (published : List Event) : Prop where
  courteous : c.session.Courteous
  events : ∀ event ∈ c.session.events, event.isRoster = false
  published : ∃ later, c.published = published ++ later ∧ ∀ event ∈ later, event.isRoster = false

/-- Coming to rest publishes no roster that was not there. -/
theorem KeepsRosters.moves {published : List Event} (h : c.KeepsRosters published)
    (moves : Moves c log c') : c'.KeepsRosters published := by
  induction moves with
  | refl => exact h
  | @deliver c' log item rest _ ho ih =>
    refine ⟨courteous_deliver ih.courteous ho, fun event hmem => ?_, ?_⟩
    · rw [events_deliver] at hmem
      rcases List.mem_append.1 hmem with hmem | hmem
      · exact ih.events event hmem
      · exact isRoster_firedBy ih.courteous ho event hmem
    · rw [published_deliver]
      exact ih.published
  | @react c' log event rest _ ho he ih =>
    obtain ⟨later, hpublished, hlater⟩ := ih.published
    obtain ⟨k, -, steps⟩ :=
      Session.Steps.does_react c'.controller (c'.withEvents rest).session event
    have start : (c'.withEvents rest).session.Courteous
        ∧ ∀ event ∈ (c'.withEvents rest).session.events, event.isRoster = false :=
      ⟨ih.courteous, fun other hmem => ih.events other (he ▸ List.mem_cons_of_mem event hmem)⟩
    have reacted := steps.invariant
      (I := fun s => s.Courteous ∧ ∀ event ∈ s.events, event.isRoster = false) start
      fun s change does h => ⟨h.1.change does.modest.civil, fun event hmem => by
        rw [s.events_change] at hmem
        exact (List.mem_append.1 hmem).elim (h.2 event) (h.1.fired does.modest event)⟩
    refine ⟨reacted.1, reacted.2, later ++ [event], ?_, fun other hmem => ?_⟩
    · show c'.published ++ [event] = _
      rw [hpublished, List.append_assoc]
    · rcases List.mem_append.1 hmem with hmem | hmem
      · exact hlater other hmem
      · exact List.mem_singleton.1 hmem ▸ ih.events event (he ▸ List.mem_cons_self)

/-! ## Runs -/

/-- **All requests of a client stay courteous** in civil operations. -/
theorem courteous_foldl_operate (config : Config) {catalogue : Catalogue} {ops : List Operation}
    (polite : catalogue.Within Change.Polite) (civil : ∀ op ∈ ops, op.Civil) :
    (ops.foldl operate (blank config catalogue)).session.Courteous
      ∧ (ops.foldl operate (blank config catalogue)).session.catalogue = catalogue := by
  refine foldl_operate_invariant
    (I := fun c => c.session.Courteous ∧ c.session.catalogue = catalogue)
    (atRest_blank config catalogue) ⟨fun _ hmem => absurd hmem List.not_mem_nil, rfl⟩
    (fun op hop c _ h => ?_) fun moves h => ⟨courteous_moves moves h.1, ?_⟩
  · have within : c.session.catalogue.Within Change.Civil := fun entry hentry =>
      (polite entry (h.2 ▸ hentry)).mono fun _ polite => polite.modest.civil
    have course := Session.Course.entailed c op within
    exact ⟨course.invariant (I := Session.Courteous) h.1 fun _ _ entails h =>
      h.change ((civil op hop).of_entails entails), course.catalogue.trans h.2⟩
  · exact (catalogue_moves moves).trans h.2

/-- **A client withstands an element** where the roster is concerned. -/
structure Withstands (c : Client) (e : Element) : Prop where
  /-- No roster is published. -/
  published : ∃ later, (c.receive e).published = c.published ++ later
    ∧ ∀ event ∈ later, event.isRoster = false
  /-- It is not taken as a reply to what was asked of nobody in particular. -/
  unanswered : ∀ r, c.session.registry.answeredBy? e = some r → r.recipient ≠ none
  /-- This goes on waiting. -/
  waiting : ∀ (key : RequestKey) (r : Request), c.session.registry.find? key = some r →
    r.recipient = none → (c.take e).registry.find? key = some r

/-- **A foreigner has no part in the roster.** Whatever a client of the library went through, as
long as its application publishes no roster by itself and its handlers publish nothing: if it
receives an element from a foreigner, no roster is published, and the element is not taken as a
reply to what was asked of nobody in particular. -/
theorem withstands_of_run {config : Config} {catalogue : Catalogue} {ops : List Operation}
    (polite : catalogue.Within Change.Polite) (civil : ∀ op ∈ ops, op.Civil) {e : Element}
    (foreign : (ops.foldl operate (blank config catalogue)).session.isForeign e = true) :
    (ops.foldl operate (blank config catalogue)).Withstands e := by
  obtain ⟨courteous, hcatalogue⟩ := courteous_foldl_operate config polite civil
  have housed := housed_foldl_operate config catalogue fun op hop => (civil op hop).housed
  have atRest := (atRest_blank config catalogue).foldl_operate ops
  generalize ops.foldl operate (blank config catalogue) = c at *
  refine ⟨?_, fun r h => Session.recipient_of_answeredBy? foreign h,
    fun key r hfound hnone => ?_⟩
  · have start : c.session.OnGuard e :=
      ⟨courteous, housed, foreign, fun _ hmem => absurd (atRest.2 ▸ hmem) List.not_mem_nil⟩
    have taken : (c.take e).OnGuard e :=
      (Session.Course.entailed c (.receive e) (hcatalogue ▸ polite)).invariant
        (I := fun s => s.OnGuard e) start fun s change entails h => h.change (by
          rcases entails with routine | duty | polite | rules
          · exact .inl routine.polite
          · exact .inr duty
          · exact .inl polite
          · exact .inl (Element.Rules.polite rules))
    obtain ⟨log, moves⟩ := Moves.run (c.prepare (.receive e))
    have kept : (c.prepare (.receive e)).KeepsRosters c.published :=
      ⟨taken.courteous, taken.events, [], (List.append_nil _).symm, nofun⟩
    rw [show c.receive e = (c.prepare (.receive e)).run from operate_eq atRest (.receive e)]
    exact (kept.moves moves).published
  · cases h : c.session.registry.answeredBy? e with
    | none => rwa [(take_of_answeredBy?_eq_none h).2]
    | some q =>
      rw [take_of_answeredBy? h, Session.perform_eq]
      show (c.session.registry.erase q.key).find? key = some r
      rw [Registry.find?_erase, if_neg]
      · exact hfound
      · -- the one that is answered was asked of somebody
        rintro rfl
        obtain ⟨-, -, hq, -⟩ := Registry.find?_of_answeredBy? h
        obtain rfl := Option.some.inj (hq.symm.trans hfound)
        exact Session.recipient_of_answeredBy? foreign h hnone

namespace Rehearsal

/-- A client has a session and waits for its roster. -/
def awaitsRoster : List Operation :=
  .install (ModuleId.builtIn.map (Descriptor.default [])) :: connects
    ++ [.receive welcomes, .receive offersManagement, .receive (binds "1")]

/-- Somebody else sends a roster, under the id of the request for it. -/
def intrudes : Element where
  name := "iq"
  ns := Namespace.client
  attributes := [("type", "result"), ("id", "5"), ("from", "romeo@montague.lit")]
  content := Element.nodes [emptyQuery Namespace.roster]

end Rehearsal

open Rehearsal

/-- In the rehearsal the request goes on waiting for the roster. -/
theorem withstands_of_run_rehearsal :
    Catalogue.Within Change.Polite [] ∧ (∀ op ∈ awaitsRoster, op.Civil)
      ∧ (awaitsRoster.foldl operate (blank account [])).session.isForeign intrudes = true
      ∧ (awaitsRoster.foldl operate (blank account [])).Withstands intrudes
      ∧ (((awaitsRoster.foldl operate (blank account [])).take intrudes).registry.find?
          ⟨"iq", "5"⟩).isSome = true := by
  have polite : Catalogue.Within Change.Polite [] :=
    fun _ hmem => absurd hmem List.not_mem_nil
  have civil : ∀ op ∈ awaitsRoster, op.Civil := fun op hop =>
    .of_isBare (List.all_eq_true.1 (by decide) op hop)
  have foreign : (awaitsRoster.foldl operate (blank account [])).session.isForeign intrudes
      = true := by
    decide +kernel
  have withstands := withstands_of_run polite civil foreign
  have hwaits : ((awaitsRoster.foldl operate (blank account [])).session.registry.find?
      ⟨"iq", "5"⟩).any (·.recipient.isNone) = true := by
    decide +kernel
  obtain ⟨r, hr, hnone⟩ := (Option.any_eq_true _ _).1 hwaits
  refine ⟨polite, civil, foreign, withstands, ?_⟩
  rw [withstands.waiting _ r hr (Option.isNone_iff_eq_none.1 hnone)]
  rfl

end Client

end Xmpp
