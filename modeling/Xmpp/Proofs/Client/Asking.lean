import Xmpp.Proofs.Client.Footing
import Xmpp.Proofs.Delivery.Lives

/-!
# Asking for a session

After the login a client asks for a session: for its old one, if that can be resumed, and
otherwise for a resource to be bound. It does so when it is *prompted*, by the features of
the stream or by the end of the login, and once more if its old session is refused
(`Controller.prompt?`). This file shows that these are the only times: in the course of any
life, as long as the owner and the modules of the application leave the matter to the
library, what the client asks for is what it was prompted to ask for, once each and in that
order (`Life.asked_as_prompted`).

What prompts a client is an event and where its session stands. Whether something that was
asked earlier is unanswered, or whether there is a session on this connection already, does
not come into it. So whoever is logged in and hears the features of the stream asks again,
and a live session that was bound along with the login is to be resumed once the server
tells its features after that (`Life.not_forall_asks_once`).

What is asked is observed from outside, by the elements that wait in the outbox under tokens
that were not made before. Elements that are sent again after a session was resumed have
their old tokens, and they are not asked anew.
-/

namespace Xmpp

open Delivery Resumption

/-! ## What waits to be asked -/

namespace Session

variable {s s' : Session}

/-- What the elements that wait in the outbox ask for. -/
def demands (s : Session) : List Demand :=
  s.unsent.filterMap (·.stanza.demand?)

/-- **What a change asks for** waits after what waited before, unless the peer resumes the
session. -/
theorem demands_change (s : Session) {change : Change} (h : change.isVerdict = false) :
    (s.change change).demands = s.demands ++ change.demand?.toList := by
  have single (entry : Entry) :
      [entry].filterMap (·.stanza.demand?) = entry.stanza.demand?.toList := by
    cases h : entry.stanza.demand? <;> simp [h]
  rw [demands, unsent_change, List.filterMap_append, ← demands]
  congr 1
  cases change with
  | write element => exact single ⟨element, _⟩
  | give request => exact single ⟨request.stanza, _⟩
  | resume _ => cases h
  | _ => rfl

/-- Silent steps ask for nothing. -/
theorem Steps.demands {k : Nat} (steps : s.Steps Change.Silent k s') : s'.demands = s.demands :=
  steps.invariant (I := fun s' => s'.demands = s.demands) rfl fun s' change silent hs => by
    rw [s'.demands_change silent.quiet.isVerdict, silent.demand?, hs]
    exact List.append_nil _

theorem demands_write (s : Session) (element : Element) :
    (s.write element).demands = s.demands ++ element.demand?.toList := by
  have unresumed : (Change.write element).isVerdict = false := rfl
  exact s.demands_change unresumed

theorem demands_send (s : Session) (draft : Draft) :
    (s.send draft).2.demands = s.demands ++ draft.stanza.demand?.toList := by
  let made := draft.build s.config.requestTimeout s.clock s.drawn
  have unresumed : (Change.give made.1).isVerdict = false := rfl
  rw [← draft.demand?_build s.config.requestTimeout s.clock s.drawn]
  exact demands_change { s with drawn := made.2 } unresumed

/-! ## What prompts the controller -/

/-- **What a session asks for** if it may ask. -/
def seeks? (s : Session) : Option Demand :=
  if s.canResume then some .resume else if s.properties.canBind then some .bind else none

end Session

/-- **What a session asks for with new features**, if it may ask: to be resumed if it can
be, and otherwise for a resource if the features offer to bind one. -/
def Session.seeksWith? (s : Session) (features : Element) : Option Demand :=
  if s.canResume then some .resume
  else if (features.child? "bind" Namespace.bind).isSome then some .bind
  else none

theorem Session.seeks?_setFeatures (s : Session) (features : Element) :
    (s.setProperty .stream Properties.featuresKey features).seeks? = s.seeksWith? features := by
  have hresumption : (s.setProperty .stream Properties.featuresKey features).resumption?
      = s.resumption? := s.properties.get?_set_of_ne .stream features (by decide)
  have hfeatures : (s.properties.set .stream Properties.featuresKey features).features?
      = some features := s.properties.get?_set_self .stream Properties.featuresKey features
  have hresume : (s.setProperty .stream Properties.featuresKey features).canResume
      = s.canResume := by
    rw [canResume, resumeInfo?, hresumption, canResume, resumeInfo?]
  have hbind : (s.setProperty .stream Properties.featuresKey features).properties.canBind
      = (features.child? "bind" Namespace.bind).isSome := by
    show (s.properties.set .stream Properties.featuresKey features).canBind = _
    rw [Properties.canBind, Properties.feature?, hfeatures, Option.bind_some]
  rw [seeks?, seeksWith?, hresume, hbind]

/-- **What an event prompts the controller to ask for.** -/
def Controller.prompt? (c : Controller) (s : Session) : Event → Option Demand
  | .features => if s.properties.authState = .succeeded then s.seeks? else none
  | .authSucceeded false false => s.seeks?
  | .managementFailed _ => if c.resuming then some .bind else none
  | _ => none

namespace Session

variable {s s' : Session}

theorem demands_bind (s : Session) : s.bind.2.demands = s.demands ++ [.bind] :=
  s.demands_send _

theorem demands_resumeOrBind (c : Controller) (s : Session) :
    (c.resumeOrBind s).2.demands = s.demands ++ s.seeks?.toList := by
  unfold Controller.resumeOrBind seeks?
  by_cases hresume : s.canResume = true
  · obtain ⟨⟨previd, h⟩, hinfo⟩ := Option.isSome_iff_exists.1 hresume
    rw [if_pos hresume, if_pos hresume]
    show s.resume.2.demands = _
    unfold Session.resume
    rw [hinfo]
    exact s.demands_write _
  · rw [if_neg hresume, if_neg hresume]
    split
    · exact s.demands_bind
    · exact (List.append_nil _).symm

/-- **A reaction asks for what it is prompted to**, and for nothing else. -/
theorem demands_react (c : Controller) (s : Session) (event : Event) :
    (c.react s event).2.demands = s.demands ++ (c.prompt? s event).toList := by
  have silently {s' : Session} {k : Nat} (steps : s.Steps Change.Silent k s') :
      s'.demands = s.demands ++ [] := by
    rw [steps.demands, List.append_nil]
  have routinely {s₀ s' : Session} {k : Nat} (steps : s₀.Steps Change.Routine k s')
      (h : s₀.demands = s.demands) : s'.demands = s.demands ++ [] := by
    rw [(steps.mono fun _ => Change.Routine.silent).demands, h, List.append_nil]
  cases event with
  | features =>
    unfold Controller.react Controller.prompt?
    cases s.properties.authState with
    | unknown => exact routinely (.getIn s _) rfl
    | succeeded => exact demands_resumeOrBind c s
    | inProgress => exact silently (.refl 0 s)
    | failed => exact silently (.refl 0 s)
  | authSucceeded restartRequired inlineBound =>
    cases restartRequired <;> cases inlineBound
    · exact demands_resumeOrBind c s
    · exact silently (.refl 0 s)
    · exact silently (.refl 0 s)
    · exact silently (.refl 0 s)
  | managementFailed condition =>
    unfold Controller.react Controller.prompt?
    dsimp only
    split
    · have cleared : s.Steps Change.Silent 0 (s.timeoutAll.clear .session) :=
        ((Steps.timeoutAll s).mono fun _ => Change.Routine.silent).step (.clear .session) rfl
          (Nat.le_refl _)
      rw [← cleared.demands]
      exact demands_bind _
    · exact silently (.refl 0 s)
  | authFailed e => exact routinely (.stop s _) rfl
  | bound jid inline => exact routinely (.settleIn s jid inline) rfl
  | bindFailed e => exact routinely (.fire s (.reconnect _ _ _) rfl rfl) rfl
  | resumed h previd => exact routinely (.fire s .ready rfl rfl) rfl
  | formReceived form => exact routinely (.submitForm s _) rfl
  | registered => exact silently (.one s .close rfl)
  | registrationFailed e => exact routinely (.stop s _) rfl
  | parseError message => exact routinely (.fire s (.reconnect _ _ _) rfl rfl) rfl
  | streamError condition text seeOtherHost =>
    exact routinely (.fire (s.clear .connection) (.reconnect _ _ _) rfl rfl) rfl
  | connector old new => exact silently ((Steps.followConnector s old new).mono fun _ h => h.1)
  | _ => exact silently (.refl 0 s)

/-! ## What is heard -/

/-- What is kept was kept before, whatever is heard. -/
theorem Hearing.mem_unconfirmed {heard? : Option Element} {change : Change} {entry : Entry}
    (clean : s.properties.Clean) (distinct : s.properties.Distinct)
    (hearing : s.Hearing heard? change) (hmem : entry ∈ (s.change change).unconfirmed) :
    entry ∈ s.unconfirmed := by
  obtain ⟨context', hs', hmem⟩ := exists_of_mem_unconfirmed hmem
  rcases hearing with aloof | ⟨e, heard, rules⟩
  · obtain ⟨context, hs, drifts⟩ := (calm_change clean distinct aloof).drifts hs'
    rw [unconfirmed_of_some hs, ← drifts.unacked]
    exact hmem
  · rcases rules.remains heard hs' with hnil | ⟨context, hs, hsuffix, -⟩
    · rw [hnil] at hmem
      cases hmem
    · rw [unconfirmed_of_some hs]
      exact hsuffix.subset hmem

/-- **What waits after a change** waited before, or was kept, or asks for what the change
asks for. -/
theorem mem_unsent_change {change : Change} {entry : Entry}
    (hmem : entry ∈ (s.change change).unsent) :
    entry ∈ s.unsent ∨ entry ∈ s.unconfirmed ∨ entry.stanza.demand? = change.demand? := by
  rw [unsent_change] at hmem
  refine (List.mem_append.1 hmem).imp_right fun hmem => ?_
  cases change with
  | write element | give request =>
    obtain rfl := List.mem_singleton.1 hmem
    exact .inr rfl
  | resume report =>
    dsimp only [adds] at hmem
    split at hmem
    · rename_i context hs
      rw [unconfirmed_of_some hs]
      exact .inl (List.mem_of_mem_drop hmem)
    · cases hmem
  | _ => cases hmem

/-- **Nothing new is asked**: what is kept has an old token, and so does what waits, or else
it asks for nothing. -/
structure Unasking (n : Nat) (s : Session) : Prop where
  clean : s.properties.Clean
  distinct : s.properties.Distinct
  kept : ∀ entry ∈ s.unconfirmed, entry.token < n
  waiting : ∀ entry ∈ s.unsent, entry.token < n ∨ entry.stanza.demand? = none

/-- It stays so while elements are heard and nobody asks for anything. -/
theorem Unasking.change {n : Nat} {heard? : Option Element} {change : Change} (h : s.Unasking n)
    (hearing : s.Hearing heard? change) (hdemand : change.demand? = none) :
    (s.change change).Unasking n := by
  have keepsOff : change.KeepsOff := by
    rcases hearing with aloof | ⟨e, -, rules⟩
    · exact aloof.keepsOff
    · exact rules.keepsOff
  refine ⟨clean_change h.clean keepsOff, distinct_change h.distinct change, fun entry hmem => ?_,
    fun entry hmem => ?_⟩
  · exact h.kept entry (hearing.mem_unconfirmed h.clean h.distinct hmem)
  · rcases mem_unsent_change hmem with hmem | hmem | heq
    · exact h.waiting entry hmem
    · exact .inl (h.kept entry hmem)
    · exact .inr (heq.trans hdemand)

end Session

/-! ## Reserved owners -/

/-- **Reserved changes**: aloof ones with which nobody asks for a session. -/
def Change.Reserved (change : Change) : Prop :=
  change.Aloof ∧ change.demand? = none

/-- **Reserved operations** of an owner who leaves it to the library to ask for a session. -/
def Operation.Reserved (op : Operation) : Prop :=
  op.Proper ∧ op.Within fun change => change.demand? = none

/-- Whoever writes nothing, sends nothing and calls no module is reserved. -/
theorem Operation.Reserved.of_mute {op : Operation}
    (mute : (op matches .write _ | .submit _ | .send _ | .call _) = false) : op.Reserved := by
  refine ⟨?_, ?_⟩
  · rintro changes rfl
    cases mute
  · cases op with
    | write _ | submit _ | send _ | call _ => cases mute
    | cancel key => rfl
    | connecting | connected _ | lost => exact fun _ _ => rfl
    | receive _ | process _ _ =>
      intro _ change hverdict
      cases change with
      | begin _ | enable _ | acknowledge _ | resume _ => rfl
      | _ => cases hverdict
    | _ => trivial

/-- In a reserved operation an element may be heard, and nothing is asked for. -/
theorem Operation.Reserved.hearing {op : Operation} (reserved : op.Reserved) {s : Session}
    {change : Change} (allowed : op.Allows Change.Reserved s change) :
    s.Hearing op.heard? change ∧ change.demand? = none := by
  refine ⟨reserved.1.hearing ?_, ?_⟩
  · exact allowed.imp_right fun hrest => hrest.imp_left And.left
  · rcases allowed with silent | hreserved | brings
    · exact silent.demand?
    · exact hreserved.2
    · exact reserved.2.brings rfl brings

/-! ## Asking in the course of a life -/

/-- What a frame asks for, if it asks for a session. -/
def Frame.demand? : Frame → Option Demand
  | .element entry => entry.stanza.demand?
  | .restart | .close | .failed _ => none

namespace Client

/-- **What a client is prompted to ask for** by the event it reacts to next, if it has come
to that. -/
def prompt? (c : Client) : Option Demand :=
  match c.session.outbox, c.session.events with
  | [], event :: _ => c.controller.prompt? c.session event
  | _, _ => none

/-- At rest there is nothing to react to. -/
theorem AtRest.prompt? {c : Client} (h : c.AtRest) : c.prompt? = none := by
  rw [Client.prompt?, h.1, h.2]

/-- **What is asked for since** a client was another: by the elements that wait and whose
tokens were not made then. -/
def askedSince (c₀ c : Client) : List Demand :=
  (c.session.unsent.filter fun entry => c₀.session.issued ≤ entry.token).filterMap
    (·.stanza.demand?)

/-- What is asked for by the elements that were handed over since. -/
def demandedSince (c₀ c : Client) : List Demand :=
  (c.wire.drop c₀.wire.length).filterMap Frame.demand?

variable {c₀ c : Client}

theorem askedSince_eq_nil
    (h : ∀ entry ∈ c.session.unsent,
      entry.token < c₀.session.issued ∨ entry.stanza.demand? = none) :
    c₀.askedSince c = [] := by
  refine List.filterMap_eq_nil_iff.2 fun entry hmem => ?_
  obtain ⟨hmem, hnew⟩ := List.mem_filter.1 hmem
  exact (h entry hmem).resolve_left (Nat.not_lt.2 (of_decide_eq_true hnew))

theorem askedSince_eq_demands (h : ∀ entry ∈ c.session.unsent, c₀.session.issued ≤ entry.token) :
    c₀.askedSince c = c.session.demands := by
  rw [askedSince, List.filter_eq_self.2 fun entry hmem => decide_eq_true (h entry hmem)]
  rfl

end Client

namespace Life

variable {a b : Life}

/-- What is kept or waits has a token that was made. -/
theorem Sound.token_lt (sound : a.Sound) {entry : Entry}
    (h : entry ∈ a.client.session.unconfirmed ∨ entry ∈ a.client.session.unsent) :
    entry.token < a.client.session.issued := by
  have made {state : State} (hstate : a.client.session.board.state? entry.token = some state) :
      entry.token < a.client.session.issued :=
    (List.getElem?_eq_some_iff.1 hstate).1
  rcases h with hkept | hwaits
  · exact made (sound.consistent.sent entry hkept)
  · exact (sound.consistent.waiting entry hwaits).elim made made

/-- **A life goes on with a reserved owner**: the client begins with a reserved operation
when it is at rest, and goes on by itself when it is not. -/
inductive Proceeds (a : Life) : Life → Prop
  /-- The client begins with an operation. -/
  | begin (op : Operation) (atRest : a.client.AtRest) (reserved : op.Reserved) :
      Proceeds a
        { a with client := a.client.prepare op, forgone := a.forgone ++ a.client.givenUp op }
  /-- The client goes on. -/
  | work {heard? : Option Element} {b : Life} (goes : a.Goes heard? b) (busy : ¬ a.client.AtRest) :
      Proceeds a b

theorem Proceeds.goes (proceeds : a.Proceeds b) : ∃ heard?, a.Goes heard? b := by
  cases proceeds with
  | begin op atRest reserved => exact ⟨_, .prepare op atRest reserved.1⟩
  | work goes busy => exact ⟨_, goes⟩

/-- The modules of the application stay what they are. -/
theorem Proceeds.catalogue (proceeds : a.Proceeds b) :
    b.client.session.catalogue = a.client.session.catalogue := by
  obtain ⟨heard?, goes⟩ := proceeds.goes
  cases goes with
  | prepare op atRest proper =>
    exact (Session.Course.prepare a.client op (Catalogue.within_aloof _)).catalogue
  | deliver ho => exact Client.catalogue_deliver _ _
  | react ho he => exact Client.catalogue_handleEvent _ _

/-- An operation of a reserved owner asks for nothing. -/
theorem Sound.askedSince_prepare (sound : a.Sound)
    (modules : a.client.session.catalogue.Within Change.Reserved) {op : Operation}
    (atRest : a.client.AtRest) (reserved : op.Reserved) :
    a.client.askedSince (a.client.prepare op) = [] := by
  have hunsent : a.client.session.unsent = [] := by
    rw [Session.unsent, atRest.1]
    rfl
  have start : a.client.session.Unasking a.client.session.issued :=
    ⟨sound.clean, sound.distinct, fun entry hmem => sound.token_lt (.inl hmem),
      by rw [hunsent]; exact List.forall_mem_nil _⟩
  have unasking : (a.client.prepare op).session.Unasking a.client.session.issued :=
    (Session.Course.prepare a.client op modules).invariant start fun _ _ allowed h =>
      h.change (reserved.hearing allowed).1 (reserved.hearing allowed).2
  exact Client.askedSince_eq_nil unasking.waiting

/-- What is handed over waited before. -/
theorem Sound.askedSince_deliver (sound : a.Sound) {item : Outgoing} {rest : List Outgoing}
    (ho : a.client.session.outbox = item :: rest) :
    a.client.askedSince ((a.client.withOutbox rest).deliver item) = [] := by
  have houtbox : ((a.client.withOutbox rest).deliver item).session.outbox = rest :=
    Client.outbox_deliver _ _
  refine Client.askedSince_eq_nil fun entry hmem => .inl (sound.token_lt (.inr ?_))
  rw [Session.unsent, houtbox] at hmem
  rw [Session.unsent, ho]
  exact ((List.sublist_cons_self item rest).filterMap _).subset hmem

/-- A reaction asks for what the client is prompted to ask for. -/
theorem Sound.askedSince_react (sound : a.Sound) {event : Event} {rest : List Event}
    (ho : a.client.session.outbox = []) :
    a.client.askedSince ((a.client.withEvents rest).handleEvent event)
      = (a.client.controller.prompt? (a.client.withEvents rest).session event).toList := by
  have hunsent : (a.client.withEvents rest).session.unsent = [] := by
    show a.client.session.outbox.filterMap _ = []
    rw [ho]
    rfl
  have clean : (a.client.withEvents rest).session.properties.Clean := sound.clean
  obtain ⟨written, hwritten, hissued⟩ :=
    (Session.drifts_react clean a.client.controller event).unsent
  rw [hunsent, List.nil_append] at hwritten
  have hnew : ∀ entry ∈ ((a.client.withEvents rest).handleEvent event).session.unsent,
      a.client.session.issued ≤ entry.token :=
    fun entry hmem => (hissued.bounds entry (hwritten ▸ hmem)).1
  rw [Client.askedSince_eq_demands hnew]
  show (a.client.controller.react (a.client.withEvents rest).session event).2.demands = _
  rw [Session.demands_react, Session.demands, hunsent]
  rfl

/-- **What is asked for as a life goes on** is what the client is prompted to ask for. -/
theorem Proceeds.askedSince (proceeds : a.Proceeds b) (sound : a.Sound)
    (modules : a.client.session.catalogue.Within Change.Reserved) :
    a.client.askedSince b.client = a.client.prompt?.toList := by
  cases proceeds with
  | begin op atRest reserved =>
    rw [atRest.prompt?]
    exact sound.askedSince_prepare modules atRest reserved
  | work goes busy =>
    cases goes with
    | prepare op atRest proper => exact absurd atRest busy
    | deliver ho =>
      rw [Client.prompt?, ho]
      exact sound.askedSince_deliver ho
    | react ho he =>
      rw [Client.prompt?, ho, he]
      exact sound.askedSince_react ho

/-- **Asking in the course of a life** with a reserved owner: what is asked for on the way
from one point to another, and what the client is prompted to ask for. -/
inductive Asks (a : Life) : List Demand → List Demand → Life → Prop
  /-- Nothing happens. -/
  | refl : Asks a [] [] a
  /-- The life goes on. -/
  | step {asked prompted : List Demand} {b c : Life} (asks : Asks a asked prompted b)
      (proceeds : b.Proceeds c) :
      Asks a (asked ++ b.client.askedSince c.client) (prompted ++ b.client.prompt?.toList) c

namespace Asks

variable {asked prompted : List Demand}

/-- Whoever asks leads a life. -/
theorem leads (asks : a.Asks asked prompted b) : a.Leads b := by
  induction asks with
  | refl => exact .refl
  | step _ proceeds ih => exact ih.tail proceeds.goes

theorem catalogue (asks : a.Asks asked prompted b) :
    b.client.session.catalogue = a.client.session.catalogue := by
  induction asks with
  | refl => rfl
  | step _ proceeds ih => exact proceeds.catalogue.trans ih

/-- Both logs grow by what the client is prompted to ask for. -/
theorem proceed (asks : a.Asks asked prompted b) (lived : a.Lived)
    (modules : a.client.session.catalogue.Within Change.Reserved) {c : Life}
    (proceeds : b.Proceeds c) :
    a.Asks (asked ++ b.client.prompt?.toList) (prompted ++ b.client.prompt?.toList) c := by
  have sound := (lived.trans asks.leads).sound
  have asks' := asks.step proceeds
  rwa [proceeds.askedSince sound (asks.catalogue ▸ modules)] at asks'

/-- **What is asked for is what the client is prompted to ask for.** -/
theorem eq (asks : a.Asks asked prompted b) (lived : a.Lived)
    (modules : a.client.session.catalogue.Within Change.Reserved) : asked = prompted := by
  induction asks with
  | refl => rfl
  | step asks proceeds ih =>
    have sound := (lived.trans asks.leads).sound
    rw [ih, proceeds.askedSince sound (asks.catalogue ▸ modules)]

/-- Moves are part of it. -/
theorem moves (asks : a.Asks asked prompted b) {log : List Request} {c : Client}
    (moves : Client.Moves b.client log c) :
    ∃ asked' prompted' d, a.Asks asked' prompted' d ∧ d.client = c := by
  induction moves with
  | refl => exact ⟨_, _, b, asks, rfl⟩
  | deliver _ ho ih =>
    obtain ⟨_, _, d, asks, rfl⟩ := ih
    have busy : ¬ d.client.AtRest := fun atRest => by cases ho.symm.trans atRest.1
    exact ⟨_, _, _, asks.step (.work (.deliver ho) busy), rfl⟩
  | react _ ho he ih =>
    obtain ⟨_, _, d, asks, rfl⟩ := ih
    have busy : ¬ d.client.AtRest := fun atRest => by cases he.symm.trans atRest.2
    exact ⟨_, _, _, asks.step (.work (.react ho he) busy), rfl⟩

/-- **So is every run of reserved operations.** -/
theorem operations (asks : a.Asks asked prompted b) (atRest : b.client.AtRest)
    (ops : List Operation) (reserved : ∀ op ∈ ops, op.Reserved) :
    ∃ asked' prompted' c, a.Asks asked' prompted' c
      ∧ c.client = ops.foldl Client.operate b.client := by
  induction ops generalizing asked prompted b with
  | nil => exact ⟨_, _, b, asks, rfl⟩
  | cons op rest ih =>
    obtain ⟨log, moves⟩ := Client.Moves.run (b.client.prepare op)
    have begun := asks.step (.begin op atRest (reserved op List.mem_cons_self))
    obtain ⟨_, _, c, asks', hc⟩ := begun.moves moves
    have hoperate : c.client = b.client.operate op := by
      rw [hc, Client.operate_eq atRest]
    obtain ⟨asked'', prompted'', d, asks'', hd⟩ := ih asks' (hoperate ▸ atRest.operate op)
      fun other hmem => reserved other (List.mem_cons_of_mem _ hmem)
    exact ⟨asked'', prompted'', d, asks'', by rw [hd, hoperate, List.foldl_cons]⟩

/-- **Whoever is logged in and hears features asks again**, whatever was asked before. -/
theorem features (asks : a.Asks asked prompted b) (lived : a.Lived)
    (modules : a.client.session.catalogue.Within Change.Reserved) {features : Element}
    (reachable : b.client.Reachable)
    (hauth : b.client.session.properties.authState = .succeeded)
    (isFeatures : features.is "features" Namespace.stream = true)
    (entrusted : b.client.modules.Entrusts .streamFeatures features) :
    ∃ c, a.Asks (asked ++ (b.client.session.seeksWith? features).toList)
        (prompted ++ (b.client.session.seeksWith? features).toList) c
      ∧ c.client.run = b.client.receive features := by
  have atRest := reachable.atRest
  have reserved : (Operation.receive features).Reserved := .of_mute rfl
  let s := b.client.session.setProperty .stream Properties.featuresKey features
  -- first the features are heard, and nothing is asked for
  let heard : Life :=
    { b with
      client := b.client.prepare (.receive features)
      forgone := b.forgone ++ b.client.givenUp (.receive features) }
  have begun : b.Proceeds heard := .begin (.receive features) atRest reserved
  have hsession : heard.client.session = s.fire .features :=
    reachable.take_features isFeatures entrusted
  have ho : heard.client.session.outbox = [] := by
    rw [hsession]
    exact atRest.1
  have he : heard.client.session.events = [.features] := by
    rw [hsession]
    show b.client.session.events ++ _ = _
    rw [atRest.2]
    rfl
  have hprompt : heard.client.prompt? = b.client.session.seeksWith? features := by
    have hstate : s.properties.authState = .succeeded :=
      (b.client.session.properties.authState_set_features features).trans hauth
    rw [Client.prompt?, ho, he, hsession]
    show (if s.properties.authState = .succeeded then s.seeks? else none) = _
    rw [if_pos hstate]
    exact b.client.session.seeks?_setFeatures features
  -- then the controller reacts to them
  have busy : ¬ heard.client.AtRest := fun atRest => by cases he.symm.trans atRest.2
  have reacts : heard.Proceeds _ := .work (.react ho he) busy
  have asks' := (asks.proceed lived modules begun).proceed lived modules reacts
  rw [atRest.prompt?, hprompt, Option.toList_none, List.append_nil, List.append_nil] at asks'
  refine ⟨_, asks', ?_⟩
  show ((heard.client.withEvents []).handleEvent .features).run
    = b.client.operate (.receive features)
  rw [Client.operate_eq atRest, ← Client.run_react ho he]

end Asks

/-- **A client asks when it is prompted**, and at no other time: in every life with a
reserved owner it asks for what it is prompted to ask for, once each and in that order. But
whoever is logged in and hears the features of the stream is prompted, whatever was asked
for before. -/
theorem asked_as_prompted {asked prompted : List Demand} (lived : a.Lived)
    (modules : a.client.session.catalogue.Within Change.Reserved)
    (asks : a.Asks asked prompted b) :
    asked = prompted
      ∧ ∀ features : Element, b.client.Reachable →
        b.client.session.properties.authState = .succeeded →
        features.is "features" Namespace.stream = true →
        b.client.modules.Entrusts .streamFeatures features →
          ∃ c, a.Asks (asked ++ (b.client.session.seeksWith? features).toList)
              (prompted ++ (b.client.session.seeksWith? features).toList) c
            ∧ c.client.run = b.client.receive features :=
  ⟨asks.eq lived modules, fun _ => asks.features lived modules⟩

namespace Rehearsal

open Client.Rehearsal

/-- Features that offer to log in, and to bind a resource and enable stream management along
with that. -/
def offersAlong : Element where
  name := "features"
  ns := Namespace.stream
  content := Element.nodes
    [{ name := "authentication"
       ns := Namespace.sasl2
       content := Element.nodes
        [.ofText "mechanism" Namespace.sasl2 "PLAIN",
          { name := "inline"
            ns := Namespace.sasl2
            content := Element.nodes
              [{ name := "bind"
                 ns := Namespace.bind2
                 content := Element.nodes
                  [{ name := "inline"
                     ns := Namespace.bind2
                     content := Element.nodes
                      [{ name := "feature"
                         ns := Namespace.bind2
                         attributes := [("var", Namespace.streamManagement)] }] }] }] }] }]

/-- The server welcomes the login, has bound a resource and enabled stream management. -/
def welcomesAlong : Element where
  name := "success"
  ns := Namespace.sasl2
  content := Element.nodes
    [.ofText "authorization-identifier" Namespace.sasl2 "juliet@capulet.lit/balcony",
      { name := "bound", ns := Namespace.bind2, content := Element.nodes [enables] }]

/-- Features of the stream after that, which offer nothing. -/
def offersNothing : Element where
  name := "features"
  ns := Namespace.stream

/-- Connecting with the built-in modules. -/
def calls : List Operation :=
  [.install (ModuleId.builtIn.map (Descriptor.default [])), .connecting, .connected {}]

/-- Logging in and starting a session along with that. -/
def arrives : List Operation :=
  calls ++ [.receive offersAlong, .receive welcomesAlong]

/-- Logging in first and asking for a resource then. -/
def applies : List Operation :=
  calls ++ [.receive offersLogin, .receive welcomes, .receive offersManagement]

/-- A client that has a session. -/
def resident : Client :=
  arrives.foldl Client.operate (.blank account [])

theorem reachable_resident : resident.Reachable := by
  refine Client.Reachable.foldl_operate ⟨_, _, _, _, .start⟩ _ fun op hop =>
    Operation.within_sound ?_
  exact List.all_eq_true.1 (by decide) op hop

theorem reserved_of_mem {op : Operation} {ops : List Operation}
    (h : ops.all (fun op => !op matches .write _ | .submit _ | .send _ | .call _) = true)
    (hmem : op ∈ ops) : op.Reserved :=
  .of_mute (by simpa using List.all_eq_true.1 h op hmem)

end Rehearsal

open Rehearsal Client.Rehearsal

/-- In the rehearsal a client that has a session asks to resume it. -/
theorem asked_as_prompted_rehearsal :
    ∃ (a b c : Life) (asked : List Demand), a.Lived ∧ a.Asks asked asked b
      ∧ b.client = resident ∧ a.Asks (asked ++ [.resume]) (asked ++ [.resume]) c
      ∧ c.client.run = resident.receive offersNothing := by
  have lived : Life.Lived ⟨.blank account [], [], []⟩ := ⟨account, [], .refl⟩
  have modules : Catalogue.Within Change.Reserved [] :=
    fun _ hmem => absurd hmem List.not_mem_nil
  obtain ⟨asked, prompted, b, asks, hb⟩ := Asks.refl.operations (a := ⟨.blank account [], [], []⟩)
    (Client.atRest_blank account []) arrives fun op => reserved_of_mem (by decide)
  have hb : b.client = resident := hb
  obtain ⟨rfl, hfeatures⟩ := asked_as_prompted lived modules asks
  obtain ⟨c, asks', hc⟩ := hfeatures offersNothing (hb ▸ reachable_resident)
    (by rw [hb]; decide +kernel) (by decide)
    (by rw [hb]; unfold Modules.Entrusts; decide +kernel)
  have hseeks : b.client.session.seeksWith? offersNothing = some .resume := by
    rw [hb]
    decide +kernel
  rw [hseeks] at asks'
  exact ⟨_, b, c, asked, lived, asks, hb, asks', by rw [hc, hb]⟩

/-- **A client may ask twice on one connection**: to resume the session it has there, and
for another resource while it waits for the first. -/
theorem not_forall_asks_once :
    (¬ ∀ (config : Config) (ops : List Operation) (e : Element), (∀ op ∈ ops, op.Reserved) →
        let c := ops.foldl Client.operate (.blank config [])
        c.connector = .connected → c.session.managementStatus? = some .active →
          Demand.resume ∉ c.demandedSince (c.receive e))
      ∧ ¬ ∀ (config : Config) (ops : List Operation) (e : Element), (∀ op ∈ ops, op.Reserved) →
        let c := ops.foldl Client.operate (.blank config [])
        c.connector = .connected →
          (∃ r ∈ c.session.registry.requests, r.isCompleted = false
            ∧ r.stanza.demand? = some .bind) →
          c.demandedSince (c.receive e) = [] := by
  constructor
  · intro h
    refine h account arrives offersNothing (fun op => reserved_of_mem (by decide))
      (by decide +kernel) (by decide +kernel) ?_
    decide +kernel
  · intro h
    have hwaits : ((applies.foldl Client.operate (.blank account [])).session.registry.requests.any
        fun r => !r.isCompleted && r.stanza.demand? == some .bind) = true := by
      decide +kernel
    obtain ⟨r, hmem, hr⟩ := List.any_eq_true.1 hwaits
    have hnothing := h account applies offersManagement (fun op => reserved_of_mem (by decide))
      (by decide +kernel) ⟨r, hmem, by simpa using hr⟩
    revert hnothing
    decide +kernel

end Life

end Xmpp
