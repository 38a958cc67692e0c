import Xmpp.Proofs.Delivery.Coherence
import Xmpp.Proofs.Session.Housing

/-!
# When the connection is lost

A client whose connection goes away does one of two things, and `Client.keeps_or_ends`
says that there is no third. If the stream was not being closed and the session can be
resumed, the session is kept as it is (`Client.Suspended`): what waits for a reply goes
on waiting, what is not confirmed stays where it is, and only what belongs to the
connection is forgotten. Otherwise the session ends (`Client.Ended`): every handler that
waits learns once that no reply came in time, what is not confirmed is dropped, and
nothing of the session is remembered. Either way nothing is written.

The session is held in several places, and each could keep a piece by itself. The
registry has the requests and the address replies are judged by; the properties have the
resumable session, the bound address, the state of the login and the stream features,
each in a scope of its own; the board has the tokens. That clearing a scope takes along
what it should rests on where the properties live (`Properties.Housed`), that no other
token is dropped with it on contexts being in their place, and that the handlers cannot
undo any of it on what they publish: the failures of the library lead to announcements
and nothing else.
-/

namespace Xmpp

open Delivery Resumption

/-! ## Failing requests -/

/-- **An error is told to all handlers**, and no transformation runs. -/
theorem Pipeline.run_error (p : Pipeline) (e : RequestError) :
    p.run (.error e) = (.error e, p.handlers.flatMap (·.effects (.error e))) := by
  induction p with
  | reply => rfl
  | respond before handler ih =>
    rw [run, ih, handlers, List.flatMap_append, List.flatMap_singleton]
  | map before mark transform ih => rw [run, ih, handlers]
  | tryMap before mark transform ih => rw [run, ih, handlers]

/-- Failing a request tells its handlers. -/
theorem Request.effectsOf_fail (r : Request) (e : RequestError) :
    effectsOf (r.complete? (.error e)) = r.handlers.flatMap (·.effects (.error e)) := by
  unfold complete? handlers
  cases r.pipeline with
  | none => rfl
  | some p => exact congrArg (·.2) (p.run_error e)

theorem Request.effectsOf_expire? (r : Request) :
    effectsOf r.expire? = r.handlers.flatMap (·.effects (.error .timeout)) :=
  r.effectsOf_fail .timeout

/-- The events a handler publishes are those of its effects. -/
theorem Handler.filterMap_event?_effects (handler : Handler) (outcome : Outcome) :
    (handler.effects outcome).filterMap Effect.event? = handler.events outcome := by
  have hfired (events : List Event) : (events.map Effect.fired).filterMap Effect.event? = events := by
    rw [List.filterMap_map]
    exact List.filterMap_some
  cases handler with
  | waiter ticket => rfl
  | _ => exact hfired _

/-- **A request is quiet if its handlers of the application are.** Those of the library
announce the failure, and nothing comes of it. -/
theorem Request.isQuiet_of_listeners {r : Request}
    (h : ∀ handler ∈ r.handlers, handler.isListener = true →
      (handler.events (.error .timeout)).all Event.isIdle = true) : r.isQuiet = true := by
  have hidle : ∀ handler ∈ r.handlers, (handler.events (.error .timeout)).all Event.isIdle = true := by
    intro handler hmem
    cases handler with
    | listener mark publish => exact h _ hmem rfl
    | _ => rfl
  refine List.all_eq_true.2 fun e hmem => ?_
  rw [effectsOf_expire?, List.filterMap_flatMap] at hmem
  obtain ⟨handler, hhandler, he⟩ := List.mem_flatMap.1 hmem
  rw [handler.filterMap_event?_effects] at he
  exact List.all_eq_true.1 (hidle handler hhandler) e he

namespace Session

/-- **What failing all requests does**: each handler that waits for one of them is told
once that no reply came in time. -/
def timeouts (s : Session) : List Effect :=
  s.registry.requests.flatMap fun r => r.handlers.flatMap (·.effects (.error .timeout))

/-- **What the handlers that wait announce** if every request fails with a timeout. -/
def laments (s : Session) : List Event :=
  s.registry.requests.flatMap fun r => r.handlers.flatMap (·.events (.error .timeout))

/-- **What is published as every request fails**: the failures, and then what the
controller says about them. -/
def aftermath (s : Session) : List Event :=
  s.laments ++ s.laments.filterMap Event.echo?

/-- The laments are what the effects of failing all requests publish. -/
theorem filterMap_event?_timeouts (s : Session) :
    s.timeouts.filterMap Effect.event? = s.laments := by
  unfold timeouts laments
  rw [List.filterMap_flatMap]
  congr 1
  funext r
  rw [List.filterMap_flatMap]
  congr 1
  funext handler
  exact handler.filterMap_event?_effects _

/-- **Failing all requests** empties the registry, and tells all who wait. -/
theorem timeoutAll_eq (s : Session) :
    s.timeoutAll =
      ({ s with registry := { s.registry with requests := [] } } : Session).perform s.timeouts := by
  have heffects : ∀ requests : List Request,
      (requests.filterMap Request.expire?).flatMap (·.2) =
        requests.flatMap fun r => r.handlers.flatMap (·.effects (.error .timeout)) := by
    intro requests
    induction requests with
    | nil => rfl
    | cons r rest ih =>
      rw [List.flatMap_cons, ← r.effectsOf_expire?]
      cases h : r.expire? with
      | none => exact (congrArg _ (List.filterMap_cons_none h)).trans ih
      | some result =>
        rw [List.filterMap_cons_some h, List.flatMap_cons, ih]
        rfl
  have hall : s.registry.requests.filter (fun _ => true) = s.registry.requests :=
    List.filter_eq_self.2 fun _ _ => rfl
  have hnone : s.registry.requests.filter (fun _ => !true) = [] :=
    List.filter_eq_nil_iff.2 fun _ _ => by decide
  show ({ s with registry := _ } : Session).perform
    ((((s.registry.requests.filter fun _ => true).filterMap Request.expire?).flatMap (·.2))) = _
  rw [hall, heffects]
  exact congrArg (fun requests =>
    ({ s with registry := { s.registry with requests } } : Session).perform s.timeouts) hnone

/-- The board of a session whose resumable session was forgotten. -/
theorem board_resetManagement (s : Session) :
    s.resetManagement.board = s.board.setAll s.unconfirmed .dropped := by
  unfold resetManagement
  rw [abandonResumption_eq]
  rfl

/-- Forgetting the resumable session is a matter of the properties and the board. -/
theorem properties_resetManagement (s : Session) :
    s.resetManagement.properties =
      if s.resumption?.isSome then s.properties.erase Properties.resumptionKey
      else s.properties := by
  unfold resetManagement abandonResumption
  rw [resumption?_mark]
  split <;> rfl

/-- Nobody but the properties and the board knows that the resumable session was forgotten,
and these need to know nothing else. -/
theorem resetManagement_congr {s s' : Session} (properties : s'.properties = s.properties)
    (board : s'.board = s.board) :
    s'.resetManagement.properties = s.resetManagement.properties ∧
      s'.resetManagement.board = s.resetManagement.board := by
  have hresumption : s'.resumption? = s.resumption? := congrArg (·.resumption?) properties
  have hunconfirmed : s'.unconfirmed = s.unconfirmed := by
    unfold unconfirmed
    rw [hresumption]
  rw [properties_resetManagement, properties_resetManagement, board_resetManagement,
    board_resetManagement, hresumption, hunconfirmed, properties, board]
  exact ⟨rfl, rfl⟩

/-- **What is left of a session that ended.** -/
theorem wrapUp_eq (s : Session) :
    s.wrapUp =
      { s with
        registry := { requests := [], ownJid := some s.config.jid }
        properties := s.resetManagement.properties.clear .session
        board := (s.resetManagement.clear .session).board
        events := s.events ++ s.timeouts.filterMap Effect.event?
        settled := s.settled ++ s.timeouts.filterMap Effect.settled?
        notes := s.notes ++ s.timeouts.filterMap Effect.note? } := by
  have htimeout := s.timeoutAll_eq
  rw [perform_eq] at htimeout
  have hforget : s.timeoutAll.resetManagement.properties = s.resetManagement.properties ∧
      s.timeoutAll.resetManagement.board = s.resetManagement.board := by
    rw [htimeout]
    exact resetManagement_congr rfl rfl
  unfold wrapUp
  rw [resetManagement_eq, hforget.1, hforget.2, htimeout]
  rfl

variable {s : Session}

/-- The failures of the requests are all there is to tell of a session that ends. -/
theorem events_wrapUp (s : Session) : s.wrapUp.events = s.timeoutAll.events := by
  rw [wrapUp_eq, timeoutAll_eq, perform_eq]

/-- With no event before them, these are the laments. -/
theorem events_timeoutAll (h : s.events = []) : s.timeoutAll.events = s.laments := by
  rw [timeoutAll_eq, perform_eq]
  show s.events ++ _ = _
  rw [h, List.nil_append, filterMap_event?_timeouts]

/-- Forgetting the resumable session leaves the rest of the properties in their places. -/
theorem resetManagement_kept (clean : s.properties.Clean) (distinct : s.properties.Distinct)
    (housed : s.properties.Housed) :
    s.resetManagement.properties.Clean ∧ s.resetManagement.properties.Distinct ∧
      s.resetManagement.properties.Housed := by
  rw [properties_resetManagement]
  split
  · exact ⟨clean.erase _, distinct.erase _, housed.erase _⟩
  · exact ⟨clean, distinct, housed⟩

/-- **A session that ends drops what was not confirmed**, and nothing else. -/
theorem board_wrapUp (clean : s.properties.Clean) (distinct : s.properties.Distinct)
    (housed : s.properties.Housed) :
    s.wrapUp.board = s.board.setAll s.unconfirmed .dropped := by
  obtain ⟨hclean, hdistinct, -⟩ := resetManagement_kept clean distinct housed
  -- the resumable session is gone already when the scope is cleared
  have hnothing : (s.resetManagement.properties.cleared .session).flatMap keptBy = [] := by
    rw [Properties.flatMap_keptBy_cleared hdistinct hclean (by decide)]
    rw [show s.resetManagement.properties.resumption? = none from s.resumption?_resetManagement]
  rw [wrapUp_eq]
  show s.resetManagement.board.setAll (List.flatMap _ _) .dropped = _
  rw [hnothing, board_resetManagement]
  rfl

end Session

/-! ## Keeping a session and ending it -/

/-- **A session that can be resumed**: it was enabled, with a name and with the leave of the
server. -/
def Session.Resumable (s : Session) : Prop :=
  ∃ context, s.resumption? = some context ∧
    (context.status = .active ∨ context.status = .inactive) ∧
    context.resume = true ∧ context.id.isSome = true

theorem Session.canResume_iff (s : Session) : s.canResume = true ↔ s.Resumable := by
  unfold canResume resumeInfo? Resumable
  cases hs : s.resumption? with
  | none => simp
  | some context =>
    show context.resumeInfo?.isSome = true ↔ _
    unfold Context.resumeInfo?
    cases hstatus : context.status <;> cases hresume : context.resume <;> simp_all

namespace Client

/-- **The session is kept**, all but what belongs to the connection. -/
structure Suspended (c c' : Client) : Prop where
  /-- The requests go on waiting, and replies are judged as before. -/
  registry : c'.session.registry = c.session.registry
  /-- Nobody is told anything. -/
  notes : c'.session.notes = c.session.notes
  /-- No future is settled. -/
  settled : c'.session.settled = c.session.settled
  /-- Only the loss of the connection is published. -/
  published : c'.published = c.published ++ [.connector c.connector .disconnected]
  /-- The resumable session keeps its name, both counters and its queue, and waits. -/
  resumption : ∃ context, c.session.resumption? = some context ∧
    c'.session.resumption? = some { context with status := .inactive }
  /-- No token changes its state. -/
  board : c'.session.board = c.session.board
  /-- The session is bound to the same address. -/
  bound : c'.session.properties.boundJid? = c.session.properties.boundJid?
  /-- The login has to start over. -/
  auth : c'.session.properties.authState = .unknown
  /-- The stream features are forgotten. -/
  features : c'.session.properties.features? = none

/-- **The session is over**, and nothing of it is left. -/
structure Ended (c c' : Client) : Prop where
  /-- No request waits any more. -/
  requests : c'.session.registry.requests = []
  /-- Each handler that waited was called once, in the order of the keys, with the failure
  of a request that was not answered in time. -/
  notes : c'.session.notes = c.session.notes ++ c.session.timeouts.filterMap Effect.note?
  /-- Each future that waited was settled once, in the same way. -/
  settled :
    c'.session.settled = c.session.settled ++ c.session.timeouts.filterMap Effect.settled?
  /-- The loss of the connection is published, then what the handlers that waited announced, and
  then what the controller says about that. -/
  published : c'.published
    = c.published ++ .connector c.connector .disconnected :: c.session.aftermath
  /-- What was not confirmed is dropped. -/
  dropped : ∀ entry ∈ c.session.unconfirmed,
    c'.session.board.state? entry.token = some .dropped
  /-- All other tokens stay in their states. -/
  others : ∀ token ∉ c.session.unconfirmed.map (·.token),
    c'.session.board.state? token = c.session.board.state? token
  /-- There is nothing to resume. -/
  resumption : c'.session.resumption? = none
  /-- The session is bound to no address. -/
  bound : c'.session.properties.boundJid? = none
  /-- The login has to start over. -/
  auth : c'.session.properties.authState = .unknown
  /-- The stream features are forgotten. -/
  features : c'.session.properties.features? = none
  /-- Replies are judged by the address of the configuration. -/
  ownJid : c'.session.registry.ownJid = some c.session.config.jid

/-- **Nothing is written**: no transport is asked for anything, no element is made, and none
waits. -/
structure WritesNothing (c c' : Client) : Prop where
  /-- What transports were asked for. -/
  wire : c'.wire = c.wire
  /-- The tokens made so far. -/
  issued : c'.session.issued = c.session.issued
  /-- The ids drawn so far. -/
  drawn : c'.session.drawn = c.session.drawn
  /-- Nothing is left to do. -/
  atRest : c'.AtRest

variable {c : Client}

/-- **The loss of a connection** is news to the controller, and then the client comes to
rest. -/
theorem lost_eq (atRest : c.AtRest) (attached : c.connector ≠ .disconnected) :
    c.lost = ({ c with
      transport := none
      connector := .disconnected
      session := c.session.followConnector c.connector .disconnected
      published := c.published ++ [.connector c.connector .disconnected] } : Client).run := by
  let news : Event := .connector c.connector .disconnected
  have hset : ({ c with transport := none } : Client).setConnector .disconnected =
      { c with transport := none, connector := .disconnected, session := c.session.fire news } :=
    if_neg attached
  have hevents : (c.session.fire news).events = [news] := by
    show c.session.events ++ _ = _
    rw [atRest.2, List.nil_append]
  have hempty : (c.withEvents []).session = c.session := by
    rw [← atRest.2]
    rfl
  have hrun := run_react (c := { c with
    transport := none, connector := .disconnected, session := c.session.fire news })
    atRest.1 hevents
  rw [lost, hset, hrun]
  exact congrArg (fun s : Session => ({ c with
    transport := none
    connector := .disconnected
    session := s.followConnector c.connector .disconnected
    published := c.published ++ [news] } : Client).run) hempty

/-- **A session that can be resumed is kept.** -/
theorem suspended (atRest : c.AtRest) (clean : c.session.properties.Clean)
    (housed : c.session.properties.Housed) (attached : c.connector ≠ .disconnected)
    (opened : c.connector ≠ .disconnecting) (resumable : c.session.Resumable) :
    c.WritesNothing c.lost ∧ c.Suspended c.lost := by
  have hcan := c.session.canResume_iff.2 resumable
  have hfollow : c.session.followConnector c.connector .disconnected = c.session.suspend :=
    if_neg fun h => h.elim opened fun h => by rw [h] at hcan; cases hcan
  -- nothing is left to do, so the client is at rest already
  have hlost : c.lost = { c with
      transport := none
      connector := .disconnected
      session := c.session.suspend
      published := c.published ++ [.connector c.connector .disconnected] } := by
    rw [lost_eq atRest attached, hfollow]
    exact AtRest.run ⟨atRest.1, atRest.2⟩
  have hclean : c.session.deactivateManagement.properties.Clean := clean.modify _
  have hhoused : c.session.deactivateManagement.properties.Housed := housed.modify _ _
  have hboard : c.session.suspend.board = c.session.board :=
    congrArg (c.session.board.setAll · .dropped) (hclean.keptBy_cleared (by decide))
  rw [hlost]
  refine ⟨⟨rfl, congrArg (·.states.length) hboard, rfl, atRest⟩,
    rfl, rfl, rfl, rfl, ?_, hboard, ?_, hhoused.authState_clear (Nat.le_refl _),
    hhoused.features?_clear _⟩
  · obtain ⟨context, hs, hstatus, -⟩ := resumable
    refine ⟨context, hs, ?_⟩
    have hkept : c.session.suspend.resumption? = c.session.deactivateManagement.resumption? :=
      hclean.resumption?_clear_of_not_le (by decide)
    refine hkept.trans ?_
    rw [Session.deactivateManagement, Session.resumption?_modifyResumption, hs, Option.map_some]
    rcases hstatus with hactive | hinactive
    · rw [Context.deactivate, if_pos hactive]
    · rw [Context.deactivate, if_neg (by rw [hinactive]; decide), ← hinactive]
  · have hkept : c.session.suspend.properties.boundJid? =
        c.session.deactivateManagement.properties.boundJid? :=
      hhoused.get?_clear_of_not_le Properties.home?_boundKey (by decide)
    exact hkept.trans (Properties.get?_modify_of_ne _ _ (by decide))

/-- **Any other session ends**, if the handlers that wait publish nothing the controller
reacts to. -/
theorem ended (atRest : c.AtRest) (clean : c.session.properties.Clean)
    (distinct : c.session.properties.Distinct) (housed : c.session.properties.Housed)
    (sent : ∀ entry ∈ c.session.unconfirmed, c.session.board.state? entry.token = some .sent)
    (quiet : ∀ r ∈ c.session.registry.requests, r.isQuiet = true)
    (attached : c.connector ≠ .disconnected)
    (ends : ¬ (c.connector ≠ .disconnecting ∧ c.session.Resumable)) :
    c.WritesNothing c.lost ∧ c.Ended c.lost := by
  have hfollow : c.session.followConnector c.connector .disconnected = c.session.wrapUp := by
    refine if_pos ?_
    by_cases h : c.connector = .disconnecting
    · exact .inl h
    · exact .inr (Bool.eq_false_iff.2 fun hcan => ends ⟨h, c.session.canResume_iff.1 hcan⟩)
  have hwrap := c.session.wrapUp_eq
  have hboard := Session.board_wrapUp clean distinct housed
  obtain ⟨hclean, -, hhoused⟩ := Session.resetManagement_kept clean distinct housed
  have hproperties : c.session.wrapUp.properties =
      c.session.resetManagement.properties.clear .session := congrArg (·.properties) hwrap
  have houtbox : c.session.wrapUp.outbox = [] := (congrArg (·.outbox) hwrap).trans atRest.1
  -- the failures of the requests are all that is left to tell the controller
  have hidle : ∀ e ∈ c.session.wrapUp.events, e.isIdle = true := by
    rw [Session.events_wrapUp]
    exact Session.isIdle_of_mem_timeoutAll quiet atRest.2
  have hrun := run_of_isIdle (c := { c with
    transport := none
    connector := .disconnected
    session := c.session.wrapUp
    published := c.published ++ [.connector c.connector .disconnected] }) houtbox hidle
  rw [lost_eq atRest attached, hfollow, hrun]
  refine ⟨⟨rfl, ?_, congrArg (·.drawn) hwrap, houtbox, rfl⟩,
    congrArg (·.registry.requests) hwrap, congrArg (·.notes) hwrap, congrArg (·.settled) hwrap, ?_,
    fun entry hmem => ?_, fun token hmem => ?_, ?_, ?_, ?_, ?_, congrArg (·.registry.ownJid) hwrap⟩
  · exact (congrArg (·.states.length) hboard).trans (Board.length_setAll ..)
  · show c.published ++ [.connector c.connector .disconnected] ++ c.session.wrapUp.events ++ _ = _
    rw [Session.events_wrapUp, Session.events_timeoutAll atRest.2]
    simp [Session.aftermath]
  · exact (congrArg (·.state? entry.token) hboard).trans
      (Board.state?_setAll_of_mem hmem (sent entry hmem))
  · exact (congrArg (·.state? token) hboard).trans (Board.state?_setAll_of_notMem hmem)
  · exact (congrArg (·.resumption?) hproperties).trans
      (hclean.resumption?_clear_of_le (Nat.le_refl _))
  · exact (congrArg (·.boundJid?) hproperties).trans
      (hhoused.get?_clear_of_le Properties.home?_boundKey (Nat.le_refl _))
  · exact (congrArg (·.authState) hproperties).trans (hhoused.authState_clear (by decide))
  · exact (congrArg (·.features?) hproperties).trans (hhoused.features?_clear _)

/-! ## Clients that are looked after -/

/-- **Clients that are looked after**: whatever was done to them since they had no modules,
no module that was called meddled with the resumable session, or moved a property of the
library to another scope. -/
def Tended (c : Client) : Prop :=
  ∃ (config : Config) (catalogue : Catalogue) (ops : List Operation),
    (∀ op ∈ ops, op.Proper ∧ op.Housed) ∧ c = ops.foldl operate (blank config catalogue)

/-- **Losing the connection either keeps the whole session or ends it**, as long as no
handler of the application that waits for a reply answers a timeout with an event the
controller reacts to. -/
theorem keeps_or_ends (tended : c.Tended) (attached : c.connector ≠ .disconnected)
    (quiet : ∀ r ∈ c.session.registry.requests, ∀ handler ∈ r.handlers,
      handler.isListener = true → (handler.events (.error .timeout)).all Event.isIdle = true) :
    c.WritesNothing c.lost ∧
      (c.connector ≠ .disconnecting ∧ c.session.Resumable → c.Suspended c.lost) ∧
      (¬ (c.connector ≠ .disconnecting ∧ c.session.Resumable) → c.Ended c.lost) := by
  obtain ⟨config, catalogue, ops, hops, rfl⟩ := tended
  have housed := housed_foldl_operate config catalogue fun op hop => (hops op hop).2
  obtain ⟨a, leads, ha, atRest, -⟩ := Life.Leads.operations (a := ⟨.blank config catalogue, [], []⟩)
    (atRest_blank config catalogue) ops fun op hop => (hops op hop).1
  have sound : a.Sound := Life.Lived.sound ⟨config, catalogue, leads⟩
  have sent := sound.consistent.sent
  have clean := sound.clean
  have distinct := sound.distinct
  rw [ha] at atRest clean distinct
  have sent' : ∀ entry ∈ (ops.foldl operate (blank config catalogue)).session.unconfirmed,
      (ops.foldl operate (blank config catalogue)).session.board.state? entry.token = some .sent := by
    intro entry hmem
    rw [← ha] at hmem ⊢
    exact sent entry hmem
  by_cases kept : (ops.foldl operate (blank config catalogue)).connector ≠ .disconnecting ∧
      (ops.foldl operate (blank config catalogue)).session.Resumable
  · obtain ⟨hwrites, hsuspended⟩ := suspended atRest clean housed attached kept.1 kept.2
    exact ⟨hwrites, fun _ => hsuspended, fun ends => absurd kept ends⟩
  · obtain ⟨hwrites, hended⟩ := ended atRest clean distinct housed sent'
      (fun r hr => r.isQuiet_of_listeners (quiet r hr)) attached kept
    exact ⟨hwrites, fun resumable => absurd resumable kept, fun _ => hended⟩

namespace Rehearsal

open Life.Rehearsal

/-- A request with a handler of the application. -/
def asks : Operation :=
  .send ((Draft.iqGet none { name := "query", ns := "jabber:iq:version" }).respond
    (.listener ⟨"rehearsal", "answered"⟩ fun _ => []))

/-- Logging in, asking for stream management, and going on while there is no answer. -/
def starts : List Operation :=
  .install (ModuleId.builtIn.map (Descriptor.default [])) :: connects
    ++ [.receive welcomes, .receive offersManagement, .receive (binds "1")]

/-- A client whose session can be resumed. -/
def keeper : Client :=
  (writes ++ [asks]).foldl operate (blank account [])

/-- A client whose session was not enabled yet. -/
def quitter : Client :=
  (starts ++ [.write (message "He jests"), asks]).foldl operate (blank account [])

/-- Nobody calls a module in these rehearsals. -/
theorem tended_of_all (ops : List Operation)
    (h : ops.all (fun op => !op matches .call _) = true) :
    (ops.foldl operate (blank account [])).Tended :=
  ⟨account, [], ops, fun op hop => ⟨proper_of_mem h hop, Operation.housed_of_all h op hop⟩, rfl⟩

/-- Whether the handlers of the application that wait for a reply answer a timeout quietly. -/
def waitsQuietly (c : Client) : Bool :=
  c.session.registry.requests.all fun r => r.handlers.all fun handler =>
    !handler.isListener || (handler.events (.error .timeout)).all Event.isIdle

theorem quiet_of_waitsQuietly {c : Client} (h : waitsQuietly c = true) :
    ∀ r ∈ c.session.registry.requests, ∀ handler ∈ r.handlers,
      handler.isListener = true → (handler.events (.error .timeout)).all Event.isIdle = true := by
  intro r hr handler hhandler listens
  have hall := List.all_eq_true.1 (List.all_eq_true.1 h r hr) handler hhandler
  rw [listens] at hall
  exact hall

end Rehearsal

open Rehearsal

/-- In the rehearsals one client keeps four requests and three stanzas, and another one, who
had four requests and two stanzas to lose, loses them. -/
theorem keeps_or_ends_rehearsal :
    (keeper.session.registry.size = 4 ∧ keeper.session.unconfirmed.length = 3 ∧
        keeper.WritesNothing keeper.lost ∧ keeper.Suspended keeper.lost) ∧
      quitter.session.registry.size = 4 ∧ quitter.session.unconfirmed.length = 2 ∧
        quitter.WritesNothing quitter.lost ∧ quitter.Ended quitter.lost := by
  have kept := keeps_or_ends (tended_of_all (Life.Rehearsal.writes ++ [asks]) (by decide))
    (show keeper.connector ≠ .disconnected by decide +kernel)
    (quiet_of_waitsQuietly (by decide +kernel))
  have lost := keeps_or_ends
    (tended_of_all (starts ++ [.write (Life.Rehearsal.message "He jests"), asks]) (by decide))
    (show quitter.connector ≠ .disconnected by decide +kernel)
    (quiet_of_waitsQuietly (by decide +kernel))
  have hkeeper : keeper.connector ≠ .disconnecting ∧ keeper.session.canResume = true := by
    decide +kernel
  have hquitter : quitter.session.canResume = false := by decide +kernel
  refine ⟨⟨by decide +kernel, by decide +kernel, kept.1, kept.2.1 ⟨hkeeper.1, ?_⟩⟩,
    by decide +kernel, by decide +kernel, lost.1, lost.2.2 fun h => ?_⟩
  · exact keeper.session.canResume_iff.1 hkeeper.2
  · rw [quitter.session.canResume_iff.2 h.2] at hquitter
    cases hquitter

end Client

end Xmpp
