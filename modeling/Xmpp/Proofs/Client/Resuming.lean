import Xmpp.Proofs.Client.Asking
import Xmpp.Proofs.Client.Logins
import Xmpp.Proofs.Resumption.Restored

/-!
# Whether an answer is outstanding

When the server refuses something of stream management, the controller has to
know what: a session that was to be resumed is gone then, and everything that
belongs to it has to go, while a session that was to be managed is none the
worse. So it remembers that it asked to resume one, until it learns of the
answer.

What it remembers is exactly that, and not whether an answer can still come
(`Client.resuming_spec`). It may have asked on a connection that is gone, or on
one that never took the request, or the answer may have come in and made no
sense; none of this is noticed. Whoever asks, gets the request through and hears
the answer before anything else happens remembers the right thing. But a client
that is disconnected in between takes the next refusal for the answer, and if
that is the refusal to manage the session it has just begun, it throws away a
live session (`Client.not_forall_resuming`).
-/

namespace Xmpp

open Delivery Resumption

/-! ## Turns -/

/-- **What bears on a request to resume.** -/
inductive ResumeTurn where
  /-- A transport was attached. -/
  | attached
  /-- The transport is gone, or its stream was closed. -/
  | detached
  /-- The controller asked to resume the session. -/
  | asked
  /-- The request came up, and the transport took it or not. -/
  | handed (taken : Bool)
  /-- An element came in that resumes a session or refuses something. -/
  | heard
  /-- The controller learned that a session was resumed or something
  refused. -/
  | answered
deriving DecidableEq

/-- Whether an element resumes a session, or refuses to resume or to manage
it. -/
def Element.endsResuming (e : Element) : Bool :=
  e.is "resumed" Namespace.streamManagement || e.is "failed" Namespace.streamManagement

/-- Whether the controller learns from an event that a session was resumed or
something refused. -/
def Event.endsResuming : Event → Bool
  | .resumed _ _ | .managementFailed _ => true
  | _ => false

namespace ResumeTurn

/-- Something was opened, and not closed since. -/
def Stands (opens closes : ResumeTurn → Bool) (turns : List ResumeTurn) : Prop :=
  ∃ before turn since, turns = before ++ turn :: since ∧ opens turn = true
    ∧ ∀ other ∈ since, closes other = false

/-- **The controller asked and has not learned of an answer since**, whatever
became of the connection. -/
def Asked (turns : List ResumeTurn) : Prop :=
  Stands (· = .asked) (· = .answered) turns

/-- Whether the wait for an answer is over: the connection is not the same any
more, or the answer came in. -/
def endsWait : ResumeTurn → Bool
  | .attached | .detached | .heard => true
  | .asked | .handed _ | .answered => false

/-- **An answer is awaited**: a request to resume was handed over on the
connection there is, and no answer came in since. -/
def Awaits (turns : List ResumeTurn) : Prop :=
  Stands (· = .handed true) endsWait turns

/-- **Undisturbed turns**: whenever the controller asks, its request is taken at
once; nobody else asks; what happens next is that the answer comes in; and then
the controller learns of it. -/
def undisturbed : List ResumeTurn → Bool
  | [] => true
  | [.asked, .handed true] => true
  | .asked :: .handed true :: .heard :: .answered :: rest => undisturbed rest
  | .asked :: _ | .handed true :: _ => false
  | _ :: rest => undisturbed rest

variable {opens closes : ResumeTurn → Bool} {turns : List ResumeTurn} {turn : ResumeTurn}

theorem not_stands_nil : ¬ Stands opens closes [] := by
  rintro ⟨before, turn, since, h, -⟩
  exact List.append_ne_nil_of_right_ne_nil _ (List.cons_ne_nil _ _) h.symm

theorem stands_cons_iff :
    Stands opens closes (turn :: turns) ↔
      (opens turn = true ∧ ∀ other ∈ turns, closes other = false) ∨ Stands opens closes turns := by
  constructor
  · rintro ⟨before, first, since, h, hopens, hsince⟩
    cases before with
    | nil =>
      obtain ⟨rfl, rfl⟩ := List.cons.inj h
      exact .inl ⟨hopens, hsince⟩
    | cons other before =>
      obtain ⟨rfl, rfl⟩ := List.cons.inj h
      exact .inr ⟨before, first, since, rfl, hopens, hsince⟩
  · rintro (⟨hopens, hsince⟩ | ⟨before, first, since, rfl, hopens, hsince⟩)
    · exact ⟨[], turn, turns, rfl, hopens, hsince⟩
    · exact ⟨turn :: before, first, since, rfl, hopens, hsince⟩

instance decidableStands (opens closes : ResumeTurn → Bool) :
    (turns : List ResumeTurn) → Decidable (Stands opens closes turns)
  | [] => isFalse not_stands_nil
  | _ :: rest =>
    have := decidableStands opens closes rest
    decidable_of_iff' _ stands_cons_iff

instance (turns : List ResumeTurn) : Decidable (Asked turns) :=
  decidableStands _ _ turns

instance (turns : List ResumeTurn) : Decidable (Awaits turns) :=
  decidableStands _ _ turns

theorem stands_append_iff :
    Stands opens closes (turns ++ [turn]) ↔
      opens turn = true ∨ Stands opens closes turns ∧ closes turn = false := by
  constructor
  · rintro ⟨before, first, since, h, hopens, hsince⟩
    rcases concat_eq_append_cons h with ⟨-, rfl, -⟩ | ⟨rest, rfl, rfl⟩
    · exact .inl hopens
    · refine .inr ⟨⟨before, first, rest, rfl, hopens, fun other hmem => ?_⟩, ?_⟩
      · exact hsince other (List.mem_append_left _ hmem)
      · exact hsince turn (List.mem_append_right _ (List.mem_singleton.2 rfl))
  · rintro (hopens | ⟨⟨before, first, since, rfl, hopens, hsince⟩, hlast⟩)
    · exact ⟨turns, turn, [], rfl, hopens, fun _ hmem => absurd hmem List.not_mem_nil⟩
    · refine ⟨before, first, since ++ [turn], by simp, hopens, fun other hmem => ?_⟩
      rcases List.mem_append.1 hmem with hmem | hmem
      · exact hsince other hmem
      · exact List.mem_singleton.1 hmem ▸ hlast

/-- Other turns leave it open whether an answer was learned of. -/
theorem asked_append_iff (hasked : turn ≠ .asked) (hanswered : turn ≠ .answered) :
    Asked (turns ++ [turn]) ↔ Asked turns := by
  rw [Asked, Asked, stands_append_iff]
  simp [hasked, hanswered]

/-- The wait is over once something ends it. -/
theorem not_awaits_append (h : turn.endsWait = true) : ¬ Awaits (turns ++ [turn]) := by
  rw [Awaits, stands_append_iff]
  rintro (hopens | ⟨-, hcloses⟩)
  · rw [of_decide_eq_true hopens] at h
    cases h
  · rw [h] at hcloses
    cases hcloses

/-- An answer is awaited from the time the request is handed over. -/
theorem Awaits.of_append (h : Awaits (turns ++ [turn])) (hturn : turn ≠ .handed true) :
    Awaits turns := by
  rcases stands_append_iff.1 h with hopens | ⟨h, -⟩
  · exact absurd (of_decide_eq_true hopens) hturn
  · exact h

/-- **If nothing disturbs it, the controller is right**: it waits to learn of an
answer exactly while one is awaited. -/
theorem asked_iff_awaits (h : undisturbed turns = true) : Asked turns ↔ Awaits turns := by
  induction turns using undisturbed.induct with
  | case1 => exact ⟨fun h => (not_stands_nil h).elim, fun h => (not_stands_nil h).elim⟩
  | case2 => decide
  | case3 rest ih =>
    -- the answer ends both waits
    have hasked : Asked (.asked :: .handed true :: .heard :: .answered :: rest) ↔ Asked rest := by
      unfold Asked
      simp [stands_cons_iff]
    have hawaits : Awaits (.asked :: .handed true :: .heard :: .answered :: rest)
        ↔ Awaits rest := by
      unfold Awaits
      simp [stands_cons_iff, endsWait]
    rw [hasked, hawaits]
    exact ih h
  | case4 rest untaken unlearned =>
    -- the controller asked, but its request was not taken or its answer not learned of
    rw [undisturbed.eq_4 rest untaken unlearned] at h
    cases h
  | case5 rest =>
    rw [undisturbed.eq_5] at h
    cases h
  | case6 turn rest lone served asks hands ih =>
    rw [undisturbed.eq_6 turn rest lone served asks hands] at h
    rw [Asked, Awaits, stands_cons_iff, stands_cons_iff]
    have hasked : decide (turn = .asked) = false := decide_eq_false asks
    have hhanded : decide (turn = .handed true) = false := decide_eq_false hands
    rw [hasked, hhanded]
    have ih := ih h
    rw [Asked, Awaits] at ih
    simpa using ih

end ResumeTurn

open ResumeTurn

/-! ## The turns of a client -/

/-- The turns an operation takes itself. -/
def Operation.resumeTurns : Operation → List ResumeTurn
  | .connected _ => [.attached]
  | .lost => [.detached]
  | .receive e => if e.endsResuming then [.heard] else []
  | _ => []

/-- The turns of a reaction of the controller. -/
def Controller.resumeTurns (c : Controller) (s : Session) (event : Event) : List ResumeTurn :=
  if event.endsResuming then [.answered]
  else if c.prompt? s event = some .resume then [.asked]
  else []

namespace Client

/-- The turns of handing over an item. -/
def resumeTurns (c : Client) : Outgoing → List ResumeTurn
  | .element entry _ => if entry.stanza.demand? = some .resume then [.handed c.accepts] else []
  | .close => [.detached]
  | .restart => []

/-- **A client is recounted** by its turns, from a state it was in: operations
that begin when it is at rest, and the moves by which it comes to rest. -/
inductive Recounts (c₀ : Client) : List ResumeTurn → Client → Prop
  /-- Nothing happened yet. -/
  | start : Recounts c₀ [] c₀
  /-- An operation begins. -/
  | operate {turns : List ResumeTurn} {c : Client} (recounts : Recounts c₀ turns c)
      (atRest : c.AtRest) (op : Operation) (sound : op.Within Change.Sound) :
      Recounts c₀ (turns ++ op.resumeTurns) (c.prepare op)
  /-- The oldest item of the outbox is handed over. -/
  | deliver {turns : List ResumeTurn} {c : Client} {item : Outgoing} {rest : List Outgoing}
      (recounts : Recounts c₀ turns c) (ho : c.session.outbox = item :: rest) :
      Recounts c₀ (turns ++ c.resumeTurns item) ((c.withOutbox rest).deliver item)
  /-- With nothing to hand over, the controller reacts to the oldest event. -/
  | react {turns : List ResumeTurn} {c : Client} {event : Event} {rest : List Event}
      (recounts : Recounts c₀ turns c) (ho : c.session.outbox = [])
      (he : c.session.events = event :: rest) :
      Recounts c₀ (turns ++ c.controller.resumeTurns (c.withEvents rest).session event)
        ((c.withEvents rest).handleEvent event)

end Client

/-- **What the controller remembers of a request to resume**: it asks when it is
prompted to, and forgets about it when it learns of an answer. -/
theorem Controller.resuming_react (c : Controller) (s : Session) (event : Event) :
    (c.react s event).1.resuming =
      if event.endsResuming then false
      else if c.prompt? s event = some .resume then true
      else c.resuming := by
  have hresume : ∀ c : Controller, (c.resumeOrBind s).1.resuming
      = if s.seeks? = some .resume then true else c.resuming := by
    intro c
    unfold Controller.resumeOrBind Session.seeks?
    by_cases hcan : s.canResume = true
    · obtain ⟨⟨previd, h⟩, hinfo⟩ := Option.isSome_iff_exists.1 hcan
      rw [if_pos hcan, if_pos hcan, if_pos rfl]
      unfold Session.resume
      rw [hinfo]
    · rw [if_neg hcan, if_neg hcan]
      cases s.properties.canBind with
      | true => rfl
      | false => rfl
  cases event with
  | features =>
    unfold Controller.react Controller.prompt?
    cases s.properties.authState with
    | succeeded => exact hresume c
    | unknown => rfl
    | inProgress => rfl
    | failed => rfl
  | authSucceeded restartRequired inlineBound =>
    cases restartRequired <;> cases inlineBound
    · exact hresume c
    · rfl
    · rfl
    · rfl
  | managementFailed condition =>
    unfold Controller.react
    dsimp only
    split
    · rfl
    · rename_i hresuming
      exact Bool.eq_false_iff.2 hresuming
  | _ => rfl

namespace Client

variable {c₀ c c' : Client} {turns later : List ResumeTurn}

/-! ## What the turns tell -/

/-- An operation leaves the controller and the wire alone until the client comes
to rest. -/
theorem controller_prepare (c : Client) (op : Operation) :
    (c.prepare op).controller = c.controller ∧ (c.prepare op).wire = c.wire := by
  have set : ∀ (c : Client) (new : ConnectorState),
      (c.setConnector new).controller = c.controller ∧ (c.setConnector new).wire = c.wire := by
    intro c new
    unfold setConnector
    split
    · exact ⟨rfl, rfl⟩
    · exact ⟨rfl, rfl⟩
  cases op with
  | connecting => exact set c _
  | connected transport => exact set _ _
  | lost => exact set _ _
  | disconnect =>
    unfold prepare
    dsimp only
    split
    · exact ⟨rfl, rfl⟩
    · exact ⟨rfl, rfl⟩
  | process id e =>
    unfold prepare
    dsimp only
    split
    · exact ⟨rfl, rfl⟩
    · exact ⟨rfl, rfl⟩
  | nextEvent =>
    show c.nextEvent.2.controller = c.controller ∧ c.nextEvent.2.wire = c.wire
    unfold nextEvent
    split
    · exact ⟨rfl, rfl⟩
    · exact ⟨rfl, rfl⟩
  | _ => exact ⟨rfl, rfl⟩

theorem controller_deliver (c : Client) (item : Outgoing) :
    (c.deliver item).controller = c.controller := by
  cases item with
  | restart => rfl
  | close =>
    show (Client.setConnector _ _).controller = c.controller
    unfold setConnector
    split
    · rfl
    · rfl
  | element entry request =>
    show (c.deliverElement entry request).controller = c.controller
    unfold deliverElement
    split
    · rfl
    · split
      · rfl
      · rfl

/-- An element that is handed over leaves a transport where there was one. -/
theorem isSome_transport_deliverElement (c : Client) (entry : Entry) (request : Option Request) :
    (c.deliver (.element entry request)).transport.isSome = c.transport.isSome := by
  show (c.deliverElement entry request).transport.isSome = _
  unfold deliverElement
  split
  · rfl
  · rename_i transport htransport
    rw [htransport]
    split
    · rfl
    · rfl

/-- The frames of a restart ask for nothing. -/
theorem demand?_restartFrames (transport : Option Transport) :
    ∀ frame ∈ (transport.map Transport.restartFrames).getD [], frame.demand? = none := by
  cases transport with
  | none => simp
  | some transport =>
    show ∀ frame ∈ transport.restartFrames, _
    unfold Transport.restartFrames
    split
    · simp
    · split <;> simp [Frame.demand?]

/-- The frames of a farewell ask for nothing. -/
theorem demand?_closeFrames (transport : Option Transport) :
    ∀ frame ∈ (transport.map Transport.closeFrames).getD [], frame.demand? = none := by
  cases transport with
  | none => simp
  | some transport =>
    show ∀ frame ∈ transport.closeFrames, _
    unfold Transport.closeFrames
    split
    · simp
    · split <;> simp [Frame.demand?]

/-- What handing over an element puts on the wire: it is there if it is taken. -/
theorem wire_deliverElement (c : Client) (entry : Entry) (request : Option Request) :
    ∃ frames, (c.deliverElement entry request).wire = c.wire ++ frames
      ∧ frames.countP (·.demand? = some .resume)
        = (c.resumeTurns (.element entry request)).count (.handed true) := by
  have hturns : (c.resumeTurns (.element entry request)).count (.handed true)
      = if entry.stanza.demand? = some .resume ∧ c.accepts = true then 1 else 0 := by
    show (if entry.stanza.demand? = some .resume then [ResumeTurn.handed c.accepts] else []).count
      (ResumeTurn.handed true) = _
    by_cases hdemand : entry.stanza.demand? = some .resume
    · rw [if_pos hdemand]
      cases c.accepts with
      | true => simp [hdemand]
      | false => simp
    · simp [hdemand]
  rw [hturns]
  unfold deliverElement
  split
  · rename_i htransport
    exact ⟨[], (List.append_nil _).symm, by simp [accepts, htransport]⟩
  · rename_i transport htransport
    split
    · rename_i error transport' hsend
      exact ⟨[.failed .send], rfl, by simp [accepts, htransport, hsend, Frame.demand?]⟩
    · rename_i transport' hsend
      refine ⟨[.element entry], rfl, ?_⟩
      by_cases hdemand : entry.stanza.demand? = some .resume
      · simp [accepts, htransport, hsend, Frame.demand?, hdemand]
      · simp [Frame.demand?, hdemand]

/-- What handing over an item puts on the wire: the element if it is taken, and
otherwise nothing that asks for anything. -/
theorem wire_deliver (c : Client) (item : Outgoing) :
    ∃ frames, (c.deliver item).wire = c.wire ++ frames
      ∧ frames.countP (·.demand? = some .resume) = (c.resumeTurns item).count (.handed true) := by
  have quiet : ∀ {frames : List Frame}, (∀ frame ∈ frames, frame.demand? = none) →
      frames.countP (·.demand? = some .resume) = 0 := fun h =>
    List.countP_eq_zero.2 fun frame hframe => by simp [h frame hframe]
  cases item with
  | restart => exact ⟨_, rfl, quiet (demand?_restartFrames _)⟩
  | close =>
    refine ⟨(c.transport.map Transport.closeFrames).getD [], ?_, quiet (demand?_closeFrames _)⟩
    show (Client.setConnector _ _).wire = _
    unfold setConnector
    split
    · rfl
    · rfl
  | element entry request => exact c.wire_deliverElement entry request

namespace Recounts

/-- Recounting can be continued. -/
theorem trans (first : Recounts c₀ turns c) (second : Recounts c later c') :
    Recounts c₀ (turns ++ later) c' := by
  induction second with
  | start => rwa [List.append_nil]
  | operate _ atRest op sound ih =>
    rw [← List.append_assoc]
    exact ih.operate atRest op sound
  | deliver _ ho ih =>
    rw [← List.append_assoc]
    exact ih.deliver ho
  | react _ ho he ih =>
    rw [← List.append_assoc]
    exact ih.react ho he

theorem moves {log : List Request} (recounts : Recounts c₀ turns c) (moves : Moves c log c') :
    ∃ later, Recounts c₀ (turns ++ later) c' := by
  induction moves with
  | refl => exact ⟨[], by rwa [List.append_nil]⟩
  | deliver _ ho ih =>
    obtain ⟨later, recounts⟩ := ih
    exact ⟨_, List.append_assoc .. ▸ recounts.deliver ho⟩
  | react _ ho he ih =>
    obtain ⟨later, recounts⟩ := ih
    exact ⟨_, List.append_assoc .. ▸ recounts.react ho he⟩

/-- **Every run of operations can be recounted.** -/
theorem exists_foldl_operate (atRest : c.AtRest) (ops : List Operation)
    (sound : ∀ op ∈ ops, op.Within Change.Sound) :
    ∃ turns, Recounts c turns (ops.foldl Client.operate c) := by
  induction ops generalizing c with
  | nil => exact ⟨[], .start⟩
  | cons op rest ih =>
    obtain ⟨log, moved⟩ := Moves.run (c.prepare op)
    rw [← operate_eq atRest] at moved
    obtain ⟨now, first⟩ := (start.operate atRest op (sound op List.mem_cons_self)).moves moved
    obtain ⟨later, second⟩ := ih (atRest.operate op) fun other hmem =>
      sound other (List.mem_cons_of_mem op hmem)
    exact ⟨_, first.trans second⟩

/-- A client that is recounted from a reachable one is on its way from one. -/
theorem underway (recounts : Recounts c₀ turns c) (reachable : c₀.Reachable) :
    c.Reachable ∨ ∃ (d : Client) (op : Operation) (log : List Request),
      d.Reachable ∧ op.Within Change.Sound ∧ Moves (d.prepare op) log c := by
  induction recounts with
  | start => exact .inl reachable
  | @operate turns c recounts atRest op sound ih =>
    refine .inr ⟨c, op, [], ?_, sound, .refl⟩
    rcases ih with h | ⟨d, op', log, hd, sound', moves⟩
    · exact h
    · have hc : d.operate op' = c := by
        rw [operate_eq hd.atRest, moves.run_eq, atRest.run]
      exact hc ▸ hd.foldl_operate [op'] fun other hmem => List.mem_singleton.1 hmem ▸ sound'
  | deliver _ ho ih =>
    rcases ih with h | ⟨d, op, log, hd, sound, moves⟩
    · cases h.atRest.1.symm.trans ho
    · exact .inr ⟨d, op, _, hd, sound, moves.deliver ho⟩
  | react _ ho he ih =>
    rcases ih with h | ⟨d, op, log, hd, sound, moves⟩
    · cases h.atRest.2.symm.trans he
    · exact .inr ⟨d, op, _, hd, sound, moves.react ho he⟩

/-- At rest it has been reached. -/
theorem reachable (recounts : Recounts c₀ turns c) (start : c₀.Reachable) (atRest : c.AtRest) :
    c.Reachable := by
  rcases recounts.underway start with h | ⟨d, op, log, hd, sound, moves⟩
  · exact h
  · have hc : d.operate op = c := by
      rw [operate_eq hd.atRest, moves.run_eq, atRest.run]
    exact hc ▸ hd.foldl_operate [op] fun other hmem => List.mem_singleton.1 hmem ▸ sound

/-- **The controller remembers its last request until it learns of an
answer.** -/
theorem resuming_iff (recounts : Recounts c₀ turns c) (fresh : c₀.controller.resuming = false) :
    c.controller.resuming = true ↔ Asked turns := by
  induction recounts with
  | start =>
    rw [fresh]
    exact ⟨fun h => (Bool.false_ne_true h).elim, fun h => (not_stands_nil h).elim⟩
  | @operate turns c recounts atRest op sound ih =>
    rw [(controller_prepare c op).1, ih]
    have nothing : Asked turns ↔ Asked (turns ++ []) := by rw [List.append_nil]
    cases op with
    | connected transport => exact (asked_append_iff (by decide) (by decide)).symm
    | lost => exact (asked_append_iff (by decide) (by decide)).symm
    | receive e =>
      unfold Operation.resumeTurns
      dsimp only
      split
      · exact (asked_append_iff (by decide) (by decide)).symm
      · exact nothing
    | _ => exact nothing
  | @deliver turns c item rest recounts ho ih =>
    rw [controller_deliver]
    show c.controller.resuming = true ↔ _
    rw [ih]
    cases item with
    | restart => rw [show c.resumeTurns .restart = [] from rfl, List.append_nil]
    | close => exact (asked_append_iff (by decide) (by decide)).symm
    | element entry request =>
      unfold resumeTurns
      dsimp only
      split
      · exact (asked_append_iff (by simp) (by simp)).symm
      · rw [List.append_nil]
  | @react turns c event rest recounts ho he ih =>
    show (c.controller.react (c.withEvents rest).session event).1.resuming = true ↔ _
    rw [Controller.resuming_react, Controller.resumeTurns]
    split
    · rw [Asked, stands_append_iff]
      simp
    · split
      · rw [Asked, stands_append_iff]
        simp
      · rw [ih, List.append_nil]

/-- **Nobody awaits an answer without a connection.** -/
theorem isSome_transport (recounts : Recounts c₀ turns c) (h : Awaits turns) :
    c.transport.isSome = true := by
  induction recounts with
  | start => exact (not_stands_nil h).elim
  | @operate turns c recounts atRest op sound ih =>
    cases op with
    | connected transport => exact absurd h (not_awaits_append rfl)
    | lost => exact absurd h (not_awaits_append rfl)
    | receive e =>
      rw [show (c.prepare (.receive e)).transport = c.transport from rfl]
      refine ih ?_
      unfold Operation.resumeTurns at h
      dsimp only at h
      split at h
      · exact absurd h (not_awaits_append rfl)
      · rwa [List.append_nil] at h
    | _ =>
      rw [c.transport_prepare rfl]
      exact ih (List.append_nil turns ▸ h)
  | @deliver turns c item rest recounts ho ih =>
    cases item with
    | restart => exact ih (List.append_nil turns ▸ h)
    | close => exact absurd h (not_awaits_append rfl)
    | element entry request =>
      rw [isSome_transport_deliverElement]
      show c.transport.isSome = true
      unfold resumeTurns at h
      dsimp only at h
      split at h
      · rcases stands_append_iff.1 h with h | ⟨h, -⟩
        · have haccepts : c.accepts = true := by simpa using h
          obtain ⟨transport, htransport, -⟩ := (Option.any_eq_true _ _).1 haccepts
          rw [htransport]
          rfl
        · exact ih h
      · exact ih (List.append_nil turns ▸ h)
  | @react turns c event rest recounts ho he ih =>
    refine ih ?_
    unfold Controller.resumeTurns at h
    split at h
    · exact h.of_append (by decide)
    · split at h
      · exact h.of_append (by decide)
      · rwa [List.append_nil] at h

/-- **What was handed over is on the wire**: as many requests to resume as the
turns tell. -/
theorem wire (recounts : Recounts c₀ turns c) :
    ∃ frames, c.wire = c₀.wire ++ frames
      ∧ frames.countP (·.demand? = some .resume) = turns.count (.handed true) := by
  induction recounts with
  | start => exact ⟨[], (List.append_nil _).symm, rfl⟩
  | @operate turns c recounts atRest op sound ih =>
    obtain ⟨frames, hwire, hcount⟩ := ih
    refine ⟨frames, by rw [(controller_prepare c op).2, hwire], ?_⟩
    have hnone : op.resumeTurns.count (.handed true) = 0 := by
      cases op with
      | receive e =>
        unfold Operation.resumeTurns
        dsimp only
        split
        · rfl
        · rfl
      | _ => rfl
    rw [hcount, List.count_append, hnone, Nat.add_zero]
  | @deliver turns c item rest recounts ho ih =>
    obtain ⟨frames, hwire, hcount⟩ := ih
    obtain ⟨more, hmore, hcount'⟩ := wire_deliver (c.withOutbox rest) item
    refine ⟨frames ++ more, ?_, ?_⟩
    · rw [hmore, ← List.append_assoc, ← hwire]
      rfl
    · rw [List.countP_append, List.count_append, hcount, hcount']
      rfl
  | @react turns c event rest recounts ho he ih =>
    obtain ⟨frames, hwire, hcount⟩ := ih
    refine ⟨frames, hwire, ?_⟩
    have hnone : (c.controller.resumeTurns (c.withEvents rest).session event).count
        (.handed true) = 0 := by
      unfold Controller.resumeTurns
      split
      · rfl
      · split
        · rfl
        · rfl
    rw [hcount, List.count_append, hnone, Nat.add_zero]

end Recounts

/-! ## What a refusal does -/

/-- **An unharmed client**: nothing of its session is touched but what is kept to
resume it, and nothing is written. -/
structure Unharmed (c c' : Client) : Prop where
  /-- All requests are still waiting. -/
  registry : c'.session.registry = c.session.registry
  /-- No future was settled. -/
  settled : c'.session.settled = c.session.settled
  /-- No handler was called. -/
  notes : c'.session.notes = c.session.notes
  /-- The properties are those there were, the resumable session apart. -/
  properties : ∀ (α : Type) [Storable α] (key : String), key ≠ Properties.resumptionKey →
    c'.session.properties.get? (α := α) key = c.session.properties.get? key
  /-- Nothing is written. -/
  wire : c'.wire = c.wire

/-- **A client gives its session up**: all requests time out, the session is
cleared, and a resource is bound. -/
def GivesUp (c c' : Client) : Prop :=
  ∃ (s : Session) (published : List Event), s.registry = c.session.registry ∧
    c' = ({ c with
        controller := { c.controller with resuming := false }
        session := ((s.timeoutAll.clear .session).bind).2
        published } : Client).run

end Client

/-- A refusal is about the resumable session and nothing else, as long as the
controller has not heard of it. -/
theorem Session.takeFailed_spares (s : Session) (f : Failed) :
    ∃ properties board, s.takeFailed f =
        { s with
          properties, board
          events := s.events ++ [.managementFailed f.condition] }
      ∧ ∀ (α : Type) [Storable α] (key : String), key ≠ Properties.resumptionKey →
        properties.get? (α := α) key = s.properties.get? key := by
  by_cases hpending : s.managementStatus? = some .pending
  · have hfailed : s.takeFailed f
        = s.abandonResumption.fire (.managementFailed f.condition) := by
      unfold Session.takeFailed
      rw [hpending]
    refine ⟨s.abandonResumption.properties, s.board, ?_,
      fun _ _ _ hkey => s.get?_abandonResumption hkey⟩
    rw [hfailed, s.abandonResumption_eq]
    rfl
  · -- what the server reports is taken in first, and then the session is forgotten
    obtain ⟨told, htold, hproperties, hfailed⟩ : ∃ told : Session,
        told = { s with properties := told.properties, board := told.board }
        ∧ (∀ (α : Type) [Storable α] (key : String), key ≠ Properties.resumptionKey →
          told.properties.get? (α := α) key = s.properties.get? key)
        ∧ s.takeFailed f = told.resetManagement.fire (.managementFailed f.condition) := by
      unfold Session.takeFailed
      split
      · rename_i hstatus
        exact absurd hstatus hpending
      · cases f.h with
        | none => exact ⟨s, rfl, fun _ _ _ _ => rfl, rfl⟩
        | some h =>
          exact ⟨s.acknowledge h, s.acknowledge_eq h,
            fun _ _ _ hkey => s.get?_acknowledge h hkey, rfl⟩
    rw [hfailed]
    refine ⟨told.resetManagement.properties, told.resetManagement.board, ?_,
      fun α _ key hkey => ?_⟩
    · rw [told.resetManagement_eq, htold]
      rfl
    · exact ((told.mark told.unconfirmed .dropped).get?_abandonResumption hkey).trans
        (hproperties α key hkey)

namespace Client

variable {c : Client} {turns : List ResumeTurn}

/-- **What becomes of a client that is refused something** depends on what its
controller remembers, and on nothing else. -/
theorem Reachable.receive_refusal (reachable : c.Reachable) {failed : Element}
    (refused : failed.is "failed" Namespace.streamManagement = true)
    (entrusted : c.modules.Entrusts .streamManagement failed) :
    (c.controller.resuming = false → c.Unharmed (c.receive failed))
      ∧ (c.controller.resuming = true → c.GivesUp (c.receive failed)) := by
  have hname := Element.name_of_is refused
  have nonza := Element.not_isStanza_of_name hname (by decide)
  let f : Failed := .salvage failed
  have hreceive : c.receive failed
      = ({ c with session := c.session.takeFailed f } : Client).run := by
    refine reachable.receive_entrusted nonza entrusted fun tag => ?_
    show (c.session.handleManagement failed).1 = _
    unfold Session.handleManagement
    rw [hname]
    rfl
  obtain ⟨properties, board, htaken, hspares⟩ := c.session.takeFailed_spares f
  have hout : (c.session.takeFailed f).outbox = [] := by
    rw [htaken]
    exact reachable.atRest.1
  have hevents : (c.session.takeFailed f).events = [.managementFailed f.condition] := by
    rw [htaken]
    show c.session.events ++ _ = _
    rw [reachable.atRest.2]
    rfl
  let s : Session := { c.session with properties, board, events := [] }
  have hback : ({ c with session := c.session.takeFailed f } : Client).withEvents []
      = { c with session := s } := by
    rw [htaken]
    rfl
  rw [hreceive, run_react hout hevents, hback]
  constructor
  · intro hcalm
    have hevent : ({ c with session := s } : Client).handleEvent (.managementFailed f.condition)
        = { c with
            session := s
            published := c.published ++ [.managementFailed f.condition] } := by
      unfold handleEvent Controller.react
      dsimp only
      rw [hcalm]
      rfl
    have hrest : ({ c with
        session := s
        published := c.published ++ [.managementFailed f.condition] } : Client).AtRest :=
      ⟨reachable.atRest.1, rfl⟩
    rw [hevent, hrest.run]
    exact ⟨rfl, rfl, rfl, hspares, rfl⟩
  · intro hasked
    rw [handleEvent_managementFailed (c := { c with session := s }) hasked]
    exact ⟨s, _, rfl, rfl⟩

/-- **What the controller remembers of resuming, and what it makes of it.** In
every run of operations it remembers its last request to resume until it learns
of an answer. If nothing disturbs its requests, it remembers one exactly while an
answer is awaited on the connection there is; without a connection none is
awaited, and the requests that were taken are those on the wire. And a refusal
makes it give the session up if it remembers a request, and leaves the client
unharmed otherwise. -/
theorem resuming_spec {config : Config} {catalogue : Catalogue}
    (recounts : Recounts (blank config catalogue) turns c) (atRest : c.AtRest) :
    (c.controller.resuming = true ↔ Asked turns)
      ∧ (undisturbed turns = true → (c.controller.resuming = true ↔ Awaits turns))
      ∧ (c.transport = none → ¬ Awaits turns)
      ∧ c.wire.countP (·.demand? = some .resume) = turns.count (.handed true)
      ∧ ∀ failed : Element, failed.is "failed" Namespace.streamManagement = true →
        c.modules.Entrusts .streamManagement failed →
          (¬ Asked turns → c.Unharmed (c.receive failed))
            ∧ (Asked turns → c.GivesUp (c.receive failed)) := by
  have start : (blank config catalogue).Reachable := ⟨config, catalogue, [], [], .start⟩
  have remembers := recounts.resuming_iff rfl
  refine ⟨remembers, fun calm => ?_, fun hnone awaits => ?_, ?_, fun failed refused entrusted => ?_⟩
  · rw [remembers]
    exact asked_iff_awaits calm
  · have := recounts.isSome_transport awaits
    rw [hnone] at this
    cases this
  · obtain ⟨frames, hwire, hcount⟩ := recounts.wire
    rw [hwire, ← hcount]
    rfl
  · obtain ⟨spared, given⟩ :=
      (recounts.reachable start atRest).receive_refusal refused entrusted
    exact ⟨fun h => spared (Bool.eq_false_iff.2 (mt remembers.1 h)),
      fun h => given (remembers.2 h)⟩

/-! ## Recounting by computation -/

/-- At most this many moves of a client, and their turns. -/
def unfold : Nat → Client → List ResumeTurn × Client
  | 0, c => ([], c)
  | n + 1, c =>
    match c.session.outbox, c.session.events with
    | item :: rest, _ =>
      let (turns, c') := unfold n ((c.withOutbox rest).deliver item)
      (c.resumeTurns item ++ turns, c')
    | [], event :: rest =>
      let (turns, c') := unfold n ((c.withEvents rest).handleEvent event)
      (c.controller.resumeTurns (c.withEvents rest).session event ++ turns, c')
    | [], [] => ([], c)

/-- **A run, recounted**, unless some operation takes more moves than these until
the client is at rest. -/
def recount (n : Nat) : Client → List Operation → Option (List ResumeTurn × Client)
  | c, [] => some ([], c)
  | c, op :: rest =>
    let (turns, c') := unfold n (c.prepare op)
    if c'.session.outbox.isEmpty && c'.session.events.isEmpty then
      (recount n c' rest).map fun (later, last) => (op.resumeTurns ++ turns ++ later, last)
    else none

theorem Recounts.unfold {c₀ : Client} (recounts : Recounts c₀ turns c) (n : Nat) :
    Recounts c₀ (turns ++ (unfold n c).1) (unfold n c).2 := by
  induction n generalizing turns c with
  | zero =>
    rw [show Client.unfold 0 c = ([], c) from rfl, List.append_nil]
    exact recounts
  | succ n ih =>
    rw [Client.unfold]
    split
    · rename_i item rest _ _ ho
      rw [← List.append_assoc]
      exact ih (recounts.deliver ho)
    · rename_i event rest ho he
      rw [← List.append_assoc]
      exact ih (recounts.react ho he)
    · rw [List.append_nil]
      exact recounts

/-- What is computed is a recount. -/
theorem recounts_of_recount {n : Nat} {ops : List Operation} {last : Client}
    (h : recount n c ops = some (turns, last)) (atRest : c.AtRest)
    (sound : ∀ op ∈ ops, op.Within Change.Sound) : Recounts c turns last ∧ last.AtRest := by
  induction ops generalizing c turns with
  | nil =>
    obtain ⟨rfl, rfl⟩ := Prod.mk.inj (Option.some.inj h)
    exact ⟨.start, atRest⟩
  | cons op rest ih =>
    have begun := (Recounts.start.operate atRest op (sound op List.mem_cons_self)).unfold n
    rw [recount] at h
    dsimp only at h
    split at h
    · rename_i hrest
      obtain ⟨hout, hevents⟩ := Bool.and_eq_true_iff.1 hrest
      obtain ⟨⟨later, last'⟩, hlater, heq⟩ := Option.map_eq_some_iff.1 h
      obtain ⟨rfl, rfl⟩ := Prod.mk.inj heq
      obtain ⟨recounts, hlast⟩ := ih hlater
        ⟨List.isEmpty_iff.1 hout, List.isEmpty_iff.1 hevents⟩ fun other hmem =>
          sound other (List.mem_cons_of_mem op hmem)
      exact ⟨begun.trans recounts, hlast⟩
    · cases h

namespace Rehearsal

/-- A session is to be resumed. -/
def asksToResume : List Operation :=
  logsIn ++ loses ++ connects ++ [.receive welcomes, .receive offersManagement]

/-- The client disconnects instead, and begins a new session on the next
connection. -/
def beginsAnew : List Operation :=
  asksToResume ++ [.disconnect, .lost] ++ connects
    ++ [.receive welcomes, .receive offersManagement, .receive (binds "6")]

/-- Bare operations are sound. -/
theorem sound_of_all {ops : List Operation} (h : ops.all Operation.isBare = true) :
    ∀ op ∈ ops, op.Within Change.Sound :=
  fun op hmem => Operation.within_sound (List.all_eq_true.1 h op hmem)

end Rehearsal

open Rehearsal

/-- In the rehearsal a request to resume was handed over, and the controller
waits for the answer. -/
theorem resuming_spec_rehearsal :
    ∃ turns c, Recounts (blank account []) turns c ∧ c.AtRest ∧ undisturbed turns = true
      ∧ Awaits turns ∧ c.controller.resuming = true := by
  have hcomputed : (recount 60 (blank account []) asksToResume).map (·.1)
      = some [.attached, .detached, .attached, .asked, .handed true] := by
    decide +kernel
  obtain ⟨⟨turns, c⟩, hrecount, rfl⟩ := Option.map_eq_some_iff.1 hcomputed
  obtain ⟨recounts, atRest⟩ :=
    recounts_of_recount hrecount (atRest_blank _ _) (sound_of_all (by decide))
  obtain ⟨-, hcalm, -⟩ := resuming_spec recounts atRest
  exact ⟨_, c, recounts, atRest, by decide, by decide, (hcalm (by decide)).2 (by decide)⟩

/-- **The controller is not always right.** After the connection on which it asked
is gone it still waits for an answer; and on the next one it gives a session up
that it has just begun, because the server does not manage it. -/
theorem not_forall_resuming :
    (¬ ∀ (turns : List ResumeTurn) (c : Client), Recounts (blank account []) turns c → c.AtRest →
        (c.controller.resuming = true ↔ Awaits turns))
      ∧ ¬ ∀ (turns : List ResumeTurn) (c : Client), Recounts (blank account []) turns c →
        c.AtRest → ¬ Awaits turns → c.Unharmed (c.receive refuses) := by
  constructor
  · intro h
    have hcomputed : (recount 60 (blank account []) (asksToResume ++ [.lost])).map
        (fun result => (result.1, result.2.controller.resuming))
        = some ([.attached, .detached, .attached, .asked, .handed true, .detached], true) := by
      decide +kernel
    obtain ⟨⟨turns, c⟩, hrecount, heq⟩ := Option.map_eq_some_iff.1 hcomputed
    obtain ⟨rfl, hresuming⟩ := Prod.mk.inj heq
    obtain ⟨recounts, atRest⟩ :=
      recounts_of_recount hrecount (atRest_blank _ _) (sound_of_all (by decide))
    exact absurd ((h _ c recounts atRest).1 hresuming) (by decide)
  · intro h
    have hcomputed : (recount 60 (blank account []) beginsAnew).map
        (fun result => (result.1, decide
          ((result.2.receive refuses).session.registry.requests.map (·.key)
            = result.2.session.registry.requests.map (·.key))))
        = some ([.attached, .detached, .attached, .asked, .handed true, .detached, .detached,
          .attached], false) := by
      decide +kernel
    obtain ⟨⟨turns, c⟩, hrecount, heq⟩ := Option.map_eq_some_iff.1 hcomputed
    obtain ⟨rfl, hrequests⟩ := Prod.mk.inj heq
    obtain ⟨recounts, atRest⟩ :=
      recounts_of_recount hrecount (atRest_blank _ _) (sound_of_all (by decide))
    have unharmed := h _ c recounts atRest (by decide)
    rw [unharmed.registry] at hrequests
    exact of_decide_eq_false hrequests rfl

end Client

end Xmpp
