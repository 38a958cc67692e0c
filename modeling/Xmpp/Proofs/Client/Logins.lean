import Xmpp.Proofs.Client.Annals
import Xmpp.Proofs.Delivery.Coherence
import Xmpp.Proofs.Session.Exchanges

/-!
# Logins over many connections

One would like a mechanism to be held only while its exchange is running on the current
connection. That is so as long as every exchange has its outcome before anything else
happens to the logins (`Uninterrupted`). It is not so in general: when the connection goes
away, or the stream ends with an error, the state of the login is forgotten and the
mechanism is not, and then the next connection inherits it. The first `<success/>` that is
heard there counts as the outcome of the old exchange, although nothing was said yet
(`Client.not_forall_held_on_connection`).

What holds in every run is an account by turns (`Client.explained_of_run`). The turns of a
client are determined by what is done to it: those its operations take, those its
controller takes until it is at rest, and the connections that begin (`Client.Recalls`).
A mechanism is held if and only if an exchange was opened that had no outcome since, and
the state of the login is what the last turn says that says anything about it.
-/

namespace Xmpp

open Delivery Resumption

/-! ## Reading the turns -/

namespace LoginTurn

/-- Whether a turn is an outcome of the exchange of a generation. -/
def closes (g : Generation) : LoginTurn → Bool
  | .succeeded other _ | .failed other => other = g
  | .abandoned _ => g = .second
  | .attached | .opened _ _ | .forgotten => false

/-- What a turn says about the state of the login, if it says anything. -/
def says? : LoginTurn → Option AuthState
  | .opened _ _ => some .inProgress
  | .succeeded _ _ => some .succeeded
  | .failed _ => some .failed
  | .forgotten => some .unknown
  | .attached | .abandoned _ => none

/-- **An exchange is open**: it was opened, and had no outcome since. -/
def Open (g : Generation) (turns : List LoginTurn) : Prop :=
  ∃ before asked since, turns = before ++ .opened g asked :: since ∧
    ∀ turn ∈ since, turn.closes g = false

/-- **The state of the login** after these turns. -/
def verdict (turns : List LoginTurn) : AuthState :=
  turns.foldl (fun state turn => turn.says?.getD state) .unknown

/-- **When a turn can be taken**: an exchange can only succeed or be abandoned while it is
open, and the controller opens one only where nothing happened yet. -/
def Allowed (before : List LoginTurn) : LoginTurn → Prop
  | .opened _ asked => asked = true ∨ verdict before = .unknown
  | .succeeded g e => Open g before ∧ e.name = "success"
  | .abandoned e => Open .second before ∧ e.name = "success"
  | .attached | .failed _ | .forgotten => True

/-- **Uninterrupted logins**: whatever follows the opening of an exchange is its outcome. -/
def Uninterrupted (turns : List LoginTurn) : Prop :=
  ∀ before g asked turn after, turns = before ++ .opened g asked :: turn :: after →
    turn.closes g = true

/-- The exchange of a generation was opened last of all. -/
def OpenedLast (g : Generation) (turns : List LoginTurn) : Prop :=
  ∃ before asked, turns = before ++ [.opened g asked]

variable {g : Generation} {turns : List LoginTurn} {turn : LoginTurn}

theorem not_open_nil : ¬ Open g [] := by
  rintro ⟨before, asked, since, h, -⟩
  exact List.append_ne_nil_of_right_ne_nil _ (List.cons_ne_nil _ _) h.symm

/-- **An exchange is open** if it was opened just now, or was open and this is no outcome. -/
theorem open_append_iff :
    Open g (turns ++ [turn]) ↔
      (∃ asked, turn = .opened g asked) ∨ Open g turns ∧ turn.closes g = false := by
  constructor
  · rintro ⟨before, asked, since, h, hsince⟩
    rcases concat_eq_append_cons h with ⟨-, rfl, -⟩ | ⟨rest, rfl, rfl⟩
    · exact .inl ⟨asked, rfl⟩
    · refine .inr ⟨⟨before, asked, rest, rfl, fun other hmem => ?_⟩, ?_⟩
      · exact hsince other (List.mem_append_left _ hmem)
      · exact hsince turn (List.mem_append_right _ (List.mem_singleton.2 rfl))
  · rintro (⟨asked, rfl⟩ | ⟨⟨before, asked, since, rfl, hsince⟩, hlast⟩)
    · exact ⟨turns, asked, [], rfl, fun _ hmem => absurd hmem List.not_mem_nil⟩
    · refine ⟨before, asked, since ++ [turn], by simp, fun other hmem => ?_⟩
      rcases List.mem_append.1 hmem with hmem | hmem
      · exact hsince other hmem
      · exact List.mem_singleton.1 hmem ▸ hlast

theorem verdict_append : verdict (turns ++ [turn]) = turn.says?.getD (verdict turns) :=
  List.foldl_concat ..

theorem Uninterrupted.of_append {later : List LoginTurn} (h : Uninterrupted (turns ++ later)) :
    Uninterrupted turns := by
  rintro before g asked turn after rfl
  exact h before g asked turn (after ++ later) (by simp)

/-- **An uninterrupted exchange is open only if it was opened last of all.** -/
theorem Uninterrupted.openedLast (h : Uninterrupted turns) (hopen : Open g turns) :
    OpenedLast g turns := by
  obtain ⟨before, asked, since, rfl, hsince⟩ := hopen
  cases since with
  | nil => exact ⟨before, asked, rfl⟩
  | cons turn after =>
    have hclosed := h before g asked turn after rfl
    rw [hsince turn List.mem_cons_self] at hclosed
    cases hclosed

theorem OpenedLast.unique {other : Generation} (h : OpenedLast g turns)
    (h' : OpenedLast other turns) : g = other := by
  obtain ⟨before, asked, rfl⟩ := h
  obtain ⟨before', asked', heq⟩ := h'
  exact (LoginTurn.opened.inj (List.singleton_inj.1 (List.append_inj' heq rfl).2)).1

theorem OpenedLast.verdict (h : OpenedLast g turns) : verdict turns = .inProgress := by
  obtain ⟨before, asked, rfl⟩ := h
  exact verdict_append

end LoginTurn

open LoginTurn

namespace Progress

variable {p : Progress} {turns : List LoginTurn}

theorem holds_after (p : Progress) (turn : LoginTurn) (g : Generation) :
    (p.after turn).holds g = true ↔
      (∃ asked, turn = .opened g asked) ∨ p.holds g = true ∧ turn.closes g = false := by
  cases turn <;> simp [after, hold, closes] <;> grind

theorem auth_after (p : Progress) (turn : LoginTurn) :
    (p.after turn).auth = turn.says?.getD p.auth := by
  cases turn <;> rfl

/-- **The turns tell how far the logins have come.** -/
theorem Goes.reads (goes : start.Goes turns p) :
    (∀ g, p.holds g = true ↔ Open g turns) ∧ p.auth = verdict turns := by
  induction goes with
  | refl =>
    exact ⟨fun g => ⟨fun h => (Bool.false_ne_true h).elim, fun h => absurd h not_open_nil⟩, rfl⟩
  | turn _ turn _ ih =>
    refine ⟨fun g => ?_, ?_⟩
    · rw [holds_after, open_append_iff, ih.1]
    · rw [auth_after, verdict_append, ih.2]

/-- **Each turn could be taken** after those before it. -/
theorem Goes.allowed (goes : start.Goes turns p) {before : List LoginTurn} {turn : LoginTurn}
    {after : List LoginTurn} (h : turns = before ++ turn :: after) : Allowed before turn := by
  induction goes generalizing after with
  | refl => exact absurd h.symm (List.append_ne_nil_of_right_ne_nil _ (List.cons_ne_nil _ _))
  | @turn turns' p' goes last allowed ih =>
    -- The turn in question is the last one, or it is among those before.
    rcases concat_eq_append_cons h with ⟨rfl, rfl, -⟩ | ⟨rest, -, rfl⟩
    · obtain ⟨hholds, hauth⟩ := goes.reads
      cases last with
      | opened g asked => exact allowed.imp id hauth.symm.trans
      | succeeded g e => exact allowed.imp (hholds g).1 id
      | abandoned e => exact allowed.imp (hholds .second).1 id
      | attached | failed _ | forgotten => trivial
    · exact ih rfl

end Progress

/-! ## Changes -/

/-- Whether a change leaves the logins alone, but for what clearing a scope forgets. -/
def Change.SparesLogins : Change → Prop
  | .logins _ => False
  | .remember _ key _ => key ≠ Properties.authKey
  | _ => True

/-- The turn such a change takes. -/
def Change.turns : Change → List LoginTurn
  | .clear scope => scope.turns
  | _ => []

namespace Session

variable {s : Session}

theorem goes_change (housed : s.properties.Housed) {change : Change}
    (spares : change.SparesLogins) :
    s.progress.Goes change.turns (s.change change).progress := by
  cases change with
  | clear scope => exact goes_clear housed scope
  | logins logins => cases spares
  | remember scope key value =>
    exact .of_eq (progress_congr rfl (s.properties.get?_cons_of_ne ⟨key, scope, value⟩ spares))
  | receive | report | deactivate | enable enabled =>
    exact .of_eq (progress_modifyResumption s _)
  | abandon => exact .of_eq (progress_abandonResumption s)
  | reset => exact .of_eq (progress_resetManagement s)
  | begin context => exact .of_eq (progress_startResumption s context)
  | acknowledge h => exact .of_eq (progress_acknowledge s h)
  | resume h =>
    refine .of_eq ?_
    show (s.continueFrom h).progress = s.progress
    unfold continueFrom
    split
    · rfl
    · rename_i context _
      exact progress_modifyResumption (s.mark (context.confirmed h) .acked) _
  | answer reply => exact .of_eq (s.resolves_answer reply).progress
  | cancel key => exact .of_eq (s.resolves_cancel key).progress
  | sweep condition => exact .of_eq (progress_perform _ _)
  | _ => exact .refl

theorem goes_changes {changes : List Change} (housed : s.properties.Housed)
    (h : ∀ change ∈ changes, change.Housed ∧ change.SparesLogins) :
    s.progress.Goes (changes.flatMap Change.turns) (changes.foldl Session.change s).progress := by
  induction changes generalizing s with
  | nil => exact .refl
  | cons change rest ih =>
    obtain ⟨hhoused, spares⟩ := h change List.mem_cons_self
    exact (goes_change housed spares).trans
      (ih (housed_change housed hhoused) fun other hmem => h other (List.mem_cons_of_mem _ hmem))

/-! ## Installing modules -/

/-- The turns a module takes as it is set up. -/
def turnsOfSettingUp (s : Session) : ModuleId → List LoginTurn
  | .extra name => turnsOfActions (s.catalogue.describe name).setUp
  | _ => []

theorem goes_setUp (housed : s.properties.Housed) (id : ModuleId) (tag : Option String)
    (m : Modules) : s.progress.Goes (s.turnsOfSettingUp id) (s.setUp id tag m).1.progress := by
  cases id with
  | extra name => exact goes_actAll_noteFor housed _ _ _
  | _ => exact .refl

end Session

namespace Modules

/-- The turns modules take as they are set up one after another, until one fails. -/
def turnsOfSettingUp (m : Modules) (s : Session) : List ModuleId → List LoginTurn
  | [] => []
  | id :: rest =>
    (if (m.occupant? id).isSome then s.turnsOfSettingUp id else []) ++
      match m.setUp s id with
      | (m, s, none) => m.turnsOfSettingUp s rest
      | (_, _, some _) => []

/-- The turns that are taken as a batch is installed. -/
def turnsOfInstalling (m : Modules) (s : Session) (batch : List Descriptor) : List LoginTurn :=
  match Descriptor.resolve s.catalogue batch m.ids with
  | .error _ => []
  | .ok order =>
    (order.foldl (fun m d => m.register s.catalogue d) m).turnsOfSettingUp s (order.map (·.id))

variable {s : Session}

theorem goes_setUp (housed : s.properties.Housed) (m : Modules) (id : ModuleId) :
    s.progress.Goes (if (m.occupant? id).isSome then s.turnsOfSettingUp id else [])
      (m.setUp s id).2.1.progress := by
  unfold setUp
  cases m.occupant? id with
  | none => exact .refl
  | some occupant => exact Session.goes_setUp housed id _ _

theorem goes_setUpAll (housed : s.properties.Housed) (m : Modules) (ids : List ModuleId) :
    s.progress.Goes (m.turnsOfSettingUp s ids) (m.setUpAll s ids).2.1.progress := by
  induction ids generalizing m s with
  | nil => exact .refl
  | cons id rest ih =>
    have first := goes_setUp housed m id
    have hhoused : (m.setUp s id).2.1.properties.Housed :=
      (Session.Changes.setUp (fun _ routine => routine.silent.quiet.housed) (fun _ => trivial) m s id
        (Catalogue.within_housed _)).invariant (I := fun s => s.properties.Housed) housed
        fun _ _ hchange h => Session.housed_change h hchange
    unfold turnsOfSettingUp setUpAll
    generalize m.setUp s id = result at first hhoused ⊢
    obtain ⟨m', s', _ | error⟩ := result
    · exact first.trans (ih hhoused m')
    · show s.progress.Goes (_ ++ []) s'.progress
      rw [List.append_nil]
      exact first

theorem goes_install (housed : s.properties.Housed) (m : Modules) (batch : List Descriptor) :
    s.progress.Goes (m.turnsOfInstalling s batch) (m.install s batch).2.1.progress := by
  unfold turnsOfInstalling install
  cases Descriptor.resolve s.catalogue batch m.ids with
  | error _ => exact .refl
  | ok order => exact goes_setUpAll housed _ _

end Modules

namespace Client

variable {c c' : Client} {turns : List LoginTurn}

/-! ## Receiving an element -/

/-- The turns of the modules an element is routed to, one after another. -/
def turnsOfRouting (e : Element) : Session × Bool → List Slot → List LoginTurn
  | _, [] => []
  | state, slot :: rest =>
    (if slot.occupant.isSome then state.1.turnsOfHandling slot.id e else []) ++
      turnsOfRouting e (routeTo e state slot) rest

/-- The turns that are taken with an element that came in. -/
def turnsOfTaking (c : Client) (e : Element) : List LoginTurn :=
  let s := c.session.countReceived e
  if (s.registry.resolve? e).isSome then [] else turnsOfRouting e (s, false) (c.modules.targets e)

theorem goes_routeTo {s : Session} (housed : s.properties.Housed) (e : Element) (replied : Bool)
    (slot : Slot) :
    s.progress.Goes (if slot.occupant.isSome then s.turnsOfHandling slot.id e else [])
      (routeTo e (s, replied) slot).1.progress := by
  have processed : s.progress.Goes
      (if slot.occupant.isSome then s.turnsOfHandling slot.id e else [])
      (Modules.process slot s e).1.progress := by
    unfold Modules.process
    cases slot.occupant with
    | none => exact .refl
    | some occupant => exact Session.goes_handle housed slot.id occupant.tag e
  have hrouted : (routeTo e (s, replied) slot).1.progress =
      (Modules.process slot s e).1.progress := by
    unfold routeTo
    dsimp only
    split <;> rename_i heq <;> rw [heq]
    split <;> rfl
  rwa [hrouted]

theorem goes_routing {s : Session} (housed : s.properties.Housed) (e : Element) (replied : Bool)
    (slots : List Slot) :
    s.progress.Goes (turnsOfRouting e (s, replied) slots)
      (slots.foldl (routeTo e) (s, replied)).1.progress := by
  induction slots generalizing s replied with
  | nil => exact .refl
  | cons slot rest ih =>
    -- The rest is routed in the session that this module leaves behind.
    have course : s.Course (fun _ change => change.Housed) (routeTo e (s, replied) slot).1 :=
      Session.Course.routeTo (fun _ _ routine => routine.silent.quiet.housed)
        (fun _ change rules => by cases change with
          | remember scope key value => cases rules
          | _ => trivial)
        (fun _ _ _ duty => duty.silent.quiet.housed) (fun _ _ h => h) s replied slot
        (Catalogue.within_housed _)
    have hhoused := course.invariant (I := fun s => s.properties.Housed) housed
      fun _ _ hchange h => Session.housed_change h hchange
    exact (goes_routeTo housed e replied slot).trans (ih hhoused _)

theorem goes_take (housed : c.session.properties.Housed) (e : Element) :
    c.session.progress.Goes (c.turnsOfTaking e) (c.take e).progress := by
  have hcounted : (c.session.countReceived e).progress = c.session.progress := by
    unfold Session.countReceived
    split
    · exact Session.progress_modifyResumption _ _
    · rfl
  have hhoused : (c.session.countReceived e).properties.Housed := by
    unfold Session.countReceived
    split
    · exact housed.modify _ _
    · exact housed
  rw [← hcounted]
  unfold turnsOfTaking take
  dsimp only
  split
  · exact .of_eq (Session.resolves_answer _ e).progress
  · unfold route
    split
    · rename_i htargets
      rw [htargets]
      refine .of_eq ?_
      unfold turnAway
      split
      · rfl
      · split <;> rfl
    · exact goes_routing hhoused e false _

/-! ## Operations -/

/-- **What a module that is called does to the logins**: nothing, or it opens an exchange. -/
inductive Calls (c : Client) (changes : List Change) : List LoginTurn → Prop
  /-- The logins are left alone. -/
  | spares (h : ∀ change ∈ changes, change.SparesLogins) :
      Calls c changes (changes.flatMap Change.turns)
  /-- The owner has a generation log in. -/
  | logsIn (g : Generation) (bind : Bool) (started : (c.session.logIn bind g).2 = none)
      (h : changes.foldl Session.change c.session = (c.session.logIn bind g).1) :
      Calls c changes [.opened g true]

/-- The turns an operation takes, unless a module is called. -/
def turnsOf (c : Client) : Operation → List LoginTurn
  | .install batch => c.modules.turnsOfInstalling c.session batch
  | .connected _ => [.attached]
  | .receive e => c.turnsOfTaking e
  | .process id e =>
    match c.modules.require id with
    | .error _ => []
    | .ok _ => c.session.turnsOfHandling id e
  | _ => []

/-- **The turns an operation takes** before the client comes to rest. -/
def Takes (c : Client) : Operation → List LoginTurn → Prop
  | .call changes, turns => c.Calls changes turns
  | op, turns => turns = c.turnsOf op

theorem progress_setConnector (c : Client) (new : ConnectorState) :
    (c.setConnector new).session.progress = c.session.progress := by
  unfold setConnector
  split <;> rfl

theorem goes_prepare (housed : c.session.properties.Housed) {op : Operation} (hop : op.Housed)
    (takes : c.Takes op turns) : c.session.progress.Goes turns (c.prepare op).session.progress := by
  cases op with
  | call changes =>
    cases takes with
    | spares h =>
      exact Session.goes_changes housed fun change hmem => ⟨hop _ rfl change hmem, h change hmem⟩
    | logsIn g bind started h =>
      show c.session.progress.Goes _ (changes.foldl Session.change c.session).progress
      rw [h, Session.progress_logIn true started]
      exact .one _ _ (.inl rfl)
  | install batch =>
    obtain rfl := takes
    exact Modules.goes_install housed c.modules batch
  | receive e =>
    obtain rfl := takes
    exact goes_take housed e
  | process id e =>
    obtain rfl := takes
    unfold turnsOf prepare
    dsimp only
    cases c.modules.require id with
    | error _ => exact .refl
    | ok occupant => exact Session.goes_handle housed id occupant.tag e
  | connected transport =>
    obtain rfl := takes
    show c.session.progress.Goes _ (Client.session (setConnector _ _)).progress
    rw [progress_setConnector]
    exact .one _ .attached trivial
  | connecting =>
    obtain rfl := takes
    exact .of_eq (progress_setConnector c _)
  | lost =>
    obtain rfl := takes
    exact .of_eq (progress_setConnector { c with transport := none } _)
  | cancel key =>
    obtain rfl := takes
    exact .of_eq (Session.resolves_cancel _ key).progress
  | disconnect =>
    obtain rfl := takes
    unfold prepare turnsOf
    dsimp only
    split <;> exact .refl
  | tick now =>
    obtain rfl := takes
    refine .of_eq ?_
    show (c.housekeep now).progress = _
    have hswept : (c.session.prune.swept
        (c.session.prune.registry.sweep fun r => r.isOutdated now)).progress =
        c.session.progress := Session.progress_perform _ _
    unfold housekeep
    dsimp only
    split
    · exact (Session.progress_manage _).trans hswept
    · exact hswept
  | nextEvent =>
    obtain rfl := takes
    refine .of_eq ?_
    show c.nextEvent.2.session.progress = _
    unfold nextEvent
    split <;> rfl
  | write _ | submit _ | send _ | parseError _ | advance _ | takeEvents =>
    obtain rfl := takes
    exact .refl

/-! ## Coming to rest -/

/-- Handing over an item takes no turn. -/
theorem progress_deliver (housed : c.session.properties.Housed) (item : Outgoing) :
    (c.deliver item).session.progress = c.session.progress := by
  have delivers := c.delivers item
  generalize (c.deliver item).session = s' at delivers
  cases delivers with
  | restart =>
    exact Session.progress_congr rfl
      (housed.get?_clear_of_not_le Properties.home?_authKey (by decide))
  | close => rfl
  | closing => rfl
  | lost entry request state error _ =>
    rw [Session.failUnsent_eq]
    rfl
  | taken entry request _ =>
    rw [Session.awaitReply_eq]
    unfold Session.countSent
    split
    · exact Session.progress_startResumption _ _
    · exact Session.progress_modifyResumption _ _

/-- **The turns a client takes until it is at rest**: those of its controller. -/
inductive Passes (c : Client) : List LoginTurn → Client → Prop
  /-- Nothing happens. -/
  | refl : Passes c [] c
  /-- The oldest item of the outbox is handed over. -/
  | deliver {turns : List LoginTurn} {c' : Client} {item : Outgoing} {rest : List Outgoing}
      (passes : Passes c turns c') (ho : c'.session.outbox = item :: rest) :
      Passes c turns ((c'.withOutbox rest).deliver item)
  /-- With nothing to hand over, the controller reacts to the oldest event. -/
  | react {turns : List LoginTurn} {c' : Client} {event : Event} {rest : List Event}
      (passes : Passes c turns c') (ho : c'.session.outbox = [])
      (he : c'.session.events = event :: rest) :
      Passes c (turns ++ c'.controller.turns (c'.withEvents rest).session event)
        ((c'.withEvents rest).handleEvent event)

namespace Passes

/-- The turns of all moves can be told. -/
theorem of_moves {log : List Request} (moves : Moves c log c') : ∃ turns, c.Passes turns c' := by
  induction moves with
  | refl => exact ⟨[], .refl⟩
  | deliver _ ho ih =>
    obtain ⟨turns, passes⟩ := ih
    exact ⟨turns, passes.deliver ho⟩
  | react _ ho he ih =>
    obtain ⟨turns, passes⟩ := ih
    exact ⟨_, passes.react ho he⟩

theorem moves (passes : c.Passes turns c') : ∃ log, Moves c log c' := by
  induction passes with
  | refl => exact ⟨[], .refl⟩
  | deliver _ ho ih =>
    obtain ⟨log, moves⟩ := ih
    exact ⟨_, moves.deliver ho⟩
  | react _ ho he ih =>
    obtain ⟨log, moves⟩ := ih
    exact ⟨_, moves.react ho he⟩

theorem goes (passes : c.Passes turns c') (housed : c.session.properties.Housed) :
    c.session.progress.Goes turns c'.session.progress := by
  induction passes with
  | refl => exact .refl
  | @deliver turns c' item rest passes ho ih =>
    obtain ⟨log, moves⟩ := passes.moves
    have hhoused := housed_moves moves housed
    have hrest : (c'.withOutbox rest).session.properties.Housed := hhoused
    rw [progress_deliver hrest]
    exact ih
  | @react turns c' event rest passes ho he ih =>
    obtain ⟨log, moves⟩ := passes.moves
    have hhoused := housed_moves moves housed
    have hrest : (c'.withEvents rest).session.properties.Housed := hhoused
    have ih : c.session.progress.Goes turns (c'.withEvents rest).session.progress := ih
    exact ih.trans (Session.goes_react hrest c'.controller event)

end Passes

/-! ## Runs -/

/-- **The turns of an operation**: those it takes itself, and those that are taken until the
client is at rest. -/
def TurnsIn (c : Client) (op : Operation) (turns : List LoginTurn) : Prop :=
  ∃ before during, turns = before ++ during ∧ c.Takes op before ∧
    (c.prepare op).Passes during (c.operate op)

/-- **The turns a client takes** in the course of operations. -/
def Recalls (c : Client) : List Operation → List LoginTurn → Prop
  | [], turns => turns = []
  | op :: rest, turns =>
    ∃ now later, turns = now ++ later ∧ c.TurnsIn op now ∧ (c.operate op).Recalls rest later

/-- **Whoever calls modules spares the logins** in the course of operations: a module that is
called does nothing to them, or opens an exchange. -/
def Spares (c : Client) : List Operation → Prop
  | [] => True
  | op :: rest =>
    (∀ changes, op = .call changes → ∃ turns, c.Calls changes turns) ∧ (c.operate op).Spares rest

theorem exists_takes {op : Operation} (h : ∀ changes, op = .call changes →
    ∃ turns, c.Calls changes turns) : ∃ turns, c.Takes op turns := by
  cases op with
  | call changes => exact h changes rfl
  | _ => exact ⟨_, rfl⟩

theorem AtRest.exists_recalls {ops : List Operation} (h : c.AtRest) (spares : c.Spares ops) :
    ∃ turns, c.Recalls ops turns := by
  induction ops generalizing c with
  | nil => exact ⟨[], rfl⟩
  | cons op rest ih =>
    obtain ⟨before, takes⟩ := exists_takes spares.1
    -- A client at rest has nothing to do before the operation, so all that is done until it is
    -- at rest again is done after it.
    obtain ⟨log, moves⟩ := Moves.run (c.prepare op)
    rw [← operate_eq h] at moves
    obtain ⟨during, passes⟩ := Passes.of_moves moves
    obtain ⟨later, recalls⟩ := ih (h.operate op) spares.2
    exact ⟨_, _, later, rfl, ⟨before, during, rfl, takes, passes⟩, recalls⟩

theorem Recalls.goes {ops : List Operation} (recalls : c.Recalls ops turns)
    (housed : c.session.properties.Housed) (hops : ∀ op ∈ ops, op.Housed) :
    c.session.progress.Goes turns (ops.foldl operate c).session.progress := by
  induction ops generalizing c turns with
  | nil =>
    obtain rfl := recalls
    exact .refl
  | cons op rest ih =>
    obtain ⟨now, later, rfl, ⟨before, during, rfl, takes, passes⟩, recalls⟩ := recalls
    have hop := hops op List.mem_cons_self
    have hprepared := housed_prepare housed hop
    obtain ⟨log, moves⟩ := passes.moves
    exact ((goes_prepare housed hop takes).trans (passes.goes hprepared)).trans
      (ih recalls (housed_moves moves hprepared) fun other hmem =>
        hops other (List.mem_cons_of_mem _ hmem))

/-- **The turns explain how the logins of a client stand.** -/
structure Explained (c : Client) (turns : List LoginTurn) : Prop where
  /-- A login holds a mechanism if and only if it opened an exchange that had no outcome
  since, whatever became of the connection. -/
  held : ∀ g, (c.session.logins.mechanism? g).isSome = true ↔ Open g turns
  /-- The state of the login is what the last turn says that says anything about it. -/
  auth : c.session.properties.authState = verdict turns
  /-- The server is heard to accept us only by an exchange that is open, and the controller
  opens one only where nothing happened yet. -/
  allowed : ∀ before turn after, turns = before ++ turn :: after → Allowed before turn
  /-- If every exchange has its outcome before anything else happens, then the exchange of
  a mechanism that is held is under way on this connection. -/
  running : Uninterrupted turns → ∀ g, (c.session.logins.mechanism? g).isSome = true →
    c.session.properties.authState = .inProgress ∧ OpenedLast g turns
  /-- And then nobody else holds one. -/
  alone : Uninterrupted turns → ∀ g other, (c.session.logins.mechanism? g).isSome = true →
    (c.session.logins.mechanism? other).isSome = true → g = other
  /-- And the server is heard to accept us only by an exchange that was opened just before,
  on the same connection. -/
  answered : Uninterrupted turns → ∀ before g e after,
    turns = before ++ .succeeded g e :: after → e.name = "success" ∧ OpenedLast g before

/-- **The logins of a client, explained.** Whatever is done to a client from the start, as
long as the modules its owner calls leave the properties of the library in their scopes and
the logins to themselves, its turns tell who holds a mechanism and what the state of the
login is: a mechanism is given up by the outcome of its own exchange and by nothing else,
and it is held on the current connection only if nothing came in between. -/
theorem explained_of_run (config : Config) (catalogue : Catalogue) (ops : List Operation)
    (housed : ∀ op ∈ ops, op.Housed) (spares : (blank config catalogue).Spares ops) :
    ∃ turns, (blank config catalogue).Recalls ops turns ∧
      (ops.foldl operate (blank config catalogue)).Explained turns := by
  obtain ⟨turns, recalls⟩ := (atRest_blank config catalogue).exists_recalls spares
  have hblank : (blank config catalogue).session.properties.Housed :=
    fun _ hmem => absurd hmem List.not_mem_nil
  have goes : Progress.start.Goes turns
      (ops.foldl operate (blank config catalogue)).session.progress := by
    have hstart : (blank config catalogue).session.progress = .start :=
      Progress.ext (funext fun g => by cases g <;> rfl) rfl
    exact hstart ▸ recalls.goes hblank housed
  obtain ⟨held, auth⟩ := goes.reads
  refine ⟨turns, recalls, held, auth, fun _ _ _ => goes.allowed, fun calm g h => ?_,
    fun calm g other h h' => ?_, ?_⟩
  · have last := calm.openedLast ((held g).1 h)
    exact ⟨auth.trans last.verdict, last⟩
  · exact (calm.openedLast ((held g).1 h)).unique (calm.openedLast ((held other).1 h'))
  · rintro calm before g e after rfl
    obtain ⟨hopen, hname⟩ := goes.allowed rfl
    exact ⟨hname, calm.of_append.openedLast hopen⟩

namespace Rehearsal

/-- A login that is under way. -/
def logsIn : List Operation :=
  .install (ModuleId.builtIn.map (Descriptor.default [])) :: connects

/-- The connection is lost, and there is another one. -/
def reconnects : List Operation :=
  [.lost, .connecting, .connected {}]

/-- Features that offer to log in by the second generation. -/
def offersLogin2 : Element where
  name := "features"
  ns := Namespace.stream
  content := Element.nodes
    [{ name := "authentication"
       ns := Namespace.sasl2
       content := Element.nodes [.ofText "mechanism" Namespace.sasl2 "PLAIN"] }]

/-- Where no module is called, the logins are spared. -/
theorem spares_of_all {ops : List Operation} (h : ops.all (fun op => !op matches .call _) = true)
    (c : Client) : c.Spares ops := by
  induction ops generalizing c with
  | nil => trivial
  | cons op rest ih =>
    obtain ⟨hop, hrest⟩ := Bool.and_eq_true_iff.1 h
    refine ⟨?_, ih hrest _⟩
    rintro changes rfl
    cases hop

end Rehearsal

open Rehearsal

/-- In the rehearsal the connection is lost in the middle of a login. The exchange stays
open, though nothing is known of it any more. -/
theorem explained_of_run_rehearsal :
    ∃ turns, (blank account []).Recalls (logsIn ++ [.lost]) turns ∧
      ((logsIn ++ [Operation.lost]).foldl operate (blank account [])).Explained turns ∧
        Open .first turns ∧ verdict turns = .unknown := by
  obtain ⟨turns, recalls, explained⟩ := explained_of_run account [] (logsIn ++ [.lost])
    (Operation.housed_of_all (by decide)) (spares_of_all (by decide) _)
  refine ⟨turns, recalls, explained, ?_, ?_⟩
  · exact (explained.held .first).1 (by decide +kernel)
  · exact explained.auth.symm.trans (by decide +kernel)

/-- **Mechanisms are not always those of the current connection.** A login that was
interrupted goes on holding one; the login on the next connection may hold one, too; and
there the server is heard to accept a login that nobody began. -/
theorem not_forall_held_on_connection :
    (¬ ∀ ops : List Operation, ops.all (fun op => !op matches .call _) = true → ∀ g,
        ((ops.foldl operate (blank account [])).session.logins.mechanism? g).isSome = true →
          (ops.foldl operate (blank account [])).session.properties.authState = .inProgress)
      ∧ (¬ ∀ ops : List Operation, ops.all (fun op => !op matches .call _) = true →
          ∀ g other,
            ((ops.foldl operate (blank account [])).session.logins.mechanism? g).isSome = true →
            ((ops.foldl operate (blank account [])).session.logins.mechanism? other).isSome = true →
              g = other)
      ∧ ¬ ∀ ops : List Operation, ops.all (fun op => !op matches .call _) = true → ∀ e : Element,
          ((ops ++ reconnects ++ [Operation.receive e]).foldl operate
            (blank account [])).session.properties.authState ≠ .succeeded := by
  refine ⟨fun h => ?_, fun h => ?_, fun h => ?_⟩
  · have hstate := h (logsIn ++ [.lost]) (by decide) .first (by decide +kernel)
    exact absurd hstate (by decide +kernel)
  · have hsame := h (logsIn ++ reconnects ++ [.receive offersLogin2]) (by decide) .first .second
      (by decide +kernel) (by decide +kernel)
    cases hsame
  · exact h logsIn (by decide) welcomes (by decide +kernel)

end Client

end Xmpp
