import Xmpp.Proofs.Client.Rest

/-!
# Runs of a client

Everything the owner of a client can do is an `Operation`, and what becomes of
a client is a fact about sequences of them. An operation first does something
to the client, mostly to its session, and then lets it come to rest; the first
part is `Client.prepare`, and it is a course of changes (`Course.prepare`), while
the second consists of moves. So what changes and moves preserve holds after
every run.

The owner may also call the modules, the built-in ones and his own, which do to
the session whatever they like. What they can do are changes, so a call stands
for any list of them. Only taking the record of calls is left out: it is a
means of looking at a client and no part of it.
-/

namespace Xmpp

open Delivery

/-- **What the owner of a client can do.** -/
inductive Operation where
  /-- Installs modules. -/
  | install (batch : List Descriptor)
  /-- Writes an element. -/
  | write (element : Element)
  /-- Sends a request that was made already. -/
  | submit (request : Request)
  /-- Sends a request. -/
  | send (draft : Draft)
  /-- Has a module do something to the session. -/
  | call (changes : List Change)
  /-- Cancels a request. -/
  | cancel (key : RequestKey)
  /-- Reports that the transport is being set up. -/
  | connecting
  /-- Attaches a transport. -/
  | connected (transport : Transport)
  /-- Reports that the connection is gone. -/
  | lost
  /-- Closes the stream. -/
  | disconnect
  /-- Reports that what the server sent made no sense. -/
  | parseError (message : String)
  /-- Feeds an element that came in. -/
  | receive (element : Element)
  /-- Has an element handled by one module. -/
  | process (id : ModuleId) (element : Element)
  /-- Lets time pass. -/
  | advance (duration : Nat)
  /-- Has the client do its housekeeping. -/
  | tick (now : Nat)
  /-- Takes the published events. -/
  | takeEvents
  /-- Takes the oldest published event. -/
  | nextEvent

namespace Client

/-- **Carrying out an operation.** -/
def operate (c : Client) : Operation → Client
  | .install batch => (c.install batch).1
  | .write element => (c.write element).2
  | .submit request => (c.submit request).2
  | .send draft => (c.send draft).2
  | .call changes => (c.perform fun s => ((), changes.foldl Session.change s)).2
  | .cancel key => (c.cancel key).2
  | .connecting => c.connecting
  | .connected transport => c.connected transport
  | .lost => c.lost
  | .disconnect => c.disconnect.1
  | .parseError message => c.parseError message
  | .receive element => c.receive element
  | .process id element => (c.process id element).1
  | .advance duration => c.advance duration
  | .tick now => c.tick now
  | .takeEvents => c.takeEvents.2
  | .nextEvent => c.nextEvent.2

/-- What becomes of the session with an element that came in. -/
def take (c : Client) (e : Element) : Session :=
  let s := c.session.countReceived e
  if (s.registry.resolve? e).isSome then s.answer e else c.route s e

/-- What housekeeping does to the session. -/
def housekeep (c : Client) (now : Nat) : Session :=
  let s := c.session.prune
  let s := s.swept (s.registry.sweep fun r => r.isOutdated now)
  if c.transport.isSome then s.manage else s

/-- **An operation before the client comes to rest.** -/
def prepare (c : Client) : Operation → Client
  | .install batch =>
    let (modules, session, _) := c.modules.install c.session batch
    { c with modules, session }
  | .write element => { c with session := c.session.write element }
  | .submit request => { c with session := c.session.change (.give request) }
  | .send draft => { c with session := (c.session.send draft).2 }
  | .call changes => { c with session := changes.foldl Session.change c.session }
  | .cancel key => { c with session := c.session.cancel key }
  | .connecting => c.setConnector .connecting
  | .connected transport => { c with transport := some transport }.setConnector .connected
  | .lost => { c with transport := none }.setConnector .disconnected
  | .disconnect => if c.transport.isNone then c else { c with session := c.session.close }
  | .parseError message => { c with session := c.session.fire (.parseError message) }
  | .receive element => { c with session := c.take element }
  | .process id element =>
    match c.modules.require id with
    | .error _ => c
    | .ok occupant => { c with session := (c.session.handle id occupant.tag element).1 }
  | .advance duration => c.advance duration
  | .tick now => { c with session := c.housekeep now }
  | .takeEvents => c.takeEvents.2
  | .nextEvent => c.nextEvent.2

theorem AtRest.nextEvent {c : Client} (h : c.AtRest) : c.nextEvent.2.AtRest := by
  unfold Client.nextEvent
  split
  · exact h
  · exact h

/-- **An operation prepares the client and lets it come to rest.** -/
theorem operate_eq {c : Client} (h : c.AtRest) (op : Operation) :
    c.operate op = (c.prepare op).run := by
  cases op with
  | cancel key =>
    show (c.cancel key).2 = ({ c with session := c.session.cancel key } : Client).run
    unfold Client.cancel Session.cancel
    split <;> rename_i heq <;> rw [heq]
  | disconnect =>
    show c.disconnect.1 = (if c.transport.isNone then c else _ : Client).run
    unfold Client.disconnect
    split
    · exact h.run.symm
    · rfl
  | receive element =>
    show c.receive element = ({ c with session := c.take element } : Client).run
    unfold Client.receive Client.take Session.answer
    dsimp only
    cases heq : (c.session.countReceived element).registry.resolve? element <;> rfl
  | process id element =>
    unfold operate prepare Client.process
    dsimp only
    cases c.modules.require id with
    | error e => exact h.run.symm
    | ok occupant => rfl
  | advance duration => exact (AtRest.run (c := c.advance duration) h).symm
  | takeEvents => exact (AtRest.run (c := c.takeEvents.2) h).symm
  | nextEvent => exact (AtRest.run h.nextEvent).symm
  | _ => rfl

theorem AtRest.operate {c : Client} (h : c.AtRest) (op : Operation) : (c.operate op).AtRest := by
  rw [operate_eq h]
  exact atRest_run _

/-- A client is at rest after every run. -/
theorem AtRest.foldl_operate {c : Client} (h : c.AtRest) (ops : List Operation) :
    (ops.foldl Client.operate c).AtRest := by
  induction ops generalizing c with
  | nil => exact h
  | cons op rest ih => exact ih (h.operate op)

/-- **What operations and moves preserve holds after every run** of a client at rest. -/
theorem foldl_operate_invariant {I : Client → Prop} {ops : List Operation} {c : Client}
    (h : c.AtRest) (hc : I c)
    (prepare : ∀ op ∈ ops, ∀ c : Client, c.AtRest → I c → I (c.prepare op))
    (moves : ∀ {c c' : Client} {log : List Request}, Moves c log c' → I c → I c') :
    I (ops.foldl Client.operate c) := by
  induction ops generalizing c with
  | nil => exact hc
  | cons op rest ih =>
    obtain ⟨log, moved⟩ := Moves.run (c.prepare op)
    refine ih (h.operate op) ?_ fun other hmem => prepare other (List.mem_cons_of_mem _ hmem)
    rw [operate_eq h]
    exact moves moved (prepare op List.mem_cons_self c h hc)

/-- A client before any module is installed is at rest. -/
theorem atRest_blank (config : Config) (catalogue : Catalogue) :
    (blank config catalogue).AtRest :=
  ⟨rfl, rfl⟩

end Client

/-! ## Operations in steps -/

variable {P : Change → Prop}

/-- Whether what an operation itself does meets a condition. What modules of the
application do in its course is up to their descriptions. -/
def Operation.Within (P : Change → Prop) : Operation → Prop
  | .write element => P (.write element)
  | .submit request => P (.give request)
  | .send draft =>
    (∀ drawn, P (.draw drawn)) ∧ ∀ usual now drawn, P (.give (draft.build usual now drawn).1)
  | .call changes => ∀ change ∈ changes, P change
  | .cancel key => P (.cancel key)
  | .connecting | .connected _ | .lost => ∀ old new, P (.fire (.connector old new))
  | .receive element | .process _ element =>
    element.isVerdict = true → ∀ change : Change, change.isVerdict = true → P change
  | _ => True

theorem Operation.Within.mono {Q : Change → Prop} {op : Operation} (h : op.Within P)
    (hPQ : ∀ change, P change → Q change) : op.Within Q := by
  cases op with
  | write element => exact hPQ _ h
  | submit request => exact hPQ _ h
  | send draft => exact ⟨fun drawn => hPQ _ (h.1 drawn), fun _ _ _ => hPQ _ (h.2 _ _ _)⟩
  | call changes => exact fun change hmem => hPQ _ (h change hmem)
  | cancel key => exact hPQ _ h
  | connecting | connected _ | lost => exact fun old new => hPQ _ (h old new)
  | receive element | process id element =>
    exact fun verdict change hchange => hPQ _ (h verdict change hchange)
  | _ => trivial

/-- Installing or handling leaves the descriptions of the modules as they
are. -/
@[simp] theorem Session.catalogue_change (s : Session) (change : Change) :
    (s.change change).catalogue = s.catalogue := by
  cases change with
  | abandon => exact congrArg (·.catalogue) s.abandonResumption_eq
  | reset => exact congrArg (·.catalogue) s.resetManagement_eq
  | acknowledge h => exact congrArg (·.catalogue) (s.acknowledge_eq h)
  | resume h => exact congrArg (·.catalogue) (s.continueFrom_eq h)
  | answer reply => exact congrArg (·.catalogue) (s.resolves_answer reply).eq
  | cancel key => exact congrArg (·.catalogue) (s.resolves_cancel key).eq
  | sweep condition =>
    show (Session.perform _ _).catalogue = _
    rw [Session.perform_eq]
  | _ => rfl

theorem Session.Changes.catalogue {s s' : Session} (h : s.Changes P s') :
    s'.catalogue = s.catalogue :=
  h.invariant (I := fun s' => s'.catalogue = s.catalogue) rfl fun s' change _ hs =>
    (s'.catalogue_change change).trans hs

namespace Client

/-- Handing over an item leaves the descriptions of the modules as they are. -/
theorem catalogue_deliver (c : Client) (item : Outgoing) :
    (c.deliver item).session.catalogue = c.session.catalogue := by
  have delivers := c.delivers item
  generalize (c.deliver item).session = s' at delivers
  cases delivers with
  | restart | close | closing => rfl
  | lost entry request state error _ => rw [Session.failUnsent_eq]; rfl
  | taken entry request _ => rw [Session.countSent_eq, Session.awaitReply_eq]; rfl

/-- So does a reaction. -/
theorem catalogue_handleEvent (c : Client) (event : Event) :
    (c.handleEvent event).session.catalogue = c.session.catalogue := by
  obtain ⟨k, -, steps⟩ := Session.Steps.react c.controller c.session event
  exact Session.Changes.catalogue ⟨k, steps⟩

theorem catalogue_moves {c c' : Client} {log : List Request} (moves : Moves c log c') :
    c'.session.catalogue = c.session.catalogue := by
  induction moves with
  | refl => rfl
  | deliver _ _ ih => exact (catalogue_deliver _ _).trans ih
  | react _ _ _ ih => exact (catalogue_handleEvent _ _).trans ih

end Client

/-- Only a stanza expects a reply. -/
theorem Element.isStanza_of_expectsReply {e : Element} (h : e.expectsReply = true) :
    e.isStanza = true := by
  unfold expectsReply at h
  simp only [Bool.and_eq_true] at h
  exact h.1.1

namespace Session.Changes

variable {s s' : Session}

theorem foldl {changes : List Change} (h : ∀ change ∈ changes, P change) (s : Session) :
    Changes P s (changes.foldl Session.change s) := by
  induction changes generalizing s with
  | nil => exact refl s
  | cons change rest ih =>
    exact (one s change (h change (List.mem_cons_self ..))).trans
      (ih (fun other hmem => h other (List.mem_cons_of_mem _ hmem)) _)

theorem setConnector (c : Client) (new : ConnectorState)
    (h : ∀ old new, P (.fire (.connector old new))) :
    Changes P c.session (c.setConnector new).session := by
  unfold Client.setConnector
  split
  · exact refl _
  · exact one c.session (.fire _) (h _ _)

variable (routine : ∀ change : Change, change.Routine → P change)

include routine

section Installing

variable (advertise : ∀ features, P (.advertise features))

include advertise

theorem setUp (m : Modules) (s : Session) (id : ModuleId) (hs : s.catalogue.Within P) :
    Changes P s (m.setUp s id).2.1 := by
  have prepared (tag : Option String) (modules : Modules) :
      Changes P s (s.setUp id tag modules).1 := by
    unfold Session.setUp
    split
    · exact one s (.advertise _) (advertise _)
    · exact (noteFor routine s _ _ rfl).trans (actAll (hs.describe _).1 _)
    · exact refl s
  unfold Modules.setUp
  split
  · exact refl s
  · exact prepared _ _

theorem setUpAll (m : Modules) (ids : List ModuleId) (s : Session) (hs : s.catalogue.Within P) :
    Changes P s (m.setUpAll s ids).2.1 := by
  induction ids generalizing m s with
  | nil => exact refl s
  | cons id rest ih =>
    have first := setUp routine advertise m s id hs
    unfold Modules.setUpAll
    split
    · rename_i m' s' heq
      rw [heq] at first
      exact first.trans (ih m' s' (by rw [first.catalogue]; exact hs))
    · rename_i m' s' error heq
      rw [heq] at first
      exact first

theorem install (m : Modules) (s : Session) (batch : List Descriptor)
    (hs : s.catalogue.Within P) : Changes P s (m.install s batch).2.1 := by
  unfold Modules.install
  split
  · exact refl s
  · exact setUpAll routine advertise _ _ s hs

end Installing

theorem turnAway (s : Session) (e : Element) : Changes P s (Client.turnAway s e) := by
  unfold Client.turnAway
  split
  · rename_i expects
    have stanza : e.isStanza = true := Element.isStanza_of_expectsReply expects
    exact one s (.write _) (routine _
      ⟨e.demand?_reply _ (by decide), Element.isReport_reply stanza _ _, trivial⟩)
  · split
    · exact refl s
    · exact (one s (.write _) (routine _ ⟨by rfl, by rfl, trivial⟩)).step .close
        (routine _ ⟨rfl, trivial, trivial⟩)

theorem housekeep (c : Client) (now : Nat) (hreport : P .report)
    (hwrite : ∀ report : Element, report.isReport = true → report.demand? = none →
      P (.write report)) : Changes P c.session (c.housekeep now) := by
  have swept := (one c.session .prune (routine _ ⟨rfl, trivial, trivial⟩)).step
    (.sweep fun r => r.isOutdated now) (routine _ ⟨rfl, trivial, trivial⟩)
  unfold Client.housekeep
  dsimp only
  split
  · exact swept.trans ⟨_, .manage _ routine hreport hwrite⟩
  · exact swept

end Session.Changes

/-- **What an operation itself brings**, in the state where it does so: what the owner asks
for, the news of the transport, and what a received element rules. -/
def Operation.Brings (op : Operation) (s : Session) (change : Change) : Prop :=
  match op with
  | .write element => change = .write element
  | .submit request => change = .give request
  | .send draft =>
    (∃ drawn, change = .draw drawn)
      ∨ ∃ usual now drawn, change = .give (draft.build usual now drawn).1
  | .call changes => change ∈ changes
  | .cancel key => change = .cancel key
  | .connecting | .connected _ | .lost => ∃ old new, change = .fire (.connector old new)
  | .receive element | .process _ element => element.Rules s change
  | _ => False

/-- **What happens in an operation**: silent changes, those of the modules of the
application, and those it brings itself. -/
def Operation.Allows (P : Change → Prop) (op : Operation) (s : Session) (change : Change) : Prop :=
  change.Silent ∨ P change ∨ op.Brings s change

/-- **The business of an operation** beyond routine: features are told when modules are
installed; what comes in is counted, and answers a request or is handled by modules; and
housekeeping may report. -/
def Operation.Duty (op : Operation) (s : Session) (change : Change) : Prop :=
  match op with
  | .install _ => ∃ features, change = .advertise features
  | .receive e => change = .receive ∨ change = .answer e ∨ ∃ id : ModuleId, id.Duty e s change
  | .process id e => id.Duty e s change
  | .tick _ => change = .report
    ∨ ∃ report : Element, change = .write report ∧ report.isReport = true ∧ report.demand? = none
  | _ => False

/-- **Official changes**: those that are somebody's business, which is nobody else's. -/
inductive Change.Official : Change → Prop
  /-- The features we tell are settled. -/
  | advertise (features : List String) : Official (.advertise features)
  /-- A stanza is counted. -/
  | receive : Official .receive
  /-- The number of received stanzas was reported. -/
  | report : Official .report
  /-- An element is written. -/
  | write (element : Element) : Official (.write element)
  /-- A request is answered. -/
  | answer (reply : Element) : Official (.answer reply)
  /-- The roster is published. -/
  | roster (query : Element) : Official (.fire (.roster query))

theorem ModuleId.Duty.official {id : ModuleId} {e : Element} {s : Session} {change : Change}
    (h : id.Duty e s change) : change.Official := by
  cases change with
  | report => exact .report
  | write element => exact .write element
  | fire event =>
    obtain ⟨-, ⟨query, rfl⟩, -⟩ := h
    exact .roster query
  | _ => cases h

/-- The business of an operation is official. -/
theorem Operation.Duty.official {op : Operation} {s : Session} {change : Change}
    (h : op.Duty s change) : change.Official := by
  cases op with
  | install batch =>
    obtain ⟨features, rfl⟩ := h
    exact .advertise features
  | receive e =>
    rcases h with rfl | rfl | ⟨id, h⟩
    · exact .receive
    · exact .answer e
    · exact h.official
  | process id e => exact ModuleId.Duty.official h
  | tick now =>
    rcases h with rfl | ⟨report, rfl, -⟩
    · exact .report
    · exact .write report
  | _ => cases h

/-- The business of an operation is silent. -/
theorem Operation.Duty.silent {op : Operation} {s : Session} {change : Change}
    (h : op.Duty s change) : change.Silent := by
  cases op with
  | install batch =>
    obtain ⟨features, rfl⟩ := h
    exact rfl
  | receive e =>
    rcases h with rfl | rfl | ⟨id, h⟩
    · exact rfl
    · exact rfl
    · exact h.silent
  | process id e => exact ModuleId.Duty.silent h
  | tick now =>
    rcases h with rfl | ⟨report, rfl, -, hdemand⟩
    · exact rfl
    · exact hdemand
  | _ => cases h

/-- **What happens in an operation, exactly**: routine, its business, the changes of the
modules of the application, and those it brings itself. -/
def Operation.Entails (P : Change → Prop) (op : Operation) (s : Session) (change : Change) :
    Prop :=
  change.Routine ∨ op.Duty s change ∨ P change ∨ op.Brings s change

theorem Operation.Entails.allows {op : Operation} {s : Session} {change : Change}
    (h : op.Entails P s change) : op.Allows P s change :=
  h.elim (fun routine => .inl routine.silent) fun h =>
    h.elim (fun duty => .inl duty.silent) .inr

namespace Session.Course

variable {R : Session → Change → Prop} {s s' : Session} {e : Element}

/-- Handling leaves the descriptions of the modules as they are. -/
theorem catalogue (h : s.Course R s') : s'.catalogue = s.catalogue :=
  h.invariant (I := fun s' => s'.catalogue = s.catalogue) rfl fun s' change _ hs =>
    (s'.catalogue_change change).trans hs

section Receiving

variable (routine : ∀ (s : Session) (change : Change), change.Routine → R s change)
variable (rules : ∀ (s : Session) (change : Change), e.Rules s change → R s change)
variable (duty : ∀ (id : ModuleId) (s : Session) (change : Change), id.Duty e s change →
  R s change)
variable (actions : ∀ (s : Session) (change : Change), P change → R s change)

include routine rules duty actions

theorem routeTo (s : Session) (replied : Bool) (slot : Slot) (hs : s.catalogue.Within P) :
    Course R s (Client.routeTo e (s, replied) slot).1 := by
  have processed : Course R s (Modules.process slot s e).1 := by
    unfold Modules.process
    split
    · exact .refl
    · exact handle routine rules s slot.id _ hs (duty slot.id) actions
  unfold Client.routeTo
  dsimp only
  split
  · rename_i heq
    rw [heq] at processed
    exact processed
  · rename_i heq
    rw [heq] at processed
    split
    · rename_i expects
      have stanza : e.isStanza = true :=
        Element.isStanza_of_expectsReply (Bool.and_eq_true_iff.1 expects).2
      exact processed.step (.write _) (routine _ _
        ⟨e.demand?_reply _ (by decide), Element.isReport_reply stanza _ _, trivial⟩)
    · exact processed

theorem route (c : Client) (s : Session) (hs : s.catalogue.Within P) :
    Course R s (c.route s e) := by
  unfold Client.route
  split
  · exact routinely routine (.turnAway (fun _ h => h) s e)
  · generalize false = replied
    generalize c.modules.targets e = targets
    induction targets generalizing s replied with
    | nil => exact .refl
    | cons slot rest ih =>
      have first := routeTo routine rules duty actions s replied slot hs
      exact first.trans (ih _ (by rw [first.catalogue]; exact hs) _)

end Receiving

/-- **What an operation does to the session** is a course of changes it entails. -/
theorem entailed (c : Client) (op : Operation) (hs : c.session.catalogue.Within P) :
    Course (op.Entails P) c.session (c.prepare op).session := by
  have routine : ∀ (s : Session) (change : Change), change.Routine → op.Entails P s change :=
    fun _ _ => .inl
  have duty : ∀ (s : Session) (change : Change), op.Duty s change → op.Entails P s change :=
    fun _ _ h => .inr (.inl h)
  have actions : ∀ (s : Session) (change : Change), P change → op.Entails P s change :=
    fun _ _ h => .inr (.inr (.inl h))
  have brings : ∀ (s : Session) (change : Change), op.Brings s change → op.Entails P s change :=
    fun _ _ h => .inr (.inr (.inr h))
  cases op with
  | install batch =>
    exact of_changes
      (P := fun change => change.Routine ∨ (∃ features, change = .advertise features) ∨ P change)
      (.install (fun _ => .inl) (fun features => .inr (.inl ⟨features, rfl⟩)) c.modules c.session
        batch fun entry hmem => (hs entry hmem).mono fun _ h => .inr (.inr h))
      fun s change h => h.elim (routine s change) fun h => h.elim (duty s change) (actions s change)
  | write element => exact one c.session (.write element) (brings _ _ rfl)
  | submit request => exact one c.session (.give request) (brings _ _ rfl)
  | send draft =>
    exact of_changes (P := (Operation.send draft).Brings c.session)
      ⟨_, .post c.session draft (fun drawn => .inl ⟨drawn, rfl⟩)
        fun usual now drawn => .inr ⟨usual, now, drawn, rfl⟩⟩ fun s change => brings s change
  | call changes =>
    exact of_changes (P := (· ∈ changes)) (.foldl (fun _ h => h) c.session)
      fun s change => brings s change
  | cancel key => exact one c.session (.cancel key) (brings _ _ rfl)
  | connecting =>
    exact of_changes (P := fun change => ∃ old new, change = .fire (.connector old new))
      (.setConnector c .connecting fun old new => ⟨old, new, rfl⟩) fun s change => brings s change
  | connected transport =>
    exact of_changes (P := fun change => ∃ old new, change = .fire (.connector old new))
      (.setConnector { c with transport := some transport } .connected
        fun old new => ⟨old, new, rfl⟩) fun s change => brings s change
  | lost =>
    exact of_changes (P := fun change => ∃ old new, change = .fire (.connector old new))
      (.setConnector { c with transport := none } .disconnected fun old new => ⟨old, new, rfl⟩)
      fun s change => brings s change
  | disconnect =>
    show Course _ c.session (if c.transport.isNone then c else _ : Client).session
    split
    · exact .refl
    · exact one c.session .close (routine _ _ ⟨rfl, trivial, trivial⟩)
  | parseError message =>
    exact one c.session (.fire (.parseError message)) (routine _ _ ⟨rfl, rfl, trivial⟩)
  | receive e =>
    have counted : Course _ c.session (c.session.countReceived e) :=
      of_changes (P := (· = Change.receive)) ⟨_, .countReceived c.session e rfl⟩
        fun s _ h => duty s _ (.inl h)
    show Course _ c.session (c.take e)
    unfold Client.take
    dsimp only
    split
    · exact counted.step (.answer e) (duty _ _ (.inr (.inl rfl)))
    · exact counted.trans (route routine brings
        (fun id s change h => duty s change (.inr (.inr ⟨id, h⟩))) actions c _
        (by rw [counted.catalogue]; exact hs))
  | process id e =>
    show Course _ c.session (Client.session _)
    unfold Client.prepare
    dsimp only
    split
    · exact .refl
    · exact handle routine brings c.session id _ hs duty actions
  | advance duration => exact one c.session (.pass duration) (routine _ _ ⟨rfl, trivial, trivial⟩)
  | tick now =>
    exact of_changes (P := fun change => change.Routine ∨ ∀ s, (Operation.tick now).Duty s change)
      (.housekeep (fun _ => .inl) c now (.inr fun _ => .inl rfl) fun report hreport hdemand =>
        .inr fun _ => .inr ⟨report, rfl, hreport, hdemand⟩)
      fun s change h => h.elim (routine s change) fun h => duty s change (h s)
  | takeEvents => exact .refl
  | nextEvent =>
    show Course _ c.session c.nextEvent.2.session
    unfold Client.nextEvent
    split <;> exact .refl

/-- What an operation does to the session is a course of changes it allows. -/
theorem prepare (c : Client) (op : Operation) (hs : c.session.catalogue.Within P) :
    Course (op.Allows P) c.session (c.prepare op).session :=
  (entailed c op hs).mono fun _ _ => Operation.Entails.allows

end Session.Course

/-- What an operation brings meets a condition its own changes meet, if giving up the
resumable session does. -/
theorem Operation.Within.brings {op : Operation} (h : op.Within P) (abandon : P .abandon)
    {s : Session} {change : Change} (hbrings : op.Brings s change) : P change := by
  have ruled {e : Element} (h : e.isVerdict = true → ∀ change : Change, change.isVerdict = true →
      P change) (hrules : e.Rules s change) : P change := by
    obtain ⟨hverdict, hchange | rfl⟩ := hrules.isVerdict
    · exact h hverdict change hchange
    · exact abandon
  cases op with
  | write element =>
    obtain rfl := hbrings
    exact h
  | submit request =>
    obtain rfl := hbrings
    exact h
  | send draft =>
    rcases hbrings with ⟨drawn, rfl⟩ | ⟨usual, now, drawn, rfl⟩
    · exact h.1 drawn
    · exact h.2 usual now drawn
  | call changes => exact h change hbrings
  | cancel key =>
    obtain rfl := hbrings
    exact h
  | connecting | connected _ | lost =>
    obtain ⟨old, new, rfl⟩ := hbrings
    exact h old new
  | receive element => exact ruled h hbrings
  | process id element => exact ruled h hbrings
  | _ => cases hbrings

/-- **What an operation does to the session is changes.** -/
theorem Session.Changes.prepare (plain : ∀ change : Change, change.Plain → P change) (c : Client)
    (op : Operation) (hs : c.session.catalogue.Within P) (h : op.Within P) :
    Changes P c.session (c.prepare op).session :=
  (Course.prepare c op hs).changes fun _ change hallowed =>
    hallowed.elim (fun hsilent => plain change hsilent.quiet.plain) fun hrest =>
      hrest.elim id fun hbrings => h.brings (plain _ rfl) hbrings

/-! ## Reliable transports -/

/-- A transport that takes whatever it is given. -/
def Transport.Accepts (t : Transport) : Prop :=
  ∀ attempts, t.refuses attempts = none

theorem Transport.Accepts.send {t : Transport} (h : t.Accepts) :
    t.send = (none, { t with attempts := t.attempts + 1 }) := by
  unfold Transport.send
  rw [h]

namespace Client

/-- **A client that is never refused**: its transport takes whatever it is given, as
long as there is one. -/
def NeverRefused (c : Client) : Prop :=
  ∀ transport, c.transport = some transport → transport.Accepts

/-- **A client on a transport that takes whatever it is given.** -/
def Reliable (c : Client) : Prop :=
  ∃ transport, c.transport = some transport ∧ transport.Accepts

theorem NeverRefused.reliable {c : Client} (h : c.NeverRefused) (hs : c.transport.isSome = true) :
    c.Reliable := by
  obtain ⟨transport, ht⟩ := Option.isSome_iff_exists.1 hs
  exact ⟨transport, ht, h transport ht⟩

/-- Without a transport an element is dropped. -/
theorem deliver_of_transport_none {c : Client} (h : c.transport = none) (entry : Entry)
    (request : Option Request) :
    c.deliver (.element entry request) =
      { c with session := (c.session.mark [entry] .dropped).failUnsent request .notConnected } := by
  show c.deliverElement entry request = _
  unfold deliverElement
  rw [h]

/-- A transport that takes it gets the element, which then waits for its reply and is
counted. -/
theorem deliver_of_accepts {c : Client} {transport : Transport} (h : c.transport = some transport)
    (accepts : transport.Accepts) (entry : Entry) (request : Option Request) :
    c.deliver (.element entry request) =
      { c.record [.element entry] with
        transport := some { transport with attempts := transport.attempts + 1 }
        session := ((c.session.mark [entry] .sent).awaitReply request).countSent entry } := by
  show c.deliverElement entry request = _
  unfold deliverElement
  rw [h]
  dsimp only
  rw [accepts.send]

namespace NeverRefused

variable {c c' : Client} {log : List Request}

theorem setConnector (h : c.NeverRefused) (new : ConnectorState) :
    (c.setConnector new).NeverRefused := by
  unfold Client.setConnector
  split
  · exact h
  · exact h

theorem deliver (h : c.NeverRefused) (item : Outgoing) : (c.deliver item).NeverRefused := by
  cases item with
  | element entry request =>
    cases ht : c.transport with
    | none =>
      rw [deliver_of_transport_none ht]
      exact h
    | some transport =>
      rw [deliver_of_accepts ht (h transport ht)]
      intro transport' hsome
      obtain rfl := Option.some.inj hsome
      exact h transport ht
  | restart => exact h
  | close =>
    refine setConnector ?_ .disconnecting
    intro transport hsome
    cases hsome

theorem moves (h : c.NeverRefused) (moves : Moves c log c') : c'.NeverRefused := by
  induction moves with
  | refl => exact h
  | @deliver c' _ item rest _ _ ih => exact deliver (c := c'.withOutbox rest) ih item
  | react _ _ _ ih => exact ih

theorem prepare (h : c.NeverRefused) {op : Operation}
    (attaches : ∀ transport, op = .connected transport → transport.Accepts) :
    (c.prepare op).NeverRefused := by
  cases op with
  | connecting => exact h.setConnector _
  | connected transport =>
    refine setConnector ?_ .connected
    intro transport' hsome
    obtain rfl := Option.some.inj hsome
    exact attaches _ rfl
  | lost =>
    refine setConnector ?_ .disconnected
    intro transport hsome
    cases hsome
  | disconnect =>
    unfold Client.prepare
    dsimp only
    split <;> exact h
  | process id element =>
    unfold Client.prepare
    dsimp only
    split <;> exact h
  | nextEvent =>
    show c.nextEvent.2.NeverRefused
    unfold Client.nextEvent
    split <;> exact h
  | _ => exact h

theorem operate (h : c.NeverRefused) (hrest : c.AtRest) {op : Operation}
    (attaches : ∀ transport, op = .connected transport → transport.Accepts) :
    (c.operate op).NeverRefused := by
  rw [operate_eq hrest]
  obtain ⟨log, moves⟩ := Moves.run (c.prepare op)
  exact (h.prepare attaches).moves moves

theorem foldl_operate (h : c.NeverRefused) (hrest : c.AtRest) (ops : List Operation)
    (attaches : ∀ transport, .connected transport ∈ ops → transport.Accepts) :
    (ops.foldl Client.operate c).NeverRefused :=
  foldl_operate_invariant (I := NeverRefused) hrest h
    (fun _ hop _ _ h => h.prepare fun transport heq => attaches transport (heq ▸ hop))
    fun moved h => h.moves moved

end NeverRefused

end Client

/-! ## Runs -/

/-- **Sound changes**: a request that is given was made from a draft, and no
call is recorded that did not happen. -/
def Change.Sound : Change → Prop
  | .give request => request.Made
  | .note line => line.isCall = false
  | _ => True

theorem Change.Plain.sound {change : Change} (h : change.Plain) : change.Sound := by
  cases change with
  | give request => exact h.1
  | note line => exact h
  | _ => trivial

/-- Whether an operation brings neither a request nor a call of a module. -/
def Operation.isBare : Operation → Bool
  | .submit _ | .send _ | .call _ => false
  | _ => true

/-- Whether an operation is about the connection. -/
def Operation.isConnection : Operation → Bool
  | .connected _ | .lost => true
  | _ => false

/-- What a bare operation brings are elements, cancellations, news of the transport and verdicts. -/
theorem Operation.within_of_isBare {op : Operation} (h : op.isBare = true)
    (write : ∀ element, P (.write element)) (cancel : ∀ key, P (.cancel key))
    (news : ∀ old new, P (.fire (.connector old new)))
    (verdicts : ∀ change : Change, change.isVerdict = true → P change) : op.Within P := by
  cases op with
  | submit _ | send _ | call _ => cases h
  | write element => exact write element
  | cancel key => exact cancel key
  | connecting | connected _ | lost => exact news
  | receive _ | process _ _ => exact fun _ => verdicts
  | _ => trivial

theorem Operation.within_sound {op : Operation} (h : op.isBare = true) :
    op.Within Change.Sound :=
  within_of_isBare h (fun _ => trivial) (fun _ => trivial) (fun _ _ => trivial)
    fun change hverdict => by cases change <;> trivial

/-- Whatever modules of the application do is sound. -/
theorem Catalogue.within_sound (catalogue : Catalogue) : catalogue.Within Change.Sound := by
  have sound (action : Action) : action.Within Change.Sound := by
    cases action with
    | request draft =>
      exact ⟨fun _ => trivial, fun usual now drawn => ⟨draft, usual, now, drawn, rfl⟩⟩
    | _ => trivial
  exact fun _ _ => ⟨fun action _ => sound action, fun _ action _ => sound action⟩

namespace Client

/-- Creating a client is installing its modules. -/
theorem eq_of_create {config : Config} {catalogue : Catalogue} {batch : List Descriptor}
    {c : Client} (h : create config catalogue batch = .ok c) :
    c = (blank config catalogue).operate
      (.install (ModuleId.builtIn.map (Descriptor.default catalogue) ++ batch)) := by
  let all := ModuleId.builtIn.map (Descriptor.default catalogue) ++ batch
  unfold create at h
  split at h
  · cases h
  · show c = ((blank config catalogue).install all).1
    dsimp only at h
    split at h
    · rename_i heq
      rw [← Except.ok.inj h]
      exact (congrArg (·.1) heq).symm
    · cases h

/-- **Runs of a client**: operations one after another. A run comes with the
requests that were given in the operations, by the owner or by modules, and with
those that came to wait for a reply. -/
inductive Run (c₀ : Client) : List Request → List Request → Client → Prop
  /-- Nothing happened yet. -/
  | start : Run c₀ [] [] c₀
  /-- Another operation. -/
  | operate {given registered log : List Request} {c : Client} (run : Run c₀ given registered c)
      (op : Operation) (sound : op.Within Change.Sound)
      (moves : Moves (c.prepare op) log (c.operate op)) :
      Run c₀ (given ++ (c.prepare op).session.outbox.filterMap Outgoing.request?)
        (registered ++ log) (c.operate op)

namespace Run

variable {c₀ c : Client} {given registered : List Request}

/-- A run leaves a client at rest. -/
theorem atRest (run : Run c₀ given registered c) (h : c₀.AtRest) : c.AtRest := by
  induction run with
  | start => exact h
  | operate _ op _ _ ih => exact ih.operate op

/-- **Every sequence of operations is a run.** -/
theorem exists_foldl_operate (run : Run c₀ given registered c) (h : c₀.AtRest)
    (ops : List Operation) (sound : ∀ op ∈ ops, op.Within Change.Sound) :
    ∃ given' registered', Run c₀ given' registered' (ops.foldl Client.operate c) := by
  induction ops generalizing given registered c with
  | nil => exact ⟨given, registered, run⟩
  | cons op rest ih =>
    have moves := Moves.run (c.prepare op)
    rw [← operate_eq (run.atRest h)] at moves
    obtain ⟨log, moves⟩ := moves
    exact ih (run.operate op (sound op (List.mem_cons_self ..)) moves)
      fun other hmem => sound other (List.mem_cons_of_mem _ hmem)

/-- **A client that was created** has a run behind it: its modules were
installed. -/
theorem of_create {config : Config} {catalogue : Catalogue} {batch : List Descriptor}
    (h : create config catalogue batch = .ok c) :
    ∃ given registered, Run (blank config catalogue) given registered c := by
  rw [eq_of_create h]
  exact Run.start.exists_foldl_operate (atRest_blank config catalogue) [.install _]
    fun op hop => List.mem_singleton.1 hop ▸ trivial

end Run

end Client

end Xmpp
