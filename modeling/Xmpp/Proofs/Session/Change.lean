import Mathlib.Tactic.Common
import Xmpp.Client.Controller
import Xmpp.Client.Workload
import Xmpp.Module.Installation

/-!
# What can happen to a session

Modules, handlers and the controller do many things to a session, and nearly
every fact about all of them is a fact about a few *changes*: an element is
written, a request given, an event published, a property set, the registry
searched. This file takes the functions of the library apart into changes,
once and for all, so that whatever a change preserves is preserved by them.

## Steps

`Session.Steps P k s s'` says that `s'` comes about from `s` by changes that
all meet `P` and cost at most `k` together. The cost of a change is what it
adds to the work that is left to do, so the same decomposition says what a
function of the library can do and how much there is to do afterwards.

Most of what the library does is *plain*: it gives no request with handlers of
the application, claims no news of the transport, records no calls, and leaves
the resumable session alone but for counting, reporting and forgetting it.
What is not plain are the actions of the modules of the application and the
answers of the peer about stream management. And most of what is plain is
*silent*: only the controller asks for a session, as a reaction to an event.
-/

namespace Xmpp

open Delivery Resumption

/-! ## Effects -/

/-- The event an effect publishes, if it does. -/
def Effect.event? : Effect → Option Event
  | .fired event => some event
  | .settled _ _ | .called _ _ | .transformed _ _ _ => none

/-- The future an effect settles, if it does, and how. -/
def Effect.settled? : Effect → Option (Nat × Outcome)
  | .settled ticket outcome => some (ticket, outcome)
  | .fired _ | .called _ _ | .transformed _ _ _ => none

/-- **What effects do to a session**: they add to its events, to its futures
and to its record, and leave everything else as it is. -/
theorem Session.perform_eq (s : Session) (effects : List Effect) :
    s.perform effects =
      { s with
        events := s.events ++ effects.filterMap Effect.event?
        settled := s.settled ++ effects.filterMap Effect.settled?
        notes := s.notes ++ effects.filterMap Effect.note? } := by
  induction effects generalizing s with
  | nil => simp [Session.perform]
  | cons effect rest ih =>
    rw [Session.perform, List.foldl_cons, ← Session.perform, ih]
    cases effect with
    | transformed mark fallible value =>
      cases mark <;>
        simp [Session.apply, Session.note, List.filterMap_cons, Effect.event?, Effect.settled?,
          Effect.note?]
    | _ =>
      simp [Session.apply, Session.fire, Session.settle, Session.note, List.filterMap_cons,
        Effect.event?, Effect.settled?, Effect.note?]

/-! ## What stream management touches

Nothing but the properties of a session and its board. -/

namespace Session

theorem abandonResumption_eq (s : Session) :
    s.abandonResumption = { s with properties := s.abandonResumption.properties } := by
  unfold abandonResumption
  split <;> rfl

theorem resetManagement_eq (s : Session) :
    s.resetManagement =
      { s with properties := s.resetManagement.properties, board := s.resetManagement.board } := by
  unfold resetManagement
  rw [abandonResumption_eq]
  rfl

/-- Nothing but the properties know that an element was received. -/
theorem countReceived_eq (s : Session) (element : Element) :
    s.countReceived element =
      { s with properties := (s.countReceived element).properties } := by
  unfold countReceived
  split <;> rfl

theorem acknowledge_eq (s : Session) (h : UInt32) :
    s.acknowledge h =
      { s with properties := (s.acknowledge h).properties, board := (s.acknowledge h).board } := by
  unfold acknowledge
  split <;> rfl

end Session

/-! ## Changes -/

/-- **A change** of a session. -/
inductive Change where
  /-- Ids are drawn. -/
  | draw (drawn : Nat)
  /-- An element is written. -/
  | write (element : Element)
  /-- A request is given. -/
  | give (request : Request)
  /-- The stream is to be restarted. -/
  | restart
  /-- The stream is to be closed. -/
  | close
  /-- An event is published. -/
  | fire (event : Event)
  /-- A line is added to the record. -/
  | note (line : Note)
  /-- A property is set. -/
  | remember (scope : Scope) (key : String) (value : Property)
  /-- A scope is cleared. -/
  | clear (scope : Scope)
  /-- A login exchange goes on. -/
  | logins (logins : Logins)
  /-- The features we tell are settled. -/
  | advertise (features : List String)
  /-- Our own address is settled. -/
  | identify (jid : Option Jid)
  /-- A stanza was received. -/
  | receive
  /-- The number of received stanzas was reported. -/
  | report
  /-- The connection went away. -/
  | deactivate
  /-- The resumable session is given up. -/
  | abandon
  /-- The resumable session is forgotten. -/
  | reset
  /-- Another resumable session takes the place of the one there is. -/
  | begin (context : Context)
  /-- The resumable session was enabled. -/
  | enable (enabled : Enabled)
  /-- The peer reported how much it has handled. -/
  | acknowledge (h : UInt32)
  /-- The session was resumed. -/
  | resume (h : UInt32)
  /-- An element answers the request it belongs to, if there is one. -/
  | answer (reply : Element)
  /-- Requests are failed with a timeout. -/
  | sweep (condition : Request → Bool)
  /-- Resolved requests are forgotten. -/
  | prune
  /-- A request is cancelled, if there is one of this key. -/
  | cancel (key : RequestKey)
  /-- The clock moves on. -/
  | pass (duration : Nat)

namespace Session

/-- Confirms what the peer has handled and sends the rest again. -/
def continueFrom (s : Session) (h : UInt32) : Session :=
  match s.resumption? with
  | none => s
  | some context =>
    ((s.mark (context.confirmed h) .acked).modifyResumption (·.resumeAt h)).resend
      (context.unconfirmed h)

/-- Resolves the request an element answers, if there is one. -/
def answer (s : Session) (reply : Element) : Session :=
  match s.registry.resolve? reply with
  | some (registry, effects) => { s with registry }.perform effects
  | none => s

/-- Cancels the request of a key, if there is one. -/
def cancel (s : Session) (key : RequestKey) : Session :=
  match s.registry.cancel? key with
  | some (registry, effects) => { s with registry }.perform (effects.getD [])
  | none => s

/-- Forgets the requests that were resolved. -/
def prune (s : Session) : Session :=
  { s with
    registry := { s.registry with
      requests := s.registry.requests.filter fun r => !r.isCompleted } }

/-- **Carrying out a change.** -/
def change (s : Session) : Change → Session
  | .draw drawn => { s with drawn }
  | .write element => s.write element
  | .give request => (s.enqueue request.stanza (some request)).2
  | .restart => s.restart
  | .close => s.close
  | .fire event => s.fire event
  | .note line => s.note line
  | .remember scope key value =>
    { s with properties := ⟨⟨key, scope, value⟩ :: (s.properties.erase key).entries⟩ }
  | .clear scope => s.clear scope
  | .logins logins => { s with logins }
  | .advertise features => { s with advertised := features }
  | .identify jid => s.setOwnJid jid
  | .receive => s.modifyResumption Context.recordReceived
  | .report => s.modifyResumption Context.recordReport
  | .deactivate => s.deactivateManagement
  | .abandon => s.abandonResumption
  | .reset => s.resetManagement
  | .begin context => s.startResumption context
  | .enable enabled => s.modifyResumption (·.enable enabled)
  | .acknowledge h => s.acknowledge h
  | .resume h => s.continueFrom h
  | .answer reply => s.answer reply
  | .sweep condition => s.swept (s.registry.sweep condition)
  | .prune => s.prune
  | .cancel key => s.cancel key
  | .pass duration => { s with clock := s.clock + duration }

theorem continueFrom_eq (s : Session) (h : UInt32) :
    s.continueFrom h =
      { s with
        properties := (s.continueFrom h).properties
        board := (s.continueFrom h).board
        outbox := (s.continueFrom h).outbox } := by
  unfold continueFrom
  split <;> rfl

/-- **How a request ends** when it is answered or cancelled: it is taken from the
registry and resolved. -/
inductive Resolves (s : Session) : Session → Prop
  /-- No request is meant. -/
  | none : Resolves s s
  /-- A request comes to this outcome. -/
  | one (r : Request) (h : r ∈ s.registry.requests) (outcome : Outcome) :
      Resolves s (({ s with registry := s.registry.erase r.key } : Session).perform
        (Request.effectsOf (r.complete? outcome)))

theorem resolves_answer (s : Session) (reply : Element) : s.Resolves (s.answer reply) := by
  unfold answer Registry.resolve?
  cases hr : s.registry.answeredBy? reply with
  | none => exact .none
  | some r =>
    refine .one r ?_ _
    unfold Registry.answeredBy? at hr
    split at hr
    · obtain ⟨key, -, hkey⟩ := Option.bind_eq_some_iff.1 hr
      exact List.mem_of_find?_eq_some (Option.filter_eq_some_iff.1 hkey).1
    · cases hr

theorem resolves_cancel (s : Session) (key : RequestKey) : s.Resolves (s.cancel key) := by
  unfold cancel Registry.cancel?
  cases hr : s.registry.find? key with
  | none => exact .none
  | some r =>
    obtain rfl := Registry.key_of_find? hr
    have heffects : (r.cancel?.map (·.2)).getD []
        = Request.effectsOf (r.complete? (.error .cancelled)) := by
      unfold Request.cancel?
      cases r.complete? (.error .cancelled) <;> rfl
    show s.Resolves (Session.perform _ ((r.cancel?.map (·.2)).getD []))
    rw [heffects]
    exact .one r (List.mem_of_find?_eq_some hr) _

/-- Nothing but the registry, the events and the records know that a request
ended. -/
theorem Resolves.eq {s s' : Session} (h : s.Resolves s') :
    s' = { s with
      registry := s'.registry
      events := s'.events
      settled := s'.settled
      notes := s'.notes } := by
  cases h with
  | none => rfl
  | one r _ outcome => rw [perform_eq]

/-- The registry has no more requests than before. -/
theorem Resolves.sublist {s s' : Session} (h : s.Resolves s') :
    s'.registry.requests.Sublist s.registry.requests := by
  cases h with
  | none => exact List.Sublist.refl _
  | one r _ outcome =>
    rw [perform_eq]
    exact List.filter_sublist

end Session

/-- **The cost of a change**: what it adds to the work that is left to do. -/
def Change.cost : Change → Nat
  | .give request => request.cost
  | .fire event => event.cost
  | .close => 1
  | _ => 0

/-! ## Asking for a session -/

/-- **What a client asks for** to get a session after the login: the one it had, or a
resource for a new one. -/
inductive Demand where
  /-- The old session is to be resumed. -/
  | resume
  /-- A resource is to be bound. -/
  | bind
deriving DecidableEq

/-- What an element asks for, if it asks for a session. -/
def Element.demand? (e : Element) : Option Demand :=
  if e.is "resume" Namespace.streamManagement then some .resume
  else if e.name == "iq" && e.attr "type" == some "set"
      && (e.child? "bind" Namespace.bind).isSome then some .bind
  else none

/-- The answer to a stanza asks for nothing. -/
theorem Element.demand?_reply (stanza : Element) {type : String} (payload : List Element)
    (h : type ≠ "set") : (stanza.reply type payload).demand? = none := by
  have htype : (stanza.reply type payload).attr "type" = some type := rfl
  have hns : (stanza.reply type payload).is "resume" Namespace.streamManagement = false :=
    Bool.and_false _
  unfold demand?
  rw [hns, htype]
  simp [h]

/-- An id makes no difference to what is asked for. -/
@[simp] theorem Element.demand?_setAttr_id (e : Element) (id : String) :
    (e.setAttr "id" id).demand? = e.demand? := by
  unfold demand?
  rw [attr_setAttr]
  rfl

/-! ## Kinds of changes -/

/-- Whether an event is news of the transport. -/
def Event.isTransportNews : Event → Bool
  | .connector _ _ => true
  | _ => false

/-- Whether a line records a call of a handler. -/
def Note.isCall : Note → Bool
  | .called _ _ => true
  | _ => false

/-- A request that was made from a draft and not touched since. -/
def Request.Made (r : Request) : Prop :=
  ∃ (draft : Draft) (usual now drawn : Nat), r = (draft.build usual now drawn).1

/-- Whether a change is what the peer says about stream management. -/
def Change.isVerdict : Change → Bool
  | .begin _ | .enable _ | .acknowledge _ | .resume _ => true
  | _ => false

/-- Whether a property holds a resumable session. -/
def Property.isContext : Property → Bool
  | .resumption _ => true
  | _ => false

/-- The scope a property of the library belongs to. -/
def Properties.home? (key : String) : Option Scope :=
  if key = authKey then some .connection
  else if key = featuresKey then some .stream
  else if key = boundKey ∨ key = resumptionKey then some .session
  else none

/-- Whether a property, if it is one of the library, is set in the scope it belongs to. -/
def Properties.Houses (scope : Scope) (key : String) : Prop :=
  home? key = none ∨ home? key = some scope

/-- **Plain changes**: those the library makes by itself. -/
def Change.Plain : Change → Prop
  | .give request => request.Made ∧ request.listeners = 0
  | .fire event => event.isTransportNews = false
  | .note line => line.isCall = false
  | .remember scope key value =>
    (key ≠ Properties.resumptionKey ∧ value.isContext = false) ∧ Properties.Houses scope key
  | change => change.isVerdict = false

/-- **Quiet changes**: plain ones that do not give up the resumable session. The
library does that in one place only, where the peer refuses to enable it. -/
def Change.Quiet : Change → Prop
  | .abandon => False
  | change => change.Plain

theorem Change.Quiet.plain {change : Change} (h : change.Quiet) : change.Plain := by
  cases change with
  | abandon => cases h
  | _ => exact h

theorem Change.Quiet.isVerdict {change : Change} (h : change.Quiet) :
    change.isVerdict = false := by
  cases change with
  | begin _ | enable _ | acknowledge _ | resume _ => cases h
  | _ => rfl

/-- **Silent changes**: quiet ones with which nobody asks for a session. -/
def Change.Silent : Change → Prop
  | .write element => element.demand? = none
  | .give request => (Change.give request).Quiet ∧ request.stanza.demand? = none
  | change => change.Quiet

theorem Change.Silent.quiet {change : Change} (h : change.Silent) : change.Quiet := by
  cases change with
  | write element => rfl
  | give request => exact h.1
  | _ => exact h

/-! ## What the library keeps to itself

A few things are done in few places: telling the peer how much was handled, telling the owner
about the roster, and saying who we are. Everything else keeps away from them. -/

/-- Whether an element reports how many stanzas were handled. -/
def Element.isReport (e : Element) : Bool :=
  e.is "a" Namespace.streamManagement

/-- Whether an event tells the roster. -/
def Event.isRoster : Event → Bool
  | .roster _ => true
  | _ => false

/-- **A courteous request**: handlers of the application publish nothing, and whoever
publishes the roster asked the server for our own. -/
def Request.Courteous (r : Request) : Prop :=
  ∀ handler ∈ r.handlers,
    match handler with
    | .listener _ publish => ∀ outcome, publish outcome = []
    | .roster => r.recipient = none ∧ r.key.name = "iq"
    | _ => True

/-- **Modest changes**: nothing is counted as received or reported, no features are told, no
request is answered, the roster is not published, and requests are courteous. -/
def Change.Modest : Change → Prop
  | .write element => element.isReport = false
  | .give request => request.Courteous ∧ request.stanza.isReport = false
  | .fire event => event.isRoster = false
  | .receive | .report | .advertise _ | .answer _ => False
  | _ => True

/-- **Changes that spare the address** of the session, and the one replies are judged by. -/
def Change.SparesAddress : Change → Prop
  | .remember _ key _ => key ≠ Properties.boundKey
  | .clear scope => ¬ Scope.session ≤ scope
  | .identify _ => False
  | _ => True

/-- **Customary changes**: those the library makes in most of its reactions. -/
structure Change.Customary (change : Change) : Prop where
  quiet : change.Quiet
  modest : change.Modest
  spares : change.SparesAddress

/-- **Routine changes**: customary ones with which nobody asks for a session. -/
structure Change.Routine (change : Change) : Prop where
  silent : change.Silent
  modest : change.Modest
  spares : change.SparesAddress

theorem Change.Routine.customary {change : Change} (h : change.Routine) : change.Customary :=
  ⟨h.silent.quiet, h.modest, h.spares⟩

/-- What a change asks for, if it asks for a session. -/
def Change.demand? : Change → Option Demand
  | .write element => element.demand?
  | .give request => request.stanza.demand?
  | _ => none

theorem Change.Silent.demand? {change : Change} (h : change.Silent) : change.demand? = none := by
  cases change with
  | write element => exact h
  | give request => exact h.2
  | _ => rfl

/-! ## Steps -/

/-- **Steps of a session**: changes that meet a condition, one after another,
which cost at most this much. -/
inductive Session.Steps (P : Change → Prop) : Nat → Session → Session → Prop
  /-- Nothing happens. -/
  | refl (k : Nat) (s : Session) : Steps P k s s
  /-- Another change. -/
  | step {k k' : Nat} {s s' : Session} (steps : Steps P k s s') (change : Change) (h : P change)
      (hk : k + change.cost ≤ k') : Steps P k' s (s'.change change)

namespace Session.Steps

variable {P Q : Change → Prop} {k k' : Nat} {s s' s'' : Session}

/-- A single change. -/
theorem one (s : Session) (change : Change) (h : P change) :
    Steps P change.cost s (s.change change) :=
  (refl 0 s).step change h (by omega)

theorem weaken (steps : Steps P k s s') (h : k ≤ k') : Steps P k' s s' := by
  cases steps with
  | refl => exact .refl k' s
  | step steps change hP hk => exact steps.step change hP (by omega)

theorem mono (steps : Steps P k s s') (h : ∀ change, P change → Q change) : Steps Q k s s' := by
  induction steps with
  | refl k s => exact .refl k s
  | step _ change hP hk ih => exact ih.step change (h change hP) hk

theorem trans (first : Steps P k s s') (second : Steps P k' s' s'') :
    Steps P (k + k') s s'' := by
  induction second with
  | refl k' _ => exact first.weaken (by omega)
  | step _ change hP hk ih => exact (ih first).step change hP (by omega)

/-- **What every change preserves is preserved by steps.** -/
theorem invariant {I : Session → Prop} (steps : Steps P k s s') (hs : I s)
    (h : ∀ s change, P change → I s → I (s.change change)) : I s' := by
  induction steps with
  | refl => exact hs
  | step _ change hP _ ih => exact h _ change hP (ih hs)

end Session.Steps

/-! ## Courses

Where it matters in which state of the session a change happens, the condition is on
both. -/

/-- **A course of changes**, one after another, each of which meets a condition where
it happens. -/
inductive Session.Course (P : Session → Change → Prop) (s : Session) : Session → Prop
  /-- Nothing happens. -/
  | refl : Course P s s
  /-- Another change. -/
  | step {s' : Session} (course : Course P s s') (change : Change) (h : P s' change) :
      Course P s (s'.change change)

namespace Session.Course

variable {P Q : Session → Change → Prop} {k : Nat} {s s' s'' : Session}

/-- A single change. -/
theorem one (s : Session) (change : Change) (h : P s change) : Course P s (s.change change) :=
  .step .refl change h

theorem trans (first : Course P s s') (second : Course P s' s'') : Course P s s'' := by
  induction second with
  | refl => exact first
  | step _ change h ih => exact ih.step change h

theorem mono (course : Course P s s') (h : ∀ s change, P s change → Q s change) :
    Course Q s s' := by
  induction course with
  | refl => exact .refl
  | step _ change hP ih => exact ih.step change (h _ change hP)

/-- Steps are a course if their condition is enough everywhere. -/
theorem of_steps {R : Change → Prop} (steps : s.Steps R k s')
    (h : ∀ s change, R change → P s change) : Course P s s' := by
  induction steps with
  | refl => exact .refl
  | step _ change hR _ ih => exact ih.step change (h _ change hR)

/-- **What every change preserves is preserved by a course.** -/
theorem invariant {I : Session → Prop} (course : Course P s s') (hs : I s)
    (h : ∀ s change, P s change → I s → I (s.change change)) : I s' := by
  induction course with
  | refl => exact hs
  | step _ change hP ih => exact h _ change hP ih

end Session.Course

end Xmpp
