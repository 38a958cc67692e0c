import Xmpp.Client.Basic
import Xmpp.Proofs.Session.Change

/-!
# What reports leave alone

A session counts the stanzas that come in and reports the count to its peer, and
that is all it does with the count. So two sessions that differ in what they
counted, in the reports they wrote and, since every element that is written
takes the next token, in the tokens of their elements, do the same with whatever
happens to them.

The *core* of a session is what is left of it without all this: the counts and
the tokens are blanked, and the elements that do nothing but travel are taken
from the outbox. Sessions are *alike* if they have the same core. For each
function of the library that changes a session this file has the lemma that it
makes alike sessions of alike ones, and for each that reads one, that it reads
the same.
-/

namespace Xmpp

open Delivery Resumption

/-! ## Cores -/

/-- **Idle elements** do nothing but travel: they are no stanzas, which are
counted, nor do they ask for a session that counts. -/
def Element.isIdle (e : Element) : Bool :=
  !e.isStanza && !e.is "enable" Namespace.streamManagement

/-- An element on its way out, whatever its token. -/
def Delivery.Entry.core (entry : Entry) : Entry :=
  { entry with token := 0 }

namespace Outgoing

/-- Whether an item of the outbox is an idle element. -/
def isIdle : Outgoing → Bool
  | .element entry none => entry.stanza.isIdle
  | .element _ (some _) | .restart | .close => false

/-- An item of the outbox, whatever its token. -/
def core : Outgoing → Outgoing
  | .element entry request => .element entry.core request
  | .restart => .restart
  | .close => .close

/-- What an item of the outbox amounts to: nothing if it is idle. -/
def core? (item : Outgoing) : Option Outgoing :=
  if item.isIdle then none else some item.core

end Outgoing

/-- A resumable session, whatever it counted and reported. -/
def Resumption.Context.core (c : Context) : Context :=
  { c with incoming := 0, lastReported := none, unacked := c.unacked.map Entry.core }

/-- The core of a value. -/
def Property.core : Property → Property
  | .resumption context => .resumption context.core
  | value => value

/-- The core of a property. -/
def PropertyEntry.core (entry : PropertyEntry) : PropertyEntry :=
  { entry with value := entry.value.core }

/-- The cores of the properties. -/
def Properties.core (p : Properties) : Properties :=
  ⟨p.entries.map PropertyEntry.core⟩

namespace Session

/-- **The core of a session**: what is left of it without the counts and
reports. -/
def core (s : Session) : Session :=
  { s with
    properties := s.properties.core
    outbox := s.outbox.filterMap Outgoing.core?
    board := {} }

/-- **Sessions are alike** if they have the same core. -/
def Alike (s t : Session) : Prop :=
  s.core = t.core

/-- Alike sessions that come with the same result. -/
def AlikeWith {α : Type} (p q : Session × α) : Prop :=
  p.1.Alike q.1 ∧ p.2 = q.2

end Session

/-! ## Resumable sessions -/

namespace Resumption.Context

variable (c : Context)

theorem core_recordReceived : c.recordReceived.core = c.core := by
  unfold recordReceived
  split
  · rfl
  · rfl

theorem core_recordReport : c.recordReport.core = c.core := rfl

theorem core_enable (e : Enabled) : (c.enable e).core = c.core.enable e := rfl

theorem core_resumeAt (h : UInt32) : (c.resumeAt h).core = c.core.resumeAt h := rfl

theorem core_deactivate : c.deactivate.core = c.core.deactivate := by
  show _ = if c.status = .active then _ else _
  unfold deactivate
  split
  · rfl
  · rfl

theorem confirmedBy_core (h : UInt32) : c.core.confirmedBy h = c.confirmedBy h := by
  show (if _ then (c.unacked.map Entry.core).length - _ else 0) = _
  rw [List.length_map]
  rfl

theorem core_acknowledge (h : UInt32) : (c.acknowledge h).core = c.core.acknowledge h := by
  unfold acknowledge
  rw [confirmedBy_core]
  unfold core
  rw [List.map_drop]

theorem core_recordSent (entry : Entry) :
    (c.recordSent entry).core = c.core.recordSent entry.core := by
  have hevicted : (c.core.evicted entry.core).length = (c.evicted entry).length := by
    have hlength : c.core.unacked.length = c.unacked.length := List.length_map _
    unfold evicted
    by_cases h : entry.stanza.isStanza ∧ c.status ≠ .inactive ∧ capacity ≤ c.unacked.length
    · rw [if_pos h, if_pos ⟨h.1, h.2.1, hlength ▸ h.2.2⟩, List.length_take, List.length_take,
        hlength]
    · rw [if_neg h, if_neg fun h' => h ⟨h'.1, h'.2.1, hlength ▸ h'.2.2⟩]
  unfold recordSent
  rw [hevicted]
  show (if entry.stanza.isStanza then _ else c : Context).core
    = if entry.stanza.isStanza then _ else _
  split
  · show Context.mk _ _ _ _ _ _ _ _ _ = Context.mk _ _ _ _ _ _ _ _ _
    dsimp only
    congr 1
    show List.map Entry.core (if c.status = .inactive then _ else _)
      = if c.status = .inactive then _ else _
    split
    · rfl
    · rw [List.map_append, List.map_drop]
      rfl
  · rfl

/-- Whether there is a session to be resumed does not depend on its counts. -/
theorem isSome_resumeInfo?_core : c.core.resumeInfo?.isSome = c.resumeInfo?.isSome := by
  show (if c.status ≠ .pending ∧ c.resume then _ else none : Option _).isSome = _
  unfold resumeInfo?
  split
  · rw [Option.isSome_map, Option.isSome_map]
    rfl
  · rfl

end Resumption.Context

/-! ## Properties -/

namespace Properties

variable (p : Properties) (key : String)

theorem find?_core : p.core.find? key = (p.find? key).map PropertyEntry.core := by
  unfold find? core
  rw [List.find?_map]
  rfl

/-- A property that is no resumable session is its own core. -/
theorem get?_core {α : Type} [Storable α]
    (plain : ∀ value : Property, Storable.ofProperty? (α := α) value.core
      = Storable.ofProperty? value) :
    p.core.get? (α := α) key = p.get? key := by
  unfold get?
  rw [find?_core, Option.bind_map]
  exact congrArg _ (funext fun entry => plain entry.value)

theorem resumption?_core : p.core.resumption? = p.resumption?.map Context.core := by
  unfold resumption? get?
  rw [find?_core, Option.bind_map, Option.map_bind]
  refine congrArg _ (funext fun entry => ?_)
  show Storable.ofProperty? entry.value.core = _
  cases hv : entry.value with
  | resumption context => simp [hv, Property.core, Storable.ofProperty?]
  | _ => simp [hv, Property.core, Storable.ofProperty?]

theorem core_erase : (p.erase key).core = p.core.erase key := by
  unfold erase core
  rw [List.filter_map]
  rfl

theorem core_clear (scope : Scope) : (p.clear scope).core = p.core.clear scope := by
  unfold clear core
  rw [List.filter_map]
  rfl

/-- Changing the resumable session in its place changes its core. -/
theorem core_modify {f g : Context → Context} (h : ∀ c, (f c).core = g c.core) :
    (p.modify key f).core = p.core.modify key g := by
  unfold modify core
  rw [List.map_map, List.map_map]
  refine congrArg _ (List.map_congr_left fun entry _ => ?_)
  show (entry.revise key f).core = entry.core.revise key g
  unfold PropertyEntry.revise
  show _ = if (entry.key == key) = true then _ else entry.core
  split
  · cases hv : entry.value with
    | resumption context =>
      simp [PropertyEntry.core, hv, Property.core, Storable.ofProperty?, Storable.toProperty, h]
    | _ => simp [PropertyEntry.core, hv, Property.core, Storable.ofProperty?]
  · rfl

theorem modify_id : p.modify (α := Context) key id = p := by
  have hid : ∀ entry : PropertyEntry, entry.revise (α := Context) key id = entry := by
    intro entry
    unfold PropertyEntry.revise
    split
    · obtain ⟨key, scope, value⟩ := entry
      cases value with
      | _ => rfl
    · rfl
  unfold modify
  rw [List.map_congr_left fun entry _ => hid entry, List.map_id']

end Properties

/-! ## Reading alike sessions -/

namespace Outgoing

/-- The core of an element is that of its entry. -/
theorem core?_element {entry entry' : Entry} (h : entry.core = entry'.core)
    (request : Option Request) :
    (element entry request).core? = (element entry' request).core? := by
  have hstanza : entry.core.stanza = entry'.core.stanza := congrArg Entry.stanza h
  have hidle : (element entry request).isIdle = (element entry' request).isIdle := by
    cases request with
    | none => exact congrArg Element.isIdle hstanza
    | some r => rfl
  rw [core?, core?, hidle, core, core, h]

end Outgoing

namespace Session

namespace Alike

variable {s t u : Session}

theorem refl (s : Session) : s.Alike s := rfl

theorem symm (h : s.Alike t) : t.Alike s := Eq.symm h

theorem trans (h : s.Alike t) (h' : t.Alike u) : s.Alike u := Eq.trans h h'

section Reading

variable (h : s.Alike t)

include h

/-- What the core tells is the same. -/
theorem read {α : Type} (f : Session → α) (hf : ∀ s : Session, f s.core = f s) : f s = f t := by
  rw [← hf s, ← hf t, h]

theorem config : s.config = t.config := h.read Session.config fun _ => rfl

theorem registry : s.registry = t.registry := h.read Session.registry fun _ => rfl

theorem events : s.events = t.events := h.read Session.events fun _ => rfl

theorem logins : s.logins = t.logins := h.read Session.logins fun _ => rfl

theorem advertised : s.advertised = t.advertised := h.read Session.advertised fun _ => rfl

theorem catalogue : s.catalogue = t.catalogue := h.read Session.catalogue fun _ => rfl

theorem settled : s.settled = t.settled := h.read Session.settled fun _ => rfl

theorem notes : s.notes = t.notes := h.read Session.notes fun _ => rfl

theorem clock : s.clock = t.clock := h.read Session.clock fun _ => rfl

theorem drawn : s.drawn = t.drawn := h.read Session.drawn fun _ => rfl

theorem properties : s.properties.core = t.properties.core :=
  congrArg Session.properties (show s.core = t.core from h)

theorem outbox : s.outbox.filterMap Outgoing.core? = t.outbox.filterMap Outgoing.core? :=
  congrArg Session.outbox (show s.core = t.core from h)

/-- Properties of other types are the same. -/
theorem get? {α : Type} [Storable α]
    (plain : ∀ value : Property, Storable.ofProperty? (α := α) value.core
      = Storable.ofProperty? value) (key : String) :
    s.properties.get? (α := α) key = t.properties.get? key := by
  rw [← s.properties.get?_core key plain, ← t.properties.get?_core key plain, h.properties]

theorem authState : s.properties.authState = t.properties.authState :=
  congrArg (·.getD AuthState.unknown)
    (h.get? (α := AuthState) (fun value => by cases value <;> rfl) Properties.authKey)

theorem boundJid? : s.properties.boundJid? = t.properties.boundJid? :=
  h.get? (α := Jid) (fun value => by cases value <;> rfl) Properties.boundKey

theorem features? : s.properties.features? = t.properties.features? :=
  h.get? (α := Element) (fun value => by cases value <;> rfl) Properties.featuresKey

theorem feature? (name ns : String) :
    s.properties.feature? name ns = t.properties.feature? name ns :=
  congrArg (·.bind fun features => features.child? name ns) h.features?

theorem canBind : s.properties.canBind = t.properties.canBind :=
  congrArg Option.isSome (h.feature? "bind" Namespace.bind)

theorem resumption? : s.resumption?.map Context.core = t.resumption?.map Context.core := by
  show s.properties.resumption?.map _ = t.properties.resumption?.map _
  rw [← Properties.resumption?_core, ← Properties.resumption?_core, h.properties]

/-- Either both have a resumable session, with the same core, or none has. -/
theorem resumption?_cases :
    (s.resumption? = none ∧ t.resumption? = none)
      ∨ ∃ a b, s.resumption? = some a ∧ t.resumption? = some b ∧ a.core = b.core := by
  have hcore := h.resumption?
  cases hs : s.resumption? with
  | none =>
    rw [hs] at hcore
    exact .inl ⟨rfl, Option.map_eq_none_iff.1 hcore.symm⟩
  | some a =>
    rw [hs] at hcore
    obtain ⟨b, ht, hb⟩ := Option.map_eq_some_iff.1 hcore.symm
    exact .inr ⟨a, b, rfl, ht, hb.symm⟩

theorem isSome_resumption? : s.resumption?.isSome = t.resumption?.isSome := by
  rw [← Option.isSome_map (f := Context.core), h.resumption?, Option.isSome_map]

theorem managementStatus? : s.managementStatus? = t.managementStatus? := by
  obtain ⟨hs, ht⟩ | ⟨a, b, hs, ht, hab⟩ := h.resumption?_cases
  · rw [Session.managementStatus?, Session.managementStatus?, hs, ht]
  · rw [Session.managementStatus?, Session.managementStatus?, hs, ht]
    show some a.core.status = some b.core.status
    rw [hab]

theorem canResume : s.canResume = t.canResume := by
  obtain ⟨hs, ht⟩ | ⟨a, b, hs, ht, hab⟩ := h.resumption?_cases
  · rw [Session.canResume, Session.canResume, resumeInfo?, resumeInfo?, hs, ht]
  · rw [Session.canResume, Session.canResume, resumeInfo?, resumeInfo?, hs, ht]
    show a.resumeInfo?.isSome = b.resumeInfo?.isSome
    rw [← a.isSome_resumeInfo?_core, ← b.isSome_resumeInfo?_core, hab]

theorem canManage : s.canManage = t.canManage := by
  rw [Session.canManage, Session.canManage, h.config, h.feature?]

theorem saslFeature? : s.saslFeature? = t.saslFeature? := h.feature? ..

theorem sasl2Feature? : s.sasl2Feature? = t.sasl2Feature? := h.feature? ..

theorem canLogin : s.canLogin = t.canLogin := by
  rw [Session.canLogin, Session.canLogin, h.saslFeature?, h.config]

theorem canLogin2 : s.canLogin2 = t.canLogin2 := by
  rw [Session.canLogin2, Session.canLogin2, h.sasl2Feature?, h.config]

theorem offersRegistration : s.offersRegistration = t.offersRegistration :=
  congrArg Option.isSome (h.feature? ..)

theorem isBoundTo (jid : Jid) : s.isBoundTo jid = t.isBoundTo jid := by
  rw [Session.isBoundTo, Session.isBoundTo, h.boundJid?]

end Reading

/-! ## Changing alike sessions -/

section Changing

variable (h : s.Alike t)

include h

/-- A change that can be made to the cores as well. -/
theorem commute (f : Session → Session) (hf : ∀ s : Session, (f s).core = f s.core) :
    (f s).Alike (f t) := by
  show (f s).core = (f t).core
  rw [hf, hf, h]

theorem fire (event : Event) : (s.fire event).Alike (t.fire event) :=
  h.commute (·.fire event) fun _ => rfl

theorem note (line : Note) : (s.note line).Alike (t.note line) :=
  h.commute (·.note line) fun _ => rfl

theorem perform (effects : List Effect) : (s.perform effects).Alike (t.perform effects) := by
  refine h.commute (·.perform effects) fun s => ?_
  rw [perform_eq, perform_eq]
  rfl

theorem withRegistry (registry : Registry) :
    Alike { s with registry } { t with registry } :=
  h.commute (fun s => { s with registry }) fun _ => rfl

theorem withDrawn (drawn : Nat) : Alike { s with drawn } { t with drawn } :=
  h.commute (fun s => { s with drawn }) fun _ => rfl

theorem withEvents (events : List Event) : Alike { s with events } { t with events } :=
  h.commute (fun s => { s with events }) fun _ => rfl

theorem advertise (advertised : List String) :
    Alike { s with advertised } { t with advertised } :=
  h.commute (fun s => { s with advertised }) fun _ => rfl

theorem withLogins (logins : Logins) : Alike { s with logins } { t with logins } :=
  h.commute (fun s => { s with logins }) fun _ => rfl

theorem modifyLogins (f : Logins → Logins) :
    Alike { s with logins := f s.logins } { t with logins := f t.logins } :=
  h.commute (fun s => { s with logins := f s.logins }) fun _ => rfl

theorem pass (duration : Nat) :
    Alike { s with clock := s.clock + duration } { t with clock := t.clock + duration } :=
  h.commute (fun s => { s with clock := s.clock + duration }) fun _ => rfl

theorem setOwnJid (jid : Option Jid) : (s.setOwnJid jid).Alike (t.setOwnJid jid) :=
  h.commute (·.setOwnJid jid) fun _ => rfl

/-- Outboxes of the same core. -/
theorem withOutbox {items items' : List Outgoing}
    (hitems : items.filterMap Outgoing.core? = items'.filterMap Outgoing.core?) :
    Alike { s with outbox := items } { t with outbox := items' } := by
  have hs := congrArg
    (fun core : Session => { core with outbox := items.filterMap Outgoing.core? }) h
  exact hs.trans (congrArg (fun items => { t.core with outbox := items }) hitems)

theorem push {item item' : Outgoing} (hitem : item.core? = item'.core?) :
    (s.push item).Alike (t.push item') := by
  refine h.withOutbox ?_
  rw [List.filterMap_append, List.filterMap_append, h.outbox, List.filterMap_cons,
    List.filterMap_cons, hitem]

theorem enqueue (element : Element) (request : Option Request) :
    (s.enqueue element request).2.Alike (t.enqueue element request).2 := by
  have tracked : (s.track element).2.Alike (t.track element).2 := h
  refine tracked.push (Outgoing.core?_element ?_ request)
  rfl

theorem write (element : Element) : (s.write element).Alike (t.write element) :=
  h.enqueue element none

theorem restart : s.restart.Alike t.restart := h.push rfl

theorem close : s.close.Alike t.close := h.push rfl

theorem send (draft : Draft) : (s.send draft).2.Alike (t.send draft).2 := by
  have hmade : draft.build s.config.requestTimeout s.clock s.drawn
      = draft.build t.config.requestTimeout t.clock t.drawn := by
    rw [h.config, h.clock, h.drawn]
  unfold Session.send Session.makeRequest
  rw [hmade]
  exact (h.withDrawn _).enqueue _ _

theorem resend {entries entries' : List Entry}
    (hentries : entries.map Entry.core = entries'.map Entry.core) :
    (s.resend entries).Alike (t.resend entries') := by
  have hitems : ∀ entries : List Entry,
      (entries.map fun entry => Outgoing.element entry none).filterMap Outgoing.core?
        = (entries.map Entry.core).filterMap fun entry => (Outgoing.element entry none).core? := by
    intro entries
    rw [List.filterMap_map, List.filterMap_map]
    exact congrArg (List.filterMap · entries)
      (funext fun entry => Outgoing.core?_element rfl none)
  refine h.withOutbox ?_
  rw [List.filterMap_append, List.filterMap_append, h.outbox, hitems, hitems, hentries]

/-- Other properties of alike sessions. -/
theorem withProperties {p q : Properties} (hcore : p.core = q.core) :
    Alike { s with properties := p } { t with properties := q } := by
  have hs := congrArg (fun core : Session => { core with properties := p.core }) h
  exact hs.trans (congrArg (fun q => { t.core with properties := q }) hcore)

theorem remember (scope : Scope) (key : String) {value value' : Property}
    (hvalue : value.core = value'.core) :
    Alike { s with properties := ⟨⟨key, scope, value⟩ :: (s.properties.erase key).entries⟩ }
      { t with properties := ⟨⟨key, scope, value'⟩ :: (t.properties.erase key).entries⟩ } := by
  refine h.withProperties ?_
  have herase : (s.properties.erase key).core = (t.properties.erase key).core := by
    rw [Properties.core_erase, Properties.core_erase, h.properties]
  show Properties.mk (⟨key, scope, value.core⟩ :: (s.properties.erase key).core.entries)
    = Properties.mk (⟨key, scope, value'.core⟩ :: (t.properties.erase key).core.entries)
  rw [herase, hvalue]

theorem setProperty {α : Type} [Storable α] (scope : Scope) (key : String) (value : α) :
    (s.setProperty scope key value).Alike (t.setProperty scope key value) :=
  h.remember scope key rfl

theorem setAuthState (state : AuthState) : (s.setAuthState state).Alike (t.setAuthState state) :=
  h.setProperty ..

theorem clear (scope : Scope) : (s.clear scope).Alike (t.clear scope) := by
  refine h.withProperties (p := s.properties.clear scope) (q := t.properties.clear scope) ?_
  rw [Properties.core_clear, Properties.core_clear, h.properties]

/-! ### Requests -/

theorem register (r : Request) : (s.register r).Alike (t.register r) := by
  unfold Session.register
  rw [h.registry]
  exact (h.withRegistry _).perform _

theorem swept (result : Registry.Swept) : (s.swept result).Alike (t.swept result) :=
  (h.withRegistry _).perform _

theorem timeoutAll : s.timeoutAll.Alike t.timeoutAll := by
  unfold Session.timeoutAll
  rw [h.registry]
  exact h.swept _

theorem answer (reply : Element) : (s.answer reply).Alike (t.answer reply) := by
  unfold Session.answer
  rw [h.registry]
  split
  · exact (h.withRegistry _).perform _
  · exact h

theorem cancel (key : RequestKey) : (s.cancel key).Alike (t.cancel key) := by
  unfold Session.cancel
  rw [h.registry]
  split
  · exact (h.withRegistry _).perform _
  · exact h

theorem prune : s.prune.Alike t.prune := by
  unfold Session.prune
  rw [h.registry]
  exact h.withRegistry _

theorem failUnsent (request : Option Request) (error : RequestError) :
    (s.failUnsent request error).Alike (t.failUnsent request error) := by
  cases request with
  | none => exact h
  | some r => exact h.perform _

theorem awaitReply (request : Option Request) :
    (s.awaitReply request).Alike (t.awaitReply request) := by
  cases request with
  | none => exact h
  | some r =>
    unfold Session.awaitReply
    dsimp only
    split
    · exact h.perform _
    · exact h.register r

/-! ### Stream management -/

theorem mark (entries entries' : List Entry) (state state' : State) :
    (s.mark entries state).Alike (t.mark entries' state') :=
  h

/-- Changing the resumable session in two ways that come to the same. -/
theorem modifyResumption {f f' g : Context → Context} (hf : ∀ c, (f c).core = g c.core)
    (hf' : ∀ c, (f' c).core = g c.core) :
    (s.modifyResumption f).Alike (t.modifyResumption f') := by
  refine h.withProperties ?_
  rw [Properties.core_modify _ _ hf, Properties.core_modify _ _ hf', h.properties]

theorem abandonResumption : s.abandonResumption.Alike t.abandonResumption := by
  unfold Session.abandonResumption
  rw [h.isSome_resumption?]
  split
  · refine h.withProperties ?_
    rw [Properties.core_erase, Properties.core_erase, h.properties]
  · exact h

theorem resetManagement : s.resetManagement.Alike t.resetManagement :=
  (h.mark _ _ _ _).abandonResumption

theorem startResumption (context : Context) :
    (s.startResumption context).Alike (t.startResumption context) :=
  (h.mark _ _ _ _).setProperty _ _ context

theorem deactivateManagement : s.deactivateManagement.Alike t.deactivateManagement :=
  h.modifyResumption Context.core_deactivate Context.core_deactivate

theorem acknowledge (report : UInt32) : (s.acknowledge report).Alike (t.acknowledge report) := by
  have hack := fun c : Context => c.core_acknowledge report
  obtain ⟨hs, ht⟩ | ⟨a, b, hs, ht, -⟩ := h.resumption?_cases
  · rw [Session.acknowledge, Session.acknowledge, hs, ht]
    exact h
  · rw [Session.acknowledge, Session.acknowledge, hs, ht]
    exact (h.mark _ _ _ _).modifyResumption (g := (·.acknowledge report)) hack hack

theorem continueFrom (report : UInt32) :
    (s.continueFrom report).Alike (t.continueFrom report) := by
  have hresume := fun c : Context => c.core_resumeAt report
  obtain ⟨hs, ht⟩ | ⟨a, b, hs, ht, hab⟩ := h.resumption?_cases
  · rw [Session.continueFrom, Session.continueFrom, hs, ht]
    exact h
  · rw [Session.continueFrom, Session.continueFrom, hs, ht]
    refine ((h.mark _ _ _ _).modifyResumption (g := (·.resumeAt report)) hresume hresume).resend ?_
    show (a.acknowledge report).core.unacked = (b.acknowledge report).core.unacked
    rw [Context.core_acknowledge, Context.core_acknowledge, hab]

/-- Elements of the same core are counted alike. -/
theorem countSent {entry entry' : Entry} (hentry : entry.core = entry'.core) :
    (s.countSent entry).Alike (t.countSent entry') := by
  have hstanza : entry.core.stanza = entry'.core.stanza := congrArg Entry.stanza hentry
  have hstanza : entry.stanza = entry'.stanza := hstanza
  unfold Session.countSent
  rw [hstanza]
  split
  · exact h.startResumption _
  · refine (h.mark _ _ _ _).modifyResumption (g := fun c => c.recordSent entry.core)
      (fun c => c.core_recordSent entry) fun c => ?_
    rw [c.core_recordSent entry', hentry]

theorem enableManagement : s.enableManagement.2.Alike t.enableManagement.2 := by
  unfold Session.enableManagement
  rw [h.canManage, h.config]
  split
  · exact h.write _
  · exact h

end Changing

/-! ### Reports -/

/-- An element that is idle leaves no trace. -/
theorem write_idle (s : Session) {element : Element} (hidle : element.isIdle = true) :
    (s.write element).Alike s := by
  have tracked : (s.track element).2.Alike s := refl s
  let item := Outgoing.element (s.track element).1 none
  have hitem : item.core? = none := if_pos hidle
  have houtbox : (s.outbox ++ [item]).filterMap Outgoing.core?
      = s.outbox.filterMap Outgoing.core? := by
    rw [List.filterMap_append, List.filterMap_cons, hitem]
    exact List.append_nil _
  exact tracked.withOutbox houtbox

/-- Nor does a change of what was counted. -/
theorem modify_counts (s : Session) {f : Context → Context} (hf : ∀ c, (f c).core = c.core) :
    (s.modifyResumption f).Alike s := by
  refine (refl s).withProperties (q := s.properties) ?_
  rw [Properties.core_modify _ _ (g := id) hf, Properties.modify_id]

/-- **What comes in is only counted.** -/
theorem countReceived (s : Session) (element : Element) : (s.countReceived element).Alike s := by
  unfold Session.countReceived
  split
  · exact modify_counts s Context.core_recordReceived
  · exact refl s

theorem requestAck (s : Session) : s.requestAck.Alike s := by
  unfold Session.requestAck
  split
  · exact write_idle s (by decide)
  · exact refl s

theorem sendAck (s : Session) (force : Bool) : (s.sendAck force).Alike s := by
  unfold Session.sendAck
  split
  · exact (write_idle _ rfl).trans (modify_counts s Context.core_recordReport)
  · exact refl s

/-- **Seeing to reports leaves no trace.** -/
theorem manage (s : Session) : s.manage.Alike s := by
  unfold Session.manage
  split
  · refine (sendAck _ false).trans ?_
    split
    · exact requestAck s
    · exact refl s
  · exact refl s

/-- Asking to resume the session reports what was counted. -/
theorem resume (s : Session) : s.resume.2.Alike s := by
  unfold Session.resume
  split
  · exact write_idle s rfl
  · exact refl s

end Alike

end Session

end Xmpp
