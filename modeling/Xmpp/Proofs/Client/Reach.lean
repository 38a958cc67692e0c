import Xmpp.Proofs.Request.Standing
import Xmpp.Proofs.Session.Drift

/-!
# Clients that can be reached

What holds of every client after every run is often not enough to follow a single
element through it: that needs to know that the element does not answer a request by
accident (`Client.Reachable.resolve?_eq_none`), that the resumable session is where
it belongs, and that the transport is there whenever the client thinks so. This file
collects what is known about clients that live in a decent environment: their owner
does nothing behind the back of the library, and transports take whatever they are
given.

A client is *settled* if it came to rest after such a life (`Client.Settled`), and
*underway* if it is on its way from there to rest again (`Client.Underway`). The second
is what a single move preserves.
-/

namespace Xmpp

open Delivery Resumption

/-! ## Elements that belong to one module -/

/-- **An element is entrusted to a module**: the module is there, and no other one
handles the element. -/
def Modules.Entrusts (m : Modules) (id : ModuleId) (e : Element) : Prop :=
  (m.targets e).map (fun slot => (slot.id, slot.occupant.isSome)) = [(id, true)]

/-- Only three names are those of stanzas. -/
theorem Element.not_isStanza_of_name {e : Element} {name : String} (h : e.name = name)
    (hname : (name == "iq" || name == "message" || name == "presence") = false) :
    e.isStanza = false := by
  unfold Element.isStanza
  rw [h]
  exact hname

/-- If each request is an `iq`, only a stanza can answer one: the key of a reply has the name of the
reply. -/
theorem Registry.resolve?_eq_none {g : Registry} (iq : ∀ r ∈ g.requests, r.key.name = "iq")
    {e : Element} (nonza : e.isStanza = false) : g.resolve? e = none := by
  unfold Registry.resolve?
  cases hanswered : g.answeredBy? e with
  | none => rfl
  | some r =>
    exfalso
    unfold Registry.answeredBy? at hanswered
    split at hanswered
    · obtain ⟨key, hkey, hfound⟩ := Option.bind_eq_some_iff.1 hanswered
      obtain ⟨id, -, rfl⟩ := Option.map_eq_some_iff.1 hkey
      have hfind := (Option.filter_eq_some_iff.1 hfound).1
      have hname : r.key.name = e.name := congrArg (·.name) (Registry.key_of_find? hfind)
      unfold Element.isStanza at nonza
      simp [← hname, iq r (List.mem_of_find?_eq_some hfind)] at nonza
    · cases hanswered

namespace Client

/-- **An element that answers no request goes to the module it is entrusted to.** If the
module refuses it, whoever expects a reply is told so. -/
theorem take_of_entrusts {c : Client} {e : Element} {id : ModuleId} {s : Session}
    (entrusted : c.modules.Entrusts id e) (unasked : c.session.registry.resolve? e = none)
    (handled : ∀ tag, ((c.session.countReceived e).handle id tag e).1 = s) :
    c.take e = s ∨ e.expectsReply = true ∧ ∃ refusal, c.take e = s.write refusal := by
  obtain ⟨slot, htargets, hslot⟩ := List.map_eq_singleton_iff.1 entrusted
  obtain ⟨rfl, hsome⟩ := Prod.mk.inj hslot
  obtain ⟨occupant, hoccupant⟩ := Option.isSome_iff_exists.1 hsome
  have hregistry : (c.session.countReceived e).registry = c.session.registry := by
    rw [Session.countReceived_eq]
  have htake : c.take e = (routeTo e (c.session.countReceived e, false) slot).1 := by
    unfold Client.take
    dsimp only
    rw [hregistry, unasked]
    show c.route _ e = _
    unfold Client.route
    rw [htargets]
    rfl
  have hs := handled occupant.tag
  rw [htake]
  unfold routeTo Modules.process
  rw [hoccupant]
  dsimp only
  generalize (c.session.countReceived e).handle slot.id occupant.tag e = result at hs ⊢
  obtain ⟨s', error?⟩ := result
  subst hs
  cases error? with
  | none => exact .inl rfl
  | some error =>
    by_cases hreply : e.expectsReply = true
    · refine .inr ⟨hreply, e.refusal error.toStanzaError, ?_⟩
      rw [hreply]
      rfl
    · rw [Bool.eq_false_iff.2 hreply]
      exact .inl rfl

/-- **A client that can be reached** by some run from its start. -/
def Reachable (c : Client) : Prop :=
  ∃ config catalogue given registered, Run (blank config catalogue) given registered c

namespace Reachable

variable {c : Client} (h : c.Reachable)

include h

theorem atRest : c.AtRest := by
  obtain ⟨config, catalogue, given, registered, run⟩ := h
  exact Run.atRest run (atRest_blank config catalogue)

theorem foldl_operate (ops : List Operation) (sound : ∀ op ∈ ops, op.Within Change.Sound) :
    (ops.foldl Client.operate c).Reachable := by
  obtain ⟨config, catalogue, given, registered, run⟩ := h
  obtain ⟨given', registered', run'⟩ :=
    run.exists_foldl_operate (atRest_blank config catalogue) ops sound
  exact ⟨config, catalogue, given', registered', run'⟩

theorem receive (e : Element) : (c.receive e).Reachable :=
  h.foldl_operate [.receive e] fun _ hop => List.mem_singleton.1 hop ▸ Operation.within_sound rfl

/-- Only a stanza can answer a request. -/
theorem resolve?_eq_none {e : Element} (nonza : e.isStanza = false) :
    c.session.registry.resolve? e = none := by
  obtain ⟨config, catalogue, given, registered, run⟩ := h
  exact Registry.resolve?_eq_none run.kept.iq nonza

/-- What is no stanza goes to the module it is entrusted to. Nobody is told if the module
refuses it. -/
theorem take_entrusted {e : Element} {id : ModuleId} {s : Session}
    (nonza : e.isStanza = false) (entrusted : c.modules.Entrusts id e)
    (handled : ∀ tag, (c.session.handle id tag e).1 = s) : c.take e = s := by
  have hcount : c.session.countReceived e = c.session := by
    unfold Session.countReceived
    rw [nonza]
    rfl
  have htaken := take_of_entrusts entrusted (h.resolve?_eq_none nonza) (hcount.symm ▸ handled)
  refine htaken.resolve_right fun hrefused => ?_
  have hquiet := hrefused.1
  unfold Element.expectsReply at hquiet
  rw [nonza] at hquiet
  cases hquiet

theorem receive_entrusted {e : Element} {id : ModuleId} {s : Session}
    (nonza : e.isStanza = false) (entrusted : c.modules.Entrusts id e)
    (handled : ∀ tag, (c.session.handle id tag e).1 = s) :
    c.receive e = ({ c with session := s } : Client).run := by
  rw [← h.take_entrusted nonza entrusted handled]
  exact operate_eq h.atRest (.receive e)

end Reachable

/-! ## A decent environment -/

/-- **Fit clients**: contexts are in their place, the transport takes whatever it is
given, and as long as there is one the connection does not count as gone. -/
structure Fit (c : Client) : Prop where
  clean : c.session.properties.Clean
  neverRefused : c.NeverRefused
  connected : c.transport.isSome = true → c.connector ≠ .disconnected

theorem connector_setConnector (c : Client) (new : ConnectorState) :
    (c.setConnector new).connector = new := by
  unfold setConnector
  split
  · assumption
  · rfl

theorem transport_setConnector (c : Client) (new : ConnectorState) :
    (c.setConnector new).transport = c.transport := by
  unfold setConnector
  split <;> rfl

/-- **What handing over an item does to the properties**: it clears the scope of the stream,
starts a resumable session or changes it in its place, or leaves them as they are. -/
theorem properties_deliver {I : Properties → Prop} {c : Client} (item : Outgoing)
    (h : I c.session.properties) (clear : I (c.session.properties.clear .stream))
    (set : I (c.session.properties.set .session Properties.resumptionKey Context.start))
    (modify : ∀ f : Context → Context,
      I (c.session.properties.modify Properties.resumptionKey f)) :
    I (c.deliver item).session.properties := by
  have delivers := c.delivers item
  generalize (c.deliver item).session = s' at delivers
  cases delivers with
  | restart => exact clear
  | close => exact h
  | closing => exact h
  | lost entry request state error _ =>
    rw [Session.failUnsent_eq]
    exact h
  | taken entry request _ =>
    rw [Session.awaitReply_eq]
    unfold Session.countSent
    split
    · exact set
    · exact modify _

/-- Handing over an item leaves contexts in their place. -/
theorem clean_deliver {c : Client} (h : c.session.properties.Clean) (item : Outgoing) :
    (c.deliver item).session.properties.Clean :=
  properties_deliver item h (h.clear .stream) (h.set .start) h.modify

namespace Fit

variable {c c' : Client} {log : List Request}

theorem blank (config : Config) (catalogue : Catalogue) : (blank config catalogue).Fit := by
  refine ⟨⟨?_, ?_⟩, ?_, ?_⟩
  · exact fun _ hmem => absurd hmem (List.not_mem_nil)
  · exact fun _ hmem => absurd hmem (List.not_mem_nil)
  · intro transport hsome
    cases hsome
  · intro hsome
    cases hsome

/-- Handing over an item. -/
theorem deliver (h : c.Fit) (item : Outgoing) : (c.deliver item).Fit := by
  refine ⟨clean_deliver h.clean item, h.neverRefused.deliver item, fun hsome => ?_⟩
  cases item with
  | restart => exact h.connected hsome
  | close =>
    rw [show (c.deliver .close).transport = none from transport_setConnector _ _] at hsome
    cases hsome
  | element entry request =>
    cases ht : c.transport with
    | none =>
      rw [deliver_of_transport_none ht] at hsome
      exact absurd hsome (by rw [ht]; decide)
    | some transport =>
      rw [deliver_of_accepts ht (h.neverRefused transport ht)]
      exact h.connected (by rw [ht]; rfl)

/-- Reacting to an event. -/
theorem react (h : c.Fit) (event : Event) : (c.handleEvent event).Fit :=
  ⟨(Session.drifts_react h.clean c.controller event).clean, h.neverRefused, h.connected⟩

theorem moves (h : c.Fit) (moves : Moves c log c') : c'.Fit := by
  induction moves with
  | refl => exact h
  | @deliver c' _ item rest _ _ ih =>
    have hrest : (c'.withOutbox rest).Fit := ⟨ih.clean, ih.neverRefused, ih.connected⟩
    exact hrest.deliver item
  | @react c' _ event rest _ _ _ ih =>
    have hrest : (c'.withEvents rest).Fit := ⟨ih.clean, ih.neverRefused, ih.connected⟩
    exact hrest.react event

end Fit

end Client

/-- **Discreet operations** of an owner whose transports take whatever they are
given. -/
def Operation.Discreet (op : Operation) : Prop :=
  op.Within Change.Discreet ∧ ∀ transport, op = .connected transport → transport.Accepts

namespace Client

theorem Fit.prepare {c : Client} (h : c.Fit) {op : Operation} (discreet : op.Discreet) :
    (c.prepare op).Fit := by
  have changes := Session.Changes.prepare (fun _ => Change.Plain.discreet) c op
    (Catalogue.within_discreet _) discreet.1
  refine ⟨changes.clean h.clean, h.neverRefused.prepare discreet.2, ?_⟩
  cases op with
  | connecting =>
    intro _
    show (c.setConnector .connecting).connector ≠ _
    rw [connector_setConnector]
    decide
  | connected transport =>
    intro _
    show (Client.setConnector _ .connected).connector ≠ _
    rw [connector_setConnector]
    decide
  | lost =>
    intro hsome
    rw [show (c.prepare .lost).transport = none from transport_setConnector _ _] at hsome
    cases hsome
  | disconnect =>
    unfold Client.prepare
    dsimp only
    split <;> exact h.connected
  | process id element =>
    unfold Client.prepare
    dsimp only
    split <;> exact h.connected
  | nextEvent =>
    show c.nextEvent.2.transport.isSome = true → c.nextEvent.2.connector ≠ _
    unfold Client.nextEvent
    split <;> exact h.connected
  | _ => exact h.connected

/-- **Settled clients**: they came to rest after discreet operations, beginning with a
client without modules. -/
def Settled (c : Client) : Prop :=
  ∃ (config : Config) (catalogue : Catalogue) (ops : List Operation),
    (∀ op ∈ ops, op.Discreet)
    ∧ c = ops.foldl Client.operate (blank config catalogue)

/-- **Clients that are underway** after a discreet operation, but not at rest yet. -/
def Underway (c : Client) : Prop :=
  ∃ (c₀ : Client) (op : Operation) (log : List Request),
    c₀.Settled ∧ op.Discreet ∧ Moves (c₀.prepare op) log c

namespace Settled

variable {c : Client}

/-- A client that was created. -/
theorem of_create {config : Config} {catalogue : Catalogue} {batch : List Descriptor}
    (h : create config catalogue batch = .ok c) : c.Settled := by
  refine ⟨config, catalogue, [.install _], fun op hmem => ?_, eq_of_create h⟩
  obtain rfl := List.mem_singleton.1 hmem
  exact ⟨trivial, fun transport h => by cases h⟩

theorem operate (h : c.Settled) {op : Operation} (discreet : op.Discreet) :
    (c.operate op).Settled := by
  obtain ⟨config, catalogue, ops, hops, rfl⟩ := h
  refine ⟨config, catalogue, ops ++ [op], fun other hmem => ?_, by rw [List.foldl_append]; rfl⟩
  rcases List.mem_append.1 hmem with hmem | hmem
  · exact hops other hmem
  · exact List.mem_singleton.1 hmem ▸ discreet

theorem reachable (h : c.Settled) : c.Reachable := by
  obtain ⟨config, catalogue, ops, hops, rfl⟩ := h
  have start : (Client.blank config catalogue).Reachable := ⟨config, catalogue, [], [], .start⟩
  exact start.foldl_operate ops fun op hmem =>
    (hops op hmem).1.mono fun _ => Change.Discreet.sound

theorem atRest (h : c.Settled) : c.AtRest :=
  h.reachable.atRest

theorem fit (h : c.Settled) : c.Fit := by
  obtain ⟨config, catalogue, ops, hops, rfl⟩ := h
  exact foldl_operate_invariant (I := Fit) (atRest_blank config catalogue)
    (.blank config catalogue) (fun op hop _ _ h => h.prepare (hops op hop))
    fun moved h => h.moves moved

theorem underway (h : c.Settled) {op : Operation} (discreet : op.Discreet) :
    (c.prepare op).Underway :=
  ⟨c, op, [], h, discreet, .refl⟩

end Settled

namespace Underway

variable {c : Client} (h : c.Underway)

include h

theorem fit : c.Fit := by
  obtain ⟨c₀, op, log, settled, discreet, moves⟩ := h
  exact (settled.fit.prepare discreet).moves moves

theorem deliver {item : Outgoing} {rest : List Outgoing} (ho : c.session.outbox = item :: rest) :
    ((c.withOutbox rest).deliver item).Underway := by
  obtain ⟨c₀, op, log, settled, discreet, moves⟩ := h
  exact ⟨c₀, op, _, settled, discreet, moves.deliver ho⟩

theorem react {event : Event} {rest : List Event} (ho : c.session.outbox = [])
    (he : c.session.events = event :: rest) : ((c.withEvents rest).handleEvent event).Underway := by
  obtain ⟨c₀, op, log, settled, discreet, moves⟩ := h
  exact ⟨c₀, op, _, settled, discreet, moves.react ho he⟩

/-- A client that comes to rest has settled. -/
theorem settled (rest : c.AtRest) : c.Settled := by
  obtain ⟨c₀, op, log, settled, discreet, moves⟩ := h
  have hc : c₀.operate op = c := by
    rw [operate_eq settled.atRest, moves.run_eq, rest.run]
  rw [← hc]
  exact settled.operate discreet

end Underway

end Client

end Xmpp
