import Xmpp.Proofs.Request.Standing

/-!
# Who may answer a request

A request is resolved by an element that answers it: an `iq` of type `result` or
`error` with its id, from a sender that may speak for its recipient. Which senders
may is a matter of addresses alone, and `Request.Admissible` lists them. The
registry looks a request up by its key first and asks for the sender afterwards,
so a reply from anybody else leaves the request where it is.

What modules do with an element nobody waits for does not concern the requests
(`Client.registry_route`), so an element resolves the request it answers, and no
other (`Client.Run.discerns`).
-/

namespace Xmpp

open Delivery Resumption

/-! ## Senders -/

/-- **An address on an account**: it is that of the account, or of a resource of
it. -/
def Jid.IsOn (jid : Jid) (account : Option Jid) : Prop :=
  ∃ own, account = some own ∧ jid.bare.Same own.bare

/-- **Who may answer a request**, for a client whose own address is this. -/
inductive Request.Admissible (own : Option Jid) (r : Request) (e : Element) : Prop
  /-- Nobody was asked, and nobody says who answers. -/
  | unaddressed (sender : e.attr "from" = none) (recipient : r.recipient = none)
  /-- The own account was asked, and nobody says who answers. -/
  | account {peer : Jid} (sender : e.attr "from" = none) (recipient : r.recipient = some peer)
      (isOwn : peer.IsOn own)
  /-- Who was asked answers. -/
  | asked {address : String} {sender peer : Jid} (sends : e.attr "from" = some address)
      (reads : Jid.parse address = .ok sender) (recipient : r.recipient = some peer)
      (same : sender.Same peer)
  /-- A resource answers for the account that was asked. -/
  | resource {address : String} {sender peer : Jid} (sends : e.attr "from" = some address)
      (reads : Jid.parse address = .ok sender) (recipient : r.recipient = some peer)
      (isBare : peer.isBare = true) (belongs : sender.bare.Same peer)
  /-- Nobody was asked, and the own account answers. -/
  | own {address : String} {sender : Jid} (sends : e.attr "from" = some address)
      (reads : Jid.parse address = .ok sender) (recipient : r.recipient = none)
      (isOwn : sender.IsOn own)

/-- **A reply**: an `iq` that says how another went. -/
structure Element.IsReply (e : Element) : Prop where
  /-- It is an `iq`. -/
  name : e.name = "iq"
  /-- It says how the other went. -/
  type : e.attr "type" = some "result" ∨ e.attr "type" = some "error"

/-- **A request is answered by an element**: a reply with its id, from a sender that
may answer it. -/
structure Request.AnsweredBy (own : Option Jid) (r : Request) (e : Element) : Prop where
  /-- It is a reply. -/
  isReply : e.IsReply
  /-- It has the id of the request. -/
  id : e.attr "id" = some r.key.id
  /-- Its sender may answer the request. -/
  admissible : r.Admissible own e

/-- **A forgery**: a reply that answers none of the requests. -/
structure Registry.Rejects (g : Registry) (e : Element) : Prop where
  /-- It is a reply. -/
  isReply : e.IsReply
  /-- It answers nothing. -/
  answersNone : ∀ r ∈ g.requests, ¬ r.AnsweredBy g.ownJid e

namespace Registry

variable {g : Registry} {r : Request} {e : Element}

theorem isOwnAccount_iff {jid : Jid} : g.isOwnAccount jid = true ↔ jid.IsOn g.ownJid := by
  unfold isOwnAccount Jid.IsOn
  rw [Option.any_eq_true]
  exact exists_congr fun own => and_congr_right fun _ => decide_eq_true_iff

/-- **The registry admits those who may answer**, and nobody else. -/
theorem verifies_iff : g.verifies r e = true ↔ r.Admissible g.ownJid e := by
  unfold verifies admits
  constructor
  · intro h
    cases hfrom : e.attr "from" with
    | none =>
      rw [hfrom] at h
      cases hto : r.recipient with
      | none => exact .unaddressed hfrom hto
      | some peer =>
        rw [hto] at h
        exact .account hfrom hto (isOwnAccount_iff.1 h)
    | some address =>
      rw [hfrom, Option.map_some] at h
      cases hparse : Jid.parse address with
      | error error =>
        rw [hparse] at h
        cases h
      | ok sender =>
        rw [hparse] at h
        cases hto : r.recipient with
        | none =>
          rw [hto] at h
          exact .own hfrom hparse hto (isOwnAccount_iff.1 h)
        | some peer =>
          rw [hto] at h
          rcases (Bool.or_eq_true _ _).mp h with hsame | hbelongs
          · exact .asked hfrom hparse hto (of_decide_eq_true hsame)
          · obtain ⟨hbare, hbelongs⟩ := Bool.and_eq_true_iff.1 hbelongs
            refine .resource hfrom hparse hto hbare ?_
            rw [← Jid.bare_eq_self hbare]
            exact of_decide_eq_true hbelongs
  · intro h
    cases h with
    | unaddressed hfrom hto => simp [hfrom, hto]
    | account hfrom hto own => simp [hfrom, hto, isOwnAccount_iff.2 own]
    | asked hfrom hparse hto same => simp [hfrom, hparse, hto, same]
    | resource hfrom hparse hto bare belongs =>
      rw [← Jid.bare_eq_self bare] at belongs
      simp [hfrom, hparse, hto, bare, belongs]
    | own hfrom hparse hto own => simp [hfrom, hparse, hto, isOwnAccount_iff.2 own]

/-- What an element answers waits under its key, and its sender may answer it. -/
theorem find?_of_answeredBy? (h : g.answeredBy? e = some r) :
    isReply e = true ∧ RequestKey.of? e = some r.key ∧ g.find? r.key = some r
      ∧ g.verifies r e = true := by
  unfold answeredBy? at h
  split at h
  · rename_i hreply
    obtain ⟨key, hkey, hfound⟩ := Option.bind_eq_some_iff.1 h
    obtain ⟨hfound, hverifies⟩ := Option.filter_eq_some_iff.1 hfound
    obtain rfl := key_of_find? hfound
    exact ⟨hreply, hkey, hfound, hverifies⟩
  · cases h

/-- **An element answers the request it is an answer to**, in a registry that has
at most one request of each key, each an `iq`. -/
theorem answeredBy?_eq_some_iff (ordered : Ordered g.requests)
    (iq : ∀ q ∈ g.requests, q.key.name = "iq") :
    g.answeredBy? e = some r ↔ r ∈ g.requests ∧ r.AnsweredBy g.ownJid e := by
  constructor
  · intro h
    obtain ⟨hreply, hkey, hfound, hverifies⟩ := find?_of_answeredBy? h
    have hmem : r ∈ g.requests := List.mem_of_find?_eq_some hfound
    obtain ⟨id, hid, hrkey⟩ := Option.map_eq_some_iff.1 hkey
    have hname : e.name = "iq" := by
      rw [← iq r hmem, ← hrkey]
    refine ⟨hmem, ⟨hname, ?_⟩, ?_, verifies_iff.1 hverifies⟩
    · unfold isReply at hreply
      rw [hname] at hreply
      simpa using hreply
    · rw [hid, ← hrkey]
  · rintro ⟨hmem, ⟨hname, htype⟩, hid, admissible⟩
    have hreply : isReply e = true := by
      unfold isReply
      rcases htype with htype | htype
      · rw [htype]
        simp
      · rw [htype]
        simp
    have hkey : RequestKey.of? e = some r.key := by
      unfold RequestKey.of?
      rw [hid, hname, ← iq r hmem]
      rfl
    unfold answeredBy?
    rw [if_pos hreply, hkey, Option.bind_some]
    refine Option.filter_eq_some_iff.2 ⟨ordered.find? hmem, verifies_iff.2 admissible⟩

/-- A forgery is a reply that answers none of the requests. -/
theorem rejects_iff (ordered : Ordered g.requests) (iq : ∀ q ∈ g.requests, q.key.name = "iq") :
    g.Rejects e ↔ e.IsReply ∧ g.answeredBy? e = none := by
  constructor
  · intro h
    refine ⟨h.isReply, Option.eq_none_iff_forall_ne_some.2 fun r hr => ?_⟩
    obtain ⟨hmem, answered⟩ := (answeredBy?_eq_some_iff ordered iq).1 hr
    exact h.answersNone r hmem answered
  · rintro ⟨isReply, hnone⟩
    refine ⟨isReply, fun r hr answered => ?_⟩
    rw [(answeredBy?_eq_some_iff ordered iq).2 ⟨hr, answered⟩] at hnone
    cases hnone

end Registry

/-! ## Modules and requests -/

namespace Session

variable (s : Session) (e : Element)

theorem registry_countReceived : (s.countReceived e).registry = s.registry := by
  rw [countReceived_eq]

theorem registry_takeEnabled (enabled : Enabled) :
    (s.takeEnabled enabled).registry = s.registry := by
  unfold takeEnabled
  split
  · dsimp only
    split
    · rfl
    · rfl
  · dsimp only
    split
    · rfl
    · rfl

theorem registry_takeFailed (f : Failed) : (s.takeFailed f).registry = s.registry := by
  unfold takeFailed
  split
  · exact congrArg (·.registry) s.abandonResumption_eq
  · cases f.h with
    | none => exact congrArg (·.registry) s.resetManagement_eq
    | some h =>
      exact (congrArg (·.registry) (s.acknowledge h).resetManagement_eq).trans
        (congrArg (·.registry) (s.acknowledge_eq h))

theorem registry_takeResumed (r : Resumed) : (s.takeResumed r).1.registry = s.registry := by
  unfold takeResumed
  split
  · rfl
  · rfl

theorem registry_sendAck (force : Bool) : (s.sendAck force).registry = s.registry := by
  unfold sendAck
  split
  · rfl
  · rfl

theorem registry_handleManagement : (s.handleManagement e).1.registry = s.registry := by
  unfold handleManagement
  split
  · split
    · exact s.registry_takeEnabled _
    · rfl
  · split
    · split
      · exact s.registry_takeResumed _
      · rfl
    · split
      · exact s.registry_takeFailed _
      · split
        · split
          · exact congrArg (·.registry) (s.acknowledge_eq _)
          · rfl
        · split
          · exact s.registry_sendAck true
          · rfl

theorem registry_handleSasl : (s.handleSasl e).1.registry = s.registry := by
  have hchallenge : ∀ data, (s.takeChallenge data).registry = s.registry := fun data => by
    unfold takeChallenge
    split
    · rfl
    · split
      · rfl
      · rfl
  have hsuccess : ∀ data, (s.takeSuccess data).registry = s.registry := fun data => by
    unfold takeSuccess
    split
    · rfl
    · dsimp only
      split
      · rfl
      · rfl
  unfold handleSasl
  split
  · split
    · exact hchallenge _
    · rfl
  · split
    · split
      · exact hsuccess _
      · rfl
    · split
      · split
        · rfl
        · rfl
      · rfl

theorem registry_handleSasl2 : (s.handleSasl2 e).1.registry = s.registry := by
  have hsuccess : (s.takeSuccess2 e).1.registry = s.registry := by
    unfold takeSuccess2
    split
    · rfl
    · dsimp only
      split
      · rfl
      · split
        · rfl
        · split
          · split
            · rfl
            · exact registry_takeEnabled _ _
            · rfl
          · rfl
  have hchallenge : (s.takeChallenge2 e).registry = s.registry := by
    unfold takeChallenge2
    split
    · rfl
    · split
      · rfl
      · split
        · rfl
        · rfl
  unfold handleSasl2
  split
  · exact hchallenge
  · split
    · exact hsuccess
    · split
      · rfl
      · split
        · rfl
        · rfl

theorem registry_handleRoster : (s.handleRoster e).1.registry = s.registry := by
  have haccept : (s.acceptRoster e).1.registry = s.registry := by
    unfold acceptRoster
    split
    · rfl
    · rfl
  unfold handleRoster
  split
  · rfl
  · split
    · rfl
    · split
      · exact haccept
      · rfl
    · exact haccept

theorem registry_handleDiscovery : (s.handleDiscovery e).1.registry = s.registry := by
  unfold handleDiscovery
  split
  · rfl
  · rfl

theorem registry_actAll (actions : List Action) : (s.actAll actions).1.registry = s.registry := by
  induction actions generalizing s with
  | nil => rfl
  | cons action rest ih =>
    cases action with
    | fail error => rfl
    | _ => exact ih _

theorem registry_handleExtra (name : String) (tag : Option String) :
    (s.handleExtra name tag e).1.registry = s.registry := by
  unfold handleExtra noteFor
  dsimp only
  split
  · exact registry_actAll _ _
  · exact registry_actAll _ _

/-- **No module touches the requests** while it handles an element. -/
theorem registry_handle (id : ModuleId) (tag : Option String) :
    (s.handle id tag e).1.registry = s.registry := by
  cases id with
  | streamManagement => exact s.registry_handleManagement e
  | sasl => exact s.registry_handleSasl e
  | sasl2 => exact s.registry_handleSasl2 e
  | roster => exact s.registry_handleRoster e
  | disco => exact s.registry_handleDiscovery e
  | extra name => exact s.registry_handleExtra e name tag
  | _ => rfl

end Session

namespace Client

/-- **Routing an element does not touch the requests**, whatever modules there
are. -/
theorem registry_route (c : Client) (s : Session) (e : Element) :
    (c.route s e).registry = s.registry := by
  have routed : ∀ (slot : Slot) (state : Session × Bool),
      (routeTo e state slot).1.registry = state.1.registry := by
    rintro slot ⟨s, replied⟩
    have processed : (Modules.process slot s e).1.registry = s.registry := by
      unfold Modules.process
      split
      · rfl
      · exact s.registry_handle e slot.id _
    unfold routeTo
    dsimp only
    generalize Modules.process slot s e = p at processed
    obtain ⟨s', error⟩ := p
    cases error with
    | none => exact processed
    | some error =>
      dsimp only
      split
      · exact processed
      · exact processed
  have folded : ∀ (slots : List Slot) (state : Session × Bool),
      (slots.foldl (routeTo e) state).1.registry = state.1.registry := by
    intro slots
    induction slots with
    | nil => exact fun _ => rfl
    | cons slot rest ih => exact fun state => (ih _).trans (routed slot state)
  unfold route
  split
  · unfold turnAway
    split
    · rfl
    · split
      · rfl
      · rfl
  · exact folded _ _

/-- **What a client makes of an element** as far as its requests are concerned. -/
structure Discerns (c : Client) : Prop where
  /-- The element is taken in, and then the client comes to rest. -/
  receives : ∀ e : Element, c.receive e = ({ c with session := c.take e } : Client).run
  /-- The requests that are taken out of the registry are those it answers. -/
  resolved : ∀ (e : Element), ∀ r ∈ c.session.registry.requests,
    r ∉ (c.take e).registry.requests ↔ r.AnsweredBy c.session.registry.ownJid e
  /-- A request that is answered comes to what the element says, and this is all
  that happens. -/
  outcome : ∀ (e : Element), ∀ r ∈ c.session.registry.requests,
    r.AnsweredBy c.session.registry.ownJid e →
      c.take e = ({ c.session.countReceived e with
        registry := c.session.registry.erase r.key } : Session).perform
          (Request.effectsOf (r.answer? e))
  /-- It is the only one. -/
  sole : ∀ (e : Element), ∀ r ∈ c.session.registry.requests, ∀ q ∈ c.session.registry.requests,
    r ∉ (c.take e).registry.requests → q ∉ (c.take e).registry.requests → r = q

variable {c : Client} {given registered : List Request} {config : Config}
  {catalogue : Catalogue}

/-- An element that answers a request resolves it. -/
theorem take_of_answeredBy? {e : Element} {r : Request}
    (h : c.session.registry.answeredBy? e = some r) :
    c.take e = ({ c.session.countReceived e with
      registry := c.session.registry.erase r.key } : Session).perform
        (Request.effectsOf (r.answer? e)) := by
  have hresolve : (c.session.countReceived e).registry.resolve? e
      = some (c.session.registry.erase r.key, Request.effectsOf (r.answer? e)) := by
    rw [Session.registry_countReceived, Registry.resolve?, h]
    rfl
  unfold take Session.answer
  dsimp only
  rw [hresolve]
  rfl

/-- An element that answers none is routed, which leaves the requests alone. -/
theorem take_of_answeredBy?_eq_none {e : Element}
    (h : c.session.registry.answeredBy? e = none) :
    c.take e = c.route (c.session.countReceived e) e
      ∧ (c.take e).registry = c.session.registry := by
  have hresolve : (c.session.countReceived e).registry.resolve? e = none := by
    rw [Session.registry_countReceived, Registry.resolve?, h]
    rfl
  have htake : c.take e = c.route (c.session.countReceived e) e := by
    unfold take
    dsimp only
    rw [hresolve]
    rfl
  refine ⟨htake, ?_⟩
  rw [htake, registry_route, Session.registry_countReceived]

/-- **Every client discerns its answers**, in whatever run and with whatever
modules. -/
theorem Run.discerns (run : Run (blank config catalogue) given registered c) : c.Discerns := by
  have kept := run.kept
  have answered := fun (r : Request) (e : Element) =>
    Registry.answeredBy?_eq_some_iff (r := r) (e := e) kept.ordered kept.iq
  have outcome : ∀ (e : Element) (r : Request), c.session.registry.answeredBy? e = some r →
      ∀ q ∈ c.session.registry.requests, q ∉ (c.take e).registry.requests ↔ q = r := by
    intro e r h q hq
    have hr := ((answered r e).1 h).1
    rw [take_of_answeredBy? h, Session.perform_eq]
    show q ∉ c.session.registry.requests.filter (fun r' => r'.key ≠ r.key) ↔ q = r
    rw [List.mem_filter]
    constructor
    · intro hnot
      have hkey : q.key = r.key := by
        by_contra hkey
        exact hnot ⟨hq, decide_eq_true hkey⟩
      exact Option.some.inj ((kept.ordered.find? hq).symm.trans (hkey ▸ kept.ordered.find? hr))
    · rintro rfl ⟨-, hkey⟩
      exact of_decide_eq_true hkey rfl
  have resolved : ∀ (e : Element), ∀ r ∈ c.session.registry.requests,
      r ∉ (c.take e).registry.requests ↔ c.session.registry.answeredBy? e = some r := by
    intro e r hr
    cases h : c.session.registry.answeredBy? e with
    | none =>
      rw [(take_of_answeredBy?_eq_none h).2]
      exact ⟨fun hnot => absurd hr hnot, nofun⟩
    | some q =>
      rw [outcome e q h r hr]
      exact ⟨fun heq => congrArg some heq.symm, fun heq => (Option.some.inj heq).symm⟩
  refine ⟨fun e => operate_eq (run.atRest (atRest_blank ..)) (.receive e), fun e r hr => ?_,
    fun e r hr h => take_of_answeredBy? ((answered r e).2 ⟨hr, h⟩),
    fun e r hr q hq hnot hnot' => ?_⟩
  · rw [resolved e r hr, answered]
    exact and_iff_right hr
  · exact Option.some.inj (((resolved e r hr).1 hnot).symm.trans ((resolved e q hq).1 hnot'))

end Client

end Xmpp
