import Xmpp.Proofs.Client.Lockstep
import Xmpp.Proofs.Client.Replies
import Xmpp.Proofs.Request.Verification

/-!
# Forged replies

Anybody can send us a reply with the id of a request of ours. Unless the sender
may answer the request it is a forgery, and a forgery should come to nothing: the
request goes on waiting for the genuine reply, as if there had been no other.

With the built-in modules a forgery is handled by nobody, or refused without a
word, since replies are not replied to. All that is left of it is that it was
received, and stream management counts it (`Client.ignores_forgery`). So a client
that is beset with forgeries stays alike to one that is left in peace, as long as
its transports do not care how many elements they are given
(`Client.unforgeable`). If they do, the forgeries can be noticed after all: a
report that had something new to tell may have been the last element a transport
took (`Client.not_forall_unswayed`).
-/

namespace Xmpp

open Delivery

/-- **Ordinary operations**: no modules are installed, and modules that are called
make no calls up. -/
structure Operation.Ordinary (op : Operation) : Prop where
  /-- It is no installation. -/
  installsNone : op.batch? = none
  /-- What it does is sound. -/
  sound : op.Within Change.Sound

theorem Operation.Ordinary.of_isBare {op : Operation} (hbatch : op.batch? = none)
    (hbare : op.isBare = true) : op.Ordinary :=
  ⟨hbatch, Operation.within_sound hbare⟩

/-- A reply is of no other type. -/
theorem Element.IsReply.type_ne {e : Element} (he : e.IsReply) {type : String}
    (result : type ≠ "result") (error : type ≠ "error") : e.attr "type" ≠ some type := by
  rintro htype
  rcases he.type with h | h
  · exact result (Option.some.inj (htype.symm.trans h))
  · exact error (Option.some.inj (htype.symm.trans h))

/-- Replies are not replied to. -/
theorem Element.IsReply.expectsReply {e : Element} (he : e.IsReply) : e.expectsReply = false := by
  unfold Element.expectsReply
  rcases he.type with htype | htype
  · rw [htype]
    simp
  · rw [htype]
    simp

/-- **Whoever is concerned with a reply refuses it**: they are concerned with an `iq`,
but it would have to be a request. -/
theorem Session.handle_isReply (s : Session) {e : Element} (he : e.IsReply) {id : ModuleId}
    (hid : id ∈ ModuleId.concerned e) : ∃ error, s.handle id none e = (s, some error) := by
  have hroster : ∃ error, s.handle .roster none e = (s, some error) := by
    rcases s.handleRoster_cases e with ⟨⟨htype, -⟩, -⟩ | ⟨-, error, h⟩
    · exact absurd htype (he.type_ne (by decide) (by decide))
    · exact ⟨error, h⟩
  have hdisco : ∃ error, s.handle .disco none e = (s, some error) := by
    rcases s.handleDiscovery_cases e with ⟨htype, -⟩ | ⟨-, error, h⟩
    · exact absurd htype (he.type_ne (by decide) (by decide))
    · exact ⟨error, h⟩
  rw [ModuleId.concerned_iq he.name] at hid
  split at hid
  · rcases List.mem_append.1 hid with hid | hid
    · split at hid
      · exact List.mem_singleton.1 hid ▸ hroster
      · cases hid
    · split at hid
      · exact List.mem_singleton.1 hid ▸ hdisco
      · cases hid
  · split at hid
    · exact ⟨_, s.handle_misrouted he.name (.inl (List.mem_singleton.1 hid))⟩
    · split at hid
      · exact ⟨_, s.handle_misrouted he.name (.inr (.inl (List.mem_singleton.1 hid)))⟩
      · split at hid
        · exact ⟨_, s.handle_misrouted he.name (.inr (.inr (List.mem_singleton.1 hid)))⟩
        · cases hid

namespace Client

variable {c c₀ d : Client} {ops : List Operation} {e : Element}

/-! ## A forgery -/

/-- **The built-in modules leave a reply alone.** -/
theorem route_isReply (fitted : c.modules.Fitted) (s : Session) (he : e.IsReply) :
    c.route s e = s := by
  have unanswered : ∀ id ∈ ModuleId.concerned e, routeToBuiltIn e (s, false) id = (s, false) := by
    intro id hid
    obtain ⟨error, refused⟩ := s.handle_isReply he hid
    unfold routeToBuiltIn
    dsimp only
    rw [refused, he.expectsReply]
    rfl
  rw [route_eq fitted]
  split
  · have hstanza : e.isStanza = true := by
      unfold Element.isStanza
      rw [he.name]
      rfl
    unfold turnAway
    rw [he.expectsReply, hstanza]
    rfl
  · refine congrArg Prod.fst (List.foldlRecOn (motive := (· = (s, false))) _ _ rfl ?_)
    rintro _ rfl id hid
    exact unanswered id hid

/-- **A client that ignores an element**: it counts it at most. -/
structure Ignores (c : Client) (e : Element) : Prop where
  /-- Nothing happens but that the element is counted. -/
  counted : c.receive e = { c with session := c.session.countReceived e }
  /-- The registry stays as it was. -/
  registry : (c.receive e).session.registry = c.session.registry

/-- **A forgery is ignored.** -/
theorem ignores_forgery (fitted : c.modules.Fitted) (atRest : c.AtRest)
    {given registered : List Request} (kept : c.Kept given registered)
    (forged : c.session.registry.Rejects e) : c.Ignores e := by
  have htake : c.take e = c.session.countReceived e :=
    (take_of_answeredBy?_eq_none ((Registry.rejects_iff kept.ordered kept.iq).1 forged).2).1.trans
      (route_isReply fitted _ forged.isReply)
  have counted : AtRest { c with session := c.session.countReceived e } := by
    rw [c.session.countReceived_eq e]
    exact atRest
  have hreceive : c.receive e = { c with session := c.session.countReceived e } :=
    calc c.receive e = ({ c with session := c.take e } : Client).run :=
          operate_eq atRest (.receive e)
      _ = ({ c with session := c.session.countReceived e } : Client).run := by rw [htake]
      _ = { c with session := c.session.countReceived e } := counted.run
  refine ⟨hreceive, ?_⟩
  rw [hreceive]
  exact c.session.registry_countReceived e

/-! ## Forgeries in a run -/

/-- **A client beset with forgeries**: between its operations it receives any number
of them. They may be counted if `noticed` is set. -/
inductive Beset (noticed : Bool) (c₀ : Client) : List Operation → Client → Prop
  /-- Nothing happened yet. -/
  | start : Beset noticed c₀ [] c₀
  /-- Another operation. -/
  | operate {ops : List Operation} {d : Client} (beset : Beset noticed c₀ ops d)
      (op : Operation) : Beset noticed c₀ (ops ++ [op]) (d.operate op)
  /-- A forgery. -/
  | forge {ops : List Operation} {d : Client} (beset : Beset noticed c₀ ops d) (e : Element)
      (forged : d.session.registry.Rejects e)
      (counted : noticed = true ∨ d.session.countReceived e = d.session) :
      Beset noticed c₀ ops (d.receive e)

/-- **A client that is not swayed** from what another does: the same requests wait,
the same elements resolve them, and the same futures were settled and handlers
called. -/
structure Unswayed (c d : Client) : Prop where
  /-- The same requests wait for a reply, to the same address of ours. -/
  registry : d.session.registry = c.session.registry
  /-- Every element resolves the same of them. -/
  resolved : ∀ e : Element, (d.take e).registry = (c.take e).registry
  /-- The same futures were settled. -/
  settled : d.session.settled = c.session.settled
  /-- The same handlers were called. -/
  notes : d.session.notes = c.session.notes
  /-- The same events are published. -/
  published : d.published = c.published
  /-- The connection is in the same state. -/
  connector : d.connector = c.connector

theorem Alike.unswayed (h : c.Alike d) : c.Unswayed d :=
  ⟨h.session.registry.symm, fun e => (h.take e).registry.symm, h.session.settled.symm,
    h.session.notes.symm, h.published.symm, h.connector.symm⟩

/-- **A created client after ordinary operations** has the built-in modules, and its
requests are in order. -/
theorem ordinary_foldl {config : Config} {catalogue : Catalogue}
    (created : create config catalogue [] = .ok c₀) (ordinary : ∀ op ∈ ops, op.Ordinary) :
    (ops.foldl Client.operate c₀).Stock
      ∧ ∃ given registered, (ops.foldl Client.operate c₀).Kept given registered := by
  refine ⟨⟨config, catalogue, c₀, ops, created, fun op hop => (ordinary op hop).installsNone, rfl⟩,
    ?_⟩
  obtain ⟨given, registered, run⟩ := Run.of_create created
  obtain ⟨given', registered', run'⟩ := run.exists_foldl_operate (atRest_blank _ _) ops
    fun op hop => (ordinary op hop).sound
  exact ⟨given', registered', run'.kept⟩

namespace Beset

variable {noticed : Bool} {config : Config} {catalogue : Catalogue}

/-- Forgeries are received like anything else. -/
theorem exists_foldl_operate (beset : Beset noticed c₀ ops d)
    (ordinary : ∀ op ∈ ops, op.Ordinary) :
    ∃ all : List Operation, (∀ op ∈ all, op.Ordinary) ∧ d = all.foldl Client.operate c₀ := by
  induction beset with
  | start => exact ⟨[], ordinary, rfl⟩
  | @operate ops d beset op ih =>
    obtain ⟨all, hall, rfl⟩ := ih fun other hmem => ordinary other (List.mem_append_left _ hmem)
    refine ⟨all ++ [op], fun other hmem => ?_, by rw [List.foldl_append]; rfl⟩
    rcases List.mem_append.1 hmem with hmem | hmem
    · exact hall other hmem
    · exact ordinary other (List.mem_append_right _ hmem)
  | @forge ops d beset e forged counted ih =>
    obtain ⟨all, hall, rfl⟩ := ih ordinary
    refine ⟨all ++ [.receive e], fun other hmem => ?_, by rw [List.foldl_append]; rfl⟩
    rcases List.mem_append.1 hmem with hmem | hmem
    · exact hall other hmem
    · obtain rfl := List.mem_singleton.1 hmem
      exact Operation.Ordinary.of_isBare rfl rfl

/-- More operations. -/
theorem operations (beset : Beset noticed c₀ ops d) (more : List Operation) :
    Beset noticed c₀ (ops ++ more) (more.foldl Client.operate d) := by
  induction more generalizing ops d with
  | nil => rwa [List.append_nil]
  | cons op rest ih =>
    rw [List.append_cons]
    exact ih (beset.operate op)

/-- A beset client ignores forgeries, too. -/
theorem ignores (created : create config catalogue [] = .ok c₀)
    (ordinary : ∀ op ∈ ops, op.Ordinary) (beset : Beset noticed c₀ ops d)
    (forged : d.session.registry.Rejects e) : d.Ignores e := by
  obtain ⟨all, hall, rfl⟩ := beset.exists_foldl_operate ordinary
  obtain ⟨stock, given, registered, kept⟩ := ordinary_foldl created hall
  exact ignores_forgery stock.fitted stock.atRest kept forged

/-- What a forgery is can be computed. -/
theorem rejects (created : create config catalogue [] = .ok c₀)
    (ordinary : ∀ op ∈ ops, op.Ordinary) (beset : Beset noticed c₀ ops d) (isReply : e.IsReply)
    (hnone : (d.session.registry.answeredBy? e).isNone = true) :
    d.session.registry.Rejects e := by
  obtain ⟨all, hall, rfl⟩ := beset.exists_foldl_operate ordinary
  obtain ⟨-, given, registered, kept⟩ := ordinary_foldl created hall
  exact (Registry.rejects_iff kept.ordered kept.iq).2 ⟨isReply, Option.isNone_iff_eq_none.1 hnone⟩

/-- **Forgeries that are not counted are not there at all.** -/
theorem eq_of_unnoticed (created : create config catalogue [] = .ok c₀)
    (ordinary : ∀ op ∈ ops, op.Ordinary) (beset : Beset false c₀ ops d) :
    d = ops.foldl Client.operate c₀ := by
  induction beset with
  | start => rfl
  | operate beset op ih =>
    rw [List.foldl_append, ← ih fun other hmem => ordinary other (List.mem_append_left _ hmem)]
    rfl
  | forge beset e forged counted ih =>
    rw [(beset.ignores created ordinary forged).counted, counted.resolve_left Bool.false_ne_true,
      ← ih ordinary]

/-- **A client beset with forgeries stays alike** to one that is left in peace. -/
theorem alike (created : create config catalogue [] = .ok c₀)
    (ordinary : ∀ op ∈ ops, op.Ordinary)
    (steady : ∀ transport, .connected transport ∈ ops → transport.Steady)
    (beset : Beset noticed c₀ ops d) : (ops.foldl Client.operate c₀).Alike d := by
  induction beset with
  | start =>
    have start : (blank config catalogue).NeverRefused := fun _ h => nomatch h
    have spared : c₀.NeverRefused := by
      rw [eq_of_create created]
      exact start.operate (atRest_blank _ _) fun _ h => nomatch h
    refine .refl fun transport htransport m n => ?_
    rw [spared transport htransport m, spared transport htransport n]
  | @operate ops d beset op ih =>
    have ordinary' : ∀ op ∈ ops, op.Ordinary :=
      fun other hmem => ordinary other (List.mem_append_left _ hmem)
    have hop := List.mem_append_right ops (List.mem_singleton.2 (rfl : op = op))
    have h := ih ordinary' fun transport hmem =>
      steady transport (List.mem_append_left _ hmem)
    obtain ⟨all, hall, hd⟩ := beset.exists_foldl_operate ordinary'
    rw [List.foldl_append]
    refine h.operate (ordinary_foldl created ordinary').1.atRest ?_ (ordinary op hop).installsNone
      fun transport heq => steady transport (heq ▸ hop)
    rw [hd]
    exact (ordinary_foldl created hall).1.atRest
  | forge beset e forged counted ih =>
    have h := ih ordinary steady
    rw [(beset.ignores created ordinary forged).counted]
    exact h.trans ((Alike.refl h.symm.steady).withSession
      (Session.Alike.countReceived _ e).symm)

end Beset

/-- **Replies cannot be forged, and genuine ones are not missed.** Whatever modules a
client has and whatever it went through, an element resolves the one request it
answers, if there is one. With the built-in modules a reply that answers none is at
most counted. So forgeries between the operations of a client, however many, do not
change which requests wait and which elements resolve them, unless they are counted and
a transport cares how many elements it is given. -/
theorem unforgeable {config : Config} {catalogue : Catalogue} :
    (∀ {given registered : List Request} {c : Client},
        Run (blank config catalogue) given registered c → c.Discerns)
      ∧ ∀ {c₀ : Client} {ops : List Operation}, create config catalogue [] = .ok c₀ →
        (∀ op ∈ ops, op.Ordinary) →
          (∀ e : Element, (ops.foldl Client.operate c₀).session.registry.Rejects e →
            (ops.foldl Client.operate c₀).Ignores e)
          ∧ ∀ (noticed : Bool) (d : Client), Beset noticed c₀ ops d →
            (noticed = true → ∀ transport, .connected transport ∈ ops → transport.Steady) →
              (ops.foldl Client.operate c₀).Unswayed d := by
  refine ⟨fun run => run.discerns, fun {c₀ ops} created ordinary => ⟨fun e forged => ?_,
    fun noticed d beset steady => ?_⟩⟩
  · obtain ⟨stock, given, registered, kept⟩ := ordinary_foldl created ordinary
    exact ignores_forgery stock.fitted stock.atRest kept forged
  · cases noticed with
    | true => exact (beset.alike created ordinary (steady rfl)).unswayed
    | false =>
      rw [beset.eq_of_unnoticed created ordinary]
      exact ⟨rfl, fun _ => rfl, rfl, rfl, rfl, rfl⟩

namespace Rehearsal

/-- Asking somebody something under this id. -/
def demands (peer : String) : Draft where
  stanza :=
    { name := "iq"
      ns := Namespace.client
      attributes := [("type", "get"), ("id", "x"), ("to", peer)] }

/-- Somebody's reply. -/
def replies (peer : String) : Element where
  name := "iq"
  ns := Namespace.client
  attributes := [("type", "result"), ("id", "x"), ("from", peer)]

/-- Somebody is asked in a session that counts. -/
def inquires : List Operation :=
  [.connected {}, .receive enables, .send (demands "romeo@montague.lit"), .tick 0]

/-- A transport that takes two more elements and then breaks down. -/
def frail : Transport where
  refuses := Transport.limited (some 2) (some ⟨.brokenPipe, "broken pipe"⟩)

/-- Reports are seen to, and somebody else is asked under the same id. -/
def asksElsewhere : List Operation :=
  [.tick 0, .send (demands "benvolio@montague.lit")]

/-- The client of the account with the built-in modules. -/
def furnished : Client :=
  (blank account []).operate (.install (ModuleId.builtIn.map (Descriptor.default [])))

/-- All these operations are ordinary. -/
theorem ordinary_rehearsed :
    ∀ op ∈ inquires ++ .connected frail :: asksElsewhere, op.Ordinary := by
  have hsend : ∀ peer : String, (Operation.send (demands peer)).Ordinary := fun peer =>
    ⟨rfl, fun _ => trivial, fun usual now drawn => ⟨demands peer, usual, now, drawn, rfl⟩⟩
  have hall : (inquires ++ .connected frail :: asksElsewhere).Forall Operation.Ordinary :=
    ⟨.of_isBare rfl rfl, .of_isBare rfl rfl, hsend _, .of_isBare rfl rfl, .of_isBare rfl rfl,
      .of_isBare rfl rfl, hsend _⟩
  exact List.forall_iff_forall_mem.1 hall

/-- What anybody sends here is a reply. -/
theorem isReply_replies (peer : String) : (replies peer).IsReply :=
  ⟨rfl, .inl rfl⟩

end Rehearsal

open Rehearsal

/-- In the rehearsal somebody replies in place of who was asked, twice, and the client
does not care: the request is still there, until who was asked replies. -/
theorem unforgeable_rehearsal :
    ∃ d : Client, create account [] [] = .ok furnished ∧ (∀ op ∈ inquires, op.Ordinary)
      ∧ Beset true furnished inquires d
      ∧ (inquires.foldl Client.operate furnished).Discerns
      ∧ (inquires.foldl Client.operate furnished).Ignores (replies "tybalt@capulet.lit")
      ∧ (inquires.foldl Client.operate furnished).Unswayed d
      ∧ d.session.registry.requests.map (·.key) = [⟨"iq", "x"⟩]
      ∧ (d.take (replies "romeo@montague.lit")).registry.requests.length = 0 := by
  have created : create account [] [] = .ok furnished := create_account
  have ordinary : ∀ op ∈ inquires, op.Ordinary := fun op hop =>
    ordinary_rehearsed op (List.mem_append_left _ hop)
  have steady : ∀ transport, Operation.connected transport ∈ inquires → transport.Steady := by
    intro transport hop
    rcases List.mem_cons.1 hop with hop | hop
    · obtain rfl := Operation.connected.inj hop
      exact fun _ _ => rfl
    · simp at hop
  have asked : Beset true furnished
      [.connected {}, .receive enables, .send (demands "romeo@montague.lit")] _ :=
    Beset.start.operations _
  have ordinary' : ∀ op ∈ [Operation.connected {}, .receive enables,
      .send (demands "romeo@montague.lit")], op.Ordinary := fun op hop =>
    ordinary op (List.mem_append_left [Operation.tick 0] hop)
  have once := asked.forge (replies "tybalt@capulet.lit")
    (asked.rejects created ordinary' (isReply_replies _) (by decide +kernel)) (.inl rfl)
  have twice := once.forge (replies "tybalt@capulet.lit")
    (once.rejects created ordinary' (isReply_replies _) (by decide +kernel)) (.inl rfl)
  have beset : Beset true furnished inquires _ := twice.operations [.tick 0]
  have left : Beset true furnished inquires (inquires.foldl Client.operate furnished) :=
    Beset.start.operations inquires
  have forged := left.rejects created ordinary (isReply_replies "tybalt@capulet.lit")
    (by decide +kernel)
  obtain ⟨given, registered, run⟩ := Run.of_create created
  obtain ⟨given', registered', run'⟩ := run.exists_foldl_operate (atRest_blank _ _) inquires
    fun op hop => (ordinary op hop).sound
  obtain ⟨discerns, spec⟩ := @unforgeable account []
  obtain ⟨ignores, unswayed⟩ := spec created ordinary
  exact ⟨_, created, ordinary, beset, discerns run', ignores _ forged,
    unswayed true _ beset fun _ => steady, by decide +kernel, by decide +kernel⟩

/-- **A transport that counts can be swayed.** A forgery gives the client something new
to report. On a transport about to break down this takes the place of another
element: a request that would have superseded the first one under its id is not sent,
and the first one is resolved after all. -/
theorem not_forall_unswayed :
    ¬ ∀ (ops : List Operation) (d : Client), (∀ op ∈ ops, op.Ordinary) →
      Beset true furnished ops d → (ops.foldl Client.operate furnished).Unswayed d := by
  intro h
  have created : create account [] [] = .ok furnished := create_account
  have waiting : Beset true furnished (inquires ++ [.connected frail]) _ :=
    Beset.start.operations _
  have forged := waiting.forge (replies "tybalt@capulet.lit")
    (waiting.rejects created (fun op hop => ordinary_rehearsed op
      (List.mem_append_left asksElsewhere hop)) (isReply_replies _) (by decide +kernel))
    (.inl rfl)
  have unswayed := h _ _ ordinary_rehearsed (forged.operations asksElsewhere)
  have hresolved := congrArg (·.requests.length) (unswayed.resolved (replies "romeo@montague.lit"))
  revert hresolved
  decide +kernel

end Client

end Xmpp
