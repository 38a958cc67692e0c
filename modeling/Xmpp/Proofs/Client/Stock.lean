import Xmpp.Proofs.Client.Greeting
import Xmpp.Proofs.Module.Batches

/-!
# Clients with the built-in modules alone

Which modules get an element is decided by the slots of the registry, and what
they do with it by who is in them. For a client that was created without
modules of the application and never installed any, both are known: the slots
are those of the built-in modules (`Stock.fitted`), in the order their needs
leave, and the built-in modules do not look at the tag of their instance.

So such a client routes an element by its identities alone
(`Fitted.route_eq`). An `iq` concerns at most two of them, and two only if it
carries children in both their namespaces (`concerned_iq`).
-/

namespace Xmpp

namespace ModuleId

/-- The built-in modules in the order in which they are installed. -/
def arranged : List ModuleId :=
  [.streamFeatures, .streamError, .sasl, .bind, .sasl2, .registration, .streamManagement,
   .presence, .message, .roster, .disco]

/-- Whether an element concerns a module: it is one of those it handles. -/
def concerns (id : ModuleId) (e : Element) : Bool :=
  id.facts.criterion.any (·.selects e)

/-- The built-in modules an element concerns, in the order in which they get
it. -/
def concerned (e : Element) : List ModuleId :=
  arranged.filter (·.concerns e)

end ModuleId

namespace ModuleId

/-- A stanza with a child in a namespace is looked for by name, namespace and
child. -/
theorem selects_stanzaWith (name ns : String) (e : Element) :
    (Criterion.stanzaWith name ns).selects e
      = (e.is name Namespace.client && e.children.any (·.ns == ns)) := by
  simp [Criterion.stanzaWith, Criterion.selects, Criterion.chainSelects]

/-- **An `iq` concerns few modules**: the roster and discovery by its children,
or one of those that are meant for other elements by its namespace. -/
theorem concerned_iq {e : Element} (he : e.name = "iq") :
    concerned e
      = if e.ns = Namespace.client then
          (if e.children.any (·.ns == Namespace.roster) then [.roster] else [])
            ++ (if e.children.any (·.ns == Namespace.discoInfo) then [.disco] else [])
        else if e.ns = Namespace.sasl then [.sasl]
        else if e.ns = Namespace.sasl2 then [.sasl2]
        else if e.ns = Namespace.streamManagement then [.streamManagement]
        else [] := by
  have hroster : concerns .roster e
      = (e.ns == Namespace.client && e.children.any (·.ns == Namespace.roster)) := by
    simp [concerns, facts, selects_stanzaWith, Element.is, he]
  have hdisco : concerns .disco e
      = (e.ns == Namespace.client && e.children.any (·.ns == Namespace.discoInfo)) := by
    simp [concerns, facts, selects_stanzaWith, Element.is, he]
  obtain ⟨hsasl, hsasl2, hmanagement⟩ : concerns .sasl e = (e.ns == Namespace.sasl)
      ∧ concerns .sasl2 e = (e.ns == Namespace.sasl2)
      ∧ concerns .streamManagement e = (e.ns == Namespace.streamManagement) := by
    simp [concerns, facts, Criterion.selects]
  -- the others go by other names, or handle nothing
  obtain ⟨hfeatures, herror, hpresence, hmessage, hbind, hregistration⟩ :
      concerns .streamFeatures e = false ∧ concerns .streamError e = false
        ∧ concerns .presence e = false ∧ concerns .message e = false
        ∧ concerns .bind e = false ∧ concerns .registration e = false := by
    simp [concerns, facts, Criterion.selects, Element.is, he]
  simp only [concerned, arranged, List.filter_cons, hroster, hdisco, hfeatures, herror, hpresence,
    hmessage, hbind, hregistration, hsasl, hsasl2, hmanagement, List.filter_nil,
    Bool.false_eq_true, if_false]
  by_cases hclient : e.ns = Namespace.client
  · rw [if_pos hclient]
    simp only [hclient]
    cases e.children.any (·.ns == Namespace.roster) <;>
      cases e.children.any (·.ns == Namespace.discoInfo) <;> rfl
  rw [if_neg hclient]
  by_cases hns : e.ns = Namespace.sasl
  · simp only [hns]
    rfl
  by_cases hns2 : e.ns = Namespace.sasl2
  · simp only [hns2]
    rfl
  by_cases hmanages : e.ns = Namespace.streamManagement
  · simp only [hmanages]
    rfl
  · simp [hclient, hns, hns2, hmanages]

end ModuleId

/-- Placing looks at the needs of the nodes that wait, and of no others. -/
theorem Order.place_congr {α : Type} [DecidableEq α] {needs needs' : α → List α} (count : Nat)
    (placed : List α) {waiting : List α} (h : ∀ a ∈ waiting, needs a = needs' a) :
    place needs count placed waiting = place needs' count placed waiting := by
  induction count generalizing placed waiting with
  | zero => rfl
  | succ count ih =>
    have hfind : waiting.find? (fun node => outstanding needs placed node == 0)
        = waiting.find? fun node => outstanding needs' placed node == 0 := by
      refine List.find?_congr fun a ha => ?_
      rw [outstanding, outstanding, h a ha]
    rw [place, place, hfind]
    cases waiting.find? fun node => outstanding needs' placed node == 0 with
    | none => rfl
    | some node => exact ih _ fun a ha => h a (List.mem_of_mem_erase ha)

/-- A catalogue is about modules of the application only. -/
theorem Catalogue.facts_of_mem (catalogue : Catalogue) {id : ModuleId}
    (h : id ∈ ModuleId.builtIn) : catalogue.facts id = id.facts := by
  cases id with
  | extra name => exact absurd h (by simp [ModuleId.builtIn])
  | _ => rfl

namespace Descriptor

/-- If a batch consists of defaults, each module needs what it needs by
default. -/
theorem needs_defaults (catalogue : Catalogue) (ids : List ModuleId) (id : ModuleId) :
    needs catalogue (ids.map (default catalogue)) id = (catalogue.facts id).requires := by
  obtain ⟨hid, hprevails⟩ : (select catalogue (ids.map (default catalogue)) id).id = id
      ∧ Prevails catalogue (ids.map (default catalogue))
        (select catalogue (ids.map (default catalogue)) id) := select_prevails id
  have hdefault : select catalogue (ids.map (default catalogue)) id = default catalogue id := by
    rcases hprevails with ⟨front, back, hsplit, -⟩ | ⟨-, hdefault⟩
    · have hmem : ∀ d, ids.map (default catalogue) = front ++ d :: back →
          d ∈ ids.map (default catalogue) := fun d h => by
        rw [h]
        exact List.mem_append_right front List.mem_cons_self
      obtain ⟨other, -, hother⟩ := List.mem_map.1 (hmem _ hsplit)
      rw [← hother] at hid ⊢
      rw [show other = id from hid]
    · rw [hdefault, hid]
  rw [needs, hdefault]
  rfl

/-- The built-in modules are put in their order whatever else there is. -/
theorem resolve_builtIn (catalogue : Catalogue) :
    ∃ order, resolve catalogue (ModuleId.builtIn.map (default catalogue)) [] = .ok order
      ∧ order.map (·.id) = ModuleId.arranged := by
  set batch := ModuleId.builtIn.map (default catalogue) with hbatch
  have hids : batch.map (·.id) = ModuleId.builtIn := by rfl
  have hneeds : ∀ id ∈ ModuleId.builtIn, needs catalogue batch id = id.facts.requires := by
    intro id hid
    rw [needs_defaults, catalogue.facts_of_mem hid]
  -- nothing is drawn in, since the modules need nothing but one another
  set nodes := Order.nodes (needs catalogue batch)
    (batch.flatMap (·.requires) ++ catalogue.needed) [] (batch.map (·.id)) with hnodes
  have hdrawn : ∀ id, ∀ b ∈ needs catalogue batch id,
      b ∈ batch.flatMap (·.requires) ++ catalogue.needed := needs_subset
  have hfound := Order.breadthFirst_nodes hdrawn [] (batch.map (·.id))
  rw [← hnodes, hids, show Order.fresh [] ModuleId.builtIn = ModuleId.builtIn by decide] at hfound
  have hall : nodes = ModuleId.builtIn := by
    have hsubset : nodes ⊆ ModuleId.builtIn := fun id hid => by
      rcases hfound.reached hid with hid | ⟨a, ha, hpath⟩
      · exact hid
      · clear hid
        induction hpath with
        | single hab =>
          rw [hneeds a ha] at hab
          exact ModuleId.requires_subset_builtIn a _ hab.1
        | tail _ hbc ih =>
          rw [hneeds _ ih] at hbc
          exact ModuleId.requires_subset_builtIn _ _ hbc.1
    have hnodup : nodes.Nodup := hfound.nodup (by decide)
    exact (hfound.isPrefix.eq_of_length_le (hnodup.subperm hsubset).length_le).symm
  have harrange : Order.arrange (needs catalogue batch) nodes = .ok ModuleId.arranged := by
    have hcongr : Order.place (Order.needsAmong (needs catalogue batch) ModuleId.builtIn)
          ModuleId.builtIn.length [] ModuleId.builtIn
        = Order.place (Order.needsAmong (fun id => id.facts.requires) ModuleId.builtIn)
          ModuleId.builtIn.length [] ModuleId.builtIn := by
      refine Order.place_congr _ _ fun id hid => ?_
      rw [Order.needsAmong, Order.needsAmong, hneeds id hid]
    have hplace : Order.place (Order.needsAmong (fun id => id.facts.requires) ModuleId.builtIn)
        ModuleId.builtIn.length [] ModuleId.builtIn = (ModuleId.arranged, []) := by
      decide +kernel
    rw [hall, Order.arrange, hcongr, hplace]
  refine ⟨ModuleId.arranged.map (select catalogue batch), ?_, ?_⟩
  · rw [resolve_eq, ← hnodes, harrange]
  · exact map_id_select _

end Descriptor

namespace Modules

/-- **Modules fitted out** with the built-in ones and no other: there is a slot
for each in its order, and someone in it. -/
structure Fitted (m : Modules) : Prop where
  /-- The slots are those of the built-in modules. -/
  slots : m.slots.map (fun slot => (slot.id, slot.criterion))
    = ModuleId.arranged.map fun id => (id, id.facts.criterion)
  /-- No slot is vacant. -/
  occupied : ∀ slot ∈ m.slots, slot.occupant.isSome

/-- Installing the built-in modules makes them fitted. -/
theorem fitted_after (s : Session) :
    ((Modules.mk []).after
      ⟨s, ModuleId.builtIn.map (Descriptor.default s.catalogue)⟩).Fitted := by
  set round : Round := ⟨s, ModuleId.builtIn.map (Descriptor.default s.catalogue)⟩
  have hwhole := (wellFormed_empty.after round).whole
  obtain ⟨order, hresolve, hids⟩ : ∃ order, Descriptor.resolve round.session.catalogue round.batch
      (Modules.mk []).ids = .ok order ∧ order.map (·.id) = ModuleId.arranged :=
    Descriptor.resolve_builtIn s.catalogue
  have hfits : Descriptor.Fits [] order := by
    rcases Descriptor.resolve_cases round.session.catalogue round.batch (Modules.mk []).ids with
      ⟨-, order', hresolve', hfits, -, -⟩ | ⟨-, stuck, hresolve'⟩
    · rw [hresolve] at hresolve'
      rwa [Except.ok.inj hresolve']
    · rw [hresolve] at hresolve'
      cases hresolve'
  obtain ⟨hslots, -⟩ := wellFormed_empty.whole.after_of_fits hresolve hfits
  refine ⟨?_, hwhole.occupied⟩
  rw [hslots, counted, List.map_append, List.map_map, List.map_map, ← hids, List.map_map]
  refine List.map_congr_left fun d hd => ?_
  have hd : d.id ∈ ModuleId.builtIn := by
    have hd : d.id ∈ ModuleId.arranged := hids ▸ List.mem_map.2 ⟨d, hd, rfl⟩
    revert hd
    generalize d.id = id
    exact fun h => (by decide : ∀ id ∈ ModuleId.arranged, id ∈ ModuleId.builtIn) id h
  show (d.id, (s.catalogue.facts d.id).criterion) = (d.id, d.id.facts.criterion)
  rw [s.catalogue.facts_of_mem hd]

namespace Fitted

variable {m : Modules} (h : m.Fitted) {slot : Slot}

include h

/-- Each slot is that of a built-in module. -/
theorem mem_arranged (hslot : slot ∈ m.slots) :
    slot.id ∈ ModuleId.arranged ∧ slot.criterion = slot.id.facts.criterion := by
  have hmem : (slot.id, slot.criterion) ∈ m.slots.map fun slot => (slot.id, slot.criterion) :=
    List.mem_map.2 ⟨slot, hslot, rfl⟩
  rw [h.slots] at hmem
  obtain ⟨id, hid, heq⟩ := List.mem_map.1 hmem
  obtain ⟨rfl, hcriterion⟩ := Prod.mk.inj heq
  exact ⟨hid, hcriterion.symm⟩

/-- An element gets to the modules it concerns, in their order. -/
theorem targets_eq (e : Element) : (m.targets e).map (·.id) = ModuleId.concerned e := by
  have hids : m.slots.map (·.id) = ModuleId.arranged := by
    have := congrArg (List.map Prod.fst) h.slots
    simpa [Function.comp_def] using this
  have hfilter : m.targets e = m.slots.filter fun slot => slot.id.concerns e := by
    refine List.filter_congr fun slot hslot => ?_
    rw [(h.mem_arranged hslot).2]
    rfl
  rw [hfilter, ModuleId.concerned, ← hids, List.filter_map]
  rfl

/-- A built-in module does the same whatever its instance is called. -/
theorem process_eq (hslot : slot ∈ m.slots) (s : Session) (e : Element) :
    Modules.process slot s e = s.handle slot.id none e := by
  obtain ⟨occupant, hoccupant⟩ := Option.isSome_iff_exists.1 (h.occupied slot hslot)
  have hid := (h.mem_arranged hslot).1
  rw [process, hoccupant]
  dsimp only
  generalize slot.id = id at hid ⊢
  cases id with
  | extra name => exact absurd hid (by simp [ModuleId.arranged])
  | _ => rfl

end Fitted

end Modules

namespace Client

/-- Handing an element to a built-in module. The sender learns of the first
error only. -/
def routeToBuiltIn (e : Element) (state : Session × Bool) (id : ModuleId) : Session × Bool :=
  match state.1.handle id none e with
  | (s, none) => (s, state.2)
  | (s, some error) =>
    if !state.2 && e.expectsReply then (s.write (e.refusal error.toStanzaError), true)
    else (s, state.2)

/-- **Fitted modules route by identities.** -/
theorem route_eq {c : Client} (h : c.modules.Fitted) (s : Session) (e : Element) :
    c.route s e
      = match ModuleId.concerned e with
        | [] => turnAway s e
        | ids => (ids.foldl (routeToBuiltIn e) (s, false)).1 := by
  have hstep : ∀ slot ∈ c.modules.slots, ∀ state : Session × Bool,
      routeTo e state slot = routeToBuiltIn e state slot.id := by
    rintro slot hslot ⟨t, replied⟩
    have hprocess := h.process_eq hslot t e
    unfold routeTo routeToBuiltIn
    dsimp only
    generalize Modules.process slot t e = handled at hprocess ⊢
    subst hprocess
    rcases t.handle slot.id none e with ⟨t', _ | error⟩
    · rfl
    · rfl
  have hfold : ∀ (slots : List Slot) (state : Session × Bool),
      (∀ slot ∈ slots, slot ∈ c.modules.slots) →
        slots.foldl (routeTo e) state = (slots.map (·.id)).foldl (routeToBuiltIn e) state := by
    intro slots state hmem
    rw [List.foldl_map]
    exact List.foldl_ext _ _ _ fun state slot hslot => hstep slot (hmem slot hslot) state
  have htargets := h.targets_eq e
  rw [route]
  cases hcase : c.modules.targets e with
  | nil =>
    rw [hcase] at htargets
    rw [← htargets]
    rfl
  | cons slot rest =>
    rw [hcase] at htargets
    have hall : ∀ other ∈ slot :: rest, other ∈ c.modules.slots := by
      rw [← hcase]
      exact fun other hother => List.mem_of_mem_filter hother
    rw [← htargets, List.map_cons]
    dsimp only
    rw [hfold _ _ hall, List.map_cons]

/-- **A client with the built-in modules alone**: it was created without others
and never installed any. -/
def Stock (c : Client) : Prop :=
  ∃ (config : Config) (catalogue : Catalogue) (c₀ : Client) (ops : List Operation),
    create config catalogue [] = .ok c₀ ∧ (∀ op ∈ ops, op.batch? = none)
      ∧ c = ops.foldl Client.operate c₀

namespace Stock

variable {c : Client}

/-- A client that was just created. -/
theorem of_create {config : Config} {catalogue : Catalogue}
    (h : create config catalogue [] = .ok c) : c.Stock :=
  ⟨config, catalogue, c, [], h, fun _ h => absurd h List.not_mem_nil, rfl⟩

theorem operate (h : c.Stock) {op : Operation} (hop : op.batch? = none) : (c.operate op).Stock := by
  obtain ⟨config, catalogue, c₀, ops, hcreate, hops, rfl⟩ := h
  refine ⟨config, catalogue, c₀, ops ++ [op], hcreate, fun other hmem => ?_,
    by rw [List.foldl_append]; rfl⟩
  rcases List.mem_append.1 hmem with hmem | hmem
  · exact hops other hmem
  · exact List.mem_singleton.1 hmem ▸ hop

theorem atRest (h : c.Stock) : c.AtRest := by
  obtain ⟨config, catalogue, c₀, ops, hcreate, hops, rfl⟩ := h
  rw [eq_of_create hcreate, List.append_nil]
  have start := (atRest_blank config catalogue).operate
    (.install (ModuleId.builtIn.map (Descriptor.default catalogue)))
  generalize (blank config catalogue).operate _ = c at start
  induction ops generalizing c with
  | nil => exact start
  | cons op rest ih =>
    exact ih (fun other hmem => hops other (List.mem_cons_of_mem op hmem)) _ (start.operate op)

/-- **Its modules are the built-in ones.** -/
theorem fitted (h : c.Stock) : c.modules.Fitted := by
  obtain ⟨config, catalogue, c₀, ops, hcreate, hops, rfl⟩ := h
  rw [eq_of_create hcreate, List.append_nil]
  have hblank := atRest_blank config catalogue
  set built := ModuleId.builtIn.map (Descriptor.default catalogue)
  obtain ⟨rounds, hbatches, hmodules⟩ := exists_rounds (hblank.operate (.install built)) ops
  have hnone : rounds = [] := by
    rw [List.filterMap_eq_nil_iff.2 hops, List.map_eq_nil_iff] at hbatches
    exact hbatches
  rw [hmodules, hnone, modules_operate hblank]
  exact Modules.fitted_after (blank config catalogue).session

end Stock

end Client

end Xmpp
