import Xmpp.Proofs.Client.Run
import Xmpp.Proofs.Module.Resolution

/-!
# Batch after batch

Modules are installed in batches, each in whatever session there is at the
time, and a batch may go wrong in two ways. It may ask for modules that need
one another in a circle; then nothing must come of it. Or the hook of one of
its modules may fail; then the batch ends half-way, with all its modules
registered and only some of them set up.

The registry itself remembers little of this: which modules there are, and
how often each was set up. What it has to be measured against are the
descriptors it was filled from and the calls of hooks that were made, so both
are computed here alongside. Setting modules up then comes down to counting:
whatever the hooks do, the registry afterwards is the one before with each
called module set up once more (`setUpAll_spec`). The rest is that a batch
registers and calls nothing that was there before.
-/

namespace Xmpp

open Relation

/-! ## Resolving, once more -/

namespace Descriptor

/-- One module draws in another: it needs it, and the other is not there. -/
def Draws (catalogue : Catalogue) (batch : List Descriptor) (installed : List ModuleId)
    (a b : ModuleId) : Prop :=
  b ∈ needs catalogue batch a ∧ b ∉ installed

/-- **A cyclic batch**: from one of the modules asked for, what they draw in
leads to a module that draws in itself. -/
def Cyclic (catalogue : Catalogue) (batch : List Descriptor) (installed : List ModuleId) : Prop :=
  ∃ a ∈ batch.map (·.id), a ∉ installed ∧
    ∃ b, ReflTransGen (Draws catalogue batch installed) a b
      ∧ TransGen (Draws catalogue batch installed) b b

/-- **Descriptors fit to be registered** after these modules: they are about
new modules, each about another, and what a module requires is there or
stands earlier. -/
structure Fits (installed : List ModuleId) (order : List Descriptor) : Prop where
  /-- No module occurs twice, in the order or among those installed. -/
  fresh : ∀ d ∈ order, d.id ∉ installed
  /-- Each module is registered once. -/
  distinct : (order.map (·.id)).Nodup
  /-- No module comes before one it requires. -/
  orderly : ∀ front d back, order = front ++ d :: back →
    ∀ b ∈ d.requires, b ∈ installed ++ front.map (·.id)

variable {catalogue : Catalogue} {batch : List Descriptor} {installed : List ModuleId}

section Nodes

variable {nodes order : List ModuleId}

/-- Among the nodes, requiring one another is drawing one another in. -/
theorem requires_iff_draws
    (closed : ∀ a ∈ nodes, ∀ b ∈ needs catalogue batch a, b ∈ installed ∨ b ∈ nodes)
    (apart : ∀ a ∈ nodes, a ∉ installed) {a b : ModuleId} :
    Order.Requires (needs catalogue batch) nodes a b
      ↔ a ∈ nodes ∧ Draws catalogue batch installed a b :=
  ⟨fun h => ⟨h.1, h.2.2, apart b h.2.1⟩,
    fun h => ⟨h.1, (closed a h.1 b h.2.1).resolve_left h.2.2, h.2.1⟩⟩

/-- **The nodes require one another in a circle** if and only if the batch is cyclic. -/
theorem circular_iff_cyclic
    (found : Order.BreadthFirst (needs catalogue batch) installed
      (Order.fresh installed (batch.map (·.id))) (Order.fresh installed (batch.map (·.id))) nodes)
    (closed : ∀ a ∈ nodes, ∀ b ∈ needs catalogue batch a, b ∈ installed ∨ b ∈ nodes)
    (apart : ∀ a ∈ nodes, a ∉ installed) :
    Order.Circular (needs catalogue batch) nodes ↔ Cyclic catalogue batch installed := by
  have hdraws : ∀ {a b}, TransGen (Order.Requires (needs catalogue batch) nodes) a b →
      TransGen (Draws catalogue batch installed) a b := by
    intro a b hab
    induction hab with
    | single hab => exact .single ((requires_iff_draws closed apart).1 hab).2
    | tail _ hbc ih => exact ih.tail ((requires_iff_draws closed apart).1 hbc).2
  -- what is drawn in from a node is a node, too
  have hround : ∀ a b, a ∈ nodes → TransGen (Draws catalogue batch installed) a b →
      b ∈ nodes ∧ TransGen (Order.Requires (needs catalogue batch) nodes) a b := by
    intro a b ha hab
    induction hab with
    | single hab =>
      have := (requires_iff_draws closed apart).2 ⟨ha, hab⟩
      exact ⟨this.2.1, .single this⟩
    | tail _ hbc ih =>
      have := (requires_iff_draws closed apart).2 ⟨ih.1, hbc⟩
      exact ⟨this.2.1, ih.2.tail this⟩
  constructor
  · rintro ⟨b, hb⟩
    obtain ⟨_, hbc, _⟩ := TransGen.head'_iff.1 hb
    obtain ⟨a, ha, hnew, hab⟩ := found.mem_iff.1 hbc.1
    exact ⟨a, ha, hnew, b, hab, hdraws hb⟩
  · rintro ⟨a, ha, hnew, b, hab, hb⟩
    exact ⟨b, (hround b b (found.mem_iff.2 ⟨a, ha, hnew, hab⟩) hb).2⟩

/-- A schedule is that of its descriptors. -/
theorem map_id_select (order : List ModuleId) :
    (order.map (select catalogue batch)).map (·.id) = order := by
  rw [List.map_map]
  exact List.map_id'' (fun id => (select_prevails id).1) order

/-- **A schedule of new modules is fit to be registered.** -/
theorem fits_of_firstSchedule (distinct : nodes.Nodup) (apart : ∀ a ∈ nodes, a ∉ installed)
    (first : Order.FirstSchedule (needs catalogue batch) installed nodes order) :
    Fits installed (order.map (select catalogue batch)) where
  fresh d hd := by
    obtain ⟨id, hid, rfl⟩ := List.mem_map.1 hd
    rw [(select_prevails id).1]
    exact apart id (first.perm.subset hid)
  distinct := by
    rw [map_id_select]
    exact first.perm.nodup_iff.2 distinct
  orderly front d back hsplit b hb := by
    have hd : d = select catalogue batch d.id := by
      have hmem : d ∈ order.map (select catalogue batch) := by simp [hsplit]
      obtain ⟨id, -, rfl⟩ := List.mem_map.1 hmem
      rw [(select_prevails id).1]
    have hplace : order = front.map (·.id) ++ d.id :: back.map (·.id) := by
      rw [← map_id_select order, hsplit, List.map_append, List.map_cons]
    refine List.mem_append.2 (Order.orderly_iff.1 first.orderly _ _ _ hplace b ?_)
    rwa [hd] at hb

end Nodes

/-- **A batch is refused if it is cyclic, and otherwise put in order.** -/
theorem resolve_cases (catalogue : Catalogue) (batch : List Descriptor)
    (installed : List ModuleId) :
    (¬ Cyclic catalogue batch installed ∧ ∃ order, resolve catalogue batch installed = .ok order
        ∧ Fits installed order
        ∧ (∀ d ∈ batch, d.id ∈ installed ++ order.map (·.id))
        ∧ ∀ d ∈ order, Prevails catalogue batch d)
      ∨ (Cyclic catalogue batch installed ∧
        ∃ stuck : List ModuleId, resolve catalogue batch installed
          = .error (.dependencyCycle (stuck.map ModuleId.name))) := by
  set nodes := Order.nodes (needs catalogue batch)
    (batch.flatMap (·.requires) ++ catalogue.needed) installed (batch.map (·.id)) with hnodes
  have hneeds : ∀ id, ∀ b ∈ needs catalogue batch id,
      b ∈ batch.flatMap (·.requires) ++ catalogue.needed := needs_subset
  have hfound := Order.breadthFirst_nodes hneeds installed (batch.map (·.id))
  rw [← hnodes] at hfound
  have distinct : nodes.Nodup := hfound.nodup (Order.nodup_fresh _ _)
  have closed : ∀ a ∈ nodes, ∀ b ∈ needs catalogue batch a, b ∈ installed ∨ b ∈ nodes :=
    hfound.closed fun a ha ha' => absurd ha ha'
  have apart : ∀ a ∈ nodes, a ∉ installed :=
    hfound.notMem_present fun a ha => (Order.mem_fresh.1 ha).2
  have hcyclic := circular_iff_cyclic hfound closed apart
  have hresolve := resolve_eq catalogue batch installed
  rw [← hnodes] at hresolve
  rcases Order.arrange_cases distinct closed apart with
    ⟨hfree, order, harrange, hfirst⟩ | ⟨hcircle, stuck, harrange, -⟩
  · refine .inl ⟨mt hcyclic.2 hfree, order.map (select catalogue batch),
      by rw [hresolve, harrange], fits_of_firstSchedule distinct apart hfirst, fun d hd => ?_,
      fun d hd => ?_⟩
    · rw [map_id_select]
      by_cases hin : d.id ∈ installed
      · exact List.mem_append_left _ hin
      · have hnode : d.id ∈ nodes :=
          hfound.mem_iff.2 ⟨d.id, List.mem_map.2 ⟨d, hd, rfl⟩, hin, .refl⟩
        exact List.mem_append_right _ (hfirst.perm.symm.subset hnode)
    · obtain ⟨id, -, rfl⟩ := List.mem_map.1 hd
      exact (select_prevails id).2
  · exact .inr ⟨hcyclic.1 hcircle, stuck, by rw [hresolve, harrange]⟩

/-- The slot a descriptor is registered in. -/
def slot (catalogue : Catalogue) (d : Descriptor) : Slot where
  id := d.id
  criterion := (catalogue.facts d.id).criterion
  features := (catalogue.facts d.id).features
  occupant := some { tag := d.tag }

end Descriptor

/-! ## Setting up -/

/-- **A call of a hook**: whose it is, and what it is given. -/
structure Call where
  /-- The module. -/
  id : ModuleId
  /-- The tag of its instance. -/
  tag : Option String
  /-- The modules it sees. -/
  seen : Modules

/-- **Calling hooks** one after another, up to the first that fails: what
becomes of the session, and the error if there is one. -/
inductive Session.Calls : Session → List Call → Session → Option Error → Prop
  /-- None is left. -/
  | done {s : Session} : Calls s [] s none
  /-- One succeeds. -/
  | next {s t u : Session} {call : Call} {rest : List Call} {error : Option Error}
      (h : s.setUp call.id call.tag call.seen = (t, none)) (hrest : Calls t rest u error) :
      Calls s (call :: rest) u error
  /-- One fails, and is the last. -/
  | failed {s t : Session} {call : Call} {error : Error}
      (h : s.setUp call.id call.tag call.seen = (t, some error)) : Calls s [call] t (some error)

namespace Modules

/-- The calls of hooks that setting up modules in order makes. -/
def calls (m : Modules) (s : Session) : List ModuleId → List Call
  | [] => []
  | id :: rest =>
    match m.occupant? id with
    | none => []
    | some occupant =>
      ⟨id, occupant.tag, m.occupy id none⟩
        :: match m.setUp s id with
          | (m, s, none) => m.calls s rest
          | (_, _, some _) => []

/-- **Counting set-ups**: each module was set up as many more times as it
occurs. -/
def counted (m : Modules) (called : List ModuleId) : Modules :=
  ⟨m.slots.map fun slot => { slot with
    occupant := slot.occupant.map fun occupant =>
      { occupant with timesSetUp := occupant.timesSetUp + called.count slot.id } }⟩

/-- Registering several modules. -/
def registerAll (m : Modules) (catalogue : Catalogue) (order : List Descriptor) : Modules :=
  order.foldl (fun m d => m.register catalogue d) m

variable {m : Modules} {s : Session} {slot : Slot} {occupant : Occupant} {id : ModuleId}
  {called called' : List ModuleId}

@[simp] theorem ids_counted : (m.counted called).ids = m.ids := by
  simp [counted, ids]

@[simp] theorem ids_occupy {place : Option Occupant} : (m.occupy id place).ids = m.ids := by
  simp only [occupy, ids, List.map_map]
  refine List.map_congr_left fun slot _ => ?_
  show (if slot.id = id then { slot with occupant := place } else slot).id = slot.id
  split
  · rfl
  · rfl

@[simp] theorem counted_nil : m.counted [] = m := by
  simp [counted]

theorem counted_counted : (m.counted called).counted called' = m.counted (called ++ called') := by
  simp [counted, Function.comp_def, Nat.add_assoc]

theorem slots_registerAll {catalogue : Catalogue} {order : List Descriptor} :
    (m.registerAll catalogue order).slots = m.slots ++ order.map (Descriptor.slot catalogue) := by
  induction order generalizing m with
  | nil => exact (List.append_nil _).symm
  | cons d rest ih =>
    show ((m.register catalogue d).registerAll catalogue rest).slots = _
    rw [ih]
    exact List.append_assoc ..

/-- Modules that have a slot each, with someone in it. -/
structure Whole (m : Modules) : Prop where
  /-- No module has two slots. -/
  distinct : m.ids.Nodup
  /-- No slot is vacant. -/
  occupied : ∀ slot ∈ m.slots, slot.occupant.isSome

/-- If no module has two slots, a module is found in its own. -/
theorem occupant?_of_mem (distinct : m.ids.Nodup) (h : slot ∈ m.slots) :
    m.occupant? slot.id = slot.occupant := by
  have hfind : m.slots.find? (·.id = slot.id) = some slot := by
    obtain ⟨front, back, hsplit⟩ := List.append_of_mem h
    refine List.find?_eq_some_iff_append.2 ⟨by simp, front, back, hsplit, fun other hother => ?_⟩
    rw [ids, hsplit, List.map_append, List.map_cons] at distinct
    have := (List.nodup_append.1 distinct).2.2 other.id (List.mem_map.2 ⟨other, hother, rfl⟩)
      slot.id List.mem_cons_self
    simpa using this
  rw [occupant?, hfind]
  rfl

/-- Putting a module back after its hook is counting one set-up of it. -/
theorem occupy_eq_counted (distinct : m.ids.Nodup) (h : m.occupant? id = some occupant) :
    m.occupy id (some { occupant with timesSetUp := occupant.timesSetUp + 1 })
      = m.counted [id] := by
  refine congrArg Modules.mk (List.map_congr_left fun slot hslot => ?_)
  show (if slot.id = id then _ else slot) = _
  by_cases hid : slot.id = id
  · rw [if_pos hid]
    rw [← hid, occupant?_of_mem distinct hslot] at h
    simp [h, hid]
  · rw [if_neg hid]
    have hcount : [id].count slot.id = 0 := by
      rw [List.count_eq_zero, List.mem_singleton]
      exact hid
    rw [hcount]
    simp

theorem Whole.counted (h : m.Whole) : (m.counted called).Whole where
  distinct := by
    rw [ids_counted]
    exact h.distinct
  occupied := by
    simpa [Modules.counted] using h.occupied

/-- A registered module is in its slot. -/
theorem Whole.exists_occupant (h : m.Whole) (hid : id ∈ m.ids) :
    ∃ occupant, m.occupant? id = some occupant := by
  obtain ⟨slot, hslot, rfl⟩ := List.mem_map.1 hid
  rw [occupant?_of_mem h.distinct hslot]
  exact Option.isSome_iff_exists.1 (h.occupied slot hslot)

/-- **Setting up modules counts the hooks called**, and does nothing else to
the modules. They are called in order up to the first that fails, and all
see the same modules registered. -/
theorem setUpAll_spec (h : m.Whole) (s : Session) (order : List ModuleId)
    (hids : ∀ id ∈ order, id ∈ m.ids) :
    (m.setUpAll s order).1 = m.counted ((m.calls s order).map (·.id))
      ∧ s.Calls (m.calls s order) (m.setUpAll s order).2.1 (m.setUpAll s order).2.2
      ∧ (m.calls s order).map (·.id) <+: order
      ∧ ((m.setUpAll s order).2.2 = none → (m.calls s order).map (·.id) = order)
      ∧ ∀ call ∈ m.calls s order, call.seen.ids = m.ids := by
  induction order generalizing m s with
  | nil => exact ⟨counted_nil.symm, .done, List.prefix_rfl, fun _ => rfl, by simp [calls]⟩
  | cons id rest ih =>
    obtain ⟨occupant, hoccupant⟩ := h.exists_occupant (hids id List.mem_cons_self)
    cases hhook : s.setUp id occupant.tag (m.occupy id none) with
    | mk t result =>
    have hsetUp : m.setUp s id = (m.counted [id], t, result) := by
      simp only [setUp, hoccupant, hhook, occupy_eq_counted h.distinct hoccupant]
    cases result with
    | some error =>
      have hcalls : m.calls s (id :: rest) = [⟨id, occupant.tag, m.occupy id none⟩] := by
        simp only [calls, hoccupant, hsetUp]
      have hall : m.setUpAll s (id :: rest) = (m.counted [id], t, some error) := by
        simp only [setUpAll, hsetUp]
      rw [hcalls, hall]
      exact ⟨rfl, .failed hhook, List.prefix_append [id] rest, fun h => (by cases h), by simp⟩
    | none =>
      have hcalls : m.calls s (id :: rest)
          = ⟨id, occupant.tag, m.occupy id none⟩ :: (m.counted [id]).calls t rest := by
        simp only [calls, hoccupant, hsetUp]
      have hall : m.setUpAll s (id :: rest) = (m.counted [id]).setUpAll t rest := by
        simp only [setUpAll, hsetUp]
      obtain ⟨hmodules, hrun, hinOrder, hcomplete, hseen⟩ := ih (m := m.counted [id])
        h.counted t fun a ha => by rw [ids_counted]; exact hids a (List.mem_cons_of_mem id ha)
      rw [hcalls, hall]
      refine ⟨?_, .next hhook hrun, ?_, fun hnone => ?_, ?_⟩
      · rw [hmodules, counted_counted, List.map_cons, List.singleton_append]
      · rw [List.map_cons]
        exact List.cons_prefix_cons.2 ⟨rfl, hinOrder⟩
      · rw [List.map_cons, hcomplete hnone]
      · intro call hcall
        rcases List.mem_cons.1 hcall with rfl | hcall
        · exact ids_occupy
        · rw [hseen call hcall, ids_counted]

end Modules

/-! ## One batch -/

/-- **A round**: a batch that is installed, and the session at that time. -/
structure Round where
  /-- The session. -/
  session : Session
  /-- The batch. -/
  batch : List Descriptor

namespace Modules

variable {m : Modules} {origins : List Descriptor} {called : List Call}

/-- The modules after a round. -/
def after (m : Modules) (round : Round) : Modules :=
  (m.install round.session round.batch).1

/-- The descriptors of the modules a round registers, in order. -/
def added (m : Modules) (round : Round) : List Descriptor :=
  match Descriptor.resolve round.session.catalogue round.batch m.ids with
  | .ok order => order
  | .error _ => []

/-- The calls of hooks a round makes, in order. -/
def hooks (m : Modules) (round : Round) : List Call :=
  (m.registerAll round.session.catalogue (m.added round)).calls round.session
    ((m.added round).map (·.id))

/-- **Well-formed modules**, measured against the descriptors they were
registered from and the calls of hooks that were made. -/
structure WellFormed (m : Modules) (origins : List Descriptor) (called : List Call) : Prop where
  /-- There is a slot for each descriptor, in order. -/
  matched : m.ids = origins.map (·.id)
  /-- No module has two slots. -/
  distinct : m.ids.Nodup
  /-- What a module requires stands earlier. -/
  orderly : ∀ front d back, origins = front ++ d :: back →
    ∀ b ∈ d.requires, b ∈ front.map (·.id)
  /-- No slot is vacant: each is held by the instance of its descriptor, which
  was set up as often as its hook was called. -/
  held : m.slots.map (·.occupant) = origins.map fun d =>
    some { tag := d.tag, timesSetUp := (called.map (·.id)).count d.id }
  /-- No hook was called twice, and they were called in the order of the
  slots. -/
  once : (called.map (·.id)).Sublist m.ids

theorem WellFormed.whole (h : m.WellFormed origins called) : m.Whole where
  distinct := h.distinct
  occupied := by
    intro slot hslot
    have hmem : slot.occupant ∈ m.slots.map (·.occupant) := List.mem_map.2 ⟨slot, hslot, rfl⟩
    rw [h.held] at hmem
    obtain ⟨d, -, hd⟩ := List.mem_map.1 hmem
    rw [← hd]
    rfl

/-- **What one round does.** A cyclic batch changes nothing and calls nobody.
Any other registers what was asked for, by the descriptors that count, behind
the modules that were there, which stay as they are, and then calls the hooks
of the new modules in their order up to the first that fails; all of them see
all modules of the batch. -/
structure Installs (m : Modules) (round : Round) : Prop where
  /-- A cyclic batch changes nothing. -/
  cyclic : Descriptor.Cyclic round.session.catalogue round.batch m.ids →
    (∃ stuck : List ModuleId, m.install round.session round.batch = (m, round.session,
        some (.configuration (.dependencyCycle (stuck.map ModuleId.name)))))
      ∧ m.added round = [] ∧ m.hooks round = []
  /-- Any other batch is registered as a whole. -/
  registered : ¬ Descriptor.Cyclic round.session.catalogue round.batch m.ids →
    (∀ d ∈ round.batch, d.id ∈ (m.after round).ids)
      ∧ (∀ d ∈ m.added round, Descriptor.Prevails round.session.catalogue round.batch d)
      ∧ round.session.Calls (m.hooks round) (m.install round.session round.batch).2.1
        (m.install round.session round.batch).2.2
      ∧ ((m.install round.session round.batch).2.2 = none →
        (m.hooks round).map (·.id) = (m.added round).map (·.id))
  /-- The modules there were keep their slots. -/
  keeps : m.slots <+: (m.after round).slots
  /-- The new modules come behind them. -/
  appends : (m.after round).ids = m.ids ++ (m.added round).map (·.id)
  /-- The hooks of the new modules are called in the order of their slots. -/
  inOrder : (m.hooks round).map (·.id) <+: (m.added round).map (·.id)
  /-- When a hook is called, all modules of the batch are registered. -/
  sees : ∀ call ∈ m.hooks round, call.seen.ids = (m.after round).ids

/-- Set-ups of other modules leave slots as they are. -/
theorem slots_counted_of_notMem {slots : List Slot} {ids : List ModuleId}
    (h : ∀ slot ∈ slots, slot.id ∉ ids) : (Modules.counted ⟨slots⟩ ids).slots = slots := by
  refine (List.map_congr_left fun slot hslot => ?_).trans (List.map_id slots)
  rw [List.count_eq_zero.2 (h slot hslot)]
  simp

variable {round : Round} {order : List Descriptor}

theorem ids_registerAll {catalogue : Catalogue} :
    (m.registerAll catalogue order).ids = m.ids ++ order.map (·.id) := by
  rw [ids, slots_registerAll, List.map_append, List.map_map]
  rfl

/-- Registering what is fit to be registered leaves no slot without its module. -/
theorem Whole.registerAll {catalogue : Catalogue} (h : m.Whole)
    (hfits : Descriptor.Fits m.ids order) : (m.registerAll catalogue order).Whole := by
  refine ⟨?_, fun slot hslot => ?_⟩
  · rw [ids_registerAll]
    refine h.distinct.append hfits.distinct fun id hid hnew => ?_
    obtain ⟨d, hd, rfl⟩ := List.mem_map.1 hnew
    exact hfits.fresh d hd hid
  · rw [slots_registerAll] at hslot
    rcases List.mem_append.1 hslot with hslot | hslot
    · exact h.occupied slot hslot
    · obtain ⟨d, -, rfl⟩ := List.mem_map.1 hslot
      rfl

/-- **What becomes of a batch that is put in order**: the slots there were stay
as they are, and the new ones behind them count the hooks called. -/
theorem Whole.after_of_fits (h : m.Whole)
    (hresolve : Descriptor.resolve round.session.catalogue round.batch m.ids = .ok order)
    (hfits : Descriptor.Fits m.ids order) :
    (m.after round).slots = m.slots
        ++ (Modules.counted ⟨order.map (Descriptor.slot round.session.catalogue)⟩
          ((m.hooks round).map (·.id))).slots
      ∧ (m.after round).ids = m.ids ++ order.map (·.id)
      ∧ (m.after round).ids.Nodup
      ∧ round.session.Calls (m.hooks round) (m.install round.session round.batch).2.1
        (m.install round.session round.batch).2.2
      ∧ (m.hooks round).map (·.id) <+: order.map (·.id)
      ∧ ((m.install round.session round.batch).2.2 = none →
        (m.hooks round).map (·.id) = order.map (·.id))
      ∧ ∀ call ∈ m.hooks round, call.seen.ids = (m.after round).ids := by
  set all := m.registerAll round.session.catalogue order with hall
  have hslots : all.slots = m.slots ++ order.map (Descriptor.slot round.session.catalogue) :=
    slots_registerAll
  have hids : all.ids = m.ids ++ order.map (·.id) := ids_registerAll
  have hwhole : all.Whole := h.registerAll hfits
  have hinstall : m.install round.session round.batch
      = all.setUpAll round.session (order.map (·.id)) := by
    rw [install, hresolve]
    rfl
  have hhooks : m.hooks round = all.calls round.session (order.map (·.id)) := by
    rw [hooks, added, hresolve]
  obtain ⟨hmodules, hcalls, hinOrder, hcomplete, hseen⟩ :=
    setUpAll_spec hwhole round.session (order.map (·.id)) fun id hid => by
      rw [hids]
      exact List.mem_append_right _ hid
  rw [← hhooks] at hmodules hcalls hinOrder hcomplete hseen
  rw [← hinstall] at hmodules hcalls hcomplete
  have hafterIds : (m.after round).ids = all.ids := by rw [after, hmodules, ids_counted]
  refine ⟨?_, hafterIds.trans hids, hafterIds ▸ hwhole.distinct, hcalls, hinOrder, hcomplete,
    fun call hcall => (hseen call hcall).trans hafterIds.symm⟩
  -- the hooks called are those of new modules, so the old slots stay as they are
  have hold : (Modules.counted ⟨m.slots⟩ ((m.hooks round).map (·.id))).slots = m.slots := by
    refine slots_counted_of_notMem fun slot hslot hid => ?_
    obtain ⟨d, hd, hsame⟩ := List.mem_map.1 (hinOrder.subset hid)
    exact hfits.fresh d hd (List.mem_map.2 ⟨slot, hslot, hsame.symm⟩)
  have happend : (all.counted ((m.hooks round).map (·.id))).slots
      = (Modules.counted ⟨m.slots⟩ ((m.hooks round).map (·.id))).slots
        ++ (Modules.counted ⟨order.map (Descriptor.slot round.session.catalogue)⟩
          ((m.hooks round).map (·.id))).slots := by
    simp only [Modules.counted, hslots, List.map_append]
  rw [after, hmodules, happend, hold]

/-- What becomes of a cyclic batch. -/
theorem install_of_cyclic {stuck : List ModuleId}
    (hresolve : Descriptor.resolve round.session.catalogue round.batch m.ids
      = .error (.dependencyCycle (stuck.map ModuleId.name))) :
    m.install round.session round.batch = (m, round.session,
        some (.configuration (.dependencyCycle (stuck.map ModuleId.name))))
      ∧ m.added round = [] ∧ m.hooks round = [] := by
  have hadded : m.added round = [] := by rw [added, hresolve]
  refine ⟨by rw [install, hresolve], hadded, ?_⟩
  rw [hooks, hadded]
  rfl

/-- **One round from well-formed modules does what it should.** -/
theorem WellFormed.installs (h : m.WellFormed origins called) (round : Round) :
    m.Installs round := by
  rcases Descriptor.resolve_cases round.session.catalogue round.batch m.ids with
    ⟨hfree, order, hresolve, hfits, hasked, hprevails⟩ | ⟨hcyclic, stuck, hresolve⟩
  · have hadded : m.added round = order := by rw [added, hresolve]
    obtain ⟨hslots, hids, -, hcalls, hinOrder, hcomplete, hseen⟩ :=
      h.whole.after_of_fits hresolve hfits
    subst hadded
    refine ⟨fun hc => absurd hc hfree, fun _ => ⟨fun d hd => ?_, hprevails, hcalls, hcomplete⟩,
      ?_, hids, hinOrder, hseen⟩
    · rw [hids]
      exact hasked d hd
    · rw [hslots]
      exact List.prefix_append _ _
  · obtain ⟨hinstall, hadded, hhooks⟩ := install_of_cyclic hresolve
    have hafter : m.after round = m := by rw [after, hinstall]
    refine ⟨fun _ => ⟨⟨stuck, hinstall⟩, hadded, hhooks⟩, fun hfree => absurd hcyclic hfree,
      ?_, ?_, ?_, ?_⟩
    · rw [hafter]
    · rw [hafter, hadded]
      exact (List.append_nil _).symm
    · rw [hhooks]
      exact List.nil_prefix
    · simp [hhooks]

/-- What was registered in order stays so when more is put behind it. -/
theorem WellFormed.orderly_append (h : m.WellFormed origins called)
    (hfits : Descriptor.Fits m.ids order) :
    ∀ front d back, origins ++ order = front ++ d :: back →
      ∀ b ∈ d.requires, b ∈ front.map (·.id) := by
  intro front d back hsplit b hb
  rcases List.append_eq_append_iff.1 hsplit with ⟨new, rfl, hnew⟩ | ⟨old, hold, hrest⟩
  · have := hfits.orderly new d back hnew b hb
    rwa [h.matched, ← List.map_append] at this
  · cases old with
    | nil =>
      rw [List.append_nil] at hold
      have := hfits.orderly [] d back hrest.symm b hb
      rwa [List.map_nil, List.append_nil, h.matched, hold] at this
    | cons c old =>
      obtain ⟨rfl, rfl⟩ := List.cons.inj hrest
      exact h.orderly front d old hold b hb

/-- **One round from well-formed modules leaves well-formed modules behind.** -/
theorem WellFormed.after (h : m.WellFormed origins called) (round : Round) :
    (m.after round).WellFormed (origins ++ m.added round) (called ++ m.hooks round) := by
  rcases Descriptor.resolve_cases round.session.catalogue round.batch m.ids with
    ⟨-, order, hresolve, hfits, -, -⟩ | ⟨-, stuck, hresolve⟩
  · have hadded : m.added round = order := by rw [added, hresolve]
    obtain ⟨hslots, hids, hdistinct, -, hinOrder, -, -⟩ := h.whole.after_of_fits hresolve hfits
    subst hadded
    refine ⟨?_, hdistinct, h.orderly_append hfits, ?_, ?_⟩
    · rw [hids, h.matched, List.map_append]
    · -- old and new modules share no hook, so either half counts its own calls
      have hfirst : ∀ d ∈ origins, ((m.hooks round).map (·.id)).count d.id = 0 := by
        refine fun d hd => List.count_eq_zero.2 fun hid => ?_
        obtain ⟨new, hnew, hsame⟩ := List.mem_map.1 (hinOrder.subset hid)
        refine hfits.fresh new hnew ?_
        rw [hsame, h.matched]
        exact List.mem_map.2 ⟨d, hd, rfl⟩
      have hsecond : ∀ d ∈ m.added round, (called.map (·.id)).count d.id = 0 :=
        fun d hd => List.count_eq_zero.2 fun hid => hfits.fresh d hd (h.once.subset hid)
      rw [hslots, List.map_append, List.map_append, h.held, counted, List.map_map, List.map_map]
      refine congrArg₂ (· ++ ·) (List.map_congr_left fun d hd => ?_)
        (List.map_congr_left fun d hd => ?_)
      · rw [List.map_append, List.count_append, hfirst d hd, Nat.add_zero]
      · rw [List.map_append, List.count_append, hsecond d hd]
        simp [Descriptor.slot]
    · rw [hids, List.map_append]
      exact h.once.append hinOrder.sublist
  · obtain ⟨hinstall, hadded, hhooks⟩ := install_of_cyclic hresolve
    rw [Modules.after, hinstall, hadded, hhooks, List.append_nil, List.append_nil]
    exact h

/-! ## All of them -/

/-- The modules after several rounds. -/
def afterAll (m : Modules) (rounds : List Round) : Modules :=
  rounds.foldl after m

/-- The descriptors of the modules that several rounds register. -/
def addedAll (m : Modules) : List Round → List Descriptor
  | [] => []
  | round :: rest => m.added round ++ (m.after round).addedAll rest

/-- The calls of hooks that several rounds make. -/
def hooksAll (m : Modules) : List Round → List Call
  | [] => []
  | round :: rest => m.hooks round ++ (m.after round).hooksAll rest

theorem afterAll_append {earlier later : List Round} :
    m.afterAll (earlier ++ later) = (m.afterAll earlier).afterAll later :=
  List.foldl_append

/-- Modules that nobody installed are well-formed. -/
theorem wellFormed_empty : WellFormed {} [] [] where
  matched := rfl
  distinct := List.nodup_nil
  orderly := by simp
  held := rfl
  once := .slnil

/-- **Round after round the modules stay well-formed.** -/
theorem WellFormed.afterAll (h : m.WellFormed origins called) (rounds : List Round) :
    (m.afterAll rounds).WellFormed (origins ++ m.addedAll rounds)
      (called ++ m.hooksAll rounds) := by
  induction rounds generalizing m origins called with
  | nil =>
    rw [addedAll, hooksAll, List.append_nil, List.append_nil]
    exact h
  | cons round rest ih =>
    rw [addedAll, hooksAll, ← List.append_assoc, ← List.append_assoc]
    exact ih (h.after round)

/-- Round after round the modules keep their slots, and who is in them. -/
theorem WellFormed.prefix_afterAll (h : m.WellFormed origins called) (rounds : List Round) :
    m.slots <+: (m.afterAll rounds).slots := by
  induction rounds generalizing m origins called with
  | nil => exact List.prefix_rfl
  | cons round rest ih =>
    exact (h.installs round).keeps.trans (ih (h.after round))

/-- **The registry is well-formed after every sequence of rounds**, whatever
the sessions, the catalogues and the batches, and however the rounds end. Each
further round does what it should, and what is installed by now stays in its
slot for good. -/
theorem wellFormed_afterAll (rounds : List Round) :
    (afterAll {} rounds).WellFormed (addedAll {} rounds) (hooksAll {} rounds)
      ∧ (∀ round, (afterAll {} rounds).Installs round)
      ∧ ∀ later, (afterAll {} rounds).slots <+: (afterAll {} (rounds ++ later)).slots := by
  have h := wellFormed_empty.afterAll rounds
  refine ⟨h, h.installs, fun later => ?_⟩
  rw [afterAll_append]
  exact h.prefix_afterAll later

/-- A module whose hook fails is put back into its slot, and the one that needs
it is registered, but not set up. -/
example (config : Config) :
    let catalogue : Catalogue :=
      [("base", { setUp := [.fail .invalidState] }),
        ("ping", { facts := { requires := [.extra "base"] } })]
    let round : Round := ⟨{ config, catalogue }, [.default catalogue (.extra "ping")]⟩
    (afterAll {} [round]).slots.map (fun slot => (slot.id, slot.occupant.map (·.timesSetUp)))
      = [(.extra "base", some 1), (.extra "ping", some 0)] := by
  rfl

end Modules

/-! ## The modules of a client -/

/-- The batch an operation installs, if it installs one. -/
def Operation.batch? : Operation → Option (List Descriptor)
  | .install batch => some batch
  | _ => none

namespace Client

theorem modules_setConnector (c : Client) (new : ConnectorState) :
    (c.setConnector new).modules = c.modules := by
  unfold setConnector
  split
  · rfl
  · rfl

/-- Handing over an item leaves the modules alone. -/
theorem modules_deliver (c : Client) (item : Outgoing) : (c.deliver item).modules = c.modules := by
  cases item with
  | restart => rfl
  | close => exact modules_setConnector _ _
  | element entry request =>
    show (c.deliverElement entry request).modules = c.modules
    unfold deliverElement
    split
    · rfl
    · split
      · rfl
      · rfl

/-- A client that comes to rest leaves its modules alone. -/
theorem Moves.modules_eq {c c' : Client} {log : List Request} (moves : Moves c log c') :
    c'.modules = c.modules := by
  induction moves with
  | refl => rfl
  | deliver _ _ ih => exact (modules_deliver _ _).trans ih
  | react _ _ _ ih => exact ih

/-- **Nothing but installing changes the modules**, and it does so by the
batch it is given. -/
theorem modules_operate {c : Client} (h : c.AtRest) (op : Operation) :
    (c.operate op).modules
      = match op.batch? with
        | some batch => c.modules.after ⟨c.session, batch⟩
        | none => c.modules := by
  obtain ⟨log, moves⟩ := Moves.run (c.prepare op)
  rw [operate_eq h, moves.modules_eq]
  cases op with
  | connecting => exact modules_setConnector _ _
  | connected transport => exact modules_setConnector _ _
  | lost => exact modules_setConnector _ _
  | disconnect =>
    show (if c.transport.isNone then c else _ : Client).modules = c.modules
    split
    · rfl
    · rfl
  | process id element =>
    unfold prepare
    dsimp only
    split
    · rfl
    · rfl
  | nextEvent =>
    show c.nextEvent.2.modules = c.modules
    unfold Client.nextEvent
    split
    · rfl
    · rfl
  | _ => rfl

/-- **The modules of a client come from rounds**, one for each time it was told
to install a batch. -/
theorem exists_rounds {c : Client} (h : c.AtRest) (ops : List Operation) :
    ∃ rounds : List Round, rounds.map (·.batch) = ops.filterMap Operation.batch?
      ∧ (ops.foldl Client.operate c).modules = c.modules.afterAll rounds := by
  induction ops generalizing c with
  | nil => exact ⟨[], rfl, rfl⟩
  | cons op rest ih =>
    obtain ⟨rounds, hbatches, hmodules⟩ := ih (h.operate op)
    rw [modules_operate h] at hmodules
    cases hop : op.batch? with
    | none =>
      rw [hop] at hmodules
      exact ⟨rounds, by rw [hbatches, List.filterMap_cons_none hop], hmodules⟩
    | some batch =>
      rw [hop] at hmodules
      exact ⟨⟨c.session, batch⟩ :: rounds,
        by rw [List.map_cons, hbatches, List.filterMap_cons_some hop], hmodules⟩

/-- **A client's modules are well-formed** after whatever its owner did. -/
theorem modules_wellFormed_of_create {config : Config} {catalogue : Catalogue}
    {batch : List Descriptor} {c : Client} (h : create config catalogue batch = .ok c)
    (ops : List Operation) :
    ∃ origins called, (ops.foldl Client.operate c).modules.WellFormed origins called := by
  rw [eq_of_create h]
  obtain ⟨rounds, -, hmodules⟩ := exists_rounds (atRest_blank config catalogue)
    (.install (ModuleId.builtIn.map (Descriptor.default catalogue) ++ batch) :: ops)
  rw [List.foldl_cons] at hmodules
  rw [hmodules]
  exact ⟨_, _, Modules.wellFormed_empty.afterAll rounds⟩

end Client

end Xmpp
