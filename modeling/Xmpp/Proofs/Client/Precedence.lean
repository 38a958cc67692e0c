import Xmpp.Proofs.Client.Stock

/-!
# Built-in modules come first

Among modules whose needs are met the one asked for first is placed first, and a client asks for
its built-in modules before those of the application. As the built-in modules need nothing but one
another, all of them are placed before the first module of the application, whatever this one needs
and whatever is installed later (`Client.leads_of_created`).

So an element that concerns a built-in module gets to it untouched by the application: only
built-in modules had it before (`Modules.Leads.exists_split`).
-/

namespace Xmpp

namespace Order

variable {α : Type} [DecidableEq α] {needs : α → List α}
variable {placed placed' waiting order stuck low high sched nodes : List α} {a : α}

/-- A list stays orderly if more is placed already. -/
theorem Orderly.mono (h : Orderly needs placed order) (hplaced : placed ⊆ placed') :
    Orderly needs placed' order :=
  h.of_needs fun _ _ b hb => by
    by_cases hin : b ∈ placed
    · exact .inl (hplaced hin)
    · exact .inr ⟨hb, hin⟩

/-- It also does if one of its nodes is placed early. -/
theorem Orderly.erase (h : Orderly needs placed order) (a : α) :
    Orderly needs (placed ++ [a]) (order.erase a) := by
  induction order generalizing placed with
  | nil => trivial
  | cons c rest ih =>
    by_cases hca : c = a
    · subst hca
      rw [List.erase_cons_head]
      exact h.2
    · rw [List.erase_cons_tail (by simpa using hca)]
      refine ⟨fun b hb => List.mem_append_left _ (h.1 b hb), (ih h.2).mono fun b hb => ?_⟩
      simp only [List.mem_append, List.mem_singleton] at hb ⊢
      tauto

/-- **What can be placed by itself is placed first**, if it stands first among what waits. -/
theorem Places.exists_front (h : Places needs placed waiting order stuck)
    (hwaiting : waiting = low ++ high) (perm : sched.Perm low)
    (orderly : Orderly needs placed sched) :
    ∃ front rest, order = front ++ rest ∧ front.Perm low := by
  induction h generalizing low sched with
  | @stop placed waiting blocked =>
    cases sched with
    | nil => exact ⟨[], [], rfl, perm⟩
    | cons c rest =>
      have hc : c ∈ waiting :=
        hwaiting ▸ List.mem_append_left high (perm.subset List.mem_cons_self)
      obtain ⟨b, hb, hnew⟩ := blocked c hc
      exact absurd (orderly.1 b hb) hnew
  | @next placed before behind order stuck a blocked ready _ ih =>
    cases sched with
    | nil => exact ⟨[], a :: order, rfl, perm⟩
    | cons c rest =>
      -- the first of the schedule is not blocked, so what is placed stands no further behind
      have hc : c ∈ low := perm.subset List.mem_cons_self
      have hbefore : c ∉ before := fun hc => by
        obtain ⟨b, hb, hnew⟩ := blocked c hc
        exact hnew (orderly.1 b hb)
      obtain ⟨low, rfl, rfl⟩ : ∃ low', low = before ++ a :: low' ∧ behind = low' ++ high := by
        rcases List.append_eq_append_iff.1 hwaiting with ⟨_ | ⟨d, low'⟩, rfl, hhigh⟩ | ⟨_, rfl, -⟩
        · exact absurd (List.append_nil before ▸ hc) hbefore
        · obtain ⟨rfl, rfl⟩ := List.cons.inj hhigh
          exact ⟨low', rfl, rfl⟩
        · exact absurd (List.mem_append_left _ hc) hbefore
      have ha : a ∈ c :: rest := perm.symm.subset (by simp)
      have hrest : ((c :: rest).erase a).Perm (before ++ low) :=
        ((List.perm_cons_erase ha).symm.trans (perm.trans List.perm_middle)).cons_inv
      obtain ⟨front, rest, rfl, hfront⟩ :=
        ih (List.append_assoc before low high).symm hrest (orderly.erase a)
      exact ⟨a :: front, rest, rfl, (hfront.cons a).trans List.perm_middle.symm⟩

/-- So it is with arranging nodes. -/
theorem exists_front_of_arrange (h : arrange needs nodes = .ok order) (distinct : nodes.Nodup)
    (hnodes : nodes = low ++ high) (perm : sched.Perm low) (orderly : Orderly needs [] sched) :
    ∃ front rest, order = front ++ rest ∧ front.Perm low := by
  obtain ⟨placed, stuck, hplace, places⟩ := exists_places (needsAmong needs nodes) distinct
  unfold arrange at h
  rw [hplace] at h
  cases stuck with
  | cons a rest => cases h
  | nil =>
    obtain rfl := Except.ok.inj h
    refine places.exists_front hnodes perm (orderly.of_needs fun a _ b hb => ?_)
    exact .inr ⟨(mem_needsAmong.1 hb).1, List.not_mem_nil⟩

end Order

namespace Descriptor

/-- **A genuine descriptor**: what a built-in module needs is not up to the application. -/
def Genuine (d : Descriptor) : Prop :=
  d.id ∈ ModuleId.builtIn → d.requires = d.id.facts.requires

variable {catalogue : Catalogue} {batch : List Descriptor}

theorem genuine_default (catalogue : Catalogue) (id : ModuleId) :
    (default catalogue id).Genuine :=
  fun h => congrArg (·.requires) (catalogue.facts_of_mem h)

/-- In a batch of genuine descriptors the built-in modules need what they always need. -/
theorem needs_of_genuine (genuine : ∀ d ∈ batch, d.Genuine) {id : ModuleId}
    (hid : id ∈ ModuleId.builtIn) : needs catalogue batch id = id.facts.requires := by
  obtain ⟨heq, prevails⟩ : (select catalogue batch id).id = id
      ∧ Prevails catalogue batch (select catalogue batch id) := select_prevails id
  have hgenuine : (select catalogue batch id).Genuine := by
    rcases prevails with ⟨front, back, hsplit, -⟩ | ⟨-, hdefault⟩
    · refine genuine _ ?_
      have hmem : select catalogue batch id ∈ front ++ select catalogue batch id :: back := by simp
      rwa [← hsplit] at hmem
    · rw [hdefault]
      exact genuine_default catalogue _
  have hrequires := hgenuine (heq.symm ▸ hid)
  rw [heq] at hrequires
  exact hrequires

/-- **The built-in modules are put in front** of a batch that asks for them first. -/
theorem exists_front_of_resolve (genuine : ∀ d ∈ batch, d.Genuine) {order : List Descriptor}
    (h : resolve catalogue (ModuleId.builtIn.map (default catalogue) ++ batch) [] = .ok order) :
    ∃ front rest, order = front ++ rest ∧ (front.map (·.id)).Perm ModuleId.builtIn := by
  set all := ModuleId.builtIn.map (default catalogue) ++ batch with hall
  have genuine : ∀ d ∈ all, d.Genuine := by
    refine fun d hd => (List.mem_append.1 hd).elim (fun hd => ?_) (genuine d)
    obtain ⟨id, -, rfl⟩ := List.mem_map.1 hd
    exact genuine_default catalogue id
  have hdrawn : ∀ id, ∀ b ∈ needs catalogue all id,
      b ∈ all.flatMap (·.requires) ++ catalogue.needed := needs_subset
  have hfound := Order.breadthFirst_nodes hdrawn [] (all.map (·.id))
  have distinct := hfound.nodup (Order.nodup_fresh _ _)
  have hasked : all.map (·.id) = ModuleId.builtIn ++ batch.map (·.id) := by
    rw [hall, List.map_append, List.map_map]
    rfl
  obtain ⟨high, hnodes⟩ : ∃ high, Order.nodes (needs catalogue all)
      (all.flatMap (·.requires) ++ catalogue.needed) [] (all.map (·.id))
        = ModuleId.builtIn ++ high := by
    obtain ⟨found, hfound⟩ := hfound.isPrefix
    rw [← hfound, hasked, Order.fresh_append,
      show Order.fresh [] ModuleId.builtIn = ModuleId.builtIn by decide, List.append_assoc]
    exact ⟨_, rfl⟩
  have orderly : Order.Orderly (needs catalogue all) [] ModuleId.arranged := by
    have hneeds : Order.Orderly (fun id : ModuleId => id.facts.requires) [] ModuleId.arranged := by
      simp [ModuleId.arranged, Order.Orderly, ModuleId.facts]
    refine hneeds.of_needs fun a ha b hb => .inr ⟨?_, List.not_mem_nil⟩
    rwa [needs_of_genuine genuine
      ((by decide : ∀ id ∈ ModuleId.arranged, id ∈ ModuleId.builtIn) a ha)] at hb
  rw [resolve_eq] at h
  cases harrange : Order.arrange (needs catalogue all) (Order.nodes (needs catalogue all)
      (all.flatMap (·.requires) ++ catalogue.needed) [] (all.map (·.id))) with
  | error stuck =>
    rw [harrange] at h
    cases h
  | ok placed =>
    rw [harrange] at h
    obtain rfl := Except.ok.inj h
    obtain ⟨front, rest, rfl, perm⟩ := Order.exists_front_of_arrange harrange distinct hnodes
      (by decide : ModuleId.arranged.Perm ModuleId.builtIn) orderly
    refine ⟨_, _, List.map_append, ?_⟩
    rwa [map_id_select]

end Descriptor

namespace Modules

/-- **Modules led by the built-in ones**: the first slots are theirs. -/
def Leads (m : Modules) : Prop :=
  ∃ front back, m.slots = front ++ back ∧
    (front.map fun slot => (slot.id, slot.criterion)).Perm
      (ModuleId.builtIn.map fun id => (id, id.facts.criterion))

variable {m m' : Modules}

/-- What is registered later comes behind them. -/
theorem Leads.of_prefix (h : m.Leads) (hslots : m.slots <+: m'.slots) : m'.Leads := by
  obtain ⟨front, back, hfront, perm⟩ := h
  obtain ⟨later, hlater⟩ := hslots
  exact ⟨front, back ++ later, by rw [← hlater, hfront, List.append_assoc], perm⟩

/-- **An element gets to the built-in modules it concerns before any other.** -/
theorem Leads.exists_split (h : m.Leads) {id : ModuleId} (hid : id ∈ ModuleId.builtIn) {e : Element}
    (concerns : id.concerns e = true) :
    ∃ before slot after, m.targets e = before ++ slot :: after ∧ slot.id = id
      ∧ ∀ other ∈ before, other.id ∈ ModuleId.builtIn := by
  obtain ⟨front, back, hslots, perm⟩ := h
  have hmem := perm.symm.subset (List.mem_map.2 ⟨id, hid, rfl⟩)
  obtain ⟨slot, hslot, hsame⟩ := List.mem_map.1 hmem
  obtain ⟨rfl, hcriterion⟩ := Prod.mk.inj hsame
  obtain ⟨earlier, later, rfl⟩ := List.append_of_mem hslot
  have selected : slot.criterion.any (·.selects e) = true := hcriterion ▸ concerns
  have hsplit : m.targets e = (earlier.filter fun slot => slot.criterion.any (·.selects e))
      ++ slot :: (later ++ back).filter fun slot => slot.criterion.any (·.selects e) := by
    rw [targets, hslots, List.append_assoc, List.filter_append, List.cons_append,
      List.filter_cons_of_pos (by exact selected)]
  refine ⟨_, slot, _, hsplit, rfl, fun other hother => ?_⟩
  have hother : other ∈ earlier ++ slot :: later :=
    List.mem_append_left _ (List.mem_of_mem_filter hother)
  obtain ⟨_, hbuiltIn, heq⟩ := List.mem_map.1 (perm.subset (List.mem_map.2 ⟨other, hother, rfl⟩))
  exact (Prod.mk.inj heq).1 ▸ hbuiltIn

/-- **A first round** that asks for the built-in modules before all others puts them in front. -/
theorem leads_after {round : Round} {batch : List Descriptor}
    (hbatch : round.batch
      = ModuleId.builtIn.map (Descriptor.default round.session.catalogue) ++ batch)
    (genuine : ∀ d ∈ batch, d.Genuine)
    (complete : (({} : Modules).install round.session round.batch).2.2 = none) :
    (({} : Modules).after round).Leads := by
  rcases Descriptor.resolve_cases round.session.catalogue round.batch ({} : Modules).ids with
    ⟨-, order, hresolve, hfits, -, -⟩ | ⟨-, stuck, hresolve⟩
  · obtain ⟨hslots, -⟩ := wellFormed_empty.whole.after_of_fits hresolve hfits
    obtain ⟨front, rest, rfl, perm⟩ :=
      Descriptor.exists_front_of_resolve genuine (hbatch ▸ hresolve)
    have hids : front.map (fun d => (d.id, (round.session.catalogue.facts d.id).criterion))
        = (front.map (·.id)).map fun id => (id, id.facts.criterion) := by
      rw [List.map_map]
      refine List.map_congr_left fun d hd => ?_
      rw [Catalogue.facts_of_mem _ (perm.subset (List.mem_map.2 ⟨d, hd, rfl⟩))]
      rfl
    let called := (({} : Modules).hooks round).map (·.id)
    refine ⟨(counted ⟨front.map (Descriptor.slot round.session.catalogue)⟩ called).slots,
      (counted ⟨rest.map (Descriptor.slot round.session.catalogue)⟩ called).slots, ?_, ?_⟩
    · rw [hslots]
      simp only [counted, List.map_append]
      rfl
    · rw [counted, List.map_map, List.map_map]
      exact hids ▸ perm.map fun id => (id, id.facts.criterion)
  · rw [(install_of_cyclic hresolve).1] at complete
    cases complete

end Modules

/-! ## Creating a client -/

namespace Client

variable {c₀ : Client} {config : Config} {catalogue : Catalogue} {batch : List Descriptor}

/-- What an installation does to a client is what it does to its modules and its session. -/
theorem install_eq (c : Client) (batch : List Descriptor) :
    (c.install batch).2 = (c.modules.install c.session batch).2.2
      ∧ (c.prepare (.install batch)).session = (c.modules.install c.session batch).2.1 :=
  ⟨rfl, rfl⟩

theorem atRest_of_create (h : create config catalogue batch = .ok c₀) : c₀.AtRest := by
  rw [eq_of_create h]
  exact (atRest_blank config catalogue).operate _

/-- **Creating a client is a first round** that goes well. -/
theorem exists_round_of_create (h : create config catalogue batch = .ok c₀) :
    ∃ round : Round, round.session = (blank config catalogue).session
      ∧ round.batch = ModuleId.builtIn.map (Descriptor.default catalogue) ++ batch
      ∧ (({} : Modules).install round.session round.batch).2.2 = none
      ∧ c₀.modules = ({} : Modules).after round := by
  obtain ⟨round, hsession, hbatch⟩ : ∃ round : Round,
      round.session = (blank config catalogue).session
        ∧ round.batch = ModuleId.builtIn.map (Descriptor.default catalogue) ++ batch :=
    ⟨⟨_, _⟩, rfl, rfl⟩
  have hempty : (blank config catalogue).modules = {} := rfl
  refine ⟨round, hsession, hbatch, ?_, ?_⟩
  · rw [hsession, ← hempty, ← (install_eq (blank config catalogue) round.batch).1]
    unfold create at h
    split at h
    · cases h
    · dsimp only at h
      rw [← hbatch] at h
      split at h
      · rename_i heq
        rw [heq]
      · cases h
  · rw [eq_of_create h, ← hbatch, modules_operate (atRest_blank config catalogue)]
    dsimp only [Operation.batch?]
    rw [← hsession, hempty]

/-- **A client is led by the built-in modules** whatever is done to it. -/
theorem leads_of_created (h : create config catalogue batch = .ok c₀)
    (genuine : ∀ d ∈ batch, d.Genuine) (ops : List Operation) :
    (ops.foldl operate c₀).modules.Leads := by
  obtain ⟨round, hsession, hbatch, complete, hround⟩ := exists_round_of_create h
  have hcatalogue : round.session.catalogue = catalogue := hsession ▸ rfl
  have start : c₀.modules.Leads :=
    hround ▸ Modules.leads_after (hcatalogue.symm ▸ hbatch) genuine complete
  obtain ⟨rounds, -, hmodules⟩ := exists_rounds (atRest_of_create h) ops
  obtain ⟨origins, called, wellFormed⟩ := modules_wellFormed_of_create h []
  exact start.of_prefix (hmodules ▸ wellFormed.prefix_afterAll rounds)

end Client

end Xmpp
