import Xmpp.Proofs.Module.Batches

/-!
# Installations that fail

A batch that cannot be installed should leave the modules as they were: the same are
registered and found, the same features are told, every element goes where it went
before (`Modules.Untouched`), and whoever tries again starts afresh.

There are two ways to fail. Modules that need one another in a circle are refused before
anything is registered, and nothing is left of them. But hooks are called only after the
whole batch is registered, and when one of them fails nothing is taken back
(`Modules.Fails.stranded`). The modules before it, it itself, and those behind it, whose
hooks were never called, all stay: they are found, their features are told, and they are
handed every element they are concerned with. Since they are there, installing the batch
once more has nothing to do, and succeeds without calling a hook.

So an installation that fails leaves no trace exactly if the batch is cyclic
(`Modules.fails_of_install`), and not otherwise (`Modules.not_forall_untouched`).
-/

namespace Xmpp

/-! ## Trying again -/

namespace Order

variable {α : Type} [DecidableEq α] {needs : α → List α} {all present asked : List α}

/-- What is there already is not ordered. -/
theorem nodes_of_present (h : ∀ a ∈ asked, a ∈ present) : nodes needs all present asked = [] := by
  have hfresh : fresh present asked = [] :=
    List.eq_nil_iff_forall_not_mem.2 fun a ha => (mem_fresh.1 ha).2 (h a (mem_fresh.1 ha).1)
  unfold nodes
  rw [hfresh]
  cases asked.length + all.length <;> rfl

end Order

namespace Descriptor

/-- **A batch of modules that are there asks for nothing.** -/
theorem resolve_of_installed (catalogue : Catalogue) {batch : List Descriptor}
    {installed : List ModuleId} (h : ∀ d ∈ batch, d.id ∈ installed) :
    resolve catalogue batch installed = .ok [] := by
  unfold resolve
  dsimp only
  rw [Order.nodes_of_present fun id hid => by
    obtain ⟨d, hd, rfl⟩ := List.mem_map.1 hid
    exact h d hd]
  rfl

/-- The slot of a module that was set up this often. -/
def seat (catalogue : Catalogue) (times : Nat) (d : Descriptor) : Slot :=
  { d.slot catalogue with occupant := some { tag := d.tag, timesSetUp := times } }

/-- Whether a module is concerned with an element. -/
def Concerns (catalogue : Catalogue) (d : Descriptor) (e : Element) : Prop :=
  ∃ criterion, (catalogue.facts d.id).criterion = some criterion ∧ criterion.selects e = true

end Descriptor

/-! ## What is left -/

/-- **Where hooks fail**: the last call is the one that fails, and all before it succeed. -/
theorem Session.Calls.exists_failed {s u : Session} {calls : List Call} {error : Error}
    (h : s.Calls calls u (some error)) :
    ∃ before last t, calls = before ++ [last] ∧ s.Calls before t none
      ∧ t.setUp last.id last.tag last.seen = (u, some error) := by
  generalize hresult : some error = result at h
  induction h with
  | done => cases hresult
  | @next s t u call rest _ hcall _ ih =>
    obtain ⟨before, last, t', rfl, hbefore, hlast⟩ := ih hresult
    exact ⟨call :: before, last, t', rfl, .next hcall hbefore, hlast⟩
  | @failed s t call _ hcall =>
    obtain rfl := Option.some.inj hresult
    exact ⟨[], call, s, rfl, .done, hcall⟩

namespace Modules

/-- **Modules are as they were.** -/
structure Untouched (m m' : Modules) : Prop where
  /-- The same are registered. -/
  registered : m'.ids = m.ids
  /-- They are found. -/
  found : ∀ id, m'.occupant? id = m.occupant? id
  /-- The same features are told. -/
  features : m'.features = m.features
  /-- Every element is handled by the same. -/
  routed : ∀ e, m'.targets e = m.targets e

/-- **How an installation fails.** -/
inductive Fails (m : Modules) (round : Round) (error : Error) : Prop
  /-- The batch is cyclic. Nothing comes of it. -/
  | refused (cyclic : Descriptor.Cyclic round.session.catalogue round.batch m.ids)
      (unchanged : m.install round.session round.batch = (m, round.session, some error))
      (untouched : m.Untouched (m.after round))
  /-- A hook fails, and all modules of the batch stay. -/
  | stranded {front back : List Descriptor} {d : Descriptor}
      (acyclic : ¬ Descriptor.Cyclic round.session.catalogue round.batch m.ids)
      (split : m.added round = front ++ d :: back)
      (hook : ∃ before last t, m.hooks round = before ++ [last]
        ∧ before.map (·.id) = front.map (·.id) ∧ last.id = d.id
        ∧ round.session.Calls before t none
        ∧ t.setUp last.id last.tag last.seen
          = ((m.install round.session round.batch).2.1, some error))
      (slots : (m.after round).slots = m.slots
        ++ (front ++ [d]).map (Descriptor.seat round.session.catalogue 1)
        ++ back.map (Descriptor.seat round.session.catalogue 0))
      (handled : ∀ f ∈ m.added round, ∀ e, f.Concerns round.session.catalogue e →
        ∃ slot ∈ (m.after round).targets e, slot.id = f.id
          ∧ ∀ s : Session, process slot s e = s.handle f.id f.tag e)
      (again : ∀ s : Session,
        (m.after round).install s round.batch = (m.after round, s, none))
      (touched : ¬ m.Untouched (m.after round))

variable {m : Modules} {round : Round}

theorem Untouched.refl (m : Modules) : m.Untouched m :=
  ⟨rfl, fun _ => rfl, rfl, fun _ => rfl⟩

/-- Installing modules that are there does nothing. -/
theorem install_of_installed (s : Session) {batch : List Descriptor}
    (h : ∀ d ∈ batch, d.id ∈ m.ids) : m.install s batch = (m, s, none) := by
  unfold install
  rw [Descriptor.resolve_of_installed s.catalogue h]
  rfl

/-- Counting set-ups of modules that were just registered. -/
theorem slots_counted_slot {catalogue : Catalogue} {front back : List Descriptor} {d : Descriptor}
    (distinct : ((front ++ d :: back).map (·.id)).Nodup) :
    (counted ⟨(front ++ d :: back).map (Descriptor.slot catalogue)⟩
        (front.map (·.id) ++ [d.id])).slots
      = (front ++ [d]).map (Descriptor.seat catalogue 1)
        ++ back.map (Descriptor.seat catalogue 0) := by
  have hsplit : front ++ d :: back = (front ++ [d]) ++ back := by simp
  have hcalled : front.map (·.id) ++ [d.id] = (front ++ [d]).map (·.id) := by simp
  rw [hsplit, List.map_append] at distinct
  obtain ⟨hfront, -, hapart⟩ := List.nodup_append.1 distinct
  have seated (f : Descriptor) (times : Nat)
      (h : ((front ++ [d]).map (·.id)).count f.id = times) :
      ({ f.slot catalogue with
        occupant := (f.slot catalogue).occupant.map fun occupant =>
          { occupant with timesSetUp := occupant.timesSetUp
              + ((front ++ [d]).map (·.id)).count (f.slot catalogue).id } } : Slot)
        = f.seat catalogue times := by
    subst h
    exact congrArg (fun times => f.seat catalogue times) (Nat.zero_add _)
  rw [hsplit, hcalled, counted, List.map_map, List.map_append]
  refine congrArg₂ (· ++ ·) (List.map_congr_left fun f hf => seated f 1 ?_)
    (List.map_congr_left fun f hf => seated f 0 ?_)
  · exact List.count_eq_one_of_mem hfront (List.mem_map.2 ⟨f, hf, rfl⟩)
  · refine List.count_eq_zero.2 fun hmem => ?_
    exact hapart _ hmem _ (List.mem_map.2 ⟨f, hf, rfl⟩) rfl

/-- Whoever is seated and concerned with an element handles it. -/
theorem handles_of_seated {f : Descriptor} {catalogue : Catalogue} {times : Nat} {e : Element}
    (seated : f.seat catalogue times ∈ m.slots) (concerns : f.Concerns catalogue e) :
    ∃ slot ∈ m.targets e, slot.id = f.id
      ∧ ∀ s : Session, process slot s e = s.handle f.id f.tag e := by
  obtain ⟨criterion, hcriterion, hselects⟩ := concerns
  refine ⟨f.seat catalogue times, List.mem_filter.2 ⟨seated, ?_⟩, rfl, fun s => rfl⟩
  show (catalogue.facts f.id).criterion.any (·.selects e) = true
  rw [hcriterion]
  exact hselects

/-- **Modules of whom a hook fails all stay.** -/
theorem Whole.stranded (h : m.Whole) {order : List Descriptor} {error : Error}
    (acyclic : ¬ Descriptor.Cyclic round.session.catalogue round.batch m.ids)
    (hresolve : Descriptor.resolve round.session.catalogue round.batch m.ids = .ok order)
    (fits : Descriptor.Fits m.ids order)
    (asked : ∀ d ∈ round.batch, d.id ∈ m.ids ++ order.map (·.id))
    (failed : (m.install round.session round.batch).2.2 = some error) : m.Fails round error := by
  obtain ⟨hslots, hids, -, hcalls, hinOrder, -, -⟩ := h.after_of_fits hresolve fits
  have hadded : m.added round = order := by rw [added, hresolve]
  rw [failed] at hcalls
  obtain ⟨before, last, t, hhooks, hbefore, hlast⟩ := hcalls.exists_failed
  -- the hooks that were called are those of the first modules, up to the one that fails
  rw [hhooks, List.map_append, List.map_cons, List.map_nil] at hinOrder hslots
  obtain ⟨rest, hrest⟩ := hinOrder
  rw [List.append_assoc, List.singleton_append] at hrest
  obtain ⟨front, others, rfl, hfront, hothers⟩ := List.map_eq_append_iff.1 hrest.symm
  obtain ⟨d, back, rfl, hd, -⟩ := List.map_eq_cons_iff.1 hothers
  rw [← hfront, ← hd, slots_counted_slot fits.distinct, ← List.append_assoc] at hslots
  refine .stranded acyclic hadded ⟨before, last, t, hhooks, hfront.symm, hd.symm, hbefore, hlast⟩
    hslots (fun f hf e concerns => ?_) (fun s => ?_) fun untouched => ?_
  · rw [hadded, List.append_cons, List.mem_append] at hf
    have seated : ∃ times, f.seat round.session.catalogue times ∈ (m.after round).slots := by
      rw [hslots]
      rcases hf with hf | hf
      · exact ⟨1, List.mem_append_left _ (List.mem_append_right _ (List.mem_map.2 ⟨f, hf, rfl⟩))⟩
      · exact ⟨0, List.mem_append_right _ (List.mem_map.2 ⟨f, hf, rfl⟩)⟩
    obtain ⟨times, hseated⟩ := seated
    exact handles_of_seated hseated concerns
  · exact install_of_installed s fun f hf => by
      rw [hids]
      exact asked f hf
  · have hsame := untouched.registered
    rw [hids, List.append_right_eq_self, List.map_eq_nil_iff] at hsame
    exact List.append_ne_nil_of_right_ne_nil _ (List.cons_ne_nil _ _) hsame

/-- **How installing a batch fails**, whatever was installed before, and in whatever session. A
cyclic batch leaves no trace. If a hook fails, everything the batch brought stays, the modules whose
hooks failed or were not called among it, and nothing is left for a second attempt to do. So
exactly the cyclic batches leave the modules as they were. -/
theorem fails_of_install (rounds : List Round) (round : Round) (error : Error)
    (failed : ((afterAll {} rounds).install round.session round.batch).2.2 = some error) :
    (afterAll {} rounds).Fails round error
      ∧ ((afterAll {} rounds).Untouched ((afterAll {} rounds).after round) ↔
        Descriptor.Cyclic round.session.catalogue round.batch (afterAll {} rounds).ids) := by
  have whole := (wellFormed_empty.afterAll rounds).whole
  generalize afterAll {} rounds = m at whole failed ⊢
  have fails : m.Fails round error := by
    rcases Descriptor.resolve_cases round.session.catalogue round.batch m.ids with
      ⟨acyclic, order, hresolve, fits, asked, -⟩ | ⟨cyclic, stuck, hresolve⟩
    · exact whole.stranded acyclic hresolve fits asked failed
    · obtain ⟨hinstall, -, -⟩ := install_of_cyclic hresolve
      rw [hinstall] at failed
      obtain rfl := Option.some.inj failed
      have hafter : m.after round = m := by rw [after, hinstall]
      refine .refused cyclic hinstall ?_
      rw [hafter]
      exact .refl m
  refine ⟨fails, ?_⟩
  cases fails with
  | refused cyclic _ untouched => exact iff_of_true untouched cyclic
  | stranded acyclic _ _ _ _ _ touched => exact iff_of_false touched acyclic

namespace Rehearsal

/-- A module that answers pings needs one that keeps a log, and cannot be set up. -/
def workshop : Catalogue :=
  [("log", { facts := { features := ["urn:example:log"] } }),
    ("ping", {
      facts := {
        requires := [.extra "log"]
        features := ["urn:xmpp:ping"]
        criterion := some (.stanzaWith "iq" "urn:xmpp:ping") }
      setUp := [.fail .invalidState] }),
    ("bell", { facts := { requires := [.extra "ping"] } })]

/-- A session with these modules to choose from. -/
def atWork : Session where
  config := { jid := ⟨some "juliet", "capulet.lit", none⟩, userAgentId := "balcony" }
  catalogue := workshop

/-- Something is installed first. -/
def earlier : List Round :=
  [⟨atWork, [.default workshop .disco]⟩]

/-- Then a module is that needs the one that cannot be set up. -/
def attempt : Round :=
  ⟨atWork, [.default workshop (.extra "bell")]⟩

/-- Somebody sends a ping. -/
def pings : Element where
  name := "iq"
  ns := Namespace.client
  attributes := [("type", "get"), ("id", "p1")]
  content := Element.nodes [{ name := "ping", ns := "urn:xmpp:ping" }]

end Rehearsal

open Rehearsal

/-- In the rehearsal the hook of the second module of three fails. All three stay, the third was
never set up, pings are handed to the second, and its feature is told. -/
theorem fails_of_install_rehearsal :
    ((afterAll {} earlier).install attempt.session attempt.batch).2.2 = some .invalidState
      ∧ (afterAll {} earlier).Fails attempt .invalidState
      ∧ ¬ (afterAll {} earlier).Untouched ((afterAll {} earlier).after attempt)
      ∧ ((afterAll {} earlier).after attempt).slots.map
          (fun slot => (slot.id, slot.occupant.map (·.timesSetUp)))
        = [(.disco, some 1), (.extra "log", some 1), (.extra "ping", some 1),
          (.extra "bell", some 0)]
      ∧ (((afterAll {} earlier).after attempt).targets pings).map (·.id) = [.extra "ping"]
      ∧ ((afterAll {} earlier).after attempt).features
        = [Namespace.discoInfo, "urn:example:log", "urn:xmpp:ping"]
      ∧ (((afterAll {} earlier).after attempt).install atWork attempt.batch).2.2 = none := by
  have failed : ((afterAll {} earlier).install attempt.session attempt.batch).2.2
      = some .invalidState := by
    decide +kernel
  have slots : ((afterAll {} earlier).after attempt).slots.map
        (fun slot => (slot.id, slot.occupant.map (·.timesSetUp)))
      = [(.disco, some 1), (.extra "log", some 1), (.extra "ping", some 1),
        (.extra "bell", some 0)] := by
    decide +kernel
  obtain ⟨fails, untouched⟩ := fails_of_install earlier attempt .invalidState failed
  have touched : ¬ (afterAll {} earlier).Untouched ((afterAll {} earlier).after attempt) :=
    fun h => absurd h.registered (by decide +kernel)
  cases fails with
  | refused cyclic _ _ => exact absurd (untouched.2 cyclic) touched
  | stranded acyclic split hook slots' handled again _ =>
    exact ⟨failed, .stranded acyclic split hook slots' handled again touched, touched, slots,
      by decide +kernel, by decide +kernel, congrArg (·.2.2) (again atWork)⟩

/-- **A batch that could not be installed need not leave the modules as they were.** -/
theorem not_forall_untouched :
    ¬ ∀ (rounds : List Round) (round : Round) (error : Error),
      ((afterAll {} rounds).install round.session round.batch).2.2 = some error →
        (afterAll {} rounds).Untouched ((afterAll {} rounds).after round) := by
  intro h
  have hids := (h earlier attempt .invalidState (by decide +kernel)).registered
  revert hids
  decide +kernel

end Modules

end Xmpp
