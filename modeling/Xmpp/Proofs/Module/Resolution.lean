import Xmpp.Module.Installation
import Xmpp.Proofs.Module.Countdown
import Xmpp.Proofs.Module.Discovery

/-!
# Resolving a batch

A batch says which modules to install, possibly some of them twice, and
leaves out what they need. Resolving it has to find out what is missing, to
choose one descriptor for each module, and to put all of them in order; and
where that is impossible, it has to say for which modules.

What the batch leaves out, and what a module needs, comes from the catalogue,
which an application fills as it likes. So nothing is assumed here about the
requirements: they may be circular, they may be about modules that are
installed, they may be listed twice. The one thing the catalogue has to
deliver is that everything needed occurs in it, since discovery is bounded by
that list; and it does.
-/

namespace Xmpp

/-- The built-in modules need nothing but one another. -/
theorem ModuleId.requires_subset_builtIn (id : ModuleId) :
    ∀ b ∈ id.facts.requires, b ∈ builtIn := by
  cases id with
  | extra name => simp [facts]
  | _ => decide

namespace Catalogue

/-- Whatever a module needs by default occurs in the catalogue. -/
theorem requires_subset_needed (c : Catalogue) (id : ModuleId) :
    ∀ b ∈ (c.facts id).requires, b ∈ c.needed := by
  intro b hb
  cases id with
  | extra name =>
    refine List.mem_append_right _ (List.mem_flatMap.2 ?_)
    have hb : b ∈ ((c.lookup name).getD {}).facts.requires := hb
    cases hentry : c.lookup name with
    | none => simp [hentry] at hb
    | some description =>
      obtain ⟨front, back, rfl, -⟩ := List.lookup_eq_some_iff.1 hentry
      exact ⟨(name, description), by simp, by simpa [hentry] using hb⟩
  | _ => exact List.mem_append_left _ (ModuleId.requires_subset_builtIn _ b hb)

end Catalogue

namespace Descriptor

open Relation

variable {catalogue : Catalogue} {batch : List Descriptor} {installed : List ModuleId}

/-- **The descriptor that counts** for its module in a batch: the last one
given, or the default one if none is given. -/
def Prevails (catalogue : Catalogue) (batch : List Descriptor) (d : Descriptor) : Prop :=
  (∃ front back, batch = front ++ d :: back ∧ ∀ other ∈ back, other.id ≠ d.id)
    ∨ (∀ other ∈ batch, other.id ≠ d.id) ∧ d = default catalogue d.id

/-- The descriptor selected for a module is one of that module, and it is the
one that counts. -/
theorem select_prevails (id : ModuleId) :
    (select catalogue batch id).id = id ∧ Prevails catalogue batch (select catalogue batch id) := by
  cases hfind : batch.reverse.find? (·.id = id) with
  | none =>
    have hselect : select catalogue batch id = default catalogue id := by
      rw [select, hfind]
      rfl
    rw [hselect]
    refine ⟨rfl, .inr ⟨fun other hother => ?_, rfl⟩⟩
    have := List.find?_eq_none.1 hfind other (by simpa using hother)
    simpa [default] using this
  | some d =>
    have hselect : select catalogue batch id = d := by
      rw [select, hfind]
      rfl
    obtain ⟨hd, front, back, hsplit, hfront⟩ := List.find?_eq_some_iff_append.1 hfind
    have hid : d.id = id := by simpa using hd
    rw [hselect]
    refine ⟨hid, .inl ⟨back.reverse, front.reverse, ?_, fun other hother => ?_⟩⟩
    · rw [← List.reverse_reverse batch, hsplit]
      simp
    · have := hfront other (by simpa using hother)
      simpa [hid] using this

/-- What the module requires, by the descriptor that counts. -/
def needs (catalogue : Catalogue) (batch : List Descriptor) (id : ModuleId) : List ModuleId :=
  (select catalogue batch id).requires

/-- Everything needed is required in the batch or occurs in the catalogue. -/
theorem needs_subset (id : ModuleId) : ∀ b ∈ needs catalogue batch id,
    b ∈ batch.flatMap (·.requires) ++ catalogue.needed := by
  intro b hb
  rcases (select_prevails id).2 with ⟨front, back, hbatch, -⟩ | ⟨-, hdefault⟩
  · have hmem : select catalogue batch id ∈ front ++ select catalogue batch id :: back := by simp
    rw [← hbatch] at hmem
    exact List.mem_append_left _ (List.mem_flatMap.2 ⟨_, hmem, hb⟩)
  · refine List.mem_append_right _ ?_
    rw [needs, hdefault] at hb
    exact catalogue.requires_subset_needed _ b hb

/-- A batch is resolved by arranging the nodes it leads to. -/
theorem resolve_eq (catalogue : Catalogue) (batch : List Descriptor)
    (installed : List ModuleId) :
    resolve catalogue batch installed
      = match Order.arrange (needs catalogue batch)
          (Order.nodes (needs catalogue batch) (batch.flatMap (·.requires) ++ catalogue.needed)
            installed (batch.map (·.id))) with
        | .ok order => .ok (order.map (select catalogue batch))
        | .error stuck => .error (.dependencyCycle (stuck.map ModuleId.name)) :=
  rfl

/-- **A batch is resolved correctly and completely**, whatever it, the
catalogue and the installed modules are. The nodes are found breadth-first
from the modules asked for; they are distinct, and they are what these modules
lead to without passing through an installed one.

If the nodes do not require one another in a circle, the outcome is the first
of all schedules for them, each module once and by the descriptor that counts.
If they do, the outcome names the modules that lead into a circle, in node
order. And the outcome is that of counting down how many requirements of each
node are missing, in which no count is ever taken below zero. -/
theorem resolve_spec (catalogue : Catalogue) (batch : List Descriptor)
    (installed : List ModuleId) :
    ∃ nodes,
      Order.BreadthFirst (needs catalogue batch) installed
          (Order.fresh installed (batch.map (·.id))) (Order.fresh installed (batch.map (·.id))) nodes
      ∧ nodes.Nodup
      ∧ (∀ id, id ∈ nodes ↔ ∃ a ∈ batch.map (·.id), a ∉ installed ∧
          ReflTransGen (fun a b => b ∈ needs catalogue batch a ∧ b ∉ installed) a id)
      ∧ (¬ Order.Circular (needs catalogue batch) nodes →
          ∃ order, resolve catalogue batch installed = .ok order
            ∧ Order.FirstSchedule (needs catalogue batch) installed nodes (order.map (·.id))
            ∧ ∀ d ∈ order, Prevails catalogue batch d)
      ∧ (Order.Circular (needs catalogue batch) nodes →
          ∃ stuck, resolve catalogue batch installed
              = .error (.dependencyCycle (stuck.map ModuleId.name))
            ∧ Order.Stuck (needs catalogue batch) nodes stuck)
      ∧ ∃ t,
          (Order.Tally.start (Order.needsAmong (needs catalogue batch) nodes) nodes).run
              (Order.needsAmong (needs catalogue batch) nodes) nodes nodes.length = some t
          ∧ t.ready = []
          ∧ resolve catalogue batch installed
            = if t.order.length < nodes.length then
                .error (.dependencyCycle ((nodes.filter (0 < t.missing ·)).map ModuleId.name))
              else .ok (t.order.map (select catalogue batch)) := by
  -- the outcome is that of arranging the nodes, with descriptors and names put for them
  have hresolve := resolve_eq catalogue batch installed
  set asked := batch.map (·.id)
  set nodes := Order.nodes (needs catalogue batch)
    (batch.flatMap (·.requires) ++ catalogue.needed) installed asked
  have hfound : Order.BreadthFirst (needs catalogue batch) installed
      (Order.fresh installed asked) (Order.fresh installed asked) nodes :=
    Order.breadthFirst_nodes needs_subset installed asked
  have distinct : nodes.Nodup := hfound.nodup (Order.nodup_fresh _ _)
  have closed : ∀ a ∈ nodes, ∀ b ∈ needs catalogue batch a, b ∈ installed ∨ b ∈ nodes :=
    hfound.closed fun a ha ha' => absurd ha ha'
  have apart : ∀ a ∈ nodes, a ∉ installed :=
    hfound.notMem_present fun a ha => (Order.mem_fresh.1 ha).2
  have hcases := Order.arrange_cases distinct closed apart
  refine ⟨nodes, hfound, distinct, fun id => hfound.mem_iff, fun hfree => ?_, fun hcircle => ?_, ?_⟩
  · obtain ⟨-, order, harrange, hfirst⟩ := hcases.resolve_right fun h => hfree h.1
    refine ⟨order.map (select catalogue batch), by rw [hresolve, harrange], ?_, ?_⟩
    · have hids : (order.map (select catalogue batch)).map (·.id) = order := by
        rw [List.map_map]
        exact List.map_id'' (fun id => (select_prevails id).1) order
      rwa [hids]
    · intro d hd
      obtain ⟨id, -, rfl⟩ := List.mem_map.1 hd
      exact (select_prevails id).2
  · obtain ⟨-, stuck, harrange, hstuck⟩ := hcases.resolve_left fun h => h.1 hcircle
    exact ⟨stuck, by rw [hresolve, harrange], hstuck⟩
  · obtain ⟨t, hrun, hready, harrange⟩ := Order.exists_run_start distinct
    refine ⟨t, hrun, hready, ?_⟩
    rw [hresolve, harrange]
    by_cases hfew : t.order.length < nodes.length
    · rw [if_pos hfew, if_pos hfew]
    · rw [if_neg hfew, if_neg hfew]

end Descriptor

end Xmpp
