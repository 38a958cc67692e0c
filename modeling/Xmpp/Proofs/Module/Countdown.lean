import Mathlib.Data.List.Find
import Mathlib.Data.List.Nodup
import Mathlib.Logic.Function.Basic
import Xmpp.Proofs.Module.Schedule

/-!
# Counting instead of looking

Whether a node waits for another can be found out by looking through its
needs each time, or by keeping a number for each node: how many of its needs
are still missing. Placing a node then takes one off the number of each node
that needs it, and the nodes whose number comes down to zero become ready.
Nothing keeps such a number from being taken below zero but the bookkeeping
itself. A need that is listed twice, or a node placed twice, would do it.

This file runs the count with a check at every subtraction and shows that no
check ever fails, that the count is the number it is meant to be after each
node, and that it ends with the same order, or the same nodes left over.
-/

namespace Xmpp.Order

variable {α : Type} [DecidableEq α]

/-- **The count** kept while nodes are placed. -/
structure Tally (α : Type) where
  /-- How many needs of a node are missing. -/
  missing : α → Nat
  /-- The nodes that miss none and are not placed. -/
  ready : List α
  /-- The nodes placed. -/
  order : List α

namespace Tally

/-- The count before anything is placed. -/
def start (needs : α → List α) (nodes : List α) : Tally α where
  missing a := (needs a).length
  ready := nodes.filter fun a => (needs a).length = 0
  order := []

/-- Takes one off the number of a node; fails if it is zero. -/
def meet (t : Tally α) (a : α) : Option (Tally α) :=
  match t.missing a with
  | 0 => none
  | left + 1 => some
    { t with
      missing := Function.update t.missing a left
      ready := if left = 0 then t.ready ++ [a] else t.ready }

/-- Places a node that is ready: one need of each node that needs it is
met. -/
def take (needs : α → List α) (nodes : List α) (t : Tally α) (a : α) : Option (Tally α) :=
  (nodes.filter (a ∈ needs ·)).foldlM meet
    { t with ready := t.ready.erase a, order := t.order ++ [a] }

/-- **The countdown**: takes the first node that is ready, until none is or
the number of steps is used up. -/
def run (needs : α → List α) (nodes : List α) : Nat → Tally α → Option (Tally α)
  | 0, t => some t
  | count + 1, t =>
    match nodes.find? (· ∈ t.ready) with
    | none => some t
    | some a => (t.take needs nodes a).bind (run needs nodes count)

variable {needs : α → List α} {nodes placed waiting list : List α} {t : Tally α} {a : α}

/-! ## One node -/

/-- Meeting one need of each of these nodes succeeds if all of them miss one,
and the ones that miss no other become ready. -/
theorem foldlM_meet (distinct : list.Nodup) (hmissing : ∀ a ∈ list, t.missing a ≠ 0) :
    list.foldlM meet t = some
      { t with
        missing := fun a => if a ∈ list then t.missing a - 1 else t.missing a
        ready := t.ready ++ list.filter fun a => t.missing a = 1 } := by
  induction list generalizing t with
  | nil => simp
  | cons b rest ih =>
    obtain ⟨hb, hrest⟩ := List.nodup_cons.1 distinct
    obtain ⟨left, hleft⟩ := Nat.exists_eq_succ_of_ne_zero (hmissing b List.mem_cons_self)
    have hother : ∀ a ∈ rest, Function.update t.missing b left a = t.missing a := by
      intro a ha
      refine Function.update_of_ne ?_ _ _
      rintro rfl
      exact hb ha
    have hmeet : t.meet b = some
        { t with
          missing := Function.update t.missing b left
          ready := if left = 0 then t.ready ++ [b] else t.ready } := by
      rw [meet, hleft]
    rw [List.foldlM_cons, hmeet]
    show List.foldlM meet _ rest = _
    rw [ih hrest]
    swap
    · intro a ha
      show Function.update t.missing b left a ≠ 0
      rw [hother a ha]
      exact hmissing a (List.mem_cons_of_mem b ha)
    refine congrArg some ?_
    have hcount : (fun a => if a ∈ rest then Function.update t.missing b left a - 1
          else Function.update t.missing b left a)
        = fun a => if a ∈ b :: rest then t.missing a - 1 else t.missing a := by
      funext a
      by_cases hab : a = b
      · subst hab
        simp [hb, hleft]
      · simp [hab]
    have hready : (if left = 0 then t.ready ++ [b] else t.ready)
          ++ rest.filter (fun a => Function.update t.missing b left a = 1)
        = t.ready ++ (b :: rest).filter fun a => t.missing a = 1 := by
      rw [List.filter_congr fun a ha => by rw [hother a ha], List.filter_cons, hleft]
      by_cases hzero : left = 0 <;> simp [hzero]
    simp only [hcount, hready]

omit [DecidableEq α] in
/-- Placing a node that was not placed meets one need of each node that needs
it, and none of any other. -/
theorem outstanding_snoc [DecidableEq α] (distinct : (needs a).Nodup) {b : α} (hb : b ∉ placed) :
    outstanding needs (placed ++ [b]) a
      = if b ∈ needs a then outstanding needs placed a - 1 else outstanding needs placed a := by
  have hfilter : (needs a).filter (fun dep => dep ∉ placed ++ [b])
      = ((needs a).filter fun dep => dep ∉ placed).erase b := by
    rw [(distinct.filter _).erase_eq_filter, List.filter_filter]
    refine List.filter_congr fun dep _ => ?_
    by_cases hdep : dep = b <;> simp [hdep]
  rw [outstanding, hfilter]
  by_cases hneeds : b ∈ needs a
  · rw [if_pos hneeds, List.length_erase_of_mem (List.mem_filter.2 ⟨hneeds, by simpa using hb⟩)]
    rfl
  · have hnot : b ∉ (needs a).filter fun dep => dep ∉ placed :=
      fun h => hneeds (List.mem_filter.1 h).1
    rw [if_neg hneeds, List.erase_of_not_mem hnot]
    rfl

/-- **What the count says** when these nodes are placed: the numbers are those
of the needs outstanding, and the ready nodes are the ones that wait for
none. What is placed waits for nothing. -/
structure Counts (needs : α → List α) (nodes placed : List α) (t : Tally α) : Prop where
  order : t.order = placed
  missing : ∀ a ∈ nodes, t.missing a = outstanding needs placed a
  mem_ready : ∀ a, a ∈ t.ready ↔ a ∈ nodes ∧ a ∉ placed ∧ outstanding needs placed a = 0
  ready : t.ready.Nodup
  settled : ∀ a ∈ placed, outstanding needs placed a = 0

/-- The count starts right. -/
theorem counts_start (distinct : nodes.Nodup) : Counts needs nodes [] (start needs nodes) where
  order := rfl
  missing a _ := by simp [start, outstanding]
  mem_ready a := by simp [start, outstanding]
  ready := distinct.filter _
  settled := by simp

/-- **Taking a ready node** never meets a need that is not missing, and leaves
the count right. -/
theorem Counts.take (h : Counts needs nodes placed t) (distinct : nodes.Nodup)
    (hneeds : ∀ a, (needs a).Nodup) (ha : a ∈ t.ready) :
    ∃ t', t.take needs nodes a = some t' ∧ Counts needs nodes (placed ++ [a]) t' := by
  obtain ⟨hnode, hnew, hnone⟩ := (h.mem_ready a).1 ha
  have hwaits : ∀ d ∈ nodes, a ∈ needs d → outstanding needs placed d ≠ 0 := by
    intro d _ had hzero
    exact hnew (outstanding_eq_zero.1 hzero a had)
  have hmissing : ∀ d ∈ nodes.filter (a ∈ needs ·), t.missing d ≠ 0 := by
    intro d hd
    obtain ⟨hd, had⟩ := List.mem_filter.1 hd
    rw [h.missing d hd]
    exact hwaits d hd (by simpa using had)
  refine ⟨_, foldlM_meet (distinct.filter _) hmissing, ?_⟩
  have hcount : ∀ d ∈ nodes, (if d ∈ nodes.filter (a ∈ needs ·) then t.missing d - 1
      else t.missing d) = outstanding needs (placed ++ [a]) d := by
    intro d hd
    rw [outstanding_snoc (hneeds d) hnew, h.missing d hd]
    exact if_congr (by simp [hd]) rfl rfl
  constructor
  · show t.order ++ [a] = placed ++ [a]
    rw [h.order]
  · exact hcount
  · intro d
    show d ∈ t.ready.erase a ++ (nodes.filter (a ∈ needs ·)).filter (fun d => t.missing d = 1) ↔ _
    rw [List.mem_append, h.ready.mem_erase_iff, h.mem_ready, List.mem_filter, List.mem_filter,
      outstanding_snoc (hneeds d) hnew, List.mem_append, List.mem_singleton]
    by_cases hd : d ∈ nodes
    · rw [h.missing d hd]
      by_cases had : a ∈ needs d
      · -- a node that needs the one taken is not placed, and becomes ready with its last need
        have hwait := hwaits d hd had
        have hunplaced : d ∉ placed := fun hp => hwait (h.settled d hp)
        have hda : d ≠ a := fun e => hwait (e ▸ hnone)
        simp only [hd, had, hunplaced, hda, hwait, if_true, decide_true, decide_eq_true_eq,
          true_and, and_false, false_or, or_self, not_false_eq_true]
        omega
      · simp only [hd, had, if_false, decide_false, Bool.false_eq_true, and_false]
        tauto
    · simp [hd]
  · show (t.ready.erase a ++ (nodes.filter (a ∈ needs ·)).filter (fun d => t.missing d = 1)).Nodup
    refine (h.ready.erase a).append ((distinct.filter _).filter _) fun d hd hd' => ?_
    obtain ⟨hd, hzero⟩ := ((h.mem_ready d).1 (List.mem_of_mem_erase hd)).imp_right (·.2)
    exact hmissing d (List.mem_filter.1 hd').1 (by rw [h.missing d hd, hzero])
  · intro d hd
    rw [outstanding_eq_zero]
    intro b hb
    rcases List.mem_append.1 hd with hd | hd
    · exact List.mem_append_left _ (outstanding_eq_zero.1 (h.settled d hd) b hb)
    · rw [List.mem_singleton.1 hd] at hb
      exact List.mem_append_left _ (outstanding_eq_zero.1 hnone b hb)

/-! ## All of them -/

/-- **The countdown places the same nodes** and no subtraction in it fails. -/
theorem Counts.run (distinct : nodes.Nodup) (hneeds : ∀ a, (needs a).Nodup) (count : Nat)
    (h : Counts needs nodes placed t) (hwaiting : waiting = nodes.filter (· ∉ placed)) :
    ∃ t', t.run needs nodes count = some t'
      ∧ (place needs count placed waiting).2
          = nodes.filter (· ∉ (place needs count placed waiting).1)
      ∧ Counts needs nodes (place needs count placed waiting).1 t' := by
  induction count generalizing placed waiting t with
  | zero => exact ⟨t, rfl, hwaiting, h⟩
  | succ count ih =>
    have hfind : nodes.find? (· ∈ t.ready)
        = waiting.find? fun node => outstanding needs placed node == 0 := by
      rw [hwaiting, List.find?_filter]
      refine List.find?_congr fun a ha => ?_
      simp [h.mem_ready, ha]
    rw [Tally.run, place, hfind]
    cases hnext : waiting.find? fun node => outstanding needs placed node == 0 with
    | none => exact ⟨t, rfl, hwaiting, h⟩
    | some a =>
      have ha : a ∈ t.ready := by
        simpa using List.find?_some (hfind.trans hnext)
      obtain ⟨t', htake, h'⟩ := h.take distinct hneeds ha
      have hrest : waiting.erase a = nodes.filter (· ∉ placed ++ [a]) := by
        rw [hwaiting, (distinct.filter _).erase_eq_filter, List.filter_filter]
        refine List.filter_congr fun d _ => ?_
        by_cases hd : d = a <;> simp [hd]
      show ∃ t'', (t.take needs nodes a).bind (Tally.run needs nodes count) = some t'' ∧ _
      rw [htake]
      exact ih h' hrest

end Tally

/-- **Arranging can be done by counting.** The countdown over the needs among
the nodes never goes below zero and comes to its end. If it has placed fewer
nodes than there are, those that still miss something are stuck, and otherwise
its order is the order of the nodes. -/
theorem exists_run_start {needs : α → List α} {nodes : List α} (distinct : nodes.Nodup) :
    ∃ t, (Tally.start (needsAmong needs nodes) nodes).run (needsAmong needs nodes) nodes
        nodes.length = some t
      ∧ t.ready = []
      ∧ arrange needs nodes
        = if t.order.length < nodes.length then .error (nodes.filter (0 < t.missing ·))
          else .ok t.order := by
  obtain ⟨order, stuck, hplace, h⟩ := exists_places (needsAmong needs nodes) distinct
  have hneeds : ∀ a, (needsAmong needs nodes a).Nodup := fun a => (nodup_fresh [] _).filter _
  have hnodes : nodes = nodes.filter (· ∉ ([] : List α)) := by simp
  obtain ⟨t, hrun, hstuck, hcounts⟩ :=
    (Tally.counts_start distinct).run distinct hneeds nodes.length hnodes
  simp only [hplace] at hstuck hcounts
  have hlength : order.length + stuck.length = nodes.length := by
    rw [← List.length_append, h.perm.length_eq]
  have hblocked : ∀ a ∈ stuck, outstanding (needsAmong needs nodes) order a ≠ 0 := by
    intro a ha hzero
    obtain ⟨b, hb, hnew⟩ := h.blocked a ha
    exact hnew (outstanding_eq_zero.1 hzero b hb)
  refine ⟨t, hrun, List.eq_nil_iff_forall_not_mem.2 fun a ha => ?_, ?_⟩
  · obtain ⟨hnode, hnew, hzero⟩ := (hcounts.mem_ready a).1 ha
    refine hblocked a ?_ hzero
    rw [hstuck]
    simp [hnode, hnew]
  · have hmissing : nodes.filter (0 < t.missing ·) = stuck := by
      rw [hstuck]
      refine List.filter_congr fun a ha => ?_
      rw [hcounts.missing a ha, decide_eq_decide, Nat.pos_iff_ne_zero]
      refine ⟨fun hwait hplaced => hwait (hcounts.settled a hplaced), fun hnew => hblocked a ?_⟩
      rw [hstuck]
      simp [ha, hnew]
    rw [arrange, hplace, hmissing, hcounts.order]
    cases stuck with
    | nil =>
      rw [if_neg]
      simp only [List.length_nil] at hlength
      omega
    | cons a rest =>
      rw [if_pos]
      simp only [List.length_cons] at hlength
      omega

end Xmpp.Order
