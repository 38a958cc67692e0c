import Mathlib.Data.List.Nodup
import Mathlib.Data.List.Perm.Subperm
import Mathlib.Logic.Relation
import Xmpp.Module.Order

/-!
# What a batch draws in

The nodes to be ordered are found by scanning a list that grows while it is
scanned: what a node needs and nobody has mentioned yet goes to the end. Two
things about this are not plain to see. One is that the list stops growing
before the bound on the scan cuts it off, although nothing is checked while
scanning. The other is in which order the nodes come to stand, since a node
put at the end waits behind all that was put there before it.

Both follow from taking the scan a level at a time. Scanning everything that
is pending now comes to the same as putting all that these nodes need behind
them at once, in their order; so the scan goes through the levels of a
breadth-first search. And since the list has no duplicates and stays within
what was asked for or can be needed, there is room for every level until one
is empty.
-/

namespace Xmpp.Order

open Relation

variable {α : Type} [DecidableEq α]
variable {needs : α → List α} {present known known' level list found : List α} {x : α}

/-! ## Fresh elements -/

/-- What is fresh depends only on which elements are known, not on how they
are listed. -/
theorem fresh_congr (h : ∀ a, a ∈ known ↔ a ∈ known') : fresh known list = fresh known' list := by
  induction list generalizing known known' with
  | nil => rfl
  | cons b rest ih =>
    have hb : (∀ a, a ∈ b :: known ↔ a ∈ b :: known') := by
      intro a
      rw [List.mem_cons, List.mem_cons, h a]
    rw [fresh, fresh, ih h, ih hb]
    exact if_congr (h b) rfl rfl

/-- In two lists on end, the second is searched knowing the first. -/
theorem fresh_append (front back : List α) :
    fresh known (front ++ back)
      = fresh known front ++ fresh (known ++ fresh known front) back := by
  induction front generalizing known with
  | nil =>
    show fresh known back = fresh (known ++ []) back
    rw [List.append_nil]
  | cons b rest ih =>
    rw [List.cons_append, fresh, fresh]
    by_cases hb : b ∈ known
    · rw [if_pos hb, if_pos hb, ih]
    · rw [if_neg hb, if_neg hb, ih, List.cons_append]
      congr 2
      refine fresh_congr fun a => ?_
      simp only [List.mem_append, List.mem_cons]
      tauto

/-! ## Level by level -/

/-- The next level of discovery: what the newest nodes need and is neither
present nor known, in their order. -/
def deeper (needs : α → List α) (present known level : List α) : List α :=
  fresh (present ++ known) (level.flatMap needs)

/-- **Breadth-first discovery.** From the known nodes, of which those of the
level were found last, these nodes are found: level after level stands behind
the known ones, until one is empty. -/
inductive BreadthFirst (needs : α → List α) (present : List α) :
    (known level found : List α) → Prop
  /-- Nothing further is needed. -/
  | complete {known level : List α} (h : deeper needs present known level = []) :
      BreadthFirst needs present known level known
  /-- One level further. -/
  | onward {known level found : List α}
      (h : BreadthFirst needs present (known ++ deeper needs present known level)
        (deeper needs present known level) found) :
      BreadthFirst needs present known level found

/-- **The scan takes a level at a time.** When it has gone through the nodes
that were pending, what they need stands behind everything else. -/
theorem discover_level (limit : Nat) (done level behind : List α) :
    discover needs present (level.length + limit) done (level ++ behind)
      = discover needs present limit (done ++ level)
          (behind ++ deeper needs present (done ++ level ++ behind) level) := by
  induction level generalizing done behind with
  | nil =>
    show discover needs present (0 + limit) done behind
      = discover needs present limit (done ++ []) (behind ++ [])
    rw [Nat.zero_add, List.append_nil, List.append_nil]
  | cons node rest ih =>
    have hlimit : (node :: rest).length + limit = (rest.length + limit) + 1 := by
      simp only [List.length_cons]
      omega
    rw [hlimit, List.cons_append, discover, List.append_assoc, ih]
    have hdone : done ++ [node] ++ rest = done ++ node :: rest := by simp
    have hfirst : fresh (present ++ done ++ node :: (rest ++ behind)) (needs node)
        = fresh (present ++ (done ++ node :: rest ++ behind)) (needs node) := by simp
    rw [hdone, hfirst, deeper, deeper, List.flatMap_cons, fresh_append, List.append_assoc behind]
    simp only [List.append_assoc]

/-- **The scan is breadth-first and ends by itself.** If the known nodes are
distinct, and they and everything needed are within a list, then a scan that
still has as many steps as this list has room for is not cut off. -/
theorem breadthFirst_discover (pool : List α) (hneeds : ∀ a, ∀ b ∈ needs a, b ∈ pool)
    (limit : Nat) (done level : List α) (distinct : (done ++ level).Nodup)
    (within : ∀ a ∈ done ++ level, a ∈ pool)
    (room : pool.length ≤ done.length + limit) :
    BreadthFirst needs present (done ++ level) level
      (discover needs present limit done level) := by
  induction limit using Nat.strongRecOn generalizing done level with
  | ind limit ih =>
  by_cases hlevel : level = []
  · subst hlevel
    have hrest : discover needs present limit done [] = done ++ [] := by
      cases limit with
      | zero => rfl
      | succ limit => exact (List.append_nil done).symm
    rw [hrest]
    exact .complete rfl
  · -- the distinct nodes fit into the list, so the scan reaches the end of the level
    have hfits : (done ++ level).length ≤ pool.length :=
      (List.subperm_of_subset distinct within).length_le
    have hpos : 0 < level.length := List.length_pos_of_ne_nil hlevel
    rw [List.length_append] at hfits
    obtain ⟨rest, rfl⟩ : ∃ rest, limit = level.length + rest := ⟨limit - level.length, by omega⟩
    have hscan : discover needs present (level.length + rest) done level
        = discover needs present rest (done ++ level)
          (deeper needs present (done ++ level) level) := by
      simpa using discover_level rest done level []
    rw [hscan]
    refine .onward (ih rest (by omega) (done ++ level) _ ?_ ?_ ?_)
    · refine distinct.append (nodup_fresh _ _) fun a ha hfresh => ?_
      exact (mem_fresh.1 hfresh).2 (List.mem_append_right _ ha)
    · intro a ha
      rcases List.mem_append.1 ha with ha | ha
      · exact within a ha
      · obtain ⟨b, -, hb⟩ := List.mem_flatMap.1 (mem_fresh.1 ha).1
        exact hneeds b a hb
    · rw [List.length_append]
      omega

/-- **The nodes are found breadth-first**, from what is asked for. -/
theorem breadthFirst_nodes {all : List α} (hneeds : ∀ a, ∀ b ∈ needs a, b ∈ all)
    (present asked : List α) :
    BreadthFirst needs present (fresh present asked) (fresh present asked)
      (nodes needs all present asked) := by
  refine breadthFirst_discover (asked ++ all)
    (fun a b hb => List.mem_append_right _ (hneeds a b hb)) _ [] (fresh present asked) ?_ ?_ ?_
  · exact nodup_fresh present asked
  · intro a ha
    exact List.mem_append_left _ (mem_fresh.1 ha).1
  · simp

namespace BreadthFirst

/-! ## Which nodes are found -/

/-- The known nodes stay in front. -/
theorem isPrefix (h : BreadthFirst needs present known level found) : known <+: found := by
  induction h with
  | complete _ => exact List.prefix_rfl
  | onward _ ih => exact (List.prefix_append _ _).trans ih

/-- Each node is found once. -/
theorem nodup (h : BreadthFirst needs present known level found) (distinct : known.Nodup) :
    found.Nodup := by
  induction h with
  | complete _ => exact distinct
  | @onward known level found _ ih =>
    refine ih (distinct.append (nodup_fresh _ _) fun a ha hfresh => ?_)
    exact (mem_fresh.1 hfresh).2 (List.mem_append_right _ ha)

/-- No node is present already. -/
theorem notMem_present (h : BreadthFirst needs present known level found)
    (apart : ∀ a ∈ known, a ∉ present) : ∀ a ∈ found, a ∉ present := by
  induction h with
  | complete _ => exact apart
  | onward _ ih =>
    refine ih fun a ha hpresent => ?_
    rcases List.mem_append.1 ha with ha | ha
    · exact apart a ha hpresent
    · exact (mem_fresh.1 ha).2 (List.mem_append_left _ hpresent)

/-- Discovery leaves nothing out: what a node needs is present or a node.
The known nodes before the level have been seen to. -/
theorem closed (h : BreadthFirst needs present known level found)
    (seen : ∀ a ∈ known, a ∉ level → ∀ b ∈ needs a, b ∈ present ∨ b ∈ known) :
    ∀ a ∈ found, ∀ b ∈ needs a, b ∈ present ∨ b ∈ found := by
  -- what a node of the level needs is present, known, or on the next level
  have hlevel : ∀ known level : List α, ∀ a ∈ level, ∀ b ∈ needs a,
      b ∈ present ∨ b ∈ known ++ deeper needs present known level := by
    intro known level a ha b hb
    by_cases hb' : b ∈ present ++ known
    · exact (List.mem_append.1 hb').imp_right (List.mem_append_left _)
    · refine .inr (List.mem_append_right _ (mem_fresh.2 ⟨?_, hb'⟩))
      exact List.mem_flatMap.2 ⟨a, ha, hb⟩
  induction h with
  | @complete known level hnone =>
    intro a ha b hb
    by_cases ha' : a ∈ level
    · have := hlevel known level a ha' b hb
      rwa [hnone, List.append_nil] at this
    · exact seen a ha ha' b hb
  | @onward known level found _ ih =>
    refine ih fun a ha hnew b hb => ?_
    by_cases ha' : a ∈ level
    · exact hlevel known level a ha' b hb
    · have ha : a ∈ known := (List.mem_append.1 ha).resolve_right hnew
      exact (seen a ha ha' b hb).imp_right (List.mem_append_left _)

/-- Discovery draws in nothing in vain: every node is known or needed, along
nodes that are not present, by one of the level. -/
theorem reached (h : BreadthFirst needs present known level found) (hx : x ∈ found) :
    x ∈ known ∨ ∃ a ∈ level, TransGen (fun a b => b ∈ needs a ∧ b ∉ present) a x := by
  induction h with
  | complete _ => exact .inl hx
  | @onward known level found _ ih =>
    have hstep : ∀ b ∈ deeper needs present known level,
        ∃ a ∈ level, b ∈ needs a ∧ b ∉ present := by
      intro b hb
      obtain ⟨hb, hnew⟩ := mem_fresh.1 hb
      obtain ⟨a, ha, hab⟩ := List.mem_flatMap.1 hb
      exact ⟨a, ha, hab, fun h => hnew (List.mem_append_left _ h)⟩
    rcases ih hx with hx | ⟨b, hb, hbx⟩
    · rcases List.mem_append.1 hx with hx | hx
      · exact .inl hx
      · obtain ⟨a, ha, hax⟩ := hstep x hx
        exact .inr ⟨a, ha, .single hax⟩
    · obtain ⟨a, ha, hab⟩ := hstep b hb
      exact .inr ⟨a, ha, hbx.head hab⟩

/-- **The nodes are what is needed, directly or indirectly.** Found from what
is asked for and not present, they are exactly what the needs lead to from
there without passing through something present. -/
theorem mem_iff {asked : List α}
    (h : BreadthFirst needs present (fresh present asked) (fresh present asked) found) :
    x ∈ found ↔ ∃ a ∈ asked, a ∉ present ∧
      ReflTransGen (fun a b => b ∈ needs a ∧ b ∉ present) a x := by
  constructor
  · intro hx
    rcases h.reached hx with hx | ⟨a, ha, hax⟩
    · exact ⟨x, (mem_fresh.1 hx).1, (mem_fresh.1 hx).2, .refl⟩
    · exact ⟨a, (mem_fresh.1 ha).1, (mem_fresh.1 ha).2, hax.to_reflTransGen⟩
  · rintro ⟨a, ha, hnew, hax⟩
    induction hax with
    | refl => exact h.isPrefix.subset (mem_fresh.2 ⟨ha, hnew⟩)
    | tail _ hbc ih =>
      have hclosed := h.closed fun a ha ha' => absurd ha ha'
      exact (hclosed _ ih _ hbc.1).resolve_left hbc.2

end BreadthFirst

end Xmpp.Order
