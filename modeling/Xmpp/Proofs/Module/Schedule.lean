import Mathlib.Data.List.Lex
import Mathlib.Data.List.Nodup
import Mathlib.Logic.Relation
import Mathlib.Order.Preorder.Finite
import Xmpp.Module.Order

/-!
# The first of all orders

Placing the first node that waits for none, again and again, is a greedy
choice, and a greedy choice may paint itself into a corner. Here it cannot.
A node that could be placed and was not can still be placed later, so no
choice closes off another, and the nodes left over when nothing can be placed
any more are left over whatever is chosen.

That gives the two halves of this file. If everything gets placed, then the
order is the first of all possible ones: at the first place where another
order differs, the other has a node that could be placed, and the one chosen
stands before it. If something is left over, then each of these nodes needs
another of them, and following the needs among finitely many nodes leads into
a circle. No node that was placed leads into one.
-/

namespace Xmpp.Order

open Relation

variable {α : Type} [DecidableEq α]
variable {needs needs' : α → List α}
variable {present placed placed' waiting order other stuck list : List α} {a b : α}

/-! ## Orders in which nothing comes too early -/

/-- **An orderly list**: when these are placed already, each thing in the
list finds all it needs placed when its turn comes. -/
def Orderly (needs : α → List α) : (placed order : List α) → Prop
  | _, [] => True
  | placed, a :: rest => (∀ b ∈ needs a, b ∈ placed) ∧ Orderly needs (placed ++ [a]) rest

omit [DecidableEq α] in
/-- In an orderly list everything needed is placed already or stands
earlier. -/
theorem orderly_iff : Orderly needs placed order ↔
    ∀ front a back, order = front ++ a :: back → ∀ b ∈ needs a, b ∈ placed ∨ b ∈ front := by
  induction order generalizing placed with
  | nil => simp [Orderly]
  | cons c rest ih =>
    rw [Orderly, ih]
    constructor
    · rintro ⟨hc, hrest⟩ front a back h b hb
      cases front with
      | nil =>
        obtain ⟨rfl, rfl⟩ := List.cons.inj h
        exact .inl (hc b hb)
      | cons d front =>
        obtain ⟨rfl, rfl⟩ := List.cons.inj h
        have := hrest front a back rfl b hb
        simp only [List.mem_append, List.mem_singleton] at this
        rw [List.mem_cons, ← or_assoc]
        exact this
    · intro h
      refine ⟨fun b hb => (h [] c rest rfl b hb).resolve_right List.not_mem_nil, ?_⟩
      intro front a back hrest b hb
      have := h (c :: front) a back (by rw [hrest, List.cons_append]) b hb
      rw [List.mem_cons, ← or_assoc] at this
      rwa [List.mem_append, List.mem_singleton]

/-- A list stays orderly if other needs are asked about, as long as what is
needed then was needed before, or is placed now. -/
theorem Orderly.of_needs (h : Orderly needs placed order)
    (hneeds : ∀ a ∈ order, ∀ b ∈ needs' a, b ∈ placed' ∨ b ∈ needs a ∧ b ∉ placed) :
    Orderly needs' placed' order := by
  induction order generalizing placed placed' with
  | nil => trivial
  | cons c rest ih =>
    obtain ⟨hc, hrest⟩ := h
    refine ⟨fun b hb => ?_, ih hrest fun a ha b hb => ?_⟩
    · rcases hneeds c List.mem_cons_self b hb with hb | ⟨hb, hnew⟩
      · exact hb
      · exact absurd (hc b hb) hnew
    · by_cases hbc : b = c
      · exact .inl (by simp [hbc])
      · refine (hneeds a (List.mem_cons_of_mem c ha) b hb).imp (List.mem_append_left _) fun h => ?_
        exact ⟨h.1, by simp [hbc, h.2]⟩

/-! ## What placing does -/

/-- A node waits for none if all it needs is placed. -/
@[simp] theorem outstanding_eq_zero :
    outstanding needs placed a = 0 ↔ ∀ b ∈ needs a, b ∈ placed := by
  simp [outstanding]

/-- **Placing**, told by its outcome: from these placed and those waiting, the
nodes of the order are placed one by one, each the first of the waiting that
waits for none, and the stuck ones are left. -/
inductive Places (needs : α → List α) : (placed waiting order stuck : List α) → Prop
  /-- Every node waits for another. -/
  | stop {placed waiting : List α} (h : ∀ a ∈ waiting, ∃ b ∈ needs a, b ∉ placed) :
      Places needs placed waiting [] waiting
  /-- A node is placed, and those before it could not be. -/
  | next {placed front back order stuck : List α} {a : α}
      (hfront : ∀ c ∈ front, ∃ b ∈ needs c, b ∉ placed) (ha : ∀ b ∈ needs a, b ∈ placed)
      (h : Places needs (placed ++ [a]) (front ++ back) order stuck) :
      Places needs placed (front ++ a :: back) (a :: order) stuck

/-- Placing goes on until nothing can be placed, if as many steps are allowed
as there are nodes. -/
theorem places_place (count : Nat) (placed : List α) {waiting : List α}
    (hcount : waiting.length ≤ count) (distinct : waiting.Nodup) :
    ∃ order stuck, place needs count placed waiting = (placed ++ order, stuck)
      ∧ Places needs placed waiting order stuck := by
  induction count generalizing placed waiting with
  | zero =>
    obtain rfl := List.eq_nil_of_length_eq_zero (Nat.le_zero.1 hcount)
    exact ⟨[], [], by rw [List.append_nil]; rfl, .stop (by simp)⟩
  | succ count ih =>
    rw [place]
    cases hfind : waiting.find? fun node => outstanding needs placed node == 0 with
    | none =>
      refine ⟨[], waiting, by rw [List.append_nil], .stop fun a ha => ?_⟩
      simpa using List.find?_eq_none.1 hfind a ha
    | some a =>
      obtain ⟨ha, front, back, rfl, hfront⟩ := List.find?_eq_some_iff_append.1 hfind
      have hnotin : a ∉ front := fun h =>
        (List.nodup_append.1 distinct).2.2 a h a List.mem_cons_self rfl
      have herase : (front ++ a :: back).erase a = front ++ back := by
        rw [List.erase_append_right _ hnotin, List.erase_cons_head]
      have hrest : (front ++ back).Nodup := herase ▸ distinct.erase a
      have hlength : (front ++ back).length ≤ count := by
        simp only [List.length_append, List.length_cons] at hcount ⊢
        omega
      obtain ⟨order, stuck, hplace, h⟩ := ih (placed ++ [a]) hlength hrest
      refine ⟨a :: order, stuck, ?_, .next (fun c hc => ?_) ?_ h⟩
      · show place needs count (placed ++ [a]) ((front ++ a :: back).erase a) = _
        rw [herase, hplace, List.append_assoc, List.singleton_append]
      · simpa using hfront c hc
      · simpa using ha

/-- Placing from the beginning. -/
theorem exists_places (needs : α → List α) (distinct : waiting.Nodup) :
    ∃ order stuck, place needs waiting.length [] waiting = (order, stuck)
      ∧ Places needs [] waiting order stuck :=
  places_place waiting.length [] (Nat.le_refl _) distinct

namespace Places

omit [DecidableEq α]

/-- Each waiting node is placed or left over. -/
theorem perm (h : Places needs placed waiting order stuck) : (order ++ stuck).Perm waiting := by
  induction h with
  | stop _ => exact .refl _
  | next _ _ _ ih => exact (ih.cons _).trans List.perm_middle.symm

/-- The nodes left over keep their order. -/
theorem sublist (h : Places needs placed waiting order stuck) : stuck.Sublist waiting := by
  induction h with
  | stop _ => exact .refl _
  | next _ _ _ ih => exact ih.trans ((List.Sublist.refl _).append (List.sublist_cons_self _ _))

/-- No node is placed too early. -/
theorem orderly (h : Places needs placed waiting order stuck) : Orderly needs placed order := by
  induction h with
  | stop _ => trivial
  | next _ ha _ ih => exact ⟨ha, ih⟩

/-- Each node left over needs something that was not placed. -/
theorem blocked (h : Places needs placed waiting order stuck) :
    ∀ a ∈ stuck, ∃ b ∈ needs a, b ∉ placed ++ order := by
  induction h with
  | stop h =>
    intro a ha
    rw [List.append_nil]
    exact h a ha
  | next _ _ _ ih =>
    intro a ha
    obtain ⟨b, hb, hnew⟩ := ih a ha
    exact ⟨b, hb, by rwa [List.append_assoc, List.singleton_append] at hnew⟩

/-- **Nothing comes before what placing finds.** If the waiting nodes have
increasing ranks and all get placed, then no orderly list of them has
lexicographically smaller ranks. -/
theorem not_lex (h : Places needs placed waiting order stuck) (hstuck : stuck = [])
    {rank : α → Nat} (ranked : waiting.Pairwise (rank · < rank ·))
    (hother : other.Perm waiting) (orderly : Orderly needs placed other) :
    ¬ List.Lex (· < ·) (other.map rank) (order.map rank) := by
  induction h generalizing other with
  | stop _ =>
    exact List.not_lex_nil
  | @next placed front back order stuck a hfront ha _ ih =>
    cases other with
    | nil => exact absurd hother.length_eq (by simp)
    | cons c rest =>
      -- the first node of the other order could be placed, so it is not before `a`
      have hc : c ∉ front := fun hc => by
        obtain ⟨b, hb, hnew⟩ := hfront c hc
        exact hnew (orderly.1 b hb)
      have hmem : c ∈ front ++ a :: back := hother.subset List.mem_cons_self
      rcases List.mem_cons.1 ((List.mem_append.1 hmem).resolve_left hc) with rfl | hback
      · have hperm : rest.Perm (front ++ back) := (hother.trans List.perm_middle).cons_inv
        have hranked : (front ++ back).Pairwise (rank · < rank ·) :=
          ranked.sublist ((List.Sublist.refl _).append (List.sublist_cons_self _ _))
        rw [List.map_cons, List.map_cons, List.lex_cons_iff]
        exact ih hstuck hranked hperm orderly.2
      · have hlt : rank a < rank c :=
          List.rel_of_pairwise_cons (List.pairwise_append.1 ranked).2.1 hback
        rw [List.map_cons, List.map_cons, List.cons_lex_cons_iff]
        rintro (h | ⟨h, -⟩)
        · exact absurd h (Nat.lt_asymm hlt)
        · exact absurd h hlt.ne'

end Places

/-! ## Circles -/

/-- A node requires another directly. -/
def Requires (needs : α → List α) (nodes : List α) (a b : α) : Prop :=
  a ∈ nodes ∧ b ∈ nodes ∧ b ∈ needs a

/-- **A circle** of nodes: one that requires itself, directly or
indirectly. -/
def Circular (needs : α → List α) (nodes : List α) : Prop :=
  ∃ a, TransGen (Requires needs nodes) a a

/-- A node from which the requirements lead into a circle. -/
def Entangled (needs : α → List α) (nodes : List α) (a : α) : Prop :=
  ∃ b, ReflTransGen (Requires needs nodes) a b ∧ TransGen (Requires needs nodes) b b

variable {nodes : List α}

omit [DecidableEq α] in
/-- There is a circle exactly if some node leads into one. -/
theorem circular_iff : Circular needs nodes ↔ ∃ a ∈ nodes, Entangled needs nodes a := by
  constructor
  · rintro ⟨a, ha⟩
    obtain ⟨_, hab, _⟩ := TransGen.head'_iff.1 ha
    exact ⟨a, hab.1, a, .refl, ha⟩
  · rintro ⟨a, -, b, -, hb⟩
    exact ⟨b, hb⟩

omit [DecidableEq α] in
/-- A node leads into a circle only through one of those it requires. -/
theorem Entangled.exists_requires (h : Entangled needs nodes a) :
    ∃ b, Requires needs nodes a b ∧ Entangled needs nodes b := by
  obtain ⟨c, hac, hc⟩ := h
  rcases hac.cases_head with rfl | ⟨b, hab, hbc⟩
  · obtain ⟨b, hab, hba⟩ := TransGen.head'_iff.1 hc
    exact ⟨b, hab, a, hba, hc⟩
  · exact ⟨b, hab, c, hbc, hc⟩

omit [DecidableEq α] in
/-- A node that finds all it requires placed leads into no circle. -/
theorem not_entangled_of_orderly (h : Orderly needs placed order)
    (hplaced : ∀ a ∈ placed, ¬ Entangled needs nodes a) :
    ∀ a ∈ order, ¬ Entangled needs nodes a := by
  induction order generalizing placed with
  | nil => simp
  | cons c rest ih =>
    have hc : ¬ Entangled needs nodes c := by
      intro hc
      obtain ⟨b, hb, hent⟩ := hc.exists_requires
      exact hplaced b (h.1 b hb.2.2) hent
    intro a ha
    rcases List.mem_cons.1 ha with rfl | ha
    · exact hc
    · refine ih h.2 (fun a ha => ?_) a ha
      rcases List.mem_append.1 ha with ha | ha
      · exact hplaced a ha
      · rwa [List.mem_singleton.1 ha]

omit [DecidableEq α] in
/-- **Among finitely many nodes, going on forever means going round.** If each
node of a list requires one of the list, each leads into a circle. -/
theorem entangled_of_forall_exists (h : ∀ a ∈ list, ∃ b ∈ list, Requires needs nodes a b)
    (ha : a ∈ list) : Entangled needs nodes a := by
  choose! next hmem hnext using h
  have hwalk : ∀ n, next^[n] a ∈ list := fun n => by
    induction n with
    | zero => exact ha
    | succ n ih =>
      rw [Function.iterate_succ_apply']
      exact hmem _ ih
  have hpath : ∀ n k, ReflTransGen (Requires needs nodes) (next^[n] a) (next^[n + k] a) :=
    fun n k => by
      induction k with
      | zero => exact .refl
      | succ k ih =>
        rw [← Nat.add_assoc, Function.iterate_succ_apply']
        exact ih.tail (hnext _ (hwalk _))
  -- the walk visits infinitely many places in a finite list
  obtain ⟨i, j, hij, hmeet⟩ : ∃ i j, i < j ∧ next^[i] a = next^[j] a := by
    have hfinite : {x | x ∈ list}.Finite := list.finite_toSet
    exact hfinite.exists_lt_map_eq_of_forall_mem hwalk
  refine ⟨next^[i] a, ?_, ?_⟩
  · simpa using hpath 0 i
  · have hfirst : Requires needs nodes (next^[i] a) (next^[i + 1] a) := by
      rw [Function.iterate_succ_apply']
      exact hnext _ (hwalk i)
    have hround := hpath (i + 1) (j - (i + 1))
    rw [Nat.add_sub_cancel' (by omega), ← hmeet] at hround
    exact .head' hfirst hround

/-! ## Arranging -/

/-- What a node needs among the nodes. -/
@[simp] theorem mem_needsAmong : b ∈ needsAmong needs nodes a ↔ b ∈ needs a ∧ b ∈ nodes := by
  simp [needsAmong]

/-- The nodes require the same of one another, whatever else they need. -/
theorem requires_needsAmong : Requires (needsAmong needs nodes) nodes = Requires needs nodes := by
  funext a b
  simp only [Requires, mem_needsAmong]
  exact propext (by tauto)

/-- The same nodes lead into circles, whatever else they need. -/
theorem entangled_needsAmong :
    Entangled (needsAmong needs nodes) nodes a ↔ Entangled needs nodes a := by
  rw [Entangled, requires_needsAmong, Entangled]

/-- **A schedule** of nodes: each stands in it once, after everything it needs
that is not present. -/
structure Schedule (needs : α → List α) (present nodes order : List α) : Prop where
  /-- It consists of the nodes. -/
  perm : order.Perm nodes
  /-- No node comes too early. -/
  orderly : Orderly needs present order

/-- **The first schedule**: lexicographically least by the positions of the
nodes. -/
structure FirstSchedule (needs : α → List α) (present nodes order : List α) : Prop
    extends Schedule needs present nodes order where
  /-- No schedule comes before it. -/
  least : ∀ other, Schedule needs present nodes other →
    ¬ List.Lex (· < ·) (other.map (nodes.idxOf ·)) (order.map (nodes.idxOf ·))

/-- **The stuck nodes**: those that lead into a circle, in node order. -/
structure Stuck (needs : α → List α) (nodes stuck : List α) : Prop where
  /-- They stand in node order. -/
  sublist : stuck.Sublist nodes
  /-- They are those that lead into a circle. -/
  mem_iff : ∀ a, a ∈ stuck ↔ a ∈ nodes ∧ Entangled needs nodes a

/-- Distinct nodes have increasing positions. -/
theorem pairwise_idxOf (distinct : nodes.Nodup) :
    nodes.Pairwise (nodes.idxOf · < nodes.idxOf ·) := by
  rw [List.pairwise_iff_getElem]
  intro i j hi hj hij
  rwa [distinct.idxOf_getElem, distinct.idxOf_getElem]

/-- A list is a schedule for the needs among the nodes exactly if it is one
for all needs, when nothing needed is missing. -/
theorem orderly_needsAmong (closed : ∀ a ∈ nodes, ∀ b ∈ needs a, b ∈ present ∨ b ∈ nodes)
    (apart : ∀ a ∈ nodes, a ∉ present) (within : ∀ a ∈ order, a ∈ nodes) :
    Orderly (needsAmong needs nodes) [] order ↔ Orderly needs present order := by
  constructor
  · refine fun h => h.of_needs fun a ha b hb => (closed a (within a ha) b hb).imp_right fun hn => ?_
    exact ⟨mem_needsAmong.2 ⟨hb, hn⟩, List.not_mem_nil⟩
  · refine fun h => h.of_needs fun a ha b hb => .inr ?_
    obtain ⟨hb, hn⟩ := mem_needsAmong.1 hb
    exact ⟨hb, apart b hn⟩

/-- Placing all nodes leaves over those that lead into a circle. -/
theorem Places.stuck_iff (h : Places (needsAmong needs nodes) [] nodes order stuck)
    (distinct : nodes.Nodup) : Stuck needs nodes stuck := by
  have hmem : ∀ {x}, x ∈ nodes ↔ x ∈ order ∨ x ∈ stuck := fun {x} => by
    rw [← h.perm.mem_iff, List.mem_append]
  have hdisjoint : ∀ {x}, x ∈ order → x ∉ stuck := fun {x} hx hx' =>
    (List.nodup_append.1 (h.perm.nodup_iff.2 distinct)).2.2 x hx x hx' rfl
  refine ⟨h.sublist, fun a => ⟨fun ha => ⟨hmem.2 (.inr ha), ?_⟩, fun ⟨ha, hent⟩ => ?_⟩⟩
  · -- a node left over needs a node that was not placed either
    refine entangled_of_forall_exists (fun c hc => ?_) ha
    obtain ⟨b, hb, hnew⟩ := h.blocked c hc
    obtain ⟨hb, hn⟩ := mem_needsAmong.1 hb
    exact ⟨b, (hmem.1 hn).resolve_left hnew, hmem.2 (.inr hc), hn, hb⟩
  · refine (hmem.1 ha).resolve_left fun hplaced => ?_
    rw [← entangled_needsAmong] at hent
    exact not_entangled_of_orderly h.orderly (by simp) a hplaced hent

/-- **The order of the nodes is the first schedule, or there is none.** Without
a circle the nodes are arranged into their first schedule; with one, those
that lead into a circle are reported. -/
theorem arrange_cases (distinct : nodes.Nodup)
    (closed : ∀ a ∈ nodes, ∀ b ∈ needs a, b ∈ present ∨ b ∈ nodes)
    (apart : ∀ a ∈ nodes, a ∉ present) :
    (¬ Circular needs nodes ∧
        ∃ order, arrange needs nodes = .ok order ∧ FirstSchedule needs present nodes order)
      ∨ (Circular needs nodes ∧
        ∃ stuck, arrange needs nodes = .error stuck ∧ Stuck needs nodes stuck) := by
  obtain ⟨order, stuck, hplace, h⟩ := exists_places (needsAmong needs nodes) distinct
  have hstuck : Stuck needs nodes stuck := h.stuck_iff distinct
  have hcircular : Circular needs nodes ↔ ∃ a, a ∈ stuck := by
    rw [circular_iff]
    exact exists_congr fun a => (hstuck.mem_iff a).symm
  cases stuck with
  | nil =>
    have hperm : order.Perm nodes := by simpa using h.perm
    have hsub : ∀ a ∈ order, a ∈ nodes := fun a ha => hperm.subset ha
    refine .inl ⟨by simp [hcircular], order, by rw [arrange, hplace], ⟨hperm, ?_⟩, ?_⟩
    · exact (orderly_needsAmong closed apart hsub).1 h.orderly
    · intro other hother
      refine h.not_lex rfl (pairwise_idxOf distinct) hother.perm ?_
      exact (orderly_needsAmong closed apart fun a ha => hother.perm.subset ha).2 hother.orderly
  | cons a rest =>
    refine .inr ⟨hcircular.2 ⟨a, List.mem_cons_self⟩, a :: rest, ?_, hstuck⟩
    rw [arrange, hplace]

end Xmpp.Order
