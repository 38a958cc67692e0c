import Mathlib.Data.List.Chain
import Mathlib.Data.List.Forall2
import Xmpp.Xml.Criterion

/-!
# What a chain of criteria looks for

A chain says of an element that it meets the first criterion, that some child of it meets the
second, and so on. Which child is to be taken is not said, and the first one that meets its
criterion need not be the right one: what comes next may be found below its sibling only. So
putting a chain to an element is a search, and one that has to come back from where it was
wrong.

What it searches for is a path of nested children along which the criteria are met one by one.
With paths every criterion gets a meaning that speaks of no search (`Criterion.Holds`), however
deep criteria are nested in one another, and selecting decides this meaning
(`Criterion.selects_iff_holds`). A chain at the end of another goes on from where that one has
come, so it is as good as its criteria (`Criterion.chainSelects_append_chain`), unless it has
none: then there would have to be one child more.
-/

namespace Xmpp

/-! ## Paths -/

/-- **A path** of nested elements that starts at an element: each one is a child of the one
before. -/
def Element.IsPath (e : Element) (path : List Element) : Prop :=
  path.head? = some e ∧ path.IsChain fun parent child => child ∈ parent.children

/-- A path ends where it starts, or goes on from a child. -/
theorem Element.isPath_cons_iff {e first : Element} {rest : List Element} :
    e.IsPath (first :: rest) ↔
      first = e ∧ (rest = [] ∨ ∃ child ∈ e.children, child.IsPath rest) := by
  unfold IsPath
  rw [List.head?_cons, Option.some_inj]
  refine and_congr_right ?_
  rintro rfl
  cases rest with
  | nil => simp
  | cons second rest => simp [List.isChain_cons_cons]

/-- No path is empty. -/
theorem Element.IsPath.exists_cons {e : Element} {path : List Element} (h : e.IsPath path) :
    ∃ rest, path = e :: rest ∧ (rest = [] ∨ ∃ child ∈ e.children, child.IsPath rest) := by
  cases path with
  | nil => cases h.1
  | cons first rest =>
    obtain ⟨rfl, hrest⟩ := isPath_cons_iff.1 h
    exact ⟨rest, rfl, hrest⟩

namespace Criterion

/-! ## Lists of criteria -/

theorem anySelects_eq (cs : List Criterion) (e : Element) :
    anySelects cs e = cs.any (·.selects e) := by
  induction cs with
  | nil => rfl
  | cons c cs ih => rw [anySelects, ih, List.any_cons]

theorem allSelect_eq (cs : List Criterion) (e : Element) :
    allSelect cs e = cs.all (·.selects e) := by
  induction cs with
  | nil => rfl
  | cons c cs ih => rw [allSelect, ih, List.all_cons]

/-- **The search succeeds if there is a path**: it tries all of them, since it goes on from
every child. -/
theorem chainSelects_iff {cs : List Criterion} (h : cs ≠ []) (e : Element) :
    chainSelects cs e = true ↔
      ∃ path, e.IsPath path ∧ List.Forall₂ (fun c x => c.selects x = true) cs path := by
  induction cs generalizing e with
  | nil => exact absurd rfl h
  | cons c cs ih =>
    rw [chainSelects, Bool.and_eq_true, Bool.or_eq_true, List.isEmpty_iff, List.any_eq_true]
    constructor
    · rintro ⟨hc, rfl | ⟨child, hchild, hcs⟩⟩
      · exact ⟨[e], Element.isPath_cons_iff.2 ⟨rfl, .inl rfl⟩, .cons hc .nil⟩
      · by_cases hnil : cs = []
        · subst hnil
          exact ⟨[e], Element.isPath_cons_iff.2 ⟨rfl, .inl rfl⟩, .cons hc .nil⟩
        · obtain ⟨path, hpath, hmet⟩ := (ih hnil child).1 hcs
          exact ⟨e :: path, Element.isPath_cons_iff.2 ⟨rfl, .inr ⟨child, hchild, hpath⟩⟩,
            .cons hc hmet⟩
    · rintro ⟨path, hpath, hmet⟩
      obtain ⟨rest, rfl, hrest⟩ := hpath.exists_cons
      obtain ⟨hc, hmet⟩ := List.forall₂_cons.1 hmet
      refine ⟨hc, ?_⟩
      rcases hrest with rfl | ⟨child, hchild, hrest⟩
      · exact .inl (List.forall₂_nil_right_iff.1 hmet)
      · have hcs : cs ≠ [] := by
          rintro rfl
          obtain rfl := List.forall₂_nil_left_iff.1 hmet
          cases hrest.1
        exact .inr ⟨child, hchild, (ih hcs child).2 ⟨rest, hrest, hmet⟩⟩

/-- **A chain at the end of a chain** goes on from where that one has come. -/
theorem chainSelects_append_chain (cs : List Criterion) {ds : List Criterion} (h : ds ≠ [])
    (e : Element) : chainSelects (cs ++ [chain ds]) e = chainSelects (cs ++ ds) e := by
  induction cs generalizing e with
  | nil =>
    -- whoever ends here need not go on to a child
    rw [List.nil_append, List.nil_append, chainSelects, selects]
    exact Bool.and_true _
  | cons c cs ih =>
    have hnil : (cs ++ [chain ds]).isEmpty = (cs ++ ds).isEmpty := by
      rw [List.isEmpty_eq_false_iff.2 (List.append_ne_nil_of_right_ne_nil cs (List.cons_ne_nil _ _)),
        List.isEmpty_eq_false_iff.2 (List.append_ne_nil_of_right_ne_nil cs h)]
    rw [List.cons_append, List.cons_append, chainSelects, chainSelects, hnil, funext ih]

/-! ## What criteria mean -/

/-- **What a criterion says of an element.** -/
def Holds : Criterion → Element → Prop
  | .name n, e => e.name = n
  | .xmlns s, e => e.ns = s
  | .nameAndXmlns n s, e => e.name = n ∧ e.ns = s
  | .any cs, e => ∃ c, ∃ _ : c ∈ cs, c.Holds e
  | .all cs, e => ∀ c, c ∈ cs → c.Holds e
  | .not c, e => ¬ c.Holds e
  | .chain cs, e =>
    cs = [] ∨ ∃ path, e.IsPath path ∧ cs.length = path.length
      ∧ ∀ c x, (c, x) ∈ cs.zip path → c.Holds x
termination_by c => c
decreasing_by
  · have := List.sizeOf_lt_of_mem ‹c ∈ cs›
    simp only [any.sizeOf_spec]
    omega
  · have := List.sizeOf_lt_of_mem ‹c ∈ cs›
    simp only [all.sizeOf_spec]
    omega
  · simp only [not.sizeOf_spec]
    omega
  · have := List.sizeOf_lt_of_mem (List.of_mem_zip ‹(c, x) ∈ cs.zip path›).1
    simp only [chain.sizeOf_spec]
    omega

/-- **Induction over criteria**, which may be nested in one another. -/
@[elab_as_elim]
theorem nestedInduction {motive : Criterion → Prop} (name : ∀ n, motive (.name n))
    (xmlns : ∀ s, motive (.xmlns s)) (nameAndXmlns : ∀ n s, motive (.nameAndXmlns n s))
    (any : ∀ cs, (∀ c ∈ cs, motive c) → motive (.any cs))
    (all : ∀ cs, (∀ c ∈ cs, motive c) → motive (.all cs))
    (not : ∀ c, motive c → motive (.not c))
    (chain : ∀ cs, (∀ c ∈ cs, motive c) → motive (.chain cs)) (c : Criterion) : motive c :=
  Criterion.rec (motive_2 := fun cs => ∀ c ∈ cs, motive c) name xmlns nameAndXmlns any all not
    chain (List.forall_mem_nil _) (fun _ _ hc hcs => List.forall_mem_cons.2 ⟨hc, hcs⟩) c

/-- **Selecting an element is finding that the criterion holds of it.** -/
theorem selects_iff_holds (c : Criterion) (e : Element) : c.selects e = true ↔ c.Holds e := by
  induction c using nestedInduction generalizing e with
  | name n => rw [selects, Holds, beq_iff_eq]
  | xmlns s => rw [selects, Holds, beq_iff_eq]
  | nameAndXmlns n s =>
    rw [selects, Holds, Element.is, Bool.and_eq_true, beq_iff_eq, beq_iff_eq]
  | any cs ih =>
    rw [selects, anySelects_eq, Holds, List.any_eq_true]
    simp only [exists_prop]
    exact exists_congr fun c => and_congr_right fun hc => ih c hc e
  | all cs ih =>
    rw [selects, allSelect_eq, Holds, List.all_eq_true]
    exact forall₂_congr fun c hc => ih c hc e
  | not c ih => rw [selects, Holds, Bool.not_eq_true', ← Bool.not_eq_true, ih]
  | chain cs ih =>
    rw [selects, Holds]
    by_cases hnil : cs = []
    · subst hnil
      exact iff_of_true rfl (.inl rfl)
    · rw [chainSelects_iff hnil, or_iff_right hnil]
      refine exists_congr fun path => and_congr_right fun _ => ?_
      rw [List.forall₂_iff_zip]
      refine and_congr_right fun _ => forall₂_congr fun c x => ?_
      exact forall_congr' fun h => ih c (List.of_mem_zip h).1 x

/-- **Chains search all paths.** A criterion selects an element if it holds of it, whatever it
is made of. In particular a chain that is not empty selects an element if some path that starts
there meets its criteria one by one. And a chain that ends with another chain selects the same as
one that ends with the criteria of that. -/
theorem searches_paths :
    (∀ (c : Criterion) (e : Element), c.selects e = true ↔ c.Holds e)
      ∧ (∀ (cs : List Criterion) (e : Element), cs ≠ [] →
        ((chain cs).selects e = true ↔
          ∃ path, e.IsPath path ∧ List.Forall₂ (fun c x => c.selects x = true) cs path))
      ∧ ∀ (cs ds : List Criterion) (e : Element), ds ≠ [] →
        (chain (cs ++ [chain ds])).selects e = (chain (cs ++ ds)).selects e := by
  refine ⟨selects_iff_holds, fun cs e hcs => ?_, fun cs ds e hds => ?_⟩
  · rw [selects]
    exact chainSelects_iff hcs e
  · rw [selects, selects]
    exact chainSelects_append_chain cs hds e

namespace Rehearsal

/-- A change of the roster with two queries, of which only the second has an item. -/
def twoQueries : Element where
  name := "iq"
  ns := Namespace.client
  content := Element.nodes
    [{ name := "query", ns := Namespace.roster },
      { name := "query"
        ns := Namespace.roster
        content := Element.nodes [{ name := "item", ns := Namespace.roster }] }]

/-- Below an `iq` a query that is not about discovery. -/
def above : List Criterion :=
  [.name "iq", .all [.name "query", .not (.xmlns Namespace.discoInfo)]]

end Rehearsal

open Rehearsal in
/-- In the rehearsal there is a path to the item by way of the second query, and it is found
whether the item is asked for by a chain of its own or not. -/
theorem searches_paths_rehearsal :
    (above ++ [.name "item"] ≠ [] ∧ [Criterion.name "item"] ≠ [])
      ∧ (∃ path, twoQueries.IsPath path ∧ List.Forall₂ (fun c x => c.selects x = true)
        (above ++ [.name "item"]) path)
      ∧ (chain (above ++ [chain [.name "item"]])).selects twoQueries = true := by
  obtain ⟨-, hpath, hjoin⟩ := searches_paths
  have hitem : [Criterion.name "item"] ≠ [] := List.cons_ne_nil _ _
  have hall : above ++ [.name "item"] ≠ [] := List.cons_ne_nil _ _
  have hselects : (chain (above ++ [.name "item"])).selects twoQueries = true := by rfl
  exact ⟨⟨hall, hitem⟩, (hpath _ _ hall).1 hselects, (hjoin _ _ _ hitem).trans hselects⟩

end Criterion

end Xmpp
