/-!
# Dependency order

Modules are installed in batches, and a module needs others to be there
before it. This file orders things that need one another, whatever they
are.

The *nodes* to be ordered are the things asked for that are not there yet,
each at its first mention, followed by everything they need directly or
indirectly, in the order of discovery: level by level, and within a level in
the order of the needing node and of its list. The order is built from the
front by always taking the first node whose needs are all placed. Nodes that
can never be taken are stuck: from each of them the needs lead into a
circle.
-/

namespace Xmpp.Order

variable {α : Type} [DecidableEq α]

/-- The elements of a list that are not known, each once, in order of first
mention. -/
def fresh (known : List α) : List α → List α
  | [] => []
  | a :: rest => if a ∈ known then fresh known rest else a :: fresh (a :: known) rest

/-- The fresh elements are those of the list that are not known. -/
@[simp] theorem mem_fresh {a : α} {known list : List α} :
    a ∈ fresh known list ↔ a ∈ list ∧ a ∉ known := by
  induction list generalizing known with
  | nil => simp [fresh]
  | cons b rest ih =>
    rw [fresh]
    split
    · rw [ih]
      grind
    · rw [List.mem_cons, ih]
      grind

/-- Each fresh element stands once. -/
theorem nodup_fresh (known list : List α) : (fresh known list).Nodup := by
  induction list generalizing known with
  | nil => simp [fresh]
  | cons b rest ih =>
    rw [fresh]
    split
    · exact ih known
    · exact List.nodup_cons.2 ⟨fun h => (mem_fresh.1 h).2 (List.mem_cons_self ..), ih _⟩

/-- Adds what the pending nodes need to those pending, taking one node after
another, at most `limit` of them. -/
def discover (needs : α → List α) (present : List α) :
    (limit : Nat) → (done pending : List α) → List α
  | 0, done, pending => done ++ pending
  | _ + 1, done, [] => done
  | limit + 1, done, node :: pending =>
    let missing := fresh (present ++ done ++ node :: pending) (needs node)
    discover needs present limit (done ++ [node]) (pending ++ missing)

/-- **The nodes to be ordered.** `all` holds everything that can be
needed; no more nodes than this can be discovered. -/
def nodes (needs : α → List α) (all present asked : List α) : List α :=
  discover needs present (asked.length + all.length) [] (fresh present asked)

/-- The nodes a node needs before it. What is not a node is there already. -/
def needsAmong (needs : α → List α) (nodes : List α) (node : α) : List α :=
  (fresh [] (needs node)).filter (· ∈ nodes)

/-- The number of nodes a node still waits for. -/
def outstanding (needs : α → List α) (placed : List α) (node : α) : Nat :=
  ((needs node).filter fun dep => dep ∉ placed).length

/-- Places nodes one by one, each time the first that waits for none, until
none can be placed; `count` bounds how many. -/
def place (needs : α → List α) : (count : Nat) → (placed waiting : List α) → List α × List α
  | 0, placed, waiting => (placed, waiting)
  | count + 1, placed, waiting =>
    match waiting.find? fun node => outstanding needs placed node == 0 with
    | none => (placed, waiting)
    | some node => place needs count (placed ++ [node]) (waiting.erase node)

/-- **The order of the nodes**, or the nodes that are stuck. -/
def arrange (needs : α → List α) (nodes : List α) : Except (List α) (List α) :=
  match place (needsAmong needs nodes) nodes.length [] nodes with
  | (placed, []) => .ok placed
  | (_, stuck) => .error stuck

end Xmpp.Order
