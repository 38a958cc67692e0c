import Xmpp.Proofs.Client.Run

/-!
# Annals

What a client is like often depends on its past, and on little of it: a few things that
happen are to be told, in their order, and the rest is not. A scribe decides which. He tells of an
operation, of handing over an item, and of a reaction of the controller, each from the
state in which it takes place (`Scribe`), and the annals of a client are what he has told
by now (`Scribe.Annals`).

What is told of one operation, from its beginning until it has returned, is its tale
(`Scribe.Tale`). Whatever the operations are, as long as the scribe can tell of them at all, there
are annals of the run, tale by tale (`Scribe.Annals.exists_foldl_operate`). Those of a given run can
be worked out (`Scribe.Annals.rehearse?`).
-/

namespace Xmpp

open Client

/-- Where a list with a last element is split, the last element is there or behind. -/
theorem concat_eq_append_cons {α : Type} {l before after : List α} {a b : α}
    (h : l ++ [a] = before ++ b :: after) :
    (l = before ∧ a = b ∧ after = []) ∨ ∃ rest, after = rest ++ [a] ∧ l = before ++ b :: rest := by
  obtain ⟨between, hbefore, hlast⟩ | ⟨between, hl, hbehind⟩ := List.append_eq_append_iff.1 h
  · obtain ⟨rfl, hsingle⟩ | ⟨-, hnil⟩ := List.singleton_eq_append_iff.1 hlast
    · obtain ⟨rfl, rfl⟩ := List.cons_eq_cons.1 hsingle
      exact .inl ⟨(hbefore.trans (List.append_nil l)).symm, rfl, rfl⟩
    · cases hnil
  · cases between with
    | nil =>
      obtain ⟨rfl, rfl⟩ := List.cons_eq_cons.1 hbehind
      exact .inl ⟨hl.trans (List.append_nil before), rfl, rfl⟩
    | cons first rest =>
      obtain ⟨rfl, rfl⟩ := List.cons_eq_cons.1 hbehind
      exact .inr ⟨rest, rfl, hl⟩

/-- **A scribe**: what there is to tell of the things that happen to a client. -/
structure Scribe (τ : Type) where
  /-- Which operations he can tell of. -/
  admits : Client → Operation → Prop
  /-- What there is to tell of an operation before the client comes to rest. -/
  operation : Client → Operation → List τ
  /-- What there is to tell of handing over an item. -/
  item : Client → Outgoing → List τ
  /-- What there is to tell of a reaction of the controller. -/
  reaction : Controller → Session → Event → List τ

namespace Scribe

variable {τ : Type} (w : Scribe τ)

/-- **The annals of a client**, from a state it was in: operations that begin when it is at
rest, and the moves by which it comes to rest. -/
inductive Annals (c₀ : Client) : List τ → Client → Prop
  /-- Nothing happened yet. -/
  | start : Annals c₀ [] c₀
  /-- An operation begins. -/
  | operate {told : List τ} {c : Client} (annals : Annals c₀ told c) (atRest : c.AtRest)
      (op : Operation) (admits : w.admits c op) :
      Annals c₀ (told ++ w.operation c op) (c.prepare op)
  /-- The oldest item of the outbox is handed over. -/
  | deliver {told : List τ} {c : Client} {item : Outgoing} {rest : List Outgoing}
      (annals : Annals c₀ told c) (ho : c.session.outbox = item :: rest) :
      Annals c₀ (told ++ w.item (c.withOutbox rest) item) ((c.withOutbox rest).deliver item)
  /-- With nothing to hand over, the controller reacts to the oldest event. -/
  | react {told : List τ} {c : Client} {event : Event} {rest : List Event}
      (annals : Annals c₀ told c) (ho : c.session.outbox = [])
      (he : c.session.events = event :: rest) :
      Annals c₀ (told ++ w.reaction c.controller (c.withEvents rest).session event)
        ((c.withEvents rest).handleEvent event)

/-- **Whether he can tell of a run of operations.** -/
def AdmitsAll (c : Client) : List Operation → Prop
  | [] => True
  | op :: rest => w.admits c op ∧ AdmitsAll (c.operate op) rest

variable {w}

/-- Operations he can tell of in every state. -/
theorem admitsAll_of_forall {ops : List Operation}
    (h : ∀ op ∈ ops, ∀ c, w.admits c op) (c : Client) : w.AdmitsAll c ops := by
  induction ops generalizing c with
  | nil => trivial
  | cons op rest ih =>
    exact ⟨h op List.mem_cons_self c,
      ih (fun other hmem => h other (List.mem_cons_of_mem op hmem)) _⟩

variable (w) in
/-- The scribe when he may only look on: he tells of moves, and can tell of no operation. -/
def lookingOn : Scribe τ :=
  { w with admits := fun _ _ => False }

variable (w) in
/-- **The tale of an operation**: what there is to tell of it, from the state of rest in which it
begins to the one in which it has returned. -/
def Tale (c : Client) (op : Operation) (told : List τ) (c' : Client) : Prop :=
  c'.AtRest ∧ ∃ later, told = w.operation c op ++ later
    ∧ w.lookingOn.Annals (c.prepare op) later c'

variable (w) in
/-- What there is to tell of the next moves, of this many at most, and what becomes of the
client. -/
def watch : Nat → Client → List τ × Client
  | 0, c => ([], c)
  | n + 1, c =>
    match c.session.outbox, c.session.events with
    | item :: rest, _ =>
      let c := c.withOutbox rest
      let (later, c') := watch n (c.deliver item)
      (w.item c item ++ later, c')
    | [], event :: rest =>
      let c := c.withEvents rest
      let (later, c') := watch n (c.handleEvent event)
      (w.reaction c.controller c.session event ++ later, c')
    | [], [] => ([], c)

variable (w) in
/-- What there is to tell of operations, each of which takes this many moves at most; nothing if
the client is not at rest before one of them. -/
def rehearse? (n : Nat) : List Operation → Client → Option (List τ × Client)
  | [], c => some ([], c)
  | op :: rest, c =>
    if c.session.outbox.isEmpty && c.session.events.isEmpty then
      let (now, c') := w.watch n (c.prepare op)
      (rehearse? n rest c').map fun (later, c'') => (w.operation c op ++ now ++ later, c'')
    else none

namespace Annals

variable {c₀ c c' : Client} {told later : List τ}

/-- Annals can be continued. -/
theorem trans (first : w.Annals c₀ told c) (second : w.Annals c later c') :
    w.Annals c₀ (told ++ later) c' := by
  induction second with
  | start => rwa [List.append_nil]
  | operate _ atRest op admits ih =>
    rw [← List.append_assoc]
    exact ih.operate atRest op admits
  | deliver _ ho ih =>
    rw [← List.append_assoc]
    exact ih.deliver ho
  | react _ ho he ih =>
    rw [← List.append_assoc]
    exact ih.react ho he

theorem moves {log : List Request} (annals : w.Annals c₀ told c) (moves : Moves c log c') :
    ∃ later, w.Annals c₀ (told ++ later) c' := by
  induction moves with
  | refl => exact ⟨[], by rwa [List.append_nil]⟩
  | deliver _ ho ih =>
    obtain ⟨later, annals⟩ := ih
    exact ⟨_, List.append_assoc .. ▸ annals.deliver ho⟩
  | react _ ho he ih =>
    obtain ⟨later, annals⟩ := ih
    exact ⟨_, List.append_assoc .. ▸ annals.react ho he⟩

/-- What he tells of moves when he may only look on, he tells always. -/
theorem of_lookingOn (annals : w.lookingOn.Annals c₀ told c) : w.Annals c₀ told c := by
  induction annals with
  | start => exact .start
  | operate _ _ _ admits => exact admits.elim
  | deliver _ ho ih => exact ih.deliver ho
  | react _ ho he ih => exact ih.react ho he

/-- Annals go on with the tale of the next operation. -/
theorem tale {op : Operation} (annals : w.Annals c₀ told c) (atRest : c.AtRest)
    (admits : w.admits c op) (tale : w.Tale c op later c') : w.Annals c₀ (told ++ later) c' := by
  obtain ⟨-, more, rfl, moved⟩ := tale
  rw [← List.append_assoc]
  exact (annals.operate atRest op admits).trans moved.of_lookingOn

variable (w) in
/-- **There is a tale of every operation.** -/
theorem exists_tale (atRest : c.AtRest) (op : Operation) :
    ∃ told, w.Tale c op told (c.operate op) := by
  obtain ⟨log, moved⟩ := Moves.run (c.prepare op)
  rw [← operate_eq atRest] at moved
  have begun : w.lookingOn.Annals (c.prepare op) [] (c.prepare op) := .start
  obtain ⟨later, moved⟩ := begun.moves moved
  exact ⟨_, atRest.operate op, later, rfl, moved⟩

/-- **Every run of operations he can tell of has annals.** -/
theorem exists_foldl_operate (atRest : c.AtRest) {ops : List Operation}
    (admits : w.AdmitsAll c ops) : ∃ told, w.Annals c told (ops.foldl Client.operate c) := by
  induction ops generalizing c with
  | nil => exact ⟨[], .start⟩
  | cons op rest ih =>
    obtain ⟨now, first⟩ := exists_tale w atRest op
    obtain ⟨later, second⟩ := ih (atRest.operate op) admits.2
    exact ⟨_, (start.tale atRest admits.1 first).trans second⟩

/-- What is watched can be told. -/
theorem watch (annals : w.Annals c₀ told c) (n : Nat) :
    w.Annals c₀ (told ++ (w.watch n c).1) (w.watch n c).2 := by
  induction n generalizing told c with
  | zero => exact (List.append_nil told).symm ▸ annals
  | succ n ih =>
    unfold Scribe.watch
    split
    · rename_i item rest ho
      dsimp only
      rw [← List.append_assoc]
      exact ih (annals.deliver ho)
    · rename_i event rest ho he
      dsimp only
      rw [← List.append_assoc]
      exact ih (annals.react ho he)
    · exact (List.append_nil told).symm ▸ annals

/-- **A rehearsal is told truly.** -/
theorem rehearse? {n : Nat} {ops : List Operation} (annals : w.Annals c₀ told c)
    (admits : ∀ op ∈ ops, ∀ c, w.admits c op) (h : w.rehearse? n ops c = some (later, c')) :
    w.Annals c₀ (told ++ later) c' := by
  induction ops generalizing told later c with
  | nil =>
    obtain ⟨rfl, rfl⟩ := Prod.mk.inj (Option.some.inj h)
    exact (List.append_nil told).symm ▸ annals
  | cons op rest ih =>
    rw [Scribe.rehearse?] at h
    split at h
    · rename_i hrest
      obtain ⟨ho, he⟩ := Bool.and_eq_true_iff.1 hrest
      have atRest : c.AtRest := ⟨List.isEmpty_iff.1 ho, List.isEmpty_iff.1 he⟩
      obtain ⟨⟨after, last⟩, hafter, heq⟩ := Option.map_eq_some_iff.1 h
      obtain ⟨rfl, rfl⟩ := Prod.mk.inj heq
      have first := (annals.operate atRest op (admits op List.mem_cons_self c)).watch n
      rw [← List.append_assoc, ← List.append_assoc]
      exact ih first (fun other hmem => admits other (List.mem_cons_of_mem op hmem)) hafter
    · cases h

end Annals

end Scribe

end Xmpp
