import Xmpp.Xml.Element

/-!
# Delivery of stanzas

Whoever writes an element gets a token and can watch the element on its way:
it waits in the outbox, is handed to the transport, and, on a stream that
acknowledges stanzas, is confirmed by the peer. On the way it may fail or be
dropped.

The states of all tokens stand on a `Board`, in the order in which the
tokens were made; a token is its place on the board. An `Entry` is an
element on its way out together with its token.
-/

namespace Xmpp

/-- The kinds of errors a transport reports. -/
inductive IoErrorKind where
  /-- The other side closed its end. -/
  | brokenPipe
  /-- The other side reset the connection. -/
  | connectionReset
  /-- The operation took too long. -/
  | timedOut
  /-- The operation would have to wait. -/
  | wouldBlock
  /-- Anything else. -/
  | other
deriving DecidableEq

/-- **An error of the transport.** -/
structure IoError where
  /-- The kind of the error. -/
  kind : IoErrorKind
  /-- The wording of the error. -/
  message : String
deriving DecidableEq

namespace Delivery

/-- **The stages of delivery**, in their order. -/
inductive Stage where
  /-- Waiting in the outbox. -/
  | queued
  /-- Handed to the transport. -/
  | sent
  /-- Confirmed by the peer. -/
  | acked
  /-- Refused by the transport. -/
  | failed
  /-- Discarded: never sent, or lost before it was confirmed. -/
  | dropped
deriving DecidableEq

/-- The place of a stage in the order. -/
def Stage.rank : Stage → Nat
  | .queued => 0
  | .sent => 1
  | .acked => 2
  | .failed => 3
  | .dropped => 4

instance : LE Stage := ⟨fun a b => a.rank ≤ b.rank⟩

instance (a b : Stage) : Decidable (a ≤ b) :=
  inferInstanceAs (Decidable (a.rank ≤ b.rank))

/-- The order of two stages. -/
def Stage.compare (a b : Stage) : Ordering :=
  Ord.compare a.rank b.rank

/-- **The state of an element** on its way. -/
inductive State where
  /-- Waiting in the outbox. -/
  | queued
  /-- Handed to the transport. -/
  | sent
  /-- Confirmed by the peer. -/
  | acked
  /-- Refused by the transport with this error. -/
  | failed (error : IoError)
  /-- Discarded. -/
  | dropped
deriving DecidableEq

/-- The stage of a state. -/
def State.stage : State → Stage
  | .queued => .queued
  | .sent => .sent
  | .acked => .acked
  | .failed _ => .failed
  | .dropped => .dropped

/-- **How waiting for a stage stands.** -/
inductive Progress where
  /-- The element is at the stage or beyond it. -/
  | reached (state : State)
  /-- It is not there yet. -/
  | pending
  /-- It will not get there, since nobody looks after it any more. -/
  | gone
deriving DecidableEq

/-- How waiting for a stage stands for an element in a state, which somebody
may still look after. -/
def State.progress (state : State) (stage : Stage) (isTracked : Bool) : Progress :=
  if stage ≤ state.stage then .reached state else if isTracked then .pending else .gone

/-- A token: its place on the board. -/
abbrev Token := Nat

/-- An element on its way out. -/
structure Entry where
  /-- The element. -/
  stanza : Element
  /-- Its token. -/
  token : Token
deriving DecidableEq

/-- **The states of all tokens.** -/
structure Board where
  /-- The states, in the order in which the tokens were made. -/
  states : List State := []
deriving DecidableEq

namespace Board

/-- Makes a token for an element that waits in the outbox. -/
def issue (b : Board) : Token × Board :=
  (b.states.length, ⟨b.states ++ [.queued]⟩)

/-- Changes the state of a token. -/
def set (b : Board) (token : Token) (state : State) : Board :=
  ⟨b.states.set token state⟩

/-- Changes the states of all these entries. -/
def setAll (b : Board) (entries : List Entry) (state : State) : Board :=
  entries.foldl (fun b entry => b.set entry.token state) b

/-- The state of a token, if it was made. -/
def state? (b : Board) (token : Token) : Option State :=
  b.states[token]?

@[simp] theorem state?_issue (b : Board) (token : Token) :
    b.issue.2.state? token =
      if token = b.issue.1 then some .queued else b.state? token := by
  show (b.states ++ [State.queued])[token]? =
    if token = b.states.length then some State.queued else b.states[token]?
  rcases Nat.lt_trichotomy token b.states.length with h | h | h
  · rw [List.getElem?_append_left h, if_neg (Nat.ne_of_lt h)]
  · simp [h]
  · rw [if_neg (Nat.ne_of_gt h), List.getElem?_eq_none (by simp; omega),
      List.getElem?_eq_none (Nat.le_of_lt h)]

@[simp] theorem state?_set (b : Board) (token other : Token) (state : State) :
    (b.set token state).state? other =
      if token = other then (b.state? other).map fun _ => state else b.state? other := by
  simp only [set, state?, List.getElem?_set]
  split
  · subst_vars
    split <;> rename_i h
    · simp [List.getElem?_eq_getElem h]
    · simp [List.getElem?_eq_none (Nat.le_of_not_lt h)]
  · rfl

@[simp] theorem state?_setAll (b : Board) (entries : List Entry) (state : State) (token : Token) :
    (b.setAll entries state).state? token =
      if entries.any (·.token = token) then (b.state? token).map fun _ => state
      else b.state? token := by
  induction entries generalizing b with
  | nil => simp [setAll]
  | cons entry rest ih =>
    rw [setAll, List.foldl_cons, ← setAll, ih, state?_set, List.any_cons]
    by_cases h : entry.token = token <;> cases rest.any (·.token = token) <;>
      simp [h, Function.comp_def]

/-- Entries that are marked one after another may be marked together. -/
theorem setAll_append (b : Board) (a c : List Entry) (state : State) :
    b.setAll (a ++ c) state = (b.setAll a state).setAll c state :=
  List.foldl_append

end Board

end Delivery

end Xmpp
