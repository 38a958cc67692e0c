import Mathlib.Data.List.Nodup
import Mathlib.Logic.Relation
import Xmpp.Proofs.Session.Drift

/-!
# The story of a token

A token moves on in one direction: from the outbox to the transport, and from there to
an end. Whether it keeps to that is a matter of who holds its element. While it waits
in the outbox, the outbox has it; when it was sent, the queue of the resumable session
may keep it; and when the session is resumed, it goes back to the outbox under the same
token. So an element that has been sent can be queued again, and it would be sent twice,
or confirmed and then sent, if it could be in both places.

The first half of this file is about these holders alone. A `Story` is what there is to
know about them, and a `Turn` is one of the few things that can happen: an element is
written, some of the kept ones are settled, all of them are to be sent again or are given
up, and the first one waiting is refused or taken. That a story is `Consistent` survives
every turn, and so does everything a token has come to.
-/

namespace Xmpp.Delivery

/-! ## Boards that move on -/

/-- Whether a state is the end of the story. -/
def State.IsFinal : State → Prop
  | .queued | .sent => False
  | .acked | .failed _ | .dropped => True

/-- **A board moves on**: no token is lost or falls back to an earlier stage, and one that
has come to its end stays there. -/
def Board.Advances (b b' : Board) : Prop :=
  ∀ token state, b.state? token = some state →
    ∃ state', b'.state? token = some state' ∧ state.stage ≤ state'.stage
      ∧ (state.IsFinal → state' = state)

namespace Board

variable {b b' b'' : Board} {entries : List Entry} {entry : Entry} {token : Token} {state : State}

theorem Advances.refl (b : Board) : b.Advances b :=
  fun _ state h => ⟨state, h, Nat.le_refl _, fun _ => rfl⟩

theorem Advances.trans (first : b.Advances b') (second : b'.Advances b'') : b.Advances b'' := by
  intro token state h
  obtain ⟨state', h', hle, hfinal⟩ := first token state h
  obtain ⟨state'', h'', hle', hfinal'⟩ := second token state' h'
  refine ⟨state'', h'', Nat.le_trans hle hle', fun hend => ?_⟩
  obtain rfl := hfinal hend
  exact hfinal' hend

/-- The entries that are marked come to be in that state. -/
theorem state?_setAll_of_mem {old : State} (hmem : entry ∈ entries)
    (h : b.state? entry.token = some old) :
    (b.setAll entries state).state? entry.token = some state := by
  have hany : entries.any (·.token = entry.token) = true :=
    List.any_eq_true.2 ⟨entry, hmem, by simp⟩
  rw [state?_setAll, if_pos hany, h]
  rfl

/-- A token of which none of these entries is the entry stays in its state. -/
theorem state?_setAll_of_notMem (h : token ∉ entries.map (·.token)) :
    (b.setAll entries state).state? token = b.state? token := by
  refine b.state?_setAll_of_forall_ne (fun entry hmem heq => ?_) state
  exact h (List.mem_map.2 ⟨entry, hmem, heq⟩)

/-- A board moves on when a token is made. -/
theorem advances_issue (b : Board) : b.Advances b.issue.2 := by
  intro token old h
  refine ⟨old, ?_, Nat.le_refl _, fun _ => rfl⟩
  have hne : token ≠ b.issue.1 := by
    rintro rfl
    have hnone : b.state? b.issue.1 = none := List.getElem?_eq_none (Nat.le_refl _)
    rw [hnone] at h
    cases h
  rw [state?_issue, if_neg hne]
  exact h

/-- A board moves on when entries are marked that have not come to their end and are not
beyond that stage. -/
theorem advances_setAll (h : ∀ entry ∈ entries, ∀ old, b.state? entry.token = some old →
    ¬ old.IsFinal ∧ old.stage ≤ state.stage) : b.Advances (b.setAll entries state) := by
  intro token old hold
  by_cases hmem : token ∈ entries.map (·.token)
  · obtain ⟨entry, hentry, rfl⟩ := List.mem_map.1 hmem
    obtain ⟨hopen, hle⟩ := h entry hentry old hold
    exact ⟨state, state?_setAll_of_mem hentry hold, hle, fun hfinal => absurd hfinal hopen⟩
  · exact ⟨old, by rw [state?_setAll_of_notMem hmem, hold], Nat.le_refl _, fun _ => rfl⟩

/-- The number of the next token is not taken. -/
theorem state?_issue_fst (b : Board) : b.state? b.issue.1 = none :=
  List.getElem?_eq_none (Nat.le_refl _)

end Board

/-! ## Stories -/

/-- **Who holds what**, and what became of it. -/
structure Story where
  /-- The states of all tokens. -/
  board : Board
  /-- The elements that were sent and are kept until they are confirmed, oldest first. -/
  kept : List Entry
  /-- The elements that wait in the outbox, oldest first. -/
  unsent : List Entry
  /-- The tokens of the elements the transport took, in that order; an element that was
  sent again stands there again. -/
  handed : List Token
  /-- The tokens of those that were kept when the transport took them last. -/
  managed : List Token

namespace Story

/-- **A turn of the story.** Only if the peer is heard are elements confirmed, sent again or
given up without a verdict; in the last case they are among the forgone ones. -/
inductive Turn (heard : Prop) (forgone : List Token) (a : Story) : Story → Prop
  /-- An element is written. -/
  | write (element : Element) :
      Turn heard forgone a
        { a with
          board := a.board.issue.2
          unsent := a.unsent ++ [⟨element, a.board.issue.1⟩] }
  /-- The oldest ones of the kept are confirmed or dropped. -/
  | settle {done rest : List Entry} (h : a.kept = done ++ rest) {state : State}
      (hstate : state = .dropped ∨ heard ∧ state = .acked) :
      Turn heard forgone a { a with board := a.board.setAll done state, kept := rest }
  /-- What is kept is to be sent again. -/
  | again (h : heard) : Turn heard forgone a { a with kept := [], unsent := a.unsent ++ a.kept }
  /-- What is kept is given up. -/
  | abandon (h : heard) (hforgone : ∀ entry ∈ a.kept, entry.token ∈ forgone) :
      Turn heard forgone a { a with kept := [] }
  /-- The first element that waits cannot be sent. -/
  | refuse {entry : Entry} {rest : List Entry} (h : a.unsent = entry :: rest) {state : State}
      (hstate : state = .dropped ∨ ∃ error, state = .failed error) :
      Turn heard forgone a { a with board := a.board.setAll [entry] state, unsent := rest }
  /-- The first element that waits is sent, and is not kept. -/
  | take {entry : Entry} {rest : List Entry} (h : a.unsent = entry :: rest) :
      Turn heard forgone a
        { a with
          board := a.board.setAll [entry] .sent
          unsent := rest
          handed := a.handed ++ [entry.token]
          managed := a.managed.filter (· ≠ entry.token) }
  /-- The first element that waits is sent and kept. -/
  | keep {entry : Entry} {rest : List Entry} (h : a.unsent = entry :: rest) :
      Turn heard forgone a
        { board := a.board.setAll [entry] .sent
          kept := a.kept ++ [entry]
          unsent := rest
          handed := a.handed ++ [entry.token]
          managed := a.managed ++ [entry.token] }

/-- **The last time** one token was handed over comes before the last time another was. -/
def LastBefore (handed : List Token) (first second : Token) : Prop :=
  ∃ front back, handed = front ++ back ∧ first ∈ front ∧ first ∉ back ∧ second ∈ back

/-- **A consistent story.** Nothing is held twice. What is kept was sent, stands in the order
in which it was sent last, and was meant to be kept. What waits has not come to its end, and
whatever is queued waits. What was meant to be kept when it was sent last, and has not come
to its end, is still kept, or waits to be sent again, or was forgone. -/
structure Consistent (forgone : List Token) (a : Story) : Prop where
  distinct : ((a.kept ++ a.unsent).map (·.token)).Nodup
  sent : ∀ entry ∈ a.kept, a.board.state? entry.token = some .sent
  waiting : ∀ entry ∈ a.unsent,
    a.board.state? entry.token = some .queued ∨ a.board.state? entry.token = some .sent
  queued : ∀ token, a.board.state? token = some .queued → token ∈ a.unsent.map (·.token)
  ordered : a.kept.Pairwise fun first second => LastBefore a.handed first.token second.token
  meant : ∀ entry ∈ a.kept, entry.token ∈ a.managed
  taken : ∀ token ∈ a.managed, token ∈ a.handed
  held : ∀ token ∈ a.managed, a.board.state? token = some .sent →
    token ∈ a.kept.map (·.token) ∨ token ∈ a.unsent.map (·.token) ∨ token ∈ forgone

variable {heard : Prop} {forgone forgone' : List Token} {a a' : Story}

namespace Consistent

variable (h : a.Consistent forgone)

include h

/-- What is forgone may be more than that. -/
theorem widen (hle : ∀ token ∈ forgone, token ∈ forgone') : a.Consistent forgone' :=
  { h with held := fun token hmem hsent =>
      (h.held token hmem hsent).imp_right fun hrest => hrest.imp_right (hle token) }

end Consistent

/-- The order in which tokens were handed over last stays as it is when another one is. -/
theorem LastBefore.append {handed : List Token} {first second token : Token}
    (h : LastBefore handed first second) (hne : token ≠ first) :
    LastBefore (handed ++ [token]) first second := by
  obtain ⟨front, back, rfl, hfirst, hnot, hsecond⟩ := h
  refine ⟨front, back ++ [token], by rw [List.append_assoc], hfirst, ?_, ?_⟩
  · simp [hnot, Ne.symm hne]
  · exact List.mem_append_left _ hsecond

/-- **A turn of a consistent story moves the board on.** -/
theorem Turn.advances (turn : Turn heard forgone a a') (h : a.Consistent forgone) :
    a.board.Advances a'.board := by
  have waits {entry : Entry} {rest : List Entry} (hunsent : a.unsent = entry :: rest)
      {old : State} (hold : a.board.state? entry.token = some old) :
      ¬ old.IsFinal ∧ old.stage ≤ Stage.sent := by
    rcases h.waiting entry (hunsent ▸ List.mem_cons_self) with hstate | hstate <;>
      obtain rfl := Option.some.inj (hold.symm.trans hstate)
    · exact ⟨id, by decide⟩
    · exact ⟨id, by decide⟩
  have onward {old state : State} (hle : old.stage ≤ Stage.sent)
      (hstate : Stage.sent ≤ state.stage) : old.stage ≤ state.stage := Nat.le_trans hle hstate
  cases turn with
  | write element => exact a.board.advances_issue
  | @settle done rest hkept state hstate =>
    refine Board.advances_setAll fun entry hmem old hold => ?_
    have hsent := h.sent entry (by rw [hkept]; exact List.mem_append_left _ hmem)
    obtain rfl := Option.some.inj (hold.symm.trans hsent)
    refine ⟨id, ?_⟩
    rcases hstate with rfl | ⟨-, rfl⟩ <;> decide
  | again _ => exact .refl _
  | abandon _ _ => exact .refl _
  | @refuse entry rest hunsent state hstate =>
    refine Board.advances_setAll fun other hmem old hold => ?_
    obtain rfl := List.mem_singleton.1 hmem
    obtain ⟨hopen, hle⟩ := waits hunsent hold
    refine ⟨hopen, onward hle ?_⟩
    rcases hstate with rfl | ⟨error, rfl⟩
    · decide
    · exact (by decide : Stage.sent ≤ Stage.failed)
  | @take entry rest hunsent | @keep entry rest hunsent =>
    refine Board.advances_setAll fun other hmem old hold => ?_
    obtain rfl := List.mem_singleton.1 hmem
    exact waits hunsent hold

/-! ## Every turn keeps a story consistent -/

namespace Consistent

variable (h : a.Consistent forgone)

include h

/-- A token that is made is not held by anyone. -/
theorem ne_issue {entry : Entry} (hmem : entry ∈ a.kept ++ a.unsent) :
    entry.token ≠ a.board.issue.1 := by
  have hmade : a.board.state? entry.token ≠ none := by
    rcases List.mem_append.1 hmem with hmem | hmem
    · simp [h.sent entry hmem]
    · rcases h.waiting entry hmem with hstate | hstate <;> simp [hstate]
  exact fun heq => hmade (heq ▸ Board.state?_issue_fst a.board)

/-- An element is written. -/
theorem write (element : Element) :
    Consistent forgone
      { a with
        board := a.board.issue.2
        unsent := a.unsent ++ [⟨element, a.board.issue.1⟩] } := by
  have hold {entry : Entry} (hmem : entry ∈ a.kept ++ a.unsent) :
      a.board.issue.2.state? entry.token = a.board.state? entry.token := by
    rw [Board.state?_issue, if_neg (h.ne_issue hmem)]
  constructor
  · show ((a.kept ++ (a.unsent ++ [_])).map Entry.token).Nodup
    rw [← List.append_assoc, List.map_append]
    refine h.distinct.append (List.nodup_singleton _) fun token hheld hone => ?_
    obtain ⟨entry, hmem, rfl⟩ := List.mem_map.1 hheld
    exact h.ne_issue hmem (List.mem_singleton.1 hone)
  · intro entry hmem
    show a.board.issue.2.state? entry.token = _
    rw [hold (List.mem_append_left _ hmem)]
    exact h.sent entry hmem
  · intro entry hmem
    show a.board.issue.2.state? entry.token = _ ∨ a.board.issue.2.state? entry.token = _
    rcases List.mem_append.1 hmem with hmem | hmem
    · rw [hold (List.mem_append_right _ hmem)]
      exact h.waiting entry hmem
    · obtain rfl := List.mem_singleton.1 hmem
      exact .inl (by simp)
  · intro token hqueued
    show token ∈ (a.unsent ++ [_]).map Entry.token
    by_cases heq : token = a.board.issue.1
    · simp [heq]
    · have hqueued : a.board.issue.2.state? token = some .queued := hqueued
      rw [Board.state?_issue, if_neg heq] at hqueued
      rw [List.map_append]
      exact List.mem_append_left _ (h.queued token hqueued)
  · exact h.ordered
  · exact h.meant
  · exact h.taken
  · intro token hmem hsent
    have hsent : a.board.issue.2.state? token = some .sent := hsent
    have hne : token ≠ a.board.issue.1 := by
      rintro rfl
      simp at hsent
    rw [Board.state?_issue, if_neg hne] at hsent
    refine (h.held token hmem hsent).imp_right fun hrest => hrest.imp_left fun hwaits => ?_
    show token ∈ (a.unsent ++ [_]).map Entry.token
    rw [List.map_append]
    exact List.mem_append_left _ hwaits

/-- The oldest ones of the kept are settled. -/
theorem settle {done rest : List Entry} (hkept : a.kept = done ++ rest) {state : State}
    (hqueued : State.queued ≠ state) (hsent : State.sent ≠ state) :
    Consistent forgone { a with board := a.board.setAll done state, kept := rest } := by
  have hsub : rest.Sublist a.kept := by
    rw [hkept]
    exact List.sublist_append_right _ _
  have hdistinct := h.distinct
  rw [hkept, List.append_assoc, List.map_append, List.map_append] at hdistinct
  have hapart : ∀ token ∈ rest.map (·.token) ++ a.unsent.map (·.token),
      token ∉ done.map (·.token) := fun token hmem hdone =>
    (List.nodup_append.1 hdistinct).2.2 token hdone token hmem rfl
  have hother {token : Token} (hmem : token ∉ done.map (·.token)) :
      (a.board.setAll done state).state? token = a.board.state? token :=
    Board.state?_setAll_of_notMem hmem
  -- a token in another state than this one was not settled
  have hnot {token : Token} {old : State} (hold : old ≠ state)
      (hstate : (a.board.setAll done state).state? token = some old) :
      token ∉ done.map (·.token) := by
    intro hmem
    obtain ⟨entry, hentry, rfl⟩ := List.mem_map.1 hmem
    have hwas := h.sent entry (hkept ▸ List.mem_append_left _ hentry)
    rw [Board.state?_setAll_of_mem hentry hwas] at hstate
    exact hold (Option.some.inj hstate).symm
  constructor
  · exact h.distinct.sublist ((hsub.append (List.Sublist.refl _)).map _)
  · intro entry hmem
    show (a.board.setAll done state).state? entry.token = _
    rw [hother (hapart _ (List.mem_append_left _ (List.mem_map_of_mem hmem)))]
    exact h.sent entry (hsub.subset hmem)
  · intro entry hmem
    show (a.board.setAll done state).state? entry.token = _
      ∨ (a.board.setAll done state).state? entry.token = _
    rw [hother (hapart _ (List.mem_append_right _ (List.mem_map_of_mem hmem)))]
    exact h.waiting entry hmem
  · intro token hstate
    have hopen := hnot hqueued hstate
    exact h.queued token ((hother hopen).symm.trans hstate)
  · exact h.ordered.sublist hsub
  · exact fun entry hmem => h.meant entry (hsub.subset hmem)
  · exact h.taken
  · intro token hmem hstate
    have hopen := hnot hsent hstate
    refine (h.held token hmem ((hother hopen).symm.trans hstate)).imp_left fun hkeeps => ?_
    rw [hkept, List.map_append] at hkeeps
    exact (List.mem_append.1 hkeeps).resolve_left hopen

/-- What is kept is to be sent again. -/
theorem again : Consistent forgone { a with kept := [], unsent := a.unsent ++ a.kept } := by
  constructor
  · show ((a.unsent ++ a.kept).map Entry.token).Nodup
    exact (List.perm_append_comm.map _).nodup_iff.1 h.distinct
  · simp
  · intro entry hmem
    rcases List.mem_append.1 hmem with hmem | hmem
    · exact h.waiting entry hmem
    · exact .inr (h.sent entry hmem)
  · intro token hqueued
    show token ∈ (a.unsent ++ a.kept).map (·.token)
    rw [List.map_append]
    exact List.mem_append_left _ (h.queued token hqueued)
  · exact List.Pairwise.nil
  · simp
  · exact h.taken
  · intro token hmem hsent
    have := h.held token hmem hsent
    show _ ∨ token ∈ (a.unsent ++ a.kept).map (·.token) ∨ _
    rw [List.map_append, List.mem_append]
    tauto

/-- What is kept is given up. -/
theorem abandon (hforgone : ∀ entry ∈ a.kept, entry.token ∈ forgone) :
    Consistent forgone { a with kept := [] } := by
  constructor
  · exact h.distinct.sublist ((List.sublist_append_right _ _).map _)
  · simp
  · exact h.waiting
  · exact h.queued
  · exact List.Pairwise.nil
  · simp
  · exact h.taken
  · intro token hmem hsent
    rcases h.held token hmem hsent with hkept | hrest
    · obtain ⟨entry, hentry, rfl⟩ := List.mem_map.1 hkept
      exact .inr (.inr (hforgone entry hentry))
    · exact .inr hrest

section First

variable {entry : Entry} {rest : List Entry} (hunsent : a.unsent = entry :: rest)

include hunsent

/-- The first element that waits is nowhere else. -/
theorem first_apart : entry.token ∉ a.kept.map (·.token) ∧ entry.token ∉ rest.map (·.token) := by
  have hdistinct := h.distinct
  rw [hunsent, List.map_append, List.map_cons] at hdistinct
  obtain ⟨-, hwaiting, hapart⟩ := List.nodup_append.1 hdistinct
  refine ⟨fun hkept => hapart _ hkept _ List.mem_cons_self rfl, ?_⟩
  exact (List.nodup_cons.1 hwaiting).1

/-- The first element that waits is marked. -/
theorem state?_first (state : State) :
    (a.board.setAll [entry] state).state? entry.token = some state := by
  have hmem : entry ∈ a.unsent := hunsent ▸ List.mem_cons_self
  rcases h.waiting entry hmem with hstate | hstate
  · exact Board.state?_setAll_of_mem List.mem_cons_self hstate
  · exact Board.state?_setAll_of_mem List.mem_cons_self hstate

/-- The first element that waits leaves the outbox and is not kept. It must not count as
kept then, unless its story ends. -/
theorem leave {state : State} (hqueued : State.queued ≠ state) {handed managed : List Token}
    (hordered : a.kept.Pairwise fun first second => LastBefore handed first.token second.token)
    (hmeant : ∀ other ∈ a.kept, other.token ∈ managed) (htaken : ∀ token ∈ managed, token ∈ handed)
    (hmanaged : ∀ token ∈ managed, token ∈ a.managed ∧ (token = entry.token → state ≠ .sent)) :
    Consistent forgone
      ⟨a.board.setAll [entry] state, a.kept, rest, handed, managed⟩ := by
  obtain ⟨hkept, hrest⟩ := h.first_apart hunsent
  have hother {token : Token} (hne : token ≠ entry.token) :
      (a.board.setAll [entry] state).state? token = a.board.state? token :=
    Board.state?_setAll_of_notMem (by simpa using hne)
  have hsub : rest.Sublist a.unsent := hunsent ▸ List.sublist_cons_self _ _
  constructor
  · exact h.distinct.sublist (((List.Sublist.refl _).append hsub).map _)
  · intro other hmem
    show (a.board.setAll [entry] state).state? other.token = _
    rw [hother fun heq => hkept (heq ▸ List.mem_map_of_mem hmem)]
    exact h.sent other hmem
  · intro other hmem
    show (a.board.setAll [entry] state).state? other.token = _
      ∨ (a.board.setAll [entry] state).state? other.token = _
    rw [hother fun heq => hrest (heq ▸ List.mem_map_of_mem hmem)]
    exact h.waiting other (hsub.subset hmem)
  · intro token hstate
    have hne : token ≠ entry.token := by
      rintro rfl
      exact hqueued (Option.some.inj (hstate.symm.trans (h.state?_first hunsent state)))
    have hwaits := h.queued token ((hother hne).symm.trans hstate)
    rw [hunsent] at hwaits
    exact (List.mem_cons.1 hwaits).resolve_left hne
  · exact hordered
  · exact hmeant
  · exact htaken
  · intro token hmem hstate
    obtain ⟨hmem, hend⟩ := hmanaged token hmem
    have hne : token ≠ entry.token := by
      rintro rfl
      exact hend rfl (Option.some.inj ((h.state?_first hunsent state).symm.trans hstate))
    have hheld := h.held token hmem ((hother hne).symm.trans hstate)
    rw [hunsent] at hheld
    exact hheld.imp_right fun hwaits => hwaits.imp_left fun hwaits =>
      (List.mem_cons.1 hwaits).resolve_left hne

/-- The first element that waits is sent and kept. -/
theorem keep : Consistent forgone
    { board := a.board.setAll [entry] .sent
      kept := a.kept ++ [entry]
      unsent := rest
      handed := a.handed ++ [entry.token]
      managed := a.managed ++ [entry.token] } := by
  obtain ⟨hkept, hrest⟩ := h.first_apart hunsent
  have hother {token : Token} (hne : token ≠ entry.token) :
      (a.board.setAll [entry] State.sent).state? token = a.board.state? token :=
    Board.state?_setAll_of_notMem (by simpa using hne)
  have hsub : rest.Sublist a.unsent := hunsent ▸ List.sublist_cons_self _ _
  have hne {other : Entry} (hmem : other ∈ a.kept) : entry.token ≠ other.token :=
    fun heq => hkept (heq ▸ List.mem_map_of_mem hmem)
  constructor
  · have hdistinct := h.distinct
    rw [hunsent] at hdistinct
    show ((a.kept ++ [entry] ++ rest).map (·.token)).Nodup
    rwa [List.append_assoc, List.singleton_append]
  · intro other hmem
    show (a.board.setAll [entry] State.sent).state? other.token = _
    rcases List.mem_append.1 hmem with hmem | hmem
    · rw [hother (hne hmem).symm]
      exact h.sent other hmem
    · obtain rfl := List.mem_singleton.1 hmem
      exact h.state?_first hunsent _
  · intro other hmem
    show (a.board.setAll [entry] State.sent).state? other.token = _
      ∨ (a.board.setAll [entry] State.sent).state? other.token = _
    rw [hother fun heq => hrest (heq ▸ List.mem_map_of_mem hmem)]
    exact h.waiting other (hsub.subset hmem)
  · intro token hstate
    have hne : token ≠ entry.token := by
      rintro rfl
      exact absurd (hstate.symm.trans (h.state?_first hunsent _)) (by decide)
    have hwaits := h.queued token ((hother hne).symm.trans hstate)
    rw [hunsent] at hwaits
    exact (List.mem_cons.1 hwaits).resolve_left hne
  · -- what was kept before was handed over before, and the new one stands last
    refine List.pairwise_append.2 ⟨?_, List.pairwise_singleton _ _, ?_⟩
    · exact h.ordered.imp_of_mem fun hfirst _ horder => horder.append (hne hfirst)
    · intro first hfirst second hsecond
      obtain rfl := List.mem_singleton.1 hsecond
      refine ⟨a.handed, [second.token], rfl, h.taken _ (h.meant first hfirst), ?_, by simp⟩
      simpa using (hne hfirst).symm
  · intro other hmem
    rcases List.mem_append.1 hmem with hmem | hmem
    · exact List.mem_append_left _ (h.meant other hmem)
    · exact List.mem_append_right _ (by simp [List.mem_singleton.1 hmem])
  · intro token hmem
    rcases List.mem_append.1 hmem with hmem | hmem
    · exact List.mem_append_left _ (h.taken token hmem)
    · exact List.mem_append_right _ hmem
  · intro token hmem hstate
    show token ∈ (a.kept ++ [entry]).map (·.token) ∨ _
    by_cases heq : token = entry.token
    · exact .inl (by simp [heq])
    · have hmem : token ∈ a.managed :=
        (List.mem_append.1 hmem).resolve_right fun hone => heq (List.mem_singleton.1 hone)
      have hheld := h.held token hmem ((hother heq).symm.trans hstate)
      rw [hunsent] at hheld
      rcases hheld with hkeeps | hwaits | hforgone
      · rw [List.map_append]
        exact .inl (List.mem_append_left _ hkeeps)
      · exact .inr (.inl ((List.mem_cons.1 hwaits).resolve_left heq))
      · exact .inr (.inr hforgone)

end First

end Consistent

/-- **A turn keeps a story consistent.** -/
theorem Turn.consistent (turn : Turn heard forgone a a') (h : a.Consistent forgone) :
    a'.Consistent forgone := by
  cases turn with
  | write element => exact h.write element
  | settle hkept hstate =>
    rcases hstate with rfl | ⟨-, rfl⟩
    · exact h.settle hkept (by decide) (by decide)
    · exact h.settle hkept (by decide) (by decide)
  | again _ => exact h.again
  | abandon _ hforgone => exact h.abandon hforgone
  | refuse hunsent hstate =>
    rcases hstate with rfl | ⟨error, rfl⟩
    · exact h.leave hunsent (by decide) h.ordered h.meant h.taken
        fun token hmem => ⟨hmem, fun _ => by decide⟩
    · refine h.leave hunsent (by simp) h.ordered h.meant h.taken
        fun token hmem => ⟨hmem, fun _ => by simp⟩
  | @take entry rest hunsent =>
    have hne {other : Entry} (hmem : other ∈ a.kept) : entry.token ≠ other.token :=
      fun heq => (h.first_apart hunsent).1 (heq ▸ List.mem_map_of_mem hmem)
    refine h.leave hunsent (by decide) ?_ ?_ ?_ ?_
    · exact h.ordered.imp_of_mem fun hfirst _ horder => horder.append (hne hfirst)
    · exact fun other hmem => List.mem_filter.2 ⟨h.meant other hmem, by simpa using (hne hmem).symm⟩
    · exact fun token hmem => List.mem_append_left _ (h.taken token (List.mem_filter.1 hmem).1)
    · intro token hmem
      obtain ⟨hmem, hother⟩ := List.mem_filter.1 hmem
      exact ⟨hmem, fun heq => absurd heq (by simpa using hother)⟩
  | keep hunsent => exact h.keep hunsent

/-- **Without a word of the peer**, what is kept goes on being kept or is dropped. -/
theorem Turn.kept_or_dropped (turn : Turn False forgone a a') (h : a.Consistent forgone)
    {entry : Entry} (hmem : entry ∈ a.kept) :
    entry ∈ a'.kept ∨ a'.board.state? entry.token = some .dropped := by
  cases turn with
  | write | refuse | take => exact .inl hmem
  | keep => exact .inl (List.mem_append_left _ hmem)
  | @settle done rest hkept state hstate =>
    obtain rfl := hstate.resolve_right fun hacked => hacked.1
    refine (List.mem_append.1 (hkept ▸ hmem)).symm.imp_right fun hdone => ?_
    exact Board.state?_setAll_of_mem hdone (h.sent entry hmem)
  | again hheard => exact hheard.elim
  | abandon hheard => exact hheard.elim

/-- **Turns one after another.** -/
abbrev Turns (heard : Prop) (forgone : List Token) : Story → Story → Prop :=
  Relation.ReflTransGen (Turn heard forgone)

/-- Turns keep a story consistent and move its board on. -/
theorem Turns.consistent (turns : Turns heard forgone a a') (h : a.Consistent forgone) :
    a'.Consistent forgone ∧ a.board.Advances a'.board := by
  induction turns with
  | refl => exact ⟨h, .refl _⟩
  | tail _ turn ih => exact ⟨turn.consistent ih.1, ih.2.trans (turn.advances ih.1)⟩

/-- Without a word of the peer, what is kept goes on being kept or is dropped in the end. -/
theorem Turns.kept_or_dropped (turns : Turns False forgone a a') (h : a.Consistent forgone)
    {entry : Entry} (hmem : entry ∈ a.kept) :
    entry ∈ a'.kept ∨ a'.board.state? entry.token = some .dropped := by
  induction turns with
  | refl => exact .inl hmem
  | @tail b b' turns turn ih =>
    have hb := (Turns.consistent turns h).1
    rcases ih with hkept | hdropped
    · exact turn.kept_or_dropped hb hkept
    · obtain ⟨state, hstate, -, hfinal⟩ := turn.advances hb _ _ hdropped
      obtain rfl := hfinal trivial
      exact .inr hstate

end Story

end Xmpp.Delivery
