import Mathlib.Data.List.Find
import Xmpp.Proofs.Client.Run

/-!
# What goes on between two words of the peer

A resumable session changes for good when the peer says something about it, and when
an element is handed over. Everything else leaves its queue and its counter of sent
stanzas alone: modules and handlers write elements, which wait in the outbox under
tokens of their own, and the most that can happen to the session itself is that the
connection goes away or that it is forgotten altogether. That is what it means for a
session to *drift* (`Session.Drifts`), and all changes but verdicts make it drift, as
long as nobody meddles with the property that holds it.
-/

namespace Xmpp

open Delivery Resumption

/-! ## The property that holds the session -/

/-- **Discreet changes**: sound ones that keep their hands off the property that holds
the resumable session. Those of the library are; what sets properties of its own has no
business with this one. -/
def Change.Discreet : Change → Prop
  | .remember _ key value => key ≠ Properties.resumptionKey ∧ value.isContext = false
  | change => change.Sound

theorem Change.Discreet.sound {change : Change} (h : change.Discreet) : change.Sound := by
  cases change with
  | remember scope key value => trivial
  | _ => exact h

theorem Change.Plain.discreet {change : Change} (h : change.Plain) : change.Discreet := by
  cases change with
  | remember scope key value => exact h.1
  | _ => exact h.sound

/-- What the peer says about stream management is discreet. -/
theorem Change.discreet_of_isVerdict {change : Change} (h : change.isVerdict = true) :
    change.Discreet := by
  cases change with
  | begin context => trivial
  | enable enabled => trivial
  | acknowledge report => trivial
  | resume report => trivial
  | _ => cases h

/-- **Tame changes**: those that are discreet and do not come from the peer. -/
def Change.Tame (change : Change) : Prop :=
  change.Discreet ∧ change.isVerdict = false

theorem Change.Plain.tame {change : Change} (h : change.Plain) : change.Tame := by
  refine ⟨h.discreet, ?_⟩
  cases change with
  | begin _ | enable _ | acknowledge _ | resume _ => cases h
  | _ => rfl

/-- What the modules of the application do is tame. -/
theorem Catalogue.within_tame (catalogue : Catalogue) : catalogue.Within Change.Tame := by
  have tame (action : Action) : action.Within Change.Tame := by
    cases action with
    | request draft =>
      exact ⟨fun _ => ⟨trivial, rfl⟩, fun usual now drawn => ⟨⟨draft, usual, now, drawn, rfl⟩, rfl⟩⟩
    | fail _ => trivial
    | _ => exact ⟨trivial, rfl⟩
  exact fun _ _ => ⟨fun action _ => tame action, fun _ action _ => tame action⟩

theorem Catalogue.within_discreet (catalogue : Catalogue) : catalogue.Within Change.Discreet :=
  fun entry hmem => (catalogue.within_tame entry hmem).mono fun _ h => h.1

/-- Whether a change keeps its hands off the property that holds the resumable session. -/
def Change.KeepsOff : Change → Prop
  | .remember _ key value => key ≠ Properties.resumptionKey ∧ value.isContext = false
  | _ => True

theorem Change.Discreet.keepsOff {change : Change} (h : change.Discreet) : change.KeepsOff := by
  cases change with
  | remember scope key value => exact h
  | _ => trivial

namespace Properties

/-- Another property is set, whatever its type. -/
theorem get?_cons_of_ne {α : Type} [Storable α] (p : Properties) (entry : PropertyEntry)
    {key : String} (h : entry.key ≠ key) :
    (Properties.mk (entry :: (p.erase entry.key).entries)).get? (α := α) key = p.get? key := by
  have hfind : (Properties.mk (entry :: (p.erase entry.key).entries)).find? key
      = p.find? key := by
    unfold find? erase
    rw [List.find?_cons_of_neg (by simpa using h), List.find?_filter]
    refine List.find?_congr fun other _ => ?_
    by_cases hkey : other.key = key
    · simp [hkey, Ne.symm h]
    · simp [hkey]
  unfold get?
  rw [hfind]

/-- **Contexts in their place**: the resumable session is held by its own property,
which lives as long as the session, and by no other. -/
structure Clean (p : Properties) : Prop where
  key : ∀ entry ∈ p.entries, entry.value.isContext = true → entry.key = resumptionKey
  scope : ∀ entry ∈ p.entries, entry.key = resumptionKey → entry.scope = .session

namespace Clean

variable {p : Properties} (h : p.Clean)

include h

theorem of_subset {q : Properties} (hsub : ∀ entry ∈ q.entries, entry ∈ p.entries) : q.Clean :=
  ⟨fun entry hmem => h.key entry (hsub entry hmem),
    fun entry hmem => h.scope entry (hsub entry hmem)⟩

theorem erase (key : String) : (p.erase key).Clean :=
  h.of_subset fun _ hmem => (List.mem_filter.1 hmem).1

theorem clear (scope : Scope) : (p.clear scope).Clean :=
  h.of_subset fun _ hmem => (List.mem_filter.1 hmem).1

/-- Another property is set. -/
theorem cons {entry : PropertyEntry} (hkey : entry.key ≠ resumptionKey)
    (hvalue : entry.value.isContext = false) :
    (Properties.mk (entry :: (p.erase entry.key).entries)).Clean := by
  constructor
  · intro other hmem hcontext
    rcases List.mem_cons.1 hmem with rfl | hmem
    · rw [hvalue] at hcontext
      cases hcontext
    · exact (h.erase entry.key).key other hmem hcontext
  · intro other hmem hother
    rcases List.mem_cons.1 hmem with rfl | hmem
    · exact absurd hother hkey
    · exact (h.erase entry.key).scope other hmem hother

theorem set (context : Context) : (p.set .session resumptionKey context).Clean := by
  constructor
  · intro other hmem hcontext
    rcases List.mem_cons.1 hmem with rfl | hmem
    · rfl
    · exact (h.erase resumptionKey).key other hmem hcontext
  · intro other hmem hother
    rcases List.mem_cons.1 hmem with rfl | hmem
    · rfl
    · exact (h.erase resumptionKey).scope other hmem hother

theorem modify (f : Context → Context) : (p.modify resumptionKey f).Clean := by
  have hrevise (entry : PropertyEntry) :
      (entry.revise resumptionKey f).scope = entry.scope
        ∧ ((entry.revise resumptionKey f).value.isContext = true →
          entry.value.isContext = true ∨ entry.key = resumptionKey) := by
    unfold PropertyEntry.revise
    split
    · rename_i hkey
      split
      · exact ⟨rfl, fun _ => .inr (by simpa using hkey)⟩
      · exact ⟨rfl, .inl⟩
    · exact ⟨rfl, .inl⟩
  constructor
  · intro other hmem hcontext
    obtain ⟨entry, hentry, rfl⟩ := List.mem_map.1 hmem
    rw [key_revise]
    rcases (hrevise entry).2 hcontext with hcontext | hkey
    · exact h.key entry hentry hcontext
    · exact hkey
  · intro other hmem hother
    obtain ⟨entry, hentry, rfl⟩ := List.mem_map.1 hmem
    rw [key_revise] at hother
    rw [(hrevise entry).1]
    exact h.scope entry hentry hother

/-- Clearing the scope of the session ends it. -/
theorem resumption?_clear_of_le {scope : Scope} (hle : Scope.session ≤ scope) :
    (p.clear scope).resumption? = none := by
  have hnone : (p.clear scope).find? resumptionKey = none := by
    refine List.find?_eq_none.2 fun entry hmem hkey => ?_
    obtain ⟨hmem, hkept⟩ := List.mem_filter.1 hmem
    rw [h.scope entry hmem (by simpa using hkey)] at hkept
    simp [hle] at hkept
  unfold resumption? get?
  rw [hnone]
  rfl

/-- Clearing a narrower scope leaves it alone. -/
theorem resumption?_clear_of_not_le {scope : Scope} (hle : ¬ Scope.session ≤ scope) :
    (p.clear scope).resumption? = p.resumption? := by
  have hfind : (p.clear scope).find? resumptionKey = p.find? resumptionKey := by
    unfold find? Properties.clear
    rw [List.find?_filter]
    refine List.find?_congr fun entry hmem => ?_
    by_cases hkey : entry.key = resumptionKey
    · simp [h.scope entry hmem hkey, hkey, hle]
    · simp [hkey]
  unfold resumption? get?
  rw [hfind]

/-- Nothing is dropped then. -/
theorem keptBy_cleared {scope : Scope} (hle : ¬ Scope.session ≤ scope) :
    (p.cleared scope).flatMap Session.keptBy = [] := by
  refine List.flatMap_eq_nil_iff.2 fun entry hmem => ?_
  obtain ⟨hmem, hscope⟩ := List.mem_filter.1 hmem
  unfold Session.keptBy
  split
  · rename_i context hvalue
    have hkey := h.key entry hmem (by rw [hvalue]; rfl)
    rw [h.scope entry hmem hkey] at hscope
    exact absurd (of_decide_eq_true hscope) hle
  · rfl

end Clean

end Properties

namespace Session

variable {s s' s'' : Session}

/-- **What a change does to the properties**: it sets one, clears a scope, erases the
resumable session, puts another one in its place or changes it there, or leaves them as
they are. Whatever all of these preserve is preserved. -/
theorem properties_change {I : Properties → Prop} {change : Change} (h : I s.properties)
    (remember : ∀ scope key value, change = .remember scope key value →
      I ⟨⟨key, scope, value⟩ :: (s.properties.erase key).entries⟩)
    (clear : ∀ scope, I (s.properties.clear scope))
    (erase : I (s.properties.erase Properties.resumptionKey))
    (set : ∀ context : Context, I (s.properties.set .session Properties.resumptionKey context))
    (modify : ∀ f : Context → Context, I (s.properties.modify Properties.resumptionKey f)) :
    I (s.change change).properties := by
  have abandoned {s' : Session} (hs : s'.properties = s.properties) :
      I s'.abandonResumption.properties := by
    unfold abandonResumption
    split
    · show I (s'.properties.erase _)
      rw [hs]
      exact erase
    · rw [hs]
      exact h
  have resolved {s' : Session} (hs : s.Resolves s') : I s'.properties := by
    rw [hs.eq]
    exact h
  cases change with
  | remember scope key value => exact remember scope key value rfl
  | clear scope => exact clear scope
  | receive | report | deactivate => exact modify _
  | enable enabled => exact modify _
  | begin context => exact set context
  | abandon => exact abandoned rfl
  | reset => exact abandoned rfl
  | acknowledge report =>
    show I (s.acknowledge report).properties
    unfold Session.acknowledge
    split
    · exact modify _
    · exact h
  | resume report =>
    show I (s.continueFrom report).properties
    unfold continueFrom
    split
    · exact h
    · exact modify _
  | answer reply => exact resolved (s.resolves_answer reply)
  | cancel key => exact resolved (s.resolves_cancel key)
  | sweep condition =>
    show I (Session.perform _ _).properties
    rw [perform_eq]
    exact h
  | _ => exact h

/-- **Contexts stay in their place** with every change that keeps its hands off. -/
theorem clean_change (h : s.properties.Clean) {change : Change} (hc : change.KeepsOff) :
    (s.change change).properties.Clean := by
  refine properties_change h ?_ h.clear (h.erase _) h.set h.modify
  rintro scope key value rfl
  exact h.cons hc.1 hc.2

theorem Changes.clean (changes : s.Changes Change.Discreet s') (h : s.properties.Clean) :
    s'.properties.Clean :=
  changes.invariant (I := fun s' => s'.properties.Clean) h fun _ _ hc h =>
    clean_change h hc.keepsOff

end Session

/-! ## Drifting -/

/-- **A context drifts**: nothing was sent and nothing confirmed, though the connection
may have gone away. -/
structure Resumption.Context.Drifts (c c' : Context) : Prop where
  outgoing : c'.outgoing = c.outgoing
  unacked : c'.unacked = c.unacked
  status : c'.status = c.status ∨ c.status = .active ∧ c'.status = .inactive

namespace Resumption.Context.Drifts

variable {c c' c'' : Context}

theorem refl (c : Context) : c.Drifts c :=
  ⟨rfl, rfl, .inl rfl⟩

theorem trans (first : c.Drifts c') (second : c'.Drifts c'') : c.Drifts c'' := by
  refine ⟨second.outgoing.trans first.outgoing, second.unacked.trans first.unacked, ?_⟩
  rcases first.status with h | ⟨h, h'⟩
  · rw [← h]
    exact second.status
  · rcases second.status with h'' | ⟨h'', -⟩
    · exact .inr ⟨h, h''.trans h'⟩
    · rw [h'] at h''
      cases h''

/-- A session that waits to be enabled goes on unsent. -/
theorem pending (h : c.Drifts c') (hs : c.status = .pending) : c'.status = .pending := by
  rcases h.status with h | ⟨h, -⟩
  · exact h.trans hs
  · rw [hs] at h
    cases h

/-- A connection that went away does not come back. -/
theorem inactive (h : c.Drifts c') (hs : c.status = .inactive) : c'.status = .inactive := by
  rcases h.status with h | ⟨-, h⟩
  · exact h.trans hs
  · exact h

end Resumption.Context.Drifts

namespace Resumption.Context

theorem drifts_deactivate (c : Context) : c.Drifts c.deactivate := by
  unfold deactivate
  split
  · rename_i h
    exact ⟨rfl, rfl, .inr ⟨h, rfl⟩⟩
  · exact .refl c

theorem drifts_recordReceived (c : Context) : c.Drifts c.recordReceived := by
  unfold recordReceived
  split
  · exact ⟨rfl, rfl, .inl rfl⟩
  · exact .refl c

theorem drifts_recordReport (c : Context) : c.Drifts c.recordReport :=
  ⟨rfl, rfl, .inl rfl⟩

/-- A session that can be resumed was enabled. -/
theorem status_ne_pending_of_resumeInfo? {c : Context} {info : String × UInt32}
    (h : c.resumeInfo? = some info) : c.status ≠ .pending := by
  unfold resumeInfo? at h
  split at h
  · rename_i hready
    exact hready.1
  · cases h

end Resumption.Context

/-- **Entries were issued one after another**, with tokens in this range. -/
structure Delivery.Issued (lo hi : Nat) (entries : List Entry) : Prop where
  sorted : (entries.map (·.token)).Pairwise (· < ·)
  bounds : ∀ entry ∈ entries, lo ≤ entry.token ∧ entry.token < hi

namespace Delivery.Issued

variable {lo mid hi : Nat} {a b : List Entry}

theorem nil : Issued lo hi [] :=
  ⟨.nil, fun _ hmem => absurd hmem (List.not_mem_nil)⟩

theorem sublist (h : Issued lo hi b) (hsub : a.Sublist b) : Issued lo hi a :=
  ⟨h.sorted.sublist (hsub.map _), fun entry hmem => h.bounds entry (hsub.subset hmem)⟩

theorem widen {hi' : Nat} (h : Issued lo hi a) (hle : hi ≤ hi') : Issued lo hi' a :=
  ⟨h.sorted, fun entry hmem =>
    ⟨(h.bounds entry hmem).1, Nat.lt_of_lt_of_le (h.bounds entry hmem).2 hle⟩⟩

/-- What was issued before has a smaller token. -/
theorem lt_of_append (h : Issued lo hi (a ++ b)) {first second : Entry} (ha : first ∈ a)
    (hb : second ∈ b) : first.token < second.token := by
  have hsorted := h.sorted
  rw [List.map_append] at hsorted
  exact (List.pairwise_append.1 hsorted).2.2 _ (List.mem_map_of_mem ha) _ (List.mem_map_of_mem hb)

theorem single (entry : Entry) : Issued entry.token (entry.token + 1) [entry] := by
  refine ⟨List.pairwise_singleton _ _, fun other hmem => ?_⟩
  obtain rfl := List.mem_singleton.1 hmem
  exact ⟨Nat.le_refl _, Nat.lt_succ_self _⟩

theorem append (ha : Issued lo mid a) (hb : Issued mid hi b) (hlo : lo ≤ mid)
    (hhi : mid ≤ hi) : Issued lo hi (a ++ b) := by
  constructor
  · rw [List.map_append]
    refine List.pairwise_append.2 ⟨ha.sorted, hb.sorted, fun x hx y hy => ?_⟩
    obtain ⟨first, hfirst, rfl⟩ := List.mem_map.1 hx
    obtain ⟨second, hsecond, rfl⟩ := List.mem_map.1 hy
    exact Nat.lt_of_lt_of_le (ha.bounds first hfirst).2 (hb.bounds second hsecond).1
  · intro entry hmem
    rcases List.mem_append.1 hmem with hmem | hmem
    · exact ⟨(ha.bounds entry hmem).1, Nat.lt_of_lt_of_le (ha.bounds entry hmem).2 hhi⟩
    · exact ⟨Nat.le_trans hlo (hb.bounds entry hmem).1, (hb.bounds entry hmem).2⟩

end Delivery.Issued

/-- Marking entries makes no tokens. -/
theorem Delivery.Board.length_setAll (b : Board) (entries : List Entry) (state : State) :
    (b.setAll entries state).states.length = b.states.length := by
  induction entries generalizing b with
  | nil => rfl
  | cons entry rest ih =>
    rw [Board.setAll, List.foldl_cons, ← Board.setAll, ih]
    exact List.length_set

/-- Marking entries leaves the states of others as they are. -/
theorem Delivery.Board.state?_setAll_of_forall_ne (b : Board) {entries : List Entry}
    {token : Token} (h : ∀ entry ∈ entries, entry.token ≠ token) (state : State) :
    (b.setAll entries state).state? token = b.state? token := by
  have hnone : entries.any (·.token = token) = false :=
    List.any_eq_false.2 fun entry hmem => by simpa using h entry hmem
  rw [Board.state?_setAll, hnone, if_neg (by decide)]

namespace Session

variable {s s' s'' : Session}

/-- The number of tokens made so far. -/
def issued (s : Session) : Nat :=
  s.board.states.length

/-- The elements that wait in the outbox. -/
def unsent (s : Session) : List Entry :=
  s.outbox.filterMap Outgoing.entry?

/-- An item that is put into the outbox comes last. -/
theorem unsent_push (s : Session) (item : Outgoing) :
    (s.push item).unsent = s.unsent ++ item.entry?.toList := by
  show (s.outbox ++ [item]).filterMap Outgoing.entry? = _
  rw [List.filterMap_append]
  cases item <;> rfl

/-- What is to be handed over again waits for nothing. -/
theorem unsent_of_outbox {entries : List Entry}
    (h : s.outbox = entries.map fun entry => .element entry none) : s.unsent = entries := by
  rw [unsent, h, List.filterMap_map]
  exact List.filterMap_some

/-- **A session drifts**: elements were written, under new tokens, and the resumable
session, if there still is one, drifted. -/
structure Drifts (s s' : Session) : Prop where
  clean : s'.properties.Clean
  issued : s.issued ≤ s'.issued
  unsent : ∃ written, s'.unsent = s.unsent ++ written ∧ Issued s.issued s'.issued written
  context : ∀ context', s'.resumption? = some context' →
    ∃ context, s.resumption? = some context ∧ context.Drifts context'
  states : s'.resumption?.isSome = true → ∀ token < s.issued,
    s'.board.state? token = s.board.state? token

namespace Drifts

theorem refl (h : s.properties.Clean) : s.Drifts s :=
  ⟨h, Nat.le_refl _, ⟨[], (List.append_nil _).symm, .nil⟩,
    fun context hs => ⟨context, hs, .refl context⟩, fun _ _ _ => rfl⟩

theorem trans (first : s.Drifts s') (second : s'.Drifts s'') : s.Drifts s'' := by
  obtain ⟨written, hwritten, hissued⟩ := first.unsent
  obtain ⟨written', hwritten', hissued'⟩ := second.unsent
  refine ⟨second.clean, Nat.le_trans first.issued second.issued, ⟨written ++ written', ?_, ?_⟩,
    fun context'' hs => ?_, fun hs token hlt => ?_⟩
  · rw [hwritten', hwritten, List.append_assoc]
  · exact hissued.append hissued' first.issued second.issued
  · obtain ⟨context', hs', hdrifts'⟩ := second.context context'' hs
    obtain ⟨context, hs, hdrifts⟩ := first.context context' hs'
    exact ⟨context, hs, hdrifts.trans hdrifts'⟩
  · obtain ⟨context'', hs''⟩ := Option.isSome_iff_exists.1 hs
    obtain ⟨context', hs', -⟩ := second.context context'' hs''
    rw [second.states hs token (Nat.lt_of_lt_of_le hlt first.issued)]
    exact first.states (by rw [hs']; rfl) token hlt

/-- Nothing is written, and the board stays as it is. -/
theorem of_eq (hclean : s'.properties.Clean) (ho : s'.outbox = s.outbox)
    (hb : s'.board = s.board)
    (hc : ∀ context', s'.resumption? = some context' →
      ∃ context, s.resumption? = some context ∧ context.Drifts context') : s.Drifts s' := by
  have hissued : s'.issued = s.issued := congrArg (·.states.length) hb
  refine ⟨hclean, Nat.le_of_eq hissued.symm, ⟨[], ?_, .nil⟩, hc, fun _ _ _ => by rw [hb]⟩
  rw [List.append_nil, Session.unsent, ho, Session.unsent]

/-- The properties stay as they are, too. -/
theorem of_same (h : s.properties.Clean) (ho : s'.outbox = s.outbox) (hb : s'.board = s.board)
    (hp : s'.properties = s.properties) : s.Drifts s' := by
  refine of_eq (by rw [hp]; exact h) ho hb fun context hs => ⟨context, ?_, .refl context⟩
  rw [← hs]
  exact (congrArg (·.resumption?) hp).symm

/-- The context changes in its place. -/
theorem modify (h : s.properties.Clean) {f : Context → Context}
    (hf : ∀ c : Context, c.Drifts (f c)) : s.Drifts (s.modifyResumption f) := by
  refine of_eq (h.modify f) rfl rfl fun context' hs => ?_
  rw [resumption?_modifyResumption] at hs
  obtain ⟨context, hcontext, rfl⟩ := Option.map_eq_some_iff.1 hs
  exact ⟨context, hcontext, hf context⟩

/-- The resumable session is forgotten. -/
theorem forget (hclean : s'.properties.Clean) (ho : s'.outbox = s.outbox)
    (hi : s'.issued = s.issued) (hnone : s'.resumption? = none) : s.Drifts s' := by
  refine ⟨hclean, Nat.le_of_eq hi.symm, ⟨[], ?_, .nil⟩, fun context' hs => ?_, fun hs => ?_⟩
  · rw [List.append_nil, Session.unsent, ho, Session.unsent]
  · rw [hnone] at hs
    cases hs
  · rw [hnone] at hs
    cases hs

/-- An element is written. -/
theorem enqueue (h : s.properties.Clean) (element : Element) (request : Option Request) :
    s.Drifts (s.enqueue element request).2 := by
  refine ⟨h, ?_, ⟨[⟨element, s.issued⟩], ?_, ?_⟩, fun context hs => ⟨context, hs, .refl context⟩,
    fun _ token hlt => ?_⟩
  · show _ ≤ (s.board.states ++ [State.queued]).length
    rw [List.length_append]
    exact Nat.le_add_right _ _
  · exact unsent_push _ (.element ⟨element, s.issued⟩ request)
  · have hissued : (s.enqueue element request).2.issued = s.issued + 1 := by
      show (s.board.states ++ [State.queued]).length = _
      rw [List.length_append]
      rfl
    rw [hissued]
    exact Issued.single ⟨element, s.issued⟩
  · show (s.board.issue.2).state? token = _
    rw [Board.state?_issue, if_neg]
    exact Nat.ne_of_lt hlt

/-- What is no element is put into the outbox. -/
theorem push (h : s.properties.Clean) {item : Outgoing} (hi : item.entry? = none) :
    s.Drifts (s.push item) := by
  refine ⟨h, Nat.le_refl _, ⟨[], ?_, .nil⟩, fun context hs => ⟨context, hs, .refl context⟩,
    fun _ _ _ => rfl⟩
  rw [unsent_push, hi]
  rfl

end Drifts

/-- **A tame change makes a session drift.** -/
theorem drifts_change (h : s.properties.Clean) {change : Change} (hc : change.Tame) :
    s.Drifts (s.change change) := by
  have hclean := clean_change h hc.1.keepsOff
  have resolved {s' : Session} (hs : s.Resolves s') : s.Drifts s' := by
    rw [hs.eq]
    exact .of_same h rfl rfl rfl
  cases change with
  | write element => exact .enqueue h element none
  | give request => exact .enqueue h request.stanza (some request)
  | restart => exact .push h rfl
  | close => exact .push h rfl
  | remember scope key value =>
    refine .of_eq hclean rfl rfl fun context hs => ⟨context, ?_, .refl context⟩
    rw [← hs]
    exact (s.properties.get?_cons_of_ne ⟨key, scope, value⟩ hc.1.1).symm
  | clear scope =>
    -- a wide scope takes the session along, a narrow one drops nothing
    by_cases hle : Scope.session ≤ scope
    · exact .forget hclean rfl (Board.length_setAll ..) (h.resumption?_clear_of_le hle)
    · refine .of_eq hclean rfl ?_ fun context hs => ⟨context, ?_, .refl context⟩
      · show s.board.setAll ((s.properties.cleared scope).flatMap keptBy) .dropped = _
        rw [h.keptBy_cleared hle]
        rfl
      · exact (h.resumption?_clear_of_not_le hle).symm.trans hs
  | receive => exact .modify h Context.drifts_recordReceived
  | report => exact .modify h Context.drifts_recordReport
  | deactivate => exact .modify h Context.drifts_deactivate
  | abandon =>
    have heq := s.abandonResumption_eq
    exact .forget hclean (congrArg (·.outbox) heq) (congrArg (·.issued) heq)
      s.resumption?_abandonResumption
  | reset =>
    refine .forget hclean (congrArg (·.outbox) s.resetManagement_eq) ?_
      s.resumption?_resetManagement
    show s.resetManagement.board.states.length = _
    unfold resetManagement
    rw [abandonResumption_eq]
    exact Board.length_setAll ..
  | begin context | enable enabled | acknowledge report | resume report => cases hc.2
  | answer reply => exact resolved (s.resolves_answer reply)
  | cancel key => exact resolved (s.resolves_cancel key)
  | sweep condition =>
    show s.Drifts (Session.perform _ _)
    rw [perform_eq]
    exact .of_same h rfl rfl rfl
  | _ => exact .of_same h rfl rfl rfl

theorem Changes.drifts (changes : s.Changes Change.Tame s') (h : s.properties.Clean) :
    s.Drifts s' :=
  changes.invariant (I := fun s' => s.Drifts s') (.refl h) fun _ _ hc hd =>
    hd.trans (drifts_change hd.clean hc)

/-- **A reaction of the controller makes a session drift.** -/
theorem drifts_react (h : s.properties.Clean) (c : Controller) (event : Event) :
    s.Drifts (c.react s event).2 := by
  obtain ⟨k, -, steps⟩ := Steps.react c s event
  exact Changes.drifts ⟨k, steps.mono fun _ quiet => quiet.plain.tame⟩ h

end Session

/-- **A tame operation makes the session of a client drift.** -/
theorem Client.drifts_prepare {c : Client} (h : c.session.properties.Clean) {op : Operation}
    (tame : op.Within Change.Tame) : c.session.Drifts (c.prepare op).session :=
  Session.Changes.drifts (.prepare (fun _ => Change.Plain.tame) c op
    (Catalogue.within_tame _) tame) h

end Xmpp
