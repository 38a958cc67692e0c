import Xmpp.Proofs.Client.Fallback

/-!
# Where properties live

When a connection goes away, or a session ends, what belongs to it is forgotten by
clearing a scope, and what goes along is decided by the scopes the properties were set
in. The library sets each of its own in one scope only: the state of the login in that of
the connection, the stream features in that of the stream, the bound address and the
resumable session in that of the session. No type says so, since a property is known by
its name and may be set in any scope by whoever knows the name.

A client is *housed* if none of them is in another scope (`Properties.Housed`), and
`Client.housed_foldl_operate` says that it stays so as long as the modules its owner
calls do not move them. Then clearing a scope forgets exactly the properties that belong
to it or to a narrower one.
-/

namespace Xmpp

open Delivery Resumption

namespace Properties

theorem home?_authKey : home? authKey = some .connection := by
  decide

theorem home?_featuresKey : home? featuresKey = some .stream := by
  decide

theorem home?_boundKey : home? boundKey = some .session := by
  decide

/-- **Each property of the library is in the scope it belongs to.** -/
def Housed (p : Properties) : Prop :=
  ∀ entry ∈ p.entries, Houses entry.scope entry.key

namespace Housed

variable {p : Properties} {α : Type} [Storable α]

theorem of_subset {q : Properties} (h : p.Housed) (hsub : ∀ entry ∈ q.entries, entry ∈ p.entries) :
    q.Housed :=
  fun entry hmem => h entry (hsub entry hmem)

theorem erase (h : p.Housed) (key : String) : (p.erase key).Housed :=
  h.of_subset fun _ hmem => (List.mem_filter.1 hmem).1

theorem clear (h : p.Housed) (scope : Scope) : (p.clear scope).Housed :=
  h.of_subset fun _ hmem => (List.mem_filter.1 hmem).1

/-- A property is set in a scope it may be in. -/
theorem cons (h : p.Housed) {entry : PropertyEntry} (hentry : Houses entry.scope entry.key) :
    (Properties.mk (entry :: (p.erase entry.key).entries)).Housed := by
  intro other hmem
  rcases List.mem_cons.1 hmem with rfl | hmem
  · exact hentry
  · exact h.erase entry.key other hmem

theorem set (h : p.Housed) (context : Context) : (p.set .session resumptionKey context).Housed :=
  h.cons (show Houses .session resumptionKey from .inr (by decide))

theorem modify (h : p.Housed) (key : String) (f : α → α) : (p.modify key f).Housed := by
  intro entry hmem
  obtain ⟨old, hold, rfl⟩ := List.mem_map.1 hmem
  have hscope : (old.revise key f).scope = old.scope := by
    unfold PropertyEntry.revise
    split
    · split <;> rfl
    · rfl
  rw [key_revise, hscope]
  exact h old hold

theorem scope_eq (h : p.Housed) {key : String} {home : Scope} (hhome : home? key = some home) :
    ∀ entry ∈ p.entries, entry.key = key → entry.scope = home := by
  rintro entry hmem rfl
  rcases h entry hmem with hnone | hsome
  · rw [hnone] at hhome
    cases hhome
  · exact Option.some.inj (hsome.symm.trans hhome)

/-- **What belongs to a scope is forgotten with it.** -/
theorem get?_clear_of_le (h : p.Housed) {key : String} {home scope : Scope}
    (hhome : home? key = some home) (hle : home ≤ scope) :
    (p.clear scope).get? (α := α) key = none :=
  Within.get?_clear (fun entry hmem hkey => h.scope_eq hhome entry hmem hkey ▸ Nat.le_refl _) hle

/-- **What belongs to a wider scope is kept.** -/
theorem get?_clear_of_not_le (h : p.Housed) {key : String} {home scope : Scope}
    (hhome : home? key = some home) (hle : ¬ home ≤ scope) :
    (p.clear scope).get? (α := α) key = p.get? key := by
  have hfind : (p.clear scope).find? key = p.find? key := by
    unfold find? Properties.clear
    rw [List.find?_filter]
    refine List.find?_congr fun entry hmem => ?_
    by_cases hkey : entry.key = key
    · simp [h.scope_eq hhome entry hmem hkey, hkey, hle]
    · simp [hkey]
  unfold get?
  rw [hfind]

/-- With the scope of the connection the state of the login is forgotten. -/
theorem authState_clear (h : p.Housed) {scope : Scope} (hle : Scope.connection ≤ scope) :
    (p.clear scope).authState = .unknown := by
  unfold authState
  rw [h.get?_clear_of_le home?_authKey hle]
  rfl

/-- With any scope the stream features are forgotten. -/
theorem features?_clear (h : p.Housed) (scope : Scope) : (p.clear scope).features? = none :=
  h.get?_clear_of_le home?_featuresKey (Nat.zero_le _)

end Housed

end Properties

/-! ## Staying housed -/

/-- Whether a change leaves the properties of the library in their scopes. -/
def Change.Housed : Change → Prop
  | .remember scope key _ => Properties.Houses scope key
  | _ => True

theorem Change.Quiet.housed {change : Change} (h : change.Quiet) : change.Housed := by
  cases change with
  | remember scope key value => exact h.2
  | _ => trivial

/-- The modules of the application set no properties. -/
theorem Catalogue.within_housed (catalogue : Catalogue) : catalogue.Within Change.Housed := by
  have housed (action : Action) : action.Within Change.Housed := by
    cases action with
    | request draft => exact ⟨fun _ => trivial, fun _ _ _ => trivial⟩
    | _ => trivial
  exact fun _ _ => ⟨fun action _ => housed action, fun _ action _ => housed action⟩

/-- **Housed operations**: modules that are called leave the properties of the library in
their scopes. -/
def Operation.Housed (op : Operation) : Prop :=
  ∀ changes, op = .call changes → ∀ change ∈ changes, change.Housed

/-- Where no module is called, every operation is housed. -/
theorem Operation.housed_of_all {ops : List Operation}
    (h : ops.all (fun op => !op matches .call _) = true) : ∀ op ∈ ops, op.Housed := by
  rintro op hmem changes rfl
  exact absurd (List.all_eq_true.1 h _ hmem) (by simp)

/-- In a housed operation all changes are. -/
theorem Operation.Housed.of_allows {op : Operation} (h : op.Housed) {s : Session} {change : Change}
    (allowed : op.Allows Change.Housed s change) : change.Housed := by
  rcases allowed with silent | housed | brings
  · exact silent.quiet.housed
  · exact housed
  · cases change with
    | remember scope key value =>
      -- only a call can bring such a change
      cases op with
      | call changes => exact h changes rfl _ brings
      | send draft => rcases brings with ⟨drawn, h⟩ | ⟨usual, now, drawn, h⟩ <;> cases h
      | connecting | connected _ | lost =>
        obtain ⟨old, new, h⟩ := brings
        cases h
      | _ => cases brings
    | _ => trivial

theorem Session.housed_change {s : Session} (h : s.properties.Housed) {change : Change}
    (hc : change.Housed) : (s.change change).properties.Housed := by
  refine properties_change h ?_ h.clear (h.erase _) h.set (h.modify _)
  rintro scope key value rfl
  exact h.cons hc

/-- Giving a session up leaves all other properties alone. -/
theorem Session.get?_abandonResumption (s : Session) {α : Type} [Storable α] {key : String}
    (hkey : key ≠ Properties.resumptionKey) :
    s.abandonResumption.properties.get? (α := α) key = s.properties.get? key := by
  unfold Session.abandonResumption
  split
  · exact (Properties.get?_erase _ _ _).trans (if_neg hkey)
  · rfl

/-- So does what the server reports to have handled. -/
theorem Session.get?_acknowledge (s : Session) (report : UInt32) {α : Type} [Storable α]
    {key : String} (hkey : key ≠ Properties.resumptionKey) :
    (s.acknowledge report).properties.get? (α := α) key = s.properties.get? key := by
  unfold Session.acknowledge
  split
  · exact Properties.get?_modify_of_ne _ _ hkey
  · rfl

/-- **A property of the library is left alone** by a change that does not set it and does not
clear its scope. -/
theorem Session.get?_change {s : Session} (housed : s.properties.Housed) {α : Type} [Storable α]
    {key : String} {home : Scope} (hhome : Properties.home? key = some home)
    (hkey : key ≠ Properties.resumptionKey) {change : Change}
    (unset : ∀ scope other value, change = .remember scope other value → other ≠ key)
    (uncleared : ∀ scope, change = .clear scope → ¬ home ≤ scope) :
    (s.change change).properties.get? (α := α) key = s.properties.get? key := by
  have resolved {s' : Session} (h : s.Resolves s') :
      s'.properties.get? (α := α) key = s.properties.get? key := by
    rw [h.eq]
  cases change with
  | remember scope other value =>
    exact Properties.get?_cons_of_ne _ ⟨other, scope, value⟩ (unset _ _ _ rfl)
  | clear scope => exact housed.get?_clear_of_not_le hhome (uncleared _ rfl)
  | receive | report | deactivate | enable _ => exact Properties.get?_modify_of_ne _ _ hkey
  | begin context => exact Properties.get?_set_of_ne _ _ _ hkey
  | abandon => exact s.get?_abandonResumption hkey
  | reset => exact (s.mark s.unconfirmed .dropped).get?_abandonResumption hkey
  | acknowledge report => exact s.get?_acknowledge report hkey
  | resume report =>
    show (s.continueFrom report).properties.get? key = _
    unfold Session.continueFrom
    split
    · rfl
    · exact Properties.get?_modify_of_ne _ _ hkey
  | answer reply => exact resolved (s.resolves_answer reply)
  | cancel key => exact resolved (s.resolves_cancel key)
  | sweep condition =>
    show (Session.perform _ _).properties.get? key = _
    rw [perform_eq]
  | _ => rfl

theorem Session.housed_react {s : Session} (h : s.properties.Housed) (c : Controller)
    (event : Event) : (c.react s event).2.properties.Housed := by
  obtain ⟨k, -, steps⟩ := Steps.react c s event
  exact steps.invariant (I := fun s => s.properties.Housed) h fun s change quiet h =>
    s.housed_change h quiet.housed

namespace Client

variable {c c' : Client} {log : List Request}

theorem housed_prepare (h : c.session.properties.Housed) {op : Operation} (hop : op.Housed) :
    (c.prepare op).session.properties.Housed :=
  (Session.Course.prepare c op (Catalogue.within_housed _)).invariant
    (I := fun s => s.properties.Housed) h fun s _ allowed h =>
      s.housed_change h (hop.of_allows allowed)

theorem housed_moves (moves : Moves c log c') (h : c.session.properties.Housed) :
    c'.session.properties.Housed := by
  induction moves with
  | refl => exact h
  | @deliver c' _ item rest _ _ ih =>
    have hrest : (c'.withOutbox rest).session.properties.Housed := ih
    exact properties_deliver item hrest (hrest.clear .stream) (hrest.set .start) (hrest.modify _)
  | @react c' _ event rest _ _ _ ih =>
    exact Session.housed_react (s := (c'.withEvents rest).session) ih c'.controller event

/-- **A client stays housed** in every run of operations that are. -/
theorem housed_foldl_operate (config : Config) (catalogue : Catalogue) {ops : List Operation}
    (housed : ∀ op ∈ ops, op.Housed) :
    (ops.foldl operate (blank config catalogue)).session.properties.Housed :=
  foldl_operate_invariant (I := fun c => c.session.properties.Housed)
    (atRest_blank config catalogue) (fun _ hmem => absurd hmem List.not_mem_nil)
    (fun op hop _ _ h => housed_prepare h (housed op hop)) housed_moves

end Client

end Xmpp
