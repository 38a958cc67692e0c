import Xmpp.Proofs.Client.Footing
import Xmpp.Proofs.Delivery.Lives

/-!
# What tokens tell

Whoever wrote an element sees of it no more than its token. This file collects what the
token tells, at any time in any life of a client, and so whenever an operation has returned:
the life is `Life.Coherent` (`Life.coherent_of_lived`). Its board only moves on; whenever the
client is at rest nothing is queued, what is kept was sent and stands in the order in which
it was sent last, and nothing that was meant to be kept is missing; and what is kept comes to
an end in one of the ways of `Session.Fate`.

## Two things that tokens do not tell

A token that was sent does not tell that somebody keeps its element. A session that is
resumed sends what it kept again, and if a module forgets the session in the same breath,
nobody keeps it any more. And a token that was confirmed does not tell that the session was
to be resumed: a failure settles the elements of the session it ends by the number it
reports, whether anything was asked for or not (`Life.not_forall_kept_or_dropped`).
-/

namespace Xmpp

open Delivery Resumption

/-- **A coherent life.** -/
structure Life.Coherent (a : Life) : Prop where
  /-- No token falls back to an earlier stage, and an end is an end. -/
  advances : ∀ b : Life, a.Leads b → a.client.session.board.Advances b.client.session.board
  /-- At rest no token is queued. -/
  not_queued : a.client.AtRest → ∀ token, a.client.session.board.state? token ≠ some .queued
  /-- What is kept is kept once. -/
  distinct : a.client.AtRest → (a.client.session.unconfirmed.map (·.token)).Nodup
  /-- What is kept was sent. -/
  sent : a.client.AtRest →
    ∀ entry ∈ a.client.session.unconfirmed, a.client.session.board.state? entry.token = some .sent
  /-- What is kept stands in the order in which it was handed over last. -/
  ordered : a.client.AtRest → a.client.session.unconfirmed.Pairwise fun first second =>
    Story.LastBefore a.client.handed first.token second.token
  /-- What was to be kept when it was handed over last, and has not come to its end, is kept,
  unless it was given up when the session could not be enabled. -/
  kept : a.client.AtRest → ∀ token ∈ a.managed,
    a.client.session.board.state? token = some .sent →
      token ∈ a.client.session.unconfirmed.map (·.token) ∨ token ∈ a.forgone
  /-- What is kept meets its fate. -/
  fates : ∀ (heard? : Option Element) (b : Life), a.Goes heard? b →
    ∀ entry ∈ a.client.session.unconfirmed, a.Fate heard? b entry

/-- A sound life is coherent, and lives are sound. -/
theorem Life.Lived.coherent {a : Life} (lived : a.Lived) : a.Coherent := by
  have sound := lived.sound
  have consistent := sound.consistent
  have hunsent (atRest : a.client.AtRest) : a.client.session.unsent = [] := by
    rw [Session.unsent, atRest.1]
    rfl
  refine ⟨fun b leads => leads.advances sound, fun atRest token hqueued => ?_, fun _ => ?_,
    fun _ => consistent.sent, fun _ => consistent.ordered, fun atRest token hmem hsent => ?_,
    fun heard? b goes => (goes.sound sound).2.2⟩
  · have hwaits : token ∈ a.client.session.unsent.map (·.token) := consistent.queued token hqueued
    rw [hunsent atRest] at hwaits
    cases hwaits
  · exact consistent.distinct.sublist ((List.sublist_append_left _ _).map _)
  · refine (consistent.held token hmem hsent).imp_right fun hrest => hrest.resolve_left ?_
    intro hwaits
    have hwaits : token ∈ a.client.session.unsent.map (·.token) := hwaits
    rw [hunsent atRest] at hwaits
    cases hwaits

/-- **Tokens tell a coherent story**, in every life of a client, whatever its transports
refuse. In particular they do whenever an operation has returned: whatever operations a client
at rest goes through, it is at rest again, and the life that leads there is coherent. -/
theorem Life.coherent_of_lived {a : Life} (lived : a.Lived) :
    a.Coherent ∧ (a.client.AtRest → ∀ ops : List Operation, (∀ op ∈ ops, op.Proper) →
      ∃ b, a.Leads b ∧ b.client = ops.foldl Client.operate a.client ∧ b.client.AtRest
        ∧ b.Coherent) := by
  refine ⟨lived.coherent, fun atRest ops proper => ?_⟩
  obtain ⟨b, leads, hb, atRest', -⟩ := Leads.operations atRest ops proper
  exact ⟨b, leads, hb, atRest', (lived.trans leads).coherent⟩

namespace Life

namespace Rehearsal

open Client.Rehearsal

/-- A message of the application. -/
def message (line : String) : Element where
  name := "message"
  ns := Namespace.client
  content := Element.nodes [.ofText "body" Namespace.client line]

/-- The server counted one stanza of a session that it ends. -/
def ends : Element where
  name := "failed"
  ns := Namespace.streamManagement
  attributes := [("h", "1")]

/-- The server resumes the session, of which it has counted nothing. -/
def resumes : Element where
  name := "resumed"
  ns := Namespace.streamManagement
  attributes := [("h", "0"), ("previd", "orchard")]

/-- A module that forgets the session as soon as it is resumed. -/
def forgetful : Catalogue :=
  [("forgetful",
    { facts := { criterion := some (.nameAndXmlns "resumed" Namespace.streamManagement) }
      handle := fun _ => [.clear .session] })]

/-- Logging in with the built-in modules and others, and starting a session that can be
resumed. -/
def begins (catalogue : Catalogue) (modules : List ModuleId) : List Operation :=
  .install ((ModuleId.builtIn ++ modules).map (Descriptor.default catalogue)) :: connects
    ++ [.receive welcomes, .receive offersManagement, .receive (binds "1"), .receive enables]

/-- Writing two messages then. -/
def writes : List Operation :=
  begins [] [] ++ [.write (message "He jests"), .write (message "at scars")]

/-- Losing the connection, and resuming the session on another one. -/
def returns : List Operation :=
  .lost :: connects ++ [.receive welcomes, .receive offersManagement, .receive resumes]

end Rehearsal

open Rehearsal Client.Rehearsal

/-- Nothing that is done in the rehearsal calls a module. -/
theorem Rehearsal.proper_of_mem {op : Operation} {ops : List Operation}
    (h : ops.all (fun op => !op matches .call _) = true) (hmem : op ∈ ops) : op.Proper := by
  rintro changes rfl
  exact absurd (List.all_eq_true.1 h _ hmem) (by simp)

/-- In the rehearsal two messages are kept. -/
theorem coherent_of_lived_rehearsal :
    ∃ a : Life, a.Lived ∧ a.client = writes.foldl Client.operate (.blank account [])
      ∧ a.client.AtRest ∧ a.client.session.unconfirmed.map (·.token) = [7, 8] ∧ a.Coherent := by
  have newborn : Lived ⟨.blank account [], [], []⟩ := ⟨account, [], .refl⟩
  obtain ⟨a, leads, ha, atRest, coherent⟩ := (coherent_of_lived newborn).2
    (Client.atRest_blank account []) writes fun op => Rehearsal.proper_of_mem (by decide)
  exact ⟨a, newborn.trans leads, ha, atRest, by rw [ha]; decide +kernel, coherent⟩

/-- **Not everything that was kept is kept or dropped** by whoever ends a session: a failure
may confirm it though nothing was to be resumed. Nor is what was kept once and is still
sent kept for good, if a module forgets the session when it is resumed. -/
theorem not_forall_kept_or_dropped :
    (¬ ∀ (a : Life) (op : Operation), a.Lived → a.client.AtRest → op.Proper →
        (∀ entry, Frame.element entry ∈ a.client.wire → entry.stanza.name ≠ "resume") →
        a.client.session.managementStatus? = some .active →
        (a.client.operate op).session.resumption? = none →
          ∀ entry ∈ a.client.session.unconfirmed,
            (a.client.operate op).session.board.state? entry.token = some .dropped)
      ∧ ¬ ∀ a b : Life, a.Lived → a.client.AtRest → a.Leads b → b.client.AtRest →
        ∀ entry ∈ a.client.session.unconfirmed,
          b.client.session.board.state? entry.token = some .sent → entry.token ∉ b.forgone →
            entry.token ∈ b.client.session.unconfirmed.map (·.token) := by
  constructor
  · intro h
    obtain ⟨a, leads, ha, atRest, -⟩ := Leads.operations (a := ⟨.blank account [], [], []⟩)
      (Client.atRest_blank account []) writes fun op => Rehearsal.proper_of_mem (by decide)
    have hunasked : a.client.wire.all (fun
        | .element entry => entry.stanza.name != "resume"
        | _ => true) = true := by
      rw [ha]
      decide +kernel
    have hmem : 7 ∈ a.client.session.unconfirmed.map (·.token) := by
      rw [ha]
      decide +kernel
    have hacked : (a.client.operate (.receive ends)).session.board.state? 7 = some .acked := by
      rw [ha]
      decide +kernel
    obtain ⟨entry, hentry, htoken⟩ := List.mem_map.1 hmem
    have hdropped := h a (.receive ends) ⟨account, [], leads⟩ atRest (fun _ h => by cases h)
      (fun entry hframe => by simpa using List.all_eq_true.1 hunasked _ hframe)
      (by rw [ha]; decide +kernel) (by rw [ha]; decide +kernel) entry hentry
    rw [htoken, hacked] at hdropped
    cases hdropped
  · intro h
    obtain ⟨a, leads, ha, atRest, hnone⟩ := Leads.operations
      (a := ⟨.blank account forgetful, [], []⟩) (Client.atRest_blank account forgetful)
      (begins forgetful [.extra "forgetful"] ++ [.write (message "He jests")])
      fun op => Rehearsal.proper_of_mem (by decide)
    obtain ⟨b, leads', hb, atRest', hnone'⟩ := Leads.operations atRest returns
      fun op => Rehearsal.proper_of_mem (by decide)
    have hmem : 7 ∈ a.client.session.unconfirmed.map (·.token) := by
      rw [ha]
      decide +kernel
    have hafter : b.client.session.board.state? 7 = some .sent
        ∧ b.client.session.unconfirmed = [] := by
      rw [hb, ha]
      decide +kernel
    have hforgone : b.forgone = [] := by
      rw [hnone' (by decide), hnone (by decide)]
    obtain ⟨entry, hentry, htoken⟩ := List.mem_map.1 hmem
    have hkept := h a b ⟨account, forgetful, leads⟩ atRest leads' atRest' entry hentry
      (htoken ▸ hafter.1) (by rw [hforgone]; exact List.not_mem_nil)
    rw [hafter.2] at hkept
    cases hkept

end Life

end Xmpp
