import Mathlib.Data.List.Basic
import Xmpp.Proofs.Client.Annals
import Xmpp.Proofs.Delivery.Turns

/-!
# The tally of received stanzas

A session counts the stanzas it receives, in 32 bits, and tells the peer how many there were: in
reports, and when it asks to be resumed. What it ought to count are the stanzas that came in while
it was live, since it began (`CountTurn.count`).

The count is right (`Session.Tallies`) if the number the session holds is that number modulo 2^32,
and if whatever was told was the number there was then. Little of what happens to a session bears on
it. Most changes leave the count as it is (`Change.LeavesCount`), and most of those do not tell it
either (`Change.Uncounted`). This file goes through the rest: a stanza comes in, a report is made or
the session asked for, and an element is handed over.
-/

namespace Xmpp

open Delivery Resumption

/-! ## What there is to count -/

/-- Whether an element tells how many stanzas were received. -/
def Element.tellsCount (e : Element) : Bool :=
  e.isReport || e.is "resume" Namespace.streamManagement

/-- A stanza tells nothing of the kind. -/
theorem Element.tellsCount_of_isStanza {e : Element} (h : e.isStanza = true) :
    e.tellsCount = false := by
  cases htells : e.tellsCount with
  | false => rfl
  | true =>
    exfalso
    rcases Bool.or_eq_true_iff.1 htells with hreport | hresume
    · rw [not_isStanza_of_name (name_of_is hreport) (by decide)] at h
      cases h
    · rw [not_isStanza_of_name (name_of_is hresume) (by decide)] at h
      cases h

/-- Neither does what is no report and does not ask for the session. -/
theorem Element.tellsCount_of_demand? {e : Element} (hreport : e.isReport = false)
    (hdemand : e.demand? ≠ some .resume) : e.tellsCount = false := by
  unfold Element.tellsCount
  rw [hreport, Bool.false_or]
  cases hresume : e.is "resume" Namespace.streamManagement with
  | false => rfl
  | true => exact absurd (if_pos hresume) hdemand

/-- Reports of different numbers differ. -/
theorem Resumption.ack_inj {h h' : UInt32} : ack h = ack h' ↔ h = h' := by
  refine ⟨fun heq => ?_, congrArg ack⟩
  have hnumeral : h.toNat.repr = h'.toNat.repr := by
    simpa [ack] using congrArg Element.attributes heq
  have hdigits : Nat.toDigits 10 h.toNat = Nat.toDigits 10 h'.toNat := by
    simpa only [Nat.toList_repr] using congrArg String.toList hnumeral
  refine UInt32.toNat_inj.1 ?_
  calc
    h.toNat = Nat.ofDigitChars 10 (Nat.toDigits 10 h.toNat) 0 :=
      Nat.ofDigitChars_ten_toDigits.symm
    _ = Nat.ofDigitChars 10 (Nat.toDigits 10 h'.toNat) 0 := by rw [hdigits]
    _ = h'.toNat := Nat.ofDigitChars_ten_toDigits

/-- **What the count goes by**, and where it is told. -/
inductive CountTurn where
  /-- A session begins. -/
  | began
  /-- A stanza came in while the session was live. -/
  | received
  /-- The count was told by an element, while the session was live or not. -/
  | told (live : Bool) (element : Element)
deriving DecidableEq

namespace CountTurn

variable {turns : List CountTurn} {turn : CountTurn}

/-- Whether a report was made. -/
def isReport : CountTurn → Bool
  | .told _ element => element.isReport
  | .began | .received => false

/-- **The number of stanzas received** since the session began, while it was live. -/
def count (turns : List CountTurn) : Nat :=
  turns.foldl (fun n turn => match turn with
    | .began => 0
    | .received => n + 1
    | .told _ _ => n) 0

/-- The last report since the session began. -/
def lastReport? (turns : List CountTurn) : Option Element :=
  turns.foldl (fun last? turn => match turn with
    | .began => none
    | .received => last?
    | .told _ element => if element.isReport then some element else last?) none

@[simp] theorem count_began : count (turns ++ [.began]) = 0 :=
  List.foldl_concat ..

@[simp] theorem count_received : count (turns ++ [.received]) = count turns + 1 :=
  List.foldl_concat ..

@[simp] theorem count_told (live : Bool) (element : Element) :
    count (turns ++ [.told live element]) = count turns :=
  List.foldl_concat ..

@[simp] theorem lastReport?_began : lastReport? (turns ++ [.began]) = none :=
  List.foldl_concat ..

@[simp] theorem lastReport?_received : lastReport? (turns ++ [.received]) = lastReport? turns :=
  List.foldl_concat ..

@[simp] theorem lastReport?_told (live : Bool) (element : Element) :
    lastReport? (turns ++ [.told live element])
      = if element.isReport then some element else lastReport? turns :=
  List.foldl_concat ..

/-- **A sincere word**, if this many stanzas were received: a report of a live session with this
number modulo 2^32, or a request to resume the session with it. -/
def Sincere (n : Nat) : CountTurn → Prop
  | .began | .received => True
  | .told live element =>
    (live = true ∧ element = ack (.ofNat n)) ∨ ∃ previd, element = resume (.ofNat n) previd

/-- **All that was told is sincere**, by the count there was then. -/
def Truthful (turns : List CountTurn) : Prop :=
  ∀ before turn after, turns = before ++ turn :: after → turn.Sincere (count before)

theorem truthful_nil : Truthful [] :=
  fun before turn after h => absurd h.symm (by simp)

theorem Truthful.append (h : Truthful turns) (sincere : turn.Sincere (count turns)) :
    Truthful (turns ++ [turn]) := by
  intro before other after hsplit
  rcases concat_eq_append_cons hsplit with ⟨rfl, rfl, -⟩ | ⟨rest, -, hturns⟩
  · exact sincere
  · exact h before other rest hturns

end CountTurn

open CountTurn

/-! ## Changes that leave the count as it is -/

/-- **Changes that leave the count as it is**: nothing is counted as received or reported, no
session begins, and the property that holds it is left alone. -/
def Change.LeavesCount : Change → Prop
  | .remember _ key value => key ≠ Properties.resumptionKey ∧ value.isContext = false
  | .receive | .report | .begin _ => False
  | _ => True

theorem Change.LeavesCount.keepsOff {change : Change} (h : change.LeavesCount) :
    change.KeepsOff := by
  cases change with
  | remember scope key value => exact h
  | _ => trivial

/-- What the library does unless it is somebody's business leaves the count. -/
theorem Change.Modest.leavesCount {change : Change} (h : change.Modest) (quiet : change.Quiet) :
    change.LeavesCount := by
  cases change with
  | remember scope key value => exact quiet.1
  | receive | report => cases h
  | begin context => cases quiet
  | _ => trivial

/-- Whatever modules of the application do leaves the count. -/
theorem Catalogue.within_leavesCount (catalogue : Catalogue) :
    catalogue.Within Change.LeavesCount := by
  have leaves (action : Action) : action.Within Change.LeavesCount := by
    cases action with
    | request draft => exact ⟨fun _ => trivial, fun _ _ _ => trivial⟩
    | _ => trivial
  exact fun _ _ => ⟨fun action _ => leaves action, fun _ action _ => leaves action⟩

/-- So does a word of the peer that does not tell that stream management was enabled. -/
theorem Element.Rules.leavesCount {e : Element} {s : Session} {change : Change}
    (h : e.Rules s change) (hname : e.name ≠ "enabled") (hsuccess : e.name ≠ "success") :
    change.LeavesCount := by
  cases change with
  | begin context =>
    obtain ⟨enabled, -, henables, -⟩ := h
    rcases henables with hread | ⟨hname', -⟩
    · exact hname (name_of_enabled hread)
    · exact hsuccess hname'
  | remember _ _ _ | receive | report => cases h
  | _ => trivial

theorem ModuleId.Duty.leavesCount {id : ModuleId} (hid : id ≠ .streamManagement) {e : Element}
    {s : Session} {change : Change} (h : id.Duty e s change) : change.LeavesCount := by
  cases change with
  | report => exact hid h
  | remember _ _ _ | receive | begin _ => cases h
  | _ => trivial

/-- **Changes that spare the resumable session**: they leave it as it is. -/
def Change.SparesSession : Change → Prop
  | .remember _ key value => key ≠ Properties.resumptionKey ∧ value.isContext = false
  | .clear scope => ¬ Scope.session ≤ scope
  | .receive | .report | .deactivate | .abandon | .reset | .begin _ | .enable _ | .acknowledge _
  | .resume _ => False
  | _ => True

/-- **Uncounted changes**: they leave the count as it is and do not tell it. -/
structure Change.Uncounted (change : Change) : Prop where
  leaves : change.LeavesCount
  /-- What is written does not tell the count. -/
  untold : match change with
    | .write element => element.tellsCount = false
    | .give request => request.stanza.tellsCount = false
    | _ => True

theorem Change.Routine.uncounted {change : Change} (h : change.Routine) : change.Uncounted := by
  refine ⟨h.modest.leavesCount h.silent.quiet, ?_⟩
  have unasked : change.demand? ≠ some .resume := by
    rw [h.silent.demand?]
    exact nofun
  cases change with
  | write element => exact Element.tellsCount_of_demand? h.modest unasked
  | give request => exact Element.tellsCount_of_demand? h.modest.2 unasked
  | _ => trivial

theorem Element.Rules.uncounted {e : Element} {s : Session} {change : Change}
    (h : e.Rules s change) (hname : e.name ≠ "enabled") (hsuccess : e.name ≠ "success") :
    change.Uncounted := by
  refine ⟨h.leavesCount hname hsuccess, ?_⟩
  cases change with
  | write _ | give _ => cases h
  | _ => trivial

/-! ## The count in the session -/

namespace Resumption.Context

/-- **A context inherits the count** of another: it has received and reported as much, and it
keeps no other stanzas. -/
structure Inherits (c c' : Context) : Prop where
  incoming : c'.incoming = c.incoming
  reported : c'.lastReported = c.lastReported
  unacked : c'.unacked ⊆ c.unacked

theorem Inherits.refl (c : Context) : c.Inherits c :=
  ⟨rfl, rfl, List.Subset.refl _⟩

theorem inherits_deactivate (c : Context) : c.Inherits c.deactivate := by
  unfold deactivate
  split
  · exact ⟨rfl, rfl, List.Subset.refl _⟩
  · exact .refl c

/-- **A context has the right count**: the number of stanzas received, modulo 2^32, and the last
report. What it keeps are stanzas. -/
structure Tallies (c : Context) (turns : List CountTurn) : Prop where
  incoming : c.incoming = .ofNat (count turns)
  reported : c.lastReported.map ack = lastReport? turns
  stanzas : ∀ entry ∈ c.unacked, entry.stanza.isStanza = true

variable {c c' : Context} {turns : List CountTurn}

theorem Tallies.inherits (h : c.Tallies turns) (inherits : c.Inherits c') : c'.Tallies turns where
  incoming := inherits.incoming.trans h.incoming
  reported := inherits.reported ▸ h.reported
  stanzas := fun entry hmem => h.stanzas entry (inherits.unacked hmem)

/-- A context that starts has nothing counted. -/
theorem tallies_start : start.Tallies (turns ++ [.began]) :=
  ⟨by rw [count_began]; rfl, by rw [lastReport?_began]; rfl, fun _ hmem => absurd hmem nofun⟩

/-- A stanza that is received while the session is live is counted. -/
theorem Tallies.receive (h : c.Tallies turns) (live : c.status = .active) :
    c.recordReceived.Tallies (turns ++ [.received]) := by
  unfold recordReceived
  rw [if_pos live]
  refine ⟨?_, ?_, h.stanzas⟩
  · show c.incoming + 1 = _
    rw [h.incoming, count_received, UInt32.ofNat_add]
    rfl
  · rw [lastReport?_received]
    exact h.reported

/-- Otherwise it is not. -/
theorem recordReceived_of_ne (c : Context) (h : c.status ≠ .active) : c.recordReceived = c :=
  if_neg h

/-- The count is reported. -/
theorem Tallies.report (h : c.Tallies turns) (live : Bool) :
    c.recordReport.Tallies (turns ++ [.told live (ack (.ofNat (count turns)))]) := by
  refine ⟨?_, ?_, h.stanzas⟩
  · rw [count_told]
    exact h.incoming
  · show some (ack c.incoming) = _
    rw [lastReport?_told, if_pos (by rfl), h.incoming]

/-- The session is to be resumed with the count. -/
theorem Tallies.resume (h : c.Tallies turns) (live : Bool) (n : UInt32) (previd : String) :
    c.Tallies (turns ++ [.told live (Resumption.resume n previd)]) := by
  refine ⟨?_, ?_, h.stanzas⟩
  · rw [count_told]
    exact h.incoming
  · rw [lastReport?_told, if_neg (by exact Bool.false_ne_true)]
    exact h.reported

/-- A stanza that is handed over is kept at most. -/
theorem Tallies.recordSent (h : c.Tallies turns) (entry : Entry) :
    (c.recordSent entry).Tallies turns := by
  unfold Context.recordSent
  split
  · rename_i stanza
    refine ⟨h.incoming, h.reported, fun other hmem => ?_⟩
    dsimp only at hmem
    split at hmem
    · exact h.stanzas other hmem
    · rcases List.mem_append.1 hmem with hmem | hmem
      · exact h.stanzas other (List.mem_of_mem_drop hmem)
      · exact List.mem_singleton.1 hmem ▸ stanza
  · exact h

end Resumption.Context

namespace Session

variable {s s' s'' : Session} {turns : List CountTurn}

/-- **The count of a session is right**, and so was whatever was told. -/
structure Tallies (s : Session) (turns : List CountTurn) : Prop where
  clean : s.properties.Clean
  truthful : Truthful turns
  stored : ∀ context, s.resumption? = some context → context.Tallies turns

/-- A change that spares the resumable session leaves it as it is. -/
theorem resumption?_change (clean : s.properties.Clean) {change : Change}
    (spares : change.SparesSession) : (s.change change).resumption? = s.resumption? := by
  cases change with
  | remember scope key value => exact s.properties.get?_cons_of_ne ⟨key, scope, value⟩ spares.1
  | clear scope => exact clean.resumption?_clear_of_not_le spares
  | receive | report | deactivate | abandon | reset | begin _ | enable _ | acknowledge _
  | resume _ => cases spares
  | answer reply => exact congrArg (·.resumption?) (s.resolves_answer reply).eq
  | cancel key => exact congrArg (·.resumption?) (s.resolves_cancel key).eq
  | sweep condition =>
    show (Session.perform _ _).resumption? = _
    rw [perform_eq]
    rfl
  | _ => rfl

/-- **A change that leaves the count** lets the resumable session inherit it, if there still is
one. -/
theorem inherits_change (clean : s.properties.Clean) {change : Change}
    (leaves : change.LeavesCount) {context' : Context}
    (hs : (s.change change).resumption? = some context') :
    ∃ context, s.resumption? = some context ∧ context.Inherits context' := by
  have same (spares : change.SparesSession) :
      ∃ context, s.resumption? = some context ∧ context.Inherits context' :=
    ⟨context', resumption?_change clean spares ▸ hs, .refl context'⟩
  have mapped {f : Context → Context} (hf : ∀ context : Context, context.Inherits (f context))
      (h : (s.change change).resumption? = s.resumption?.map f) :
      ∃ context, s.resumption? = some context ∧ context.Inherits context' := by
    obtain ⟨context, hcontext, rfl⟩ := Option.map_eq_some_iff.1 (h ▸ hs)
    exact ⟨context, hcontext, hf context⟩
  have ended (h : (s.change change).resumption? = none) :
      ∃ context, s.resumption? = some context ∧ context.Inherits context' := by
    rw [h] at hs
    cases hs
  cases change with
  | remember scope key value => exact same leaves
  | clear scope =>
    by_cases hle : Scope.session ≤ scope
    · exact ended (clean.resumption?_clear_of_le hle)
    · exact same hle
  | receive | report | begin _ => cases leaves
  | deactivate =>
    exact mapped Context.inherits_deactivate (s.resumption?_modifyResumption Context.deactivate)
  | enable enabled =>
    exact mapped (f := (·.enable enabled)) (fun _ => ⟨rfl, rfl, List.Subset.refl _⟩)
      (s.resumption?_modifyResumption _)
  | abandon => exact ended s.resumption?_abandonResumption
  | reset => exact ended s.resumption?_resetManagement
  | acknowledge report =>
    exact mapped (f := (·.acknowledge report)) (fun _ => ⟨rfl, rfl, List.drop_subset _ _⟩)
      (s.resumption?_acknowledge report)
  | resume report =>
    cases hresumption : s.resumption? with
    | none =>
      rw [show s.change (.resume report) = s from by
        show s.continueFrom report = s
        rw [continueFrom, hresumption], hresumption] at hs
      cases hs
    | some context =>
      refine ⟨context, rfl, ?_⟩
      rw [show (s.change (.resume report)).resumption? = some (context.resumeAt report) from
        s.resumption?_continueFrom hresumption report] at hs
      obtain rfl := Option.some.inj hs
      exact ⟨rfl, rfl, List.nil_subset _⟩
  | _ => exact same trivial

namespace Tallies

/-- **A change that leaves the count** leaves it right. -/
theorem change (h : s.Tallies turns) {change : Change} (leaves : change.LeavesCount) :
    (s.change change).Tallies turns where
  clean := clean_change h.clean leaves.keepsOff
  truthful := h.truthful
  stored := fun _ hs => by
    obtain ⟨context, hcontext, inherits⟩ := inherits_change h.clean leaves hs
    exact (h.stored context hcontext).inherits inherits

theorem course {R : Session → Change → Prop} (h : s.Tallies turns) (course : s.Course R s')
    (leaves : ∀ s change, R s change → change.LeavesCount) : s'.Tallies turns :=
  course.invariant (I := fun s => s.Tallies turns) h fun s change hR h =>
    h.change (leaves s change hR)

/-- The same count in the same context. -/
theorem of_eq (h : s.Tallies turns) (hproperties : s'.properties = s.properties) :
    s'.Tallies turns where
  clean := hproperties ▸ h.clean
  truthful := h.truthful
  stored := fun context hs => h.stored context (by rw [← hs, resumption?, resumption?, hproperties])

end Tallies

/-! ## What is told -/

/-- What is written in some steps waits after what waited before. -/
theorem Steps.exists_unsent {P : Change → Prop} {k : Nat} (steps : s.Steps P k s') :
    ∃ written, s'.unsent = s.unsent ++ written :=
  steps.invariant (I := fun s' => ∃ written, s'.unsent = s.unsent ++ written)
    ⟨[], (List.append_nil _).symm⟩ fun s' change _ ⟨written, h⟩ =>
      ⟨written ++ s'.adds change, by rw [unsent_change, h, List.append_assoc]⟩

/-- **What is told since** a session was another, by the elements that were written since. -/
def tells (s s' : Session) : List CountTurn :=
  (((s'.unsent.drop s.unsent.length).map (·.stanza)).filter Element.tellsCount).map
    (.told s.isManaged)

/-- **The count is not told** between two sessions: what was written does not tell it. -/
def Hushed (s s' : Session) : Prop :=
  ∃ written, s'.unsent = s.unsent ++ written
    ∧ ∀ entry ∈ written, entry.stanza.tellsCount = false

theorem tells_of_unsent {written : List Entry} (h : s'.unsent = s.unsent ++ written) :
    s.tells s' = ((written.map (·.stanza)).filter Element.tellsCount).map (.told s.isManaged) := by
  rw [tells, h, List.drop_left]

namespace Hushed

theorem refl (s : Session) : s.Hushed s :=
  ⟨[], (List.append_nil _).symm, nofun⟩

theorem trans (first : s.Hushed s') (second : s'.Hushed s'') : s.Hushed s'' := by
  obtain ⟨written, hwritten, untold⟩ := first
  obtain ⟨more, hmore, untold'⟩ := second
  refine ⟨written ++ more, by rw [hmore, hwritten, List.append_assoc], fun entry hmem => ?_⟩
  exact (List.mem_append.1 hmem).elim (untold entry) (untold' entry)

theorem of_outbox (h : s'.outbox = s.outbox) : s.Hushed s' :=
  ⟨[], by rw [unsent, h, List.append_nil, unsent], nofun⟩

/-- Then nothing is told. -/
theorem tells (h : s.Hushed s') : s.tells s' = [] := by
  obtain ⟨written, hwritten, untold⟩ := h
  rw [tells_of_unsent hwritten, List.map_eq_nil_iff, List.filter_eq_nil_iff]
  intro element hmem
  obtain ⟨entry, hentry, rfl⟩ := List.mem_map.1 hmem
  exact Bool.eq_false_iff.1 (untold entry hentry)

/-- What is told later on is all there is to tell. -/
theorem tells_trans (h : s.Hushed s') (live : s'.isManaged = s.isManaged) {more : List Entry}
    (hmore : s''.unsent = s'.unsent ++ more) : s.tells s'' = s'.tells s'' := by
  obtain ⟨written, hwritten, untold⟩ := h
  have hnil : (written.map (·.stanza)).filter Element.tellsCount = [] := by
    rw [List.filter_eq_nil_iff]
    intro element hmem
    obtain ⟨entry, hentry, rfl⟩ := List.mem_map.1 hmem
    exact Bool.eq_false_iff.1 (untold entry hentry)
  have hall : s''.unsent = s.unsent ++ (written ++ more) := by
    rw [hmore, hwritten, List.append_assoc]
  rw [tells_of_unsent hmore, tells_of_unsent hall, List.map_append, List.filter_append, hnil,
    List.nil_append, live]

end Hushed

/-- **With an uncounted change nothing is told**: what is sent again are stanzas. -/
theorem Tallies.hushed_change (h : s.Tallies turns) {change : Change}
    (uncounted : change.Uncounted) :
    s.Hushed (s.change change) := by
  refine ⟨s.adds change, s.unsent_change change, fun entry hmem => ?_⟩
  have untold := uncounted.untold
  cases change with
  | write element | give request =>
    obtain rfl := List.mem_singleton.1 hmem
    exact untold
  | resume report =>
    dsimp only [adds] at hmem
    split at hmem
    · rename_i context hs
      exact Element.tellsCount_of_isStanza
        ((h.stored context hs).stanzas entry (List.mem_of_mem_drop hmem))
    · cases hmem
  | _ => cases hmem

/-- **So it is in the course of uncounted changes**, and the count stays right. -/
theorem Tallies.uncounted {R : Session → Change → Prop} (h : s.Tallies turns)
    (course : s.Course R s') (uncounted : ∀ s change, R s change → change.Uncounted) :
    s'.Tallies turns ∧ s.Hushed s' := by
  refine course.invariant (I := fun s' => s'.Tallies turns ∧ s.Hushed s') ⟨h, .refl s⟩
    fun s' change hR h => ?_
  have hchange := uncounted s' change hR
  exact ⟨h.1.change hchange.leaves, h.2.trans (h.1.hushed_change hchange)⟩

/-! ## Counting and telling -/

theorem isManaged_iff :
    s.isManaged = true ↔ ∃ context, s.resumption? = some context ∧ context.status = .active := by
  unfold isManaged managementStatus?
  rw [decide_eq_true_iff, Option.map_eq_some_iff]

/-- What there is to count of an element that comes in. -/
def counts (s : Session) (e : Element) : List CountTurn :=
  if e.isStanza && s.isManaged then [.received] else []

/-- **A stanza is counted** if the session is live. -/
theorem Tallies.countReceived (h : s.Tallies turns) (e : Element) :
    (s.countReceived e).Tallies (turns ++ s.counts e) := by
  unfold Session.countReceived counts
  cases e.isStanza with
  | false => exact (List.append_nil turns).symm ▸ h
  | true =>
    rw [if_pos rfl, Bool.true_and]
    by_cases live : s.isManaged = true
    · rw [if_pos live]
      refine ⟨h.clean.modify _, h.truthful.append trivial, fun context' hs => ?_⟩
      rw [resumption?_modifyResumption] at hs
      obtain ⟨context, hcontext, rfl⟩ := Option.map_eq_some_iff.1 hs
      obtain ⟨other, hother, active⟩ := isManaged_iff.1 live
      obtain rfl := Option.some.inj (hcontext.symm.trans hother)
      exact (h.stored context hcontext).receive active
    · rw [if_neg live, List.append_nil]
      refine ⟨h.clean.modify _, h.truthful, fun context' hs => ?_⟩
      rw [resumption?_modifyResumption] at hs
      obtain ⟨context, hcontext, rfl⟩ := Option.map_eq_some_iff.1 hs
      rw [context.recordReceived_of_ne fun active =>
        live (isManaged_iff.2 ⟨context, hcontext, active⟩)]
      exact h.stored context hcontext

/-- **Which number is to be reported**: the count, if the session is live, and unless it must be
reported only if the last report was another. -/
theorem Tallies.report? (h : s.Tallies turns) (force : Bool) :
    s.resumption?.bind (·.report? force)
      = if s.isManaged = true
          ∧ (force = true ∨ lastReport? turns ≠ some (ack (.ofNat (count turns))))
        then some (.ofNat (count turns)) else none := by
  cases hs : s.resumption? with
  | none =>
    rw [if_neg fun due => ?_]
    · rfl
    · obtain ⟨context, hcontext, -⟩ := isManaged_iff.1 due.1
      rw [hs] at hcontext
      cases hcontext
  | some context =>
    have stored := h.stored context hs
    have hlive : s.isManaged = true ↔ context.status = .active := by
      rw [isManaged_iff, hs]
      exact ⟨fun ⟨_, heq, active⟩ => Option.some.inj heq ▸ active, fun active => ⟨_, rfl, active⟩⟩
    have hlast : lastReport? turns = some (ack (.ofNat (count turns)))
        ↔ context.lastReported = some context.incoming := by
      rw [← stored.reported, ← stored.incoming, Option.map_eq_some_iff]
      exact ⟨fun ⟨n, hn, heq⟩ => ack_inj.1 heq ▸ hn, fun heq => ⟨_, heq, rfl⟩⟩
    rw [Option.bind_some, Context.report?, stored.incoming]
    simp only [hlive, hlast, ne_eq, stored.incoming]

/-- What is written is told, if it tells the count. -/
theorem tells_write {element : Element} (h : element.tellsCount = true)
    (ho : s'.outbox = s.outbox) : s.tells (s'.write element) = [.told s.isManaged element] := by
  have hunsent : (s'.write element).unsent = s.unsent ++ [⟨element, s'.issued⟩] := by
    rw [show s.unsent = s'.unsent by rw [unsent, unsent, ho]]
    exact unsent_push _ (.element ⟨element, s'.issued⟩ none)
  rw [tells_of_unsent hunsent]
  simp [h]

theorem Tallies.tells_sendAck (h : s.Tallies turns) (force : Bool) :
    s.tells (s.sendAck force)
      = if s.isManaged = true
          ∧ (force = true ∨ lastReport? turns ≠ some (ack (.ofNat (count turns))))
        then [.told true (ack (.ofNat (count turns)))] else [] := by
  unfold Session.sendAck
  rw [h.report? force]
  by_cases due : s.isManaged = true
      ∧ (force = true ∨ lastReport? turns ≠ some (ack (.ofNat (count turns))))
  · rw [if_pos due, if_pos due]
    dsimp only
    rw [tells_write (by rfl) (by rfl), due.1]
  · rw [if_neg due, if_neg due]
    exact (Hushed.refl s).tells

/-- **A report tells the count.** -/
theorem Tallies.sendAck (h : s.Tallies turns) (force : Bool) :
    (s.sendAck force).Tallies (turns ++ s.tells (s.sendAck force)) := by
  rw [h.tells_sendAck force]
  unfold Session.sendAck
  rw [h.report? force]
  by_cases due : s.isManaged = true
      ∧ (force = true ∨ lastReport? turns ≠ some (ack (.ofNat (count turns))))
  · rw [if_pos due, if_pos due]
    refine ⟨h.clean.modify _, h.truthful.append (.inl ⟨rfl, rfl⟩), fun context' hs => ?_⟩
    have hs : (s.modifyResumption Context.recordReport).resumption? = some context' := hs
    rw [resumption?_modifyResumption] at hs
    obtain ⟨context, hcontext, rfl⟩ := Option.map_eq_some_iff.1 hs
    exact (h.stored context hcontext).report true
  · rw [if_neg due, if_neg due, List.append_nil]
    exact h

/-- **The request to resume the session tells the count.** -/
theorem Tallies.resume (h : s.Tallies turns) :
    s.resume.2.Tallies (turns ++ s.tells s.resume.2) := by
  unfold Session.resume
  cases hinfo : s.resumeInfo? with
  | none =>
    dsimp only
    rw [(Hushed.refl s).tells, List.append_nil]
    exact h
  | some info =>
    obtain ⟨previd, n⟩ := info
    dsimp only
    obtain ⟨context, hcontext, hinfo⟩ := Option.bind_eq_some_iff.1 hinfo
    obtain rfl : n = .ofNat (count turns) := by
      unfold Context.resumeInfo? at hinfo
      split at hinfo
      · obtain ⟨id, -, heq⟩ := Option.map_eq_some_iff.1 hinfo
        rw [← (Prod.mk.inj heq).2, (h.stored context hcontext).incoming]
      · cases hinfo
    rw [tells_write (by rfl) rfl]
    exact ⟨h.clean, h.truthful.append (.inr ⟨previd, rfl⟩), fun context hs =>
      (h.stored context hs).resume _ _ previd⟩

/-- Asking for a report tells nothing. -/
theorem Tallies.requestAck (h : s.Tallies turns) :
    s.requestAck.Tallies turns ∧ s.Hushed s.requestAck ∧ s.requestAck.isManaged = s.isManaged := by
  obtain ⟨tallies, hushed⟩ := h.uncounted (R := fun _ change => change.Routine)
    (.of_steps (Steps.requestAck s) fun _ _ => id) fun _ _ => Change.Routine.uncounted
  refine ⟨tallies, hushed, ?_⟩
  unfold Session.requestAck
  split <;> rfl

/-- **Seeing to reports** tells the count if the session is live and the last report was
another. -/
theorem Tallies.manage (h : s.Tallies turns) :
    s.manage.Tallies (turns ++ s.tells s.manage)
      ∧ s.tells s.manage
        = if s.isManaged = true ∧ lastReport? turns ≠ some (ack (.ofNat (count turns)))
          then [.told true (ack (.ofNat (count turns)))] else [] := by
  have asked : (if 0 < s.unackedCount then s.requestAck else s).Tallies turns
      ∧ s.Hushed (if 0 < s.unackedCount then s.requestAck else s)
      ∧ (if 0 < s.unackedCount then s.requestAck else s).isManaged = s.isManaged := by
    split
    · exact h.requestAck
    · exact ⟨h, .refl s, rfl⟩
  unfold Session.manage
  by_cases live : s.isManaged = true
  · rw [if_pos live]
    generalize (if 0 < s.unackedCount then s.requestAck else s) = s' at asked ⊢
    obtain ⟨tallies, hushed, hlive⟩ := asked
    obtain ⟨more, hmore⟩ := (Steps.sendAck (P := fun _ => True) s' false trivial
      fun _ _ _ => trivial).exists_unsent
    rw [hushed.tells_trans hlive hmore]
    refine ⟨tallies.sendAck false, ?_⟩
    rw [tallies.tells_sendAck false, hlive]
    simp only [Bool.false_eq_true, false_or]
  · rw [if_neg live, if_neg fun due => live due.1, (Hushed.refl s).tells, List.append_nil]
    exact ⟨h, rfl⟩

/-- **Handing over an element** begins a session if it asks to enable stream management. -/
theorem Tallies.countSent (h : s.Tallies turns) (entry : Entry) :
    (s.countSent entry).Tallies
      (turns ++ if entry.stanza.is "enable" Namespace.streamManagement then [.began] else []) := by
  have hresumption := s.resumption?_countSent entry
  unfold Session.countSent at hresumption ⊢
  split
  · rename_i asks
    rw [if_pos asks, if_pos asks] at hresumption
    refine ⟨h.clean.set _, h.truthful.append trivial, fun context hs => ?_⟩
    obtain rfl := Option.some.inj (hresumption.symm.trans hs)
    exact Context.tallies_start
  · rename_i other
    rw [if_neg other, if_neg other] at hresumption
    rw [List.append_nil]
    refine ⟨h.clean.modify _, h.truthful, fun context' hs => ?_⟩
    obtain ⟨context, hcontext, rfl⟩ := Option.map_eq_some_iff.1 (hresumption.symm.trans hs)
    exact (h.stored context hcontext).recordSent entry

/-- What a module that is called may do to tell the count: it has stream management report, see to
reports, or ask to resume the session. -/
def Reports (s s' : Session) : Prop :=
  (∃ force, s' = s.sendAck force) ∨ s' = s.manage ∨ s' = s.resume.2

theorem Tallies.reports (h : s.Tallies turns) (reports : s.Reports s') :
    s'.Tallies (turns ++ s.tells s') := by
  rcases reports with ⟨force, rfl⟩ | rfl | rfl
  · exact h.sendAck force
  · exact h.manage.1
  · exact h.resume

end Session

end Xmpp
