import Mathlib.Data.List.Basic
import Mathlib.Data.List.Induction
import Xmpp.Proofs.Client.Annals
import Xmpp.Proofs.Client.Footing
import Xmpp.Proofs.Session.Housing

/-!
# Who we are

A session knows the address it is bound to, and so does the registry, which judges by it whose
replies are our own. The registry goes by the configured address as long as no resource is
bound. Both copies are kept by the controller, and three things it reacts to decide them
(`AddressTurn`): a resource is bound, the server refuses to resume the session, and the session
is over.

The two agree after the first and the last of these, but not after a refusal
(`Client.addresses_of_run`). Then the session forgets its address with everything else that
belonged to it, and the registry goes on judging by the old one until a resource is bound or the
session is over. So there is a time in which the two disagree, unless the old address is the
configured one, and in it replies of the account are turned away: also the one that
binds the next resource (`Client.not_forall_agrees`).
-/

namespace Xmpp

open Delivery Resumption

namespace AddressTurn

variable {configured jid : Jid} {turns : List AddressTurn} {turn : AddressTurn}

/-- The address of the session after these turns. -/
def bound? (turns : List AddressTurn) : Option Jid :=
  turns.foldl (fun _ turn => match turn with
    | .bound jid => some jid
    | .refused | .ended => none) none

/-- The address replies are judged by after these turns. -/
def own (configured : Jid) (turns : List AddressTurn) : Jid :=
  turns.foldl (fun own turn => match turn with
    | .bound jid => jid
    | .refused => own
    | .ended => configured) configured

/-- **An address was bound last**: only refusals came since. -/
def BoundLast (jid : Jid) (turns : List AddressTurn) : Prop :=
  ∃ before since, turns = before ++ .bound jid :: since ∧ ∀ turn ∈ since, turn = .refused

/-- **A stale address**: it is not the configured one, and since it was bound resuming was
refused and nothing else happened. -/
def Stale (configured : Jid) (turns : List AddressTurn) : Prop :=
  ∃ jid, jid ≠ configured ∧ BoundLast jid turns ∧ turns.getLast? = some .refused

theorem not_boundLast_nil : ¬ BoundLast jid [] := by
  rintro ⟨before, since, h, -⟩
  exact List.append_ne_nil_of_right_ne_nil _ (List.cons_ne_nil _ _) h.symm

theorem boundLast_append_iff :
    BoundLast jid (turns ++ [turn])
      ↔ turn = .bound jid ∨ turn = .refused ∧ BoundLast jid turns := by
  constructor
  · rintro ⟨before, since, h, hsince⟩
    rcases concat_eq_append_cons h with ⟨-, rfl, -⟩ | ⟨rest, rfl, rfl⟩
    · exact .inl rfl
    · refine .inr ⟨hsince turn (List.mem_append_right _ (List.mem_singleton.2 rfl)),
        before, rest, rfl, fun other hmem => hsince other (List.mem_append_left _ hmem)⟩
  · rintro (rfl | ⟨rfl, before, since, rfl, hsince⟩)
    · exact ⟨turns, [], rfl, by simp⟩
    · refine ⟨before, since ++ [.refused], by simp, fun other hmem => ?_⟩
      rcases List.mem_append.1 hmem with hmem | hmem
      · exact hsince other hmem
      · exact List.mem_singleton.1 hmem

/-- **Replies are judged by the address that was bound last**, and by the configured one if
there is none. -/
theorem own_eq_iff (h : jid ≠ configured) : own configured turns = jid ↔ BoundLast jid turns := by
  induction turns using List.reverseRecOn with
  | nil => exact ⟨fun heq => absurd heq.symm h, fun hlast => (not_boundLast_nil hlast).elim⟩
  | append_singleton turns turn ih =>
    rw [boundLast_append_iff, own, List.foldl_concat]
    cases turn with
    | bound other => simp
    | refused => simpa [own] using ih
    | ended => simpa using Ne.symm h

/-- **The two addresses agree unless there is a stale one.** -/
theorem own_eq_getD_iff :
    own configured turns = (bound? turns).getD configured ↔ ¬ Stale configured turns := by
  induction turns using List.reverseRecOn with
  | nil => simp [own, bound?, Stale]
  | append_singleton turns turn _ =>
    rw [bound?, List.foldl_concat]
    cases turn with
    | bound jid => simp [own, Stale]
    | refused =>
      show own configured (turns ++ [.refused]) = configured ↔ _
      constructor
      · rintro hown ⟨jid, hjid, hlast, -⟩
        exact hjid (((own_eq_iff hjid).2 hlast).symm.trans hown)
      · intro hfresh
        by_contra hown
        exact hfresh ⟨_, hown, (own_eq_iff hown).1 rfl, by simp⟩
    | ended => simp [own, Stale]

end AddressTurn

open AddressTurn

/-! ## What a session knows -/

namespace Session

variable {s s' : Session} {configured judge : Jid} {bound? : Option Jid}

/-- **What a session knows of its addresses**: the configured one, the one replies are judged by,
and the one it is bound to. -/
structure Knows (s : Session) (configured judge : Jid) (bound? : Option Jid) : Prop where
  config : s.config.jid = configured
  registry : s.registry.ownJid = some judge
  bound : s.properties.boundJid? = bound?
  housed : s.properties.Housed

/-- Nothing changes what the application decided. -/
theorem config_change (s : Session) (change : Change) : (s.change change).config = s.config := by
  cases change with
  | abandon => exact congrArg (·.config) s.abandonResumption_eq
  | reset => exact congrArg (·.config) s.resetManagement_eq
  | acknowledge h => exact congrArg (·.config) (s.acknowledge_eq h)
  | resume h => exact congrArg (·.config) (s.continueFrom_eq h)
  | answer reply => exact congrArg (·.config) (s.resolves_answer reply).eq
  | cancel key => exact congrArg (·.config) (s.resolves_cancel key).eq
  | sweep condition =>
    show (Session.perform _ _).config = _
    rw [perform_eq]
  | _ => rfl

/-- Only settling our own address changes the one replies are judged by. -/
theorem ownJid_change (s : Session) {change : Change} (spares : change.SparesAddress) :
    (s.change change).registry.ownJid = s.registry.ownJid := by
  have resolved {s' : Session} (h : s.Resolves s') :
      s'.registry.ownJid = s.registry.ownJid := by
    cases h with
    | none => rfl
    | one r _ outcome =>
      rw [perform_eq]
      rfl
  cases change with
  | identify jid => cases spares
  | abandon => exact congrArg (·.registry.ownJid) s.abandonResumption_eq
  | reset => exact congrArg (·.registry.ownJid) s.resetManagement_eq
  | acknowledge h => exact congrArg (·.registry.ownJid) (s.acknowledge_eq h)
  | resume h => exact congrArg (·.registry.ownJid) (s.continueFrom_eq h)
  | answer reply => exact resolved (s.resolves_answer reply)
  | cancel key => exact resolved (s.resolves_cancel key)
  | sweep condition =>
    show (Session.perform _ _).registry.ownJid = _
    rw [perform_eq]
    rfl
  | _ => rfl

/-- Nor does anything else change the one the session is bound to. -/
theorem boundJid?_change (housed : s.properties.Housed) {change : Change}
    (spares : change.SparesAddress) :
    (s.change change).properties.boundJid? = s.properties.boundJid? := by
  refine get?_change housed Properties.home?_boundKey (by decide) ?_ ?_
  · rintro scope other value rfl
    exact spares
  · rintro scope rfl
    exact spares

/-- **What spares the address leaves a session with what it knows.** -/
theorem Knows.change (h : s.Knows configured judge bound?) {change : Change}
    (spares : change.SparesAddress) (housed : change.Housed) :
    (s.change change).Knows configured judge bound? where
  config := by rw [config_change, h.config]
  registry := (s.ownJid_change spares).trans h.registry
  bound := (boundJid?_change h.housed spares).trans h.bound
  housed := housed_change h.housed housed

theorem Knows.steps (h : s.Knows configured judge bound?) {P : Change → Prop} {k : Nat}
    (steps : s.Steps P k s') (spares : ∀ change, P change → change.SparesAddress)
    (quiet : ∀ change, P change → change.Quiet) : s'.Knows configured judge bound? :=
  steps.invariant (I := fun s => s.Knows configured judge bound?) h fun _ change hchange h =>
    h.change (spares change hchange) (quiet change hchange).housed

theorem Knows.routine (h : s.Knows configured judge bound?) {k : Nat}
    (steps : s.Steps Change.Routine k s') : s'.Knows configured judge bound? :=
  h.steps steps (fun _ => Change.Routine.spares) fun _ routine => routine.silent.quiet

theorem Knows.customary (h : s.Knows configured judge bound?) {k : Nat}
    (steps : s.Steps Change.Customary k s') : s'.Knows configured judge bound? :=
  h.steps steps (fun _ => Change.Customary.spares) fun _ => Change.Customary.quiet

/-- Whoever forgets the session forgets its address. -/
theorem Knows.clear (h : s.Knows configured judge bound?) {scope : Scope}
    (hle : Scope.session ≤ scope) : (s.clear scope).Knows configured judge none where
  config := h.config
  registry := h.registry
  bound := h.housed.get?_clear_of_le Properties.home?_boundKey hle
  housed := h.housed.clear scope

/-- A session that is over judges by the configured address again. -/
theorem Knows.wrapUp (h : s.Knows configured judge bound?) :
    s.wrapUp.Knows configured configured none := by
  have failed : s.timeoutAll.Knows configured judge bound? := h.routine (.timeoutAll s)
  have spares : Change.reset.SparesAddress := trivial
  have forgotten : (s.timeoutAll.resetManagement).Knows configured judge bound? :=
    failed.change spares trivial
  have cleared := forgotten.clear (show Scope.session ≤ Scope.session by decide)
  exact ⟨cleared.config, congrArg some cleared.config, cleared.bound, cleared.housed⟩

/-- A session that is bound judges by its address. -/
theorem Knows.settleIn (h : s.Knows configured judge bound?) (jid : Jid) (inline : Bool) :
    (s.settleIn jid inline).Knows configured jid (some jid) := by
  have named : ((s.setProperty .session Properties.boundKey jid).setOwnJid (some jid)).Knows
      configured jid (some jid) :=
    ⟨h.config, rfl, s.properties.get?_set_self .session Properties.boundKey jid,
      h.housed.cons (show Properties.Houses .session Properties.boundKey from .inr (by decide))⟩
  exact named.routine (.settleIn s jid inline)

/-- A session that could not be resumed forgets its address, and judges by it until another
one is bound. -/
theorem Knows.giveUp (h : s.Knows configured judge bound?) :
    (s.timeoutAll.clear .session).bind.2.Knows configured judge none := by
  have failed : s.timeoutAll.Knows configured judge bound? := h.routine (.timeoutAll s)
  exact (failed.clear (show Scope.session ≤ Scope.session by decide)).customary (.bind _)

/-- **What a reaction decides about the addresses.** -/
theorem Knows.react {turns : List AddressTurn}
    (h : s.Knows configured (own configured turns) (AddressTurn.bound? turns)) (c : Controller)
    (event : Event) :
    (c.react s event).2.Knows configured
      (own configured (turns ++ (c.addressTurn? s event).toList))
      (AddressTurn.bound? (turns ++ (c.addressTurn? s event).toList)) := by
  cases hturn : c.addressTurn? s event with
  | none =>
    obtain ⟨k, -, steps⟩ := Steps.does_react c s event
    rw [Option.toList_none, List.append_nil]
    exact h.steps steps (fun _ does => does.spares hturn) fun _ does => does.quiet
  | some turn =>
    rw [Option.toList_some, own, AddressTurn.bound?, List.foldl_concat, List.foldl_concat]
    cases event with
    | bound jid inline =>
      obtain rfl := Option.some.inj hturn
      exact h.settleIn jid inline
    | managementFailed condition =>
      unfold Controller.addressTurn? at hturn
      dsimp only at hturn
      unfold Controller.react
      dsimp only
      split at hturn
      · rename_i resuming
        obtain rfl := Option.some.inj hturn
        rw [if_pos resuming]
        exact h.giveUp
      · cases hturn
    | connector old new =>
      unfold Controller.addressTurn? at hturn
      dsimp only at hturn
      split at hturn
      · rename_i ended
        obtain ⟨rfl, ended⟩ := ended
        obtain rfl := Option.some.inj hturn
        show (s.followConnector old .disconnected).Knows _ _ _
        unfold followConnector
        dsimp only
        rw [if_pos ended]
        exact h.wrapUp
      · cases hturn
    | _ => cases hturn

end Session

/-! ## Operations -/

/-- **Unassuming changes**: they spare the address, and leave the properties of the library in
their scopes. -/
structure Change.Unassuming (change : Change) : Prop where
  spares : change.SparesAddress
  housed : change.Housed

/-- Where no module is called and no request made, every operation is unassuming. -/
theorem Operation.within_unassuming {op : Operation} (h : op.isBare = true) :
    op.Within Change.Unassuming :=
  within_of_isBare h (fun _ => ⟨trivial, trivial⟩) (fun _ => ⟨trivial, trivial⟩)
    (fun _ _ => ⟨trivial, trivial⟩) fun change hverdict => by
      cases change with
      | begin _ | enable _ | acknowledge _ | resume _ => exact ⟨trivial, trivial⟩
      | _ => cases hverdict

/-- All that happens in an unassuming operation is. -/
theorem Operation.Entails.unassuming {op : Operation} (h : op.Within Change.Unassuming)
    {s : Session} {change : Change} (entails : op.Entails Change.Unassuming s change) :
    change.Unassuming := by
  rcases entails with routine | duty | unassuming | brings
  · exact ⟨routine.spares, routine.silent.quiet.housed⟩
  · exact ⟨by cases duty.official <;> trivial, duty.silent.quiet.housed⟩
  · exact unassuming
  · exact h.brings ⟨trivial, trivial⟩ brings

/-- Modules of the application that spare the address are unassuming: they set no properties. -/
theorem Catalogue.Within.unassuming {catalogue : Catalogue}
    (h : catalogue.Within Change.SparesAddress) : catalogue.Within Change.Unassuming := by
  have both {action : Action} (spares : action.Within Change.SparesAddress)
      (housed : action.Within Change.Housed) : action.Within Change.Unassuming := by
    cases action with
    | request draft =>
      exact ⟨fun drawn => ⟨spares.1 drawn, housed.1 drawn⟩,
        fun usual now drawn => ⟨spares.2 usual now drawn, housed.2 usual now drawn⟩⟩
    | fail error => trivial
    | _ => exact ⟨spares, housed⟩
  exact fun entry hentry =>
    ⟨fun action hmem => both ((h entry hentry).1 action hmem)
        ((catalogue.within_housed entry hentry).1 action hmem),
      fun e action hmem => both ((h entry hentry).2 e action hmem)
        ((catalogue.within_housed entry hentry).2 e action hmem)⟩

/-! ## Runs -/

namespace Client

variable {c c₀ : Client} {configured judge : Jid} {bound? : Option Jid} {turns : List AddressTurn}

/-- **What there is to tell of the addresses**: what the controller decides. -/
def addressBook : Scribe AddressTurn where
  admits _ op := op.Within Change.Unassuming
  operation _ _ := []
  item _ _ := []
  reaction c s event := (c.addressTurn? s event).toList

theorem knows_prepare (h : c.session.Knows configured judge bound?)
    (modest : c.session.catalogue.Within Change.SparesAddress) {op : Operation}
    (hop : op.Within Change.Unassuming) :
    (c.prepare op).session.Knows configured judge bound? :=
  (Session.Course.entailed c op modest.unassuming).invariant
    (I := fun s => s.Knows configured judge bound?) h fun _ _ entails h =>
      have unassuming := entails.unassuming hop
      h.change unassuming.spares unassuming.housed

/-- Waiting for a reply leaves the address it is judged by. -/
theorem ownJid_awaitReply (s : Session) (request : Option Request) :
    (s.awaitReply request).registry.ownJid = s.registry.ownJid := by
  cases request with
  | none => rfl
  | some r =>
    unfold Session.awaitReply
    dsimp only
    split
    · rw [Session.perform_eq]
    · unfold Session.register
      rw [Session.perform_eq]
      rfl

/-- Handing over an item leaves a session with what it knows. -/
theorem knows_deliver (h : c.session.Knows configured judge bound?) (item : Outgoing) :
    (c.deliver item).session.Knows configured judge bound? := by
  have hproperties : (c.deliver item).session.properties.Housed
      ∧ (c.deliver item).session.properties.boundJid? = bound? := by
    refine properties_deliver (I := fun p => p.Housed ∧ p.boundJid? = bound?) item
      ⟨h.housed, h.bound⟩ ⟨h.housed.clear .stream, ?_⟩ ⟨h.housed.set .start, ?_⟩
      fun f => ⟨h.housed.modify _ f, ?_⟩
    · exact (h.housed.get?_clear_of_not_le Properties.home?_boundKey (by decide)).trans h.bound
    · exact (Properties.get?_set_of_ne _ _ _ (by decide)).trans h.bound
    · exact (Properties.get?_modify_of_ne _ _ (by decide)).trans h.bound
  have hrest : (c.deliver item).session.config.jid = c.session.config.jid
      ∧ (c.deliver item).session.registry.ownJid = c.session.registry.ownJid := by
    have delivers := c.delivers item
    generalize (c.deliver item).session = s' at delivers
    cases delivers with
    | restart | close | closing => exact ⟨rfl, rfl⟩
    | lost entry request state error _ =>
      rw [Session.failUnsent_eq]
      exact ⟨rfl, rfl⟩
    | taken entry request _ =>
      rw [Session.countSent_eq, Session.awaitReply_eq]
      exact ⟨rfl, ownJid_awaitReply _ request⟩
  exact ⟨hrest.1.trans h.config, hrest.2.trans h.registry, hproperties.2, hproperties.1⟩

/-- **The annals tell what a session knows.** -/
theorem knows_of_annals (annals : addressBook.Annals c₀ turns c)
    (h : c₀.session.Knows configured configured none)
    (modest : c₀.session.catalogue.Within Change.SparesAddress) :
    c.session.Knows configured (own configured turns) (AddressTurn.bound? turns)
      ∧ c.session.catalogue = c₀.session.catalogue := by
  induction annals with
  | start => exact ⟨h, rfl⟩
  | operate _ _ op hop ih =>
    obtain ⟨knows, hcatalogue⟩ := ih
    rw [show addressBook.operation _ op = [] from rfl, List.append_nil]
    exact ⟨knows_prepare knows (hcatalogue ▸ modest) hop,
      (Session.Course.entailed _ op (hcatalogue ▸ modest)).catalogue.trans hcatalogue⟩
  | @deliver turns c item rest _ ho ih =>
    obtain ⟨knows, hcatalogue⟩ := ih
    rw [show addressBook.item _ item = [] from rfl, List.append_nil]
    have hrest : (c.withOutbox rest).session.Knows configured (own configured turns)
        (AddressTurn.bound? turns) := ⟨knows.config, knows.registry, knows.bound, knows.housed⟩
    exact ⟨knows_deliver hrest item,
      (catalogue_deliver (c.withOutbox rest) item).trans hcatalogue⟩
  | @react turns c event rest _ ho he ih =>
    obtain ⟨knows, hcatalogue⟩ := ih
    have hrest : (c.withEvents rest).session.Knows configured (own configured turns)
        (AddressTurn.bound? turns) := ⟨knows.config, knows.registry, knows.bound, knows.housed⟩
    exact ⟨hrest.react c.controller event,
      (catalogue_handleEvent (c.withEvents rest) event).trans hcatalogue⟩

/-- **A client agrees on its address**: replies are judged by the one the session is bound to,
and by the configured one if it is bound to none. -/
def Agrees (c : Client) : Prop :=
  c.session.registry.ownJid = some (c.session.properties.boundJid?.getD c.session.config.jid)

instance (c : Client) : Decidable c.Agrees :=
  inferInstanceAs (Decidable (_ = _))

/-- **Whose replies a client takes as its own.** In every run there is something to tell of the
addresses, and whatever was told, the annals say by which address replies are judged and which
one the session is bound to. The two agree unless there is a stale one: unless resuming was
refused last, and the address that was bound before is not the configured one. -/
theorem addresses_of_run {config : Config} {catalogue : Catalogue} {ops : List Operation}
    (modest : catalogue.Within Change.SparesAddress)
    (unassuming : ∀ op ∈ ops, op.Within Change.Unassuming) :
    (∃ turns, addressBook.Annals (blank config catalogue) turns
        (ops.foldl operate (blank config catalogue)))
      ∧ ∀ turns, addressBook.Annals (blank config catalogue) turns
          (ops.foldl operate (blank config catalogue)) →
        (ops.foldl operate (blank config catalogue)).session.registry.ownJid
            = some (own config.jid turns)
          ∧ (ops.foldl operate (blank config catalogue)).session.properties.boundJid?
            = AddressTurn.bound? turns
          ∧ ((ops.foldl operate (blank config catalogue)).Agrees ↔ ¬ Stale config.jid turns) := by
  refine ⟨Scribe.Annals.exists_foldl_operate (atRest_blank config catalogue)
    (Scribe.admitsAll_of_forall (fun op hmem _ => unassuming op hmem) _), fun turns annals => ?_⟩
  have start : (blank config catalogue).session.Knows config.jid config.jid none :=
    ⟨rfl, rfl, rfl, fun _ hmem => absurd hmem List.not_mem_nil⟩
  obtain ⟨knows, -⟩ := knows_of_annals annals start modest
  refine ⟨knows.registry, knows.bound, ?_⟩
  rw [Agrees, knows.registry, knows.bound, knows.config, Option.some_inj, own_eq_getD_iff]

namespace Rehearsal

/-- The server binds a resource of another account. -/
def bindsElsewhere : Element where
  name := "iq"
  ns := Namespace.client
  attributes := [("type", "result"), ("id", "1")]
  content := Element.nodes
    [{ name := "bind"
       ns := Namespace.bind
       content := Element.nodes [.ofText "jid" Namespace.bind "romeo@montague.lit/orchard"] }]

/-- A client is bound to another account, and after the connection was lost the server does not
resume the session. -/
def losesAddress : List Operation :=
  .install (ModuleId.builtIn.map (Descriptor.default [])) :: connects
    ++ [.receive welcomes, .receive offersManagement, .receive bindsElsewhere, .receive enables,
      .lost]
    ++ connects ++ [.receive welcomes, .receive offersManagement, .receive refuses]

theorem bare_losesAddress : ∀ op ∈ losesAddress, op.isBare = true :=
  List.all_eq_true.1 (by decide)

/-- The server binds the configured address, in the name of its account. -/
def bindsAgain : Element :=
  (binds "6").setAttr "from" "juliet@capulet.lit"

end Rehearsal

open Rehearsal

/-- In the rehearsal the address of the other account is stale. -/
theorem addresses_of_run_rehearsal :
    Catalogue.Within Change.SparesAddress [] ∧ (∀ op ∈ losesAddress, op.Within Change.Unassuming)
      ∧ ∃ turns, addressBook.Annals (blank account []) turns
          (losesAddress.foldl operate (blank account []))
        ∧ Stale account.jid turns := by
  have modest : Catalogue.Within Change.SparesAddress [] :=
    fun _ hmem => absurd hmem List.not_mem_nil
  have unassuming : ∀ op ∈ losesAddress, op.Within Change.Unassuming := fun op hop =>
    Operation.within_unassuming (bare_losesAddress op hop)
  obtain ⟨⟨turns, annals⟩, told⟩ := @addresses_of_run account [] losesAddress modest unassuming
  refine ⟨modest, unassuming, turns, annals, ?_⟩
  by_contra fresh
  exact absurd ((told turns annals).2.2.2 fresh) (by decide +kernel)

/-- **The addresses do not always agree**, and then a reply of the own account is not taken as one:
it would bind a resource, but the request for it goes on waiting. -/
theorem not_forall_agrees :
    (¬ ∀ ops : List Operation, (∀ op ∈ ops, op.isBare = true) →
        (ops.foldl operate (blank account [])).Agrees)
      ∧ ¬ ∀ (ops : List Operation) (r : Request) (e : Element), (∀ op ∈ ops, op.isBare = true) →
        (ops.foldl operate (blank account [])).session.properties.boundJid? = none →
        (ops.foldl operate (blank account [])).session.registry.requests = [r] →
        r.recipient = none → RequestKey.of? e = some r.key → Registry.isReply e = true →
        e.attr "from" = some account.jid.bare.toString →
          (ops.foldl operate (blank account [])).session.registry.answeredBy? e = some r := by
  constructor
  · intro h
    exact absurd (h losesAddress bare_losesAddress) (by decide +kernel)
  · intro h
    have hscene : ((losesAddress.foldl operate (blank account [])).session.registry.requests.map
        fun r => (r.recipient.isNone, decide (RequestKey.of? bindsAgain = some r.key)))
        = [(true, true)] := by
      decide +kernel
    obtain ⟨r, hrequests, hr⟩ := List.map_eq_singleton_iff.1 hscene
    obtain ⟨hrecipient, hkey⟩ := Prod.mk.inj hr
    have hanswered := h losesAddress r bindsAgain bare_losesAddress (by decide +kernel) hrequests
      (Option.isNone_iff_eq_none.1 hrecipient) (of_decide_eq_true hkey) (by decide) (by decide)
    have hturned : (losesAddress.foldl operate (blank account [])).session.registry.answeredBy?
        bindsAgain |>.isNone := by
      decide +kernel
    rw [hanswered] at hturned
    cases hturned

end Client

end Xmpp
