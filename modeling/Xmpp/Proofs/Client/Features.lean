import Xmpp.Proofs.Client.Precedence
import Xmpp.Proofs.Client.Replies

/-!
# Telling our features

Whoever asks for our features is told those that discovery keeps. It collects them from
all modules when it is set up, and that happens once: along with the other built-in modules, when
all modules of the first batch are registered. A module that is installed later brings
features of its own, and nobody is told of them.

So a client tells the features of the modules it was created with, in the order of their
slots, whatever it went through since (`Client.tells_of_created`). These are the features of the
modules it has as long as later modules bring no new ones, and only then; an application that
installs one that does, tells too little (`Client.not_forall_tells_installed`).
-/

namespace Xmpp

open Delivery

/-! ## What is kept -/

/-- Whether a change leaves the features we tell alone. -/
def Change.KeepsFeatures : Change → Prop
  | .advertise _ => False
  | _ => True

theorem Change.Modest.keepsFeatures {change : Change} (h : change.Modest) :
    change.KeepsFeatures := by
  cases change with
  | advertise features => cases h
  | _ => trivial

/-- What an operation does is of no consequence for the features we tell, unless it installs
modules. -/
theorem Operation.Entails.keepsFeatures {op : Operation} (h : op.Within Change.KeepsFeatures)
    (hop : op.batch? = none) {s : Session} {change : Change}
    (entails : op.Entails Change.KeepsFeatures s change) : change.KeepsFeatures := by
  rcases entails with routine | duty | keeps | brings
  · exact routine.modest.keepsFeatures
  · cases change with
    | advertise features =>
      cases op with
      | install batch => cases hop
      | receive e => rcases duty with h | h | ⟨id, h⟩ <;> cases h
      | tick now => rcases duty with h | ⟨report, h, -⟩ <;> cases h
      | _ => cases duty
    | _ => trivial
  · exact keeps
  · exact h.brings trivial brings

namespace Session

variable {s s' t : Session}

/-- **Nothing but settling them changes the features we tell.** -/
theorem advertised_change (s : Session) {change : Change} (keeps : change.KeepsFeatures) :
    (s.change change).advertised = s.advertised := by
  cases change with
  | advertise features => cases keeps
  | abandon => exact congrArg (·.advertised) s.abandonResumption_eq
  | reset => exact congrArg (·.advertised) s.resetManagement_eq
  | acknowledge h => exact congrArg (·.advertised) (s.acknowledge_eq h)
  | resume h => exact congrArg (·.advertised) (s.continueFrom_eq h)
  | answer reply => exact congrArg (·.advertised) (s.resolves_answer reply).eq
  | cancel key => exact congrArg (·.advertised) (s.resolves_cancel key).eq
  | sweep condition =>
    show (Session.perform _ _).advertised = _
    rw [perform_eq]
  | _ => rfl

theorem Changes.advertised (changes : s.Changes Change.KeepsFeatures s') :
    s'.advertised = s.advertised :=
  changes.invariant (I := fun s' => s'.advertised = s.advertised) rfl fun t _ keeps h =>
    (t.advertised_change keeps).trans h

/-- The modules of the application have no say in the features we tell. -/
theorem within_keepsFeatures (catalogue : Catalogue) : catalogue.Within Change.KeepsFeatures := by
  have keeps (action : Action) : action.Within Change.KeepsFeatures := by
    cases action with
    | request draft => exact ⟨fun _ => trivial, fun _ _ _ => trivial⟩
    | _ => trivial
  exact fun _ _ => ⟨fun action _ => keeps action, fun _ action _ => keeps action⟩

/-- A module that is set up settles them only if it is discovery. -/
theorem advertised_setUp (s : Session) {id : ModuleId} (hid : id ≠ .disco) (tag : Option String)
    (seen : Modules) : (s.setUp id tag seen).1.advertised = s.advertised := by
  cases id with
  | disco => exact absurd rfl hid
  | extra name =>
    have noted : s.Changes Change.KeepsFeatures
        (s.noteFor (s.catalogue.describe name)
          (.setUp name tag seen.names seen.features (seen.occupant? (.extra name)).isSome)) :=
      .noteFor (fun _ routine => routine.modest.keepsFeatures) s _ _ rfl
    exact (noted.trans
      (.actAll ((within_keepsFeatures s.catalogue).describe name).1 _)).advertised
  | _ => rfl

namespace Calls

variable {calls : List Call} {error : Option Error}

/-- As long as discovery is not set up, they stay what they are. -/
theorem advertised (h : s.Calls calls t error) (others : ∀ call ∈ calls, call.id ≠ .disco) :
    t.advertised = s.advertised := by
  induction h with
  | done => rfl
  | @next s t u call rest error hook _ ih =>
    have first := s.advertised_setUp (others call List.mem_cons_self) call.tag call.seen
    rw [hook] at first
    exact (ih fun other hmem => others other (List.mem_cons_of_mem call hmem)).trans first
  | @failed s t call error hook =>
    have first := s.advertised_setUp (others call List.mem_cons_self) call.tag call.seen
    rw [hook] at first
    exact first

/-- **Discovery settles them** when it is set up, and nobody does after it. -/
theorem advertised_of_disco (h : s.Calls calls t none) (distinct : (calls.map (·.id)).Nodup)
    {features : List String} (seen : ∀ call ∈ calls, call.seen.features = features)
    (disco : .disco ∈ calls.map (·.id)) : t.advertised = features := by
  generalize hnone : (none : Option Error) = error at h
  induction h with
  | done => cases disco
  | @next s t u call rest error hook later ih =>
    obtain ⟨apart, distinct⟩ := List.nodup_cons.1 distinct
    by_cases hid : call.id = .disco
    · have settled : t.advertised = call.seen.features := by
        rw [hid] at hook
        exact (congrArg (·.1.advertised) hook).symm
      have kept : u.advertised = t.advertised := later.advertised fun other hmem hother =>
        apart (List.mem_map.2 ⟨other, hmem, hother.trans hid.symm⟩)
      rw [kept, settled, seen call List.mem_cons_self]
    · refine ih distinct (fun other hmem => seen other (List.mem_cons_of_mem call hmem)) ?_ hnone
      exact (List.mem_cons.1 disco).resolve_left fun h => hid h.symm
  | failed hook => cases hnone

end Calls

end Session

namespace Modules

variable {m m' : Modules}

/-- Who is in the slots makes no difference to the features. -/
theorem features_occupy (id : ModuleId) (occupant : Option Occupant) :
    (m.occupy id occupant).features = m.features := by
  show Order.fresh [] (List.flatMap _ (m.slots.map _)) = _
  rw [List.flatMap_map]
  refine congrArg (Order.fresh []) (List.flatMap_congr fun slot _ => ?_)
  split
  · rfl
  · rfl

/-- **All hooks see the same features**, those of all modules. -/
theorem features_seen (m : Modules) (s : Session) (order : List ModuleId) :
    ∀ call ∈ m.calls s order, call.seen.features = m.features := by
  induction order generalizing m s with
  | nil => exact fun _ hmem => absurd hmem List.not_mem_nil
  | cons id rest ih =>
    intro call hmem
    unfold calls at hmem
    cases hoccupant : m.occupant? id with
    | none =>
      rw [hoccupant] at hmem
      cases hmem
    | some occupant =>
      rw [hoccupant] at hmem
      rcases List.mem_cons.1 hmem with rfl | hmem
      · exact features_occupy id none
      · have hsame : (m.setUp s id).1.features = m.features := by
          unfold setUp
          rw [hoccupant]
          exact features_occupy id _
        split at hmem
        · rename_i m' s' heq
          rw [heq] at hsame
          exact (ih m' s' call hmem).trans hsame
        · cases hmem

/-- **Modules that come later only add to the features**, and only those that are new. -/
theorem features_of_prefix {later : List Slot} (h : m'.slots = m.slots ++ later) :
    m'.features = m.features ++ Order.fresh m.features (later.flatMap (·.features)) := by
  unfold features
  rw [h, List.flatMap_append, Order.fresh_append, List.nil_append]

/-- **Installing discovery** has it tell the features of all modules there are then. -/
theorem Whole.tells_after (h : m.Whole) {round : Round}
    (complete : (m.install round.session round.batch).2.2 = none)
    (absent : .disco ∉ m.ids) {d : Descriptor} (hd : d ∈ round.batch) (hdisco : d.id = .disco) :
    (m.install round.session round.batch).2.1.advertised = (m.after round).features
      ∧ ∃ slot ∈ (m.after round).slots, slot.id = .disco
        ∧ slot.criterion = ModuleId.disco.facts.criterion := by
  rcases Descriptor.resolve_cases round.session.catalogue round.batch m.ids with
    ⟨-, order, hresolve, hfits, hasked, -⟩ | ⟨-, stuck, hresolve⟩
  · obtain ⟨hslots, -, -, hcalls, -, hcomplete, -⟩ := h.after_of_fits hresolve hfits
    obtain ⟨new, hnew, hid⟩ : ∃ new ∈ order, new.id = .disco := by
      have := hdisco ▸ hasked d hd
      exact List.mem_map.1 ((List.mem_append.1 this).resolve_left absent)
    have hcalled : (m.hooks round).map (·.id) = order.map (·.id) := hcomplete complete
    -- the hooks see the modules as they are registered, before any set-up is counted
    have hfeatures : ∀ call ∈ m.hooks round, call.seen.features = (m.after round).features := by
      have hsame : (m.registerAll round.session.catalogue order).features
          = (m.after round).features := by
        unfold features
        rw [slots_registerAll, hslots, List.flatMap_append, List.flatMap_append]
        simp only [Modules.counted, List.flatMap_map]
      intro call hcall
      rw [hooks, added, hresolve] at hcall
      exact (features_seen _ _ _ call hcall).trans hsame
    constructor
    · rw [complete] at hcalls
      refine hcalls.advertised_of_disco (hcalled ▸ hfits.distinct) hfeatures ?_
      rw [hcalled]
      exact List.mem_map.2 ⟨new, hnew, hid⟩
    · rw [hslots]
      refine ⟨_, List.mem_append_right _ (List.mem_map.2
        ⟨_, List.mem_map.2 ⟨new, hnew, rfl⟩, rfl⟩), hid, ?_⟩
      show (round.session.catalogue.facts new.id).criterion = _
      rw [hid]
      rfl
  · have hinstall := (install_of_cyclic hresolve).1
    rw [hinstall] at complete
    cases complete

end Modules

namespace Client

variable {c c' c₀ : Client} {config : Config} {catalogue : Catalogue} {batch : List Descriptor}

/-! ## Coming to rest -/

theorem advertised_deliver (c : Client) (item : Outgoing) :
    (c.deliver item).session.advertised = c.session.advertised := by
  have delivers := c.delivers item
  generalize (c.deliver item).session = s' at delivers
  cases delivers with
  | restart | close | closing => rfl
  | lost entry request state error _ =>
    rw [Session.failUnsent_eq]
    rfl
  | taken entry request _ =>
    rw [Session.countSent_eq, Session.awaitReply_eq]
    rfl

/-- **A client that comes to rest tells what it told before.** -/
theorem advertised_moves {log : List Request} (moves : Moves c log c') :
    c'.session.advertised = c.session.advertised := by
  induction moves with
  | refl => rfl
  | deliver _ _ ih => exact (advertised_deliver _ _).trans ih
  | @react c' log event rest _ _ _ ih =>
    obtain ⟨k, -, steps⟩ :=
      Session.Steps.does_react c'.controller (c'.withEvents rest).session event
    have changes : (c'.withEvents rest).session.Changes Change.KeepsFeatures
        ((c'.withEvents rest).handleEvent event).session :=
      ⟨k, steps.mono fun _ does => does.modest.keepsFeatures⟩
    exact changes.advertised.trans ih

/-! ## Creating a client -/

/-- **What creating a client comes to**: discovery has a slot, and tells the features of all
modules there are. -/
theorem tells_of_create (h : create config catalogue batch = .ok c₀) :
    c₀.session.advertised = c₀.modules.features
      ∧ ∃ slot ∈ c₀.modules.slots, slot.id = .disco
        ∧ slot.criterion = ModuleId.disco.facts.criterion := by
  obtain ⟨round, hsession, hbatch, complete, hmodules⟩ := exists_round_of_create h
  have hadvertised : c₀.session.advertised
      = (({} : Modules).install round.session round.batch).2.1.advertised := by
    have installed := (install_eq (blank config catalogue) round.batch).2
    rw [← hsession, show (blank config catalogue).modules = {} from rfl] at installed
    obtain ⟨log, moves⟩ := Moves.run ((blank config catalogue).prepare (.install round.batch))
    rw [eq_of_create h, ← hbatch, operate_eq (atRest_blank config catalogue),
      advertised_moves moves, installed]
  have hmem : Descriptor.default catalogue .disco ∈ round.batch :=
    hbatch ▸ List.mem_append_left _ (List.mem_map.2 ⟨.disco, by decide, rfl⟩)
  rw [hadvertised, hmodules]
  exact Modules.wellFormed_empty.whole.tells_after complete List.not_mem_nil hmem rfl

/-! ## Whatever comes later -/

/-- **A client that advertises certain features**: discovery is in its slot, and keeps them. -/
structure Advertises (c : Client) (told : List String) : Prop where
  /-- These are the features. -/
  advertised : c.session.advertised = told
  /-- Discovery handles the questions for them. -/
  disco : ∃ slot ∈ c.modules.slots, slot.id = .disco
    ∧ slot.criterion = ModuleId.disco.facts.criterion
  /-- The modules are well-formed. -/
  wellFormed : ∃ origins called, c.modules.WellFormed origins called

namespace Advertises

variable {told : List String}

theorem of_create (h : create config catalogue batch = .ok c₀) :
    c₀.Advertises c₀.modules.features where
  advertised := (tells_of_create h).1
  disco := (tells_of_create h).2
  wellFormed := modules_wellFormed_of_create h []

/-- A later batch calls other hooks than that of discovery. -/
theorem advertised_install (h : c.Advertises told) (batch : List Descriptor) :
    (c.modules.install c.session batch).2.1.advertised = told := by
  obtain ⟨origins, called, wellFormed⟩ := h.wellFormed
  obtain ⟨slot, hslot, hid, -⟩ := h.disco
  let round : Round := ⟨c.session, batch⟩
  rcases Descriptor.resolve_cases c.session.catalogue batch c.modules.ids with
    ⟨-, order, hresolve, hfits, -⟩ | ⟨-, stuck, hresolve⟩
  · obtain ⟨-, -, -, hcalls, hinOrder, -⟩ :=
      @Modules.Whole.after_of_fits _ round _ wellFormed.whole hresolve hfits
    refine (hcalls.advertised fun call hcall hcalled => ?_).trans h.advertised
    obtain ⟨d, hd, hnew⟩ := List.mem_map.1 (hinOrder.subset (List.mem_map.2 ⟨call, hcall, rfl⟩))
    refine hfits.fresh d hd ?_
    rw [hnew, hcalled, ← hid]
    exact List.mem_map.2 ⟨slot, hslot, rfl⟩
  · rw [(@Modules.install_of_cyclic _ round _ hresolve).1]
    exact h.advertised

/-- **A client goes on telling the same features** with every operation. -/
theorem operate (h : c.Advertises told) (atRest : c.AtRest) {op : Operation}
    (keeps : op.Within Change.KeepsFeatures) : (c.operate op).Advertises told := by
  have hadvertised : (c.operate op).session.advertised = told := by
    obtain ⟨log, moves⟩ := Moves.run (c.prepare op)
    rw [operate_eq atRest, advertised_moves moves]
    cases hop : op.batch? with
    | none =>
      have course := Session.Course.entailed c op (Session.within_keepsFeatures _)
      have changes := course.changes fun _ _ entails => entails.keepsFeatures keeps hop
      exact changes.advertised.trans h.advertised
    | some batch =>
      cases op with
      | install batch => exact h.advertised_install batch
      | _ => cases hop
  obtain ⟨origins, called, wellFormed⟩ := h.wellFormed
  obtain ⟨slot, hslot, hdisco⟩ := h.disco
  have hmodules := modules_operate atRest op
  cases hop : op.batch? with
  | none =>
    rw [hop] at hmodules
    exact ⟨hadvertised, hmodules ▸ h.disco, hmodules ▸ h.wellFormed⟩
  | some batch =>
    rw [hop] at hmodules
    dsimp only at hmodules
    refine ⟨hadvertised, ?_, hmodules ▸ ⟨_, _, wellFormed.after ⟨c.session, batch⟩⟩⟩
    rw [hmodules]
    exact ⟨slot, (wellFormed.installs ⟨c.session, batch⟩).keeps.subset hslot, hdisco⟩

theorem foldl_operate (h : c.Advertises told) (atRest : c.AtRest) {ops : List Operation}
    (keeps : ∀ op ∈ ops, op.Within Change.KeepsFeatures) :
    (ops.foldl Client.operate c).Advertises told := by
  induction ops generalizing c with
  | nil => exact h
  | cons op rest ih =>
    exact ih (h.operate atRest (keeps op List.mem_cons_self)) (atRest.operate op)
      fun other hmem => keeps other (List.mem_cons_of_mem op hmem)

end Advertises

end Client

/-! ## Questions -/

/-- **A question for our features**: an `iq` of type `get` with a child in the namespace of
discovery. -/
structure Element.AsksForFeatures (e : Element) : Prop where
  name : e.name = "iq"
  ns : e.ns = Namespace.client
  type : e.attr "type" = some "get"
  child : ∃ child ∈ e.children, child.ns = Namespace.discoInfo

theorem Element.AsksForFeatures.isRequest {e : Element} (h : e.AsksForFeatures) : e.IsRequest :=
  ⟨h.name, .inl h.type⟩

/-- The features are read from what we tell about ourselves. -/
theorem features_selfDescription (software : String) (features : List String) :
    ((selfDescription software features).children.filter
      (·.is "feature" Namespace.discoInfo)).filterMap (·.attr "var") = features := by
  rw [selfDescription, Element.children_mk, List.filter_cons_of_neg (by simp [Element.is])]
  induction features with
  | nil => rfl
  | cons feature rest ih => exact congrArg (feature :: ·) ih

/-- And they are read from the answer that carries it. -/
theorem featuresOf_reply (e : Element) (software : String) (features : List String) :
    featuresOf (e.reply "result" [selfDescription software features]) = .ok features := by
  have hquery : queryOf Namespace.discoInfo (e.reply "result" [selfDescription software features])
      = .ok (selfDescription software features) := by
    unfold queryOf Element.child? Element.reply
    rw [Element.children_mk]
    rfl
  unfold featuresOf
  rw [hquery]
  exact congrArg Except.ok (features_selfDescription software features)

namespace Client

variable {c : Client}

/-- **A module answers an element**: it has one turn among the modules that get the element,
and in this turn it writes the answer and does nothing else. -/
def Answers (c : Client) (id : ModuleId) (e answer : Element) : Prop :=
  ∃ (before : List Slot) (slot : Slot) (after : List Slot) (s : Session) (replied : Bool),
    c.modules.targets e = before ++ slot :: after ∧ slot.id = id
      ∧ (∀ other ∈ before ++ after, other.id ≠ id)
      ∧ before.foldl (routeTo e) (c.session.countReceived e, false) = (s, replied)
      ∧ routeTo e (s, replied) slot = (s.write answer, replied)
      ∧ c.take e = (after.foldl (routeTo e) (s.write answer, replied)).1

/-- The modules that get an element before discovery leave the features we tell alone. -/
theorem advertised_routing (e : Element) (slots : List Slot) (s : Session) (replied : Bool) :
    (slots.foldl (routeTo e) (s, replied)).1.advertised = s.advertised := by
  induction slots generalizing s replied with
  | nil => rfl
  | cons slot rest ih =>
    have course : s.Course (fun _ change => change.KeepsFeatures) (routeTo e (s, replied) slot).1 :=
      .routeTo (fun _ _ routine => routine.modest.keepsFeatures)
        (fun _ change rules => by cases change with
          | advertise features => cases rules
          | _ => trivial)
        (fun _ _ change duty => by cases change with
          | advertise features => cases duty
          | _ => trivial)
        (fun _ _ h => h) s replied slot (Session.within_keepsFeatures _)
    exact (ih _ _).trans (course.changes fun _ _ h => h).advertised

/-- What was written last can be told from the outbox. -/
theorem write_injective {s : Session} {a b : Element} (h : s.write a = s.write b) : a = b := by
  have houtbox : (s.write a).outbox = (s.write b).outbox := congrArg (·.outbox) h
  have hitem := List.append_cancel_left houtbox
  simpa [Session.track] using hitem

namespace Advertises

variable {told : List String} {e : Element}

/-- The turn of discovery. -/
theorem turn (h : c.Advertises told) (asks : e.AsksForFeatures) {slot : Slot}
    (hslot : slot ∈ c.modules.slots) (hid : slot.id = .disco) {s : Session}
    (hs : s.advertised = told) (replied : Bool) :
    routeTo e (s, replied) slot
      = (s.write (e.reply "result" [selfDescription s.config.software told]), replied) := by
  obtain ⟨origins, called, wellFormed⟩ := h.wellFormed
  obtain ⟨occupant, hoccupant⟩ :=
    Option.isSome_iff_exists.1 (wellFormed.whole.occupied slot hslot)
  have hprocess : Modules.process slot s e
      = (s.write (e.reply "result" [selfDescription s.config.software told]), none) := by
    unfold Modules.process
    rw [hoccupant]
    dsimp only
    rw [hid]
    show s.handleDiscovery e = _
    rw [((s.handleDiscovery_cases e).resolve_right fun other => other.1 asks.type).2, hs]
  unfold routeTo
  dsimp only
  rw [hprocess]

/-- **Discovery answers every question, with the features the client tells.** -/
theorem answers (h : c.Advertises told) (asks : e.AsksForFeatures) :
    (∃ answer, c.Answers .disco e answer)
      ∧ ∀ answer, c.Answers .disco e answer →
        answer.Answers e ∧ featuresOf answer = .ok told := by
  have hturn : ∀ (before : List Slot) (s : Session) (replied : Bool),
      before.foldl (routeTo e) (c.session.countReceived e, false) = (s, replied) →
        s.advertised = told := by
    intro before s replied hbefore
    have hrouted := advertised_routing e before (c.session.countReceived e) false
    rw [hbefore, Session.countReceived_eq] at hrouted
    exact hrouted.trans h.advertised
  constructor
  · obtain ⟨origins, called, wellFormed⟩ := h.wellFormed
    obtain ⟨slot, hslot, hid, hcriterion⟩ := h.disco
    have htarget : slot ∈ c.modules.targets e := by
      refine List.mem_filter.2 ⟨hslot, ?_⟩
      rw [hcriterion]
      show (Criterion.stanzaWith "iq" Namespace.discoInfo).selects e = true
      rw [ModuleId.selects_stanzaWith, Element.is, asks.name, asks.ns]
      simpa using asks.child
    obtain ⟨before, after, hsplit⟩ := List.append_of_mem htarget
    have apart : ∀ other ∈ before ++ after, other.id ≠ .disco := by
      have distinct : ((c.modules.targets e).map (·.id)).Nodup :=
        wellFormed.distinct.sublist (List.filter_sublist.map _)
      rw [hsplit, List.map_append, List.map_cons, hid, List.nodup_middle, ← List.map_append]
        at distinct
      exact fun other hmem hother =>
        (List.nodup_cons.1 distinct).1 (List.mem_map.2 ⟨other, hmem, hother⟩)
    obtain ⟨s, replied, hbefore⟩ : ∃ s replied,
        before.foldl (routeTo e) (c.session.countReceived e, false) = (s, replied) := ⟨_, _, rfl⟩
    have hturn := h.turn asks hslot hid (hturn before s replied hbefore) replied
    refine ⟨_, before, slot, after, s, replied, hsplit, hid, apart, hbefore, hturn, ?_⟩
    have hroute : c.route (c.session.countReceived e) e
        = ((c.modules.targets e).foldl (routeTo e) (c.session.countReceived e, false)).1 := by
      unfold route
      split
      · rename_i hnone
        rw [hnone] at htarget
        cases htarget
      · rfl
    rw [take_of_isRequest asks.isRequest, hroute, hsplit, List.foldl_append, hbefore,
      List.foldl_cons, hturn]
  · rintro answer ⟨before, slot, after, s, replied, hsplit, hid, -, hbefore, hwrites, -⟩
    have hslot : slot ∈ c.modules.slots := by
      have hmem : slot ∈ c.modules.targets e := by simp [hsplit]
      exact List.mem_of_mem_filter hmem
    rw [h.turn asks hslot hid (hturn before s replied hbefore) replied] at hwrites
    rw [← write_injective (congrArg (·.1) hwrites)]
    exact ⟨Element.reply_answers asks.name (.inl rfl) _, featuresOf_reply _ _ _⟩

end Advertises

/-- **A client tells the features it was created with.** Whatever is done to it later, and
whatever is installed, it answers every question for its features with those of the modules of
its first batch, each once and in the order of their slots. The modules it has by then come
behind these, so the answer leaves out what they bring in addition, and it is right exactly if
they bring nothing new. -/
theorem tells_of_created {config : Config} {catalogue : Catalogue} {batch : List Descriptor}
    {c₀ : Client} (created : create config catalogue batch = .ok c₀) {ops : List Operation}
    (keeps : ∀ op ∈ ops, op.Within Change.KeepsFeatures) {e : Element} (asks : e.AsksForFeatures) :
    ((∃ answer, (ops.foldl operate c₀).Answers .disco e answer)
        ∧ ∀ answer, (ops.foldl operate c₀).Answers .disco e answer →
          answer.Answers e ∧ featuresOf answer = .ok c₀.modules.features)
      ∧ ∃ later, (ops.foldl operate c₀).modules.slots = c₀.modules.slots ++ later
        ∧ (ops.foldl operate c₀).modules.features
          = c₀.modules.features ++ Order.fresh c₀.modules.features (later.flatMap (·.features))
        ∧ ((ops.foldl operate c₀).modules.features = c₀.modules.features
          ↔ ∀ slot ∈ later, ∀ feature ∈ slot.features, feature ∈ c₀.modules.features) := by
  have atRest := atRest_of_create created
  refine ⟨((Advertises.of_create created).foldl_operate atRest keeps).answers asks, ?_⟩
  obtain ⟨rounds, -, hmodules⟩ := exists_rounds atRest ops
  obtain ⟨origins, called, wellFormed⟩ := modules_wellFormed_of_create created []
  obtain ⟨later, hlater⟩ := wellFormed.prefix_afterAll rounds
  have hslots : (ops.foldl operate c₀).modules.slots = c₀.modules.slots ++ later := by
    rw [hmodules]
    exact hlater.symm
  have hfeatures := Modules.features_of_prefix hslots
  refine ⟨later, hslots, hfeatures, ?_⟩
  rw [hfeatures, List.append_right_eq_self, List.eq_nil_iff_forall_not_mem]
  simp only [Order.mem_fresh, List.mem_flatMap, not_and, not_not, forall_exists_index, and_imp]
  exact ⟨fun h slot hslot feature hfeature => h feature slot hslot hfeature,
    fun h feature slot hslot hfeature => h slot hslot feature hfeature⟩

namespace Rehearsal

/-- The application has a module that answers pings. -/
def pings : Catalogue :=
  [("ping", { facts := { features := ["urn:xmpp:ping"] } })]

/-- A client is created without it, and installs it later. -/
def installsPing : List Operation :=
  [.install [.default pings (.extra "ping")]]

/-- What the client has to tell before and after. -/
theorem features_installsPing :
    ∃ c₀, create account pings [] = .ok c₀ ∧ c₀.modules.features = [Namespace.discoInfo]
      ∧ (installsPing.foldl operate c₀).modules.features
        = [Namespace.discoInfo, "urn:xmpp:ping"] := by
  have hcomputed : (create account pings []).toOption.map (fun c₀ =>
      (c₀.modules.features, (installsPing.foldl operate c₀).modules.features))
      = some ([Namespace.discoInfo], [Namespace.discoInfo, "urn:xmpp:ping"]) := by
    decide +kernel
  obtain ⟨c₀, hcreate, hfeatures⟩ := Option.map_eq_some_iff.1 hcomputed
  obtain ⟨hbefore, hafter⟩ := Prod.mk.inj hfeatures
  refine ⟨c₀, ?_, hbefore, hafter⟩
  cases h : create account pings [] with
  | ok c =>
    rw [h] at hcreate
    exact congrArg Except.ok (Option.some.inj hcreate)
  | error error =>
    rw [h] at hcreate
    cases hcreate

theorem asksForFeatures_asks : asksForFeatures.AsksForFeatures :=
  ⟨rfl, rfl, rfl, emptyQuery Namespace.discoInfo, by decide, rfl⟩

end Rehearsal

open Rehearsal in
/-- In the rehearsal the client is asked after the module was installed, and does not
mention it. -/
theorem tells_of_created_rehearsal :
    ∃ c₀ answer, create account pings [] = .ok c₀
      ∧ (∀ op ∈ installsPing, op.Within Change.KeepsFeatures) ∧ asksForFeatures.AsksForFeatures
      ∧ (installsPing.foldl operate c₀).Answers .disco asksForFeatures answer
      ∧ featuresOf answer = .ok [Namespace.discoInfo] := by
  obtain ⟨c₀, hcreate, hfeatures, -⟩ := features_installsPing
  have keeps : ∀ op ∈ installsPing, op.Within Change.KeepsFeatures :=
    fun op hop => List.mem_singleton.1 hop ▸ trivial
  obtain ⟨⟨answer, hanswer⟩, hall⟩ := (tells_of_created hcreate keeps asksForFeatures_asks).1
  refine ⟨c₀, answer, hcreate, keeps, asksForFeatures_asks, hanswer, ?_⟩
  rw [(hall answer hanswer).2, hfeatures]

open Rehearsal in
/-- **A client does not always tell the features of the modules it has**, not even if all that
was done to it is installing modules. -/
theorem not_forall_tells_installed :
    ¬ ∀ (catalogue : Catalogue) (c₀ : Client) (batches : List (List Descriptor))
        (e answer : Element),
      create account catalogue [] = .ok c₀ → e.AsksForFeatures →
        ((batches.map Operation.install).foldl operate c₀).Answers .disco e answer →
          featuresOf answer
            = .ok ((batches.map Operation.install).foldl operate c₀).modules.features := by
  intro h
  obtain ⟨c₀, hcreate, hfeatures, hinstalled⟩ := features_installsPing
  have keeps : ∀ op ∈ installsPing, op.Within Change.KeepsFeatures :=
    fun op hop => List.mem_singleton.1 hop ▸ trivial
  have told := (Advertises.of_create hcreate).foldl_operate (atRest_of_create hcreate) keeps
  obtain ⟨⟨answer, hanswer⟩, hall⟩ := told.answers asksForFeatures_asks
  have hright := h pings c₀ [[.default pings (.extra "ping")]] asksForFeatures answer hcreate
    asksForFeatures_asks hanswer
  rw [(hall answer hanswer).2, hfeatures] at hright
  have hsame : [Namespace.discoInfo] = [Namespace.discoInfo, "urn:xmpp:ping"] :=
    (Except.ok.inj hright).trans hinstalled
  cases hsame

end Client

end Xmpp
