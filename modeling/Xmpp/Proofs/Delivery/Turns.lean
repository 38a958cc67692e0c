import Xmpp.Proofs.Delivery.Story
import Xmpp.Proofs.Resumption.Dialogue

/-!
# What a session does to the elements on their way

Elements on their way are held by the outbox and by the resumable session. Of all that
happens to a session, little concerns them. What does not come from the peer at most
writes an element or ends the resumable session, in which case what it kept is dropped
(`Session.Calm`); and of the words of the peer each does one thing.

Two facts about the properties of a session are needed for this. The resumable session is
held by its own property alone, and there is one property of each name. Otherwise clearing
a scope could drop the elements of a context that was replaced long ago.
-/

namespace Xmpp

open Delivery Resumption

/-! ## One property of each name -/

namespace Properties

/-- **Each property stands once.** -/
def Distinct (p : Properties) : Prop :=
  (p.entries.map (·.key)).Nodup

namespace Distinct

variable {p : Properties} (h : p.Distinct)

include h

theorem erase (key : String) : (p.erase key).Distinct :=
  h.sublist (List.filter_sublist.map _)

theorem clear (scope : Scope) : (p.clear scope).Distinct :=
  h.sublist (List.filter_sublist.map _)

theorem cons (entry : PropertyEntry) :
    (Properties.mk (entry :: (p.erase entry.key).entries)).Distinct := by
  refine List.nodup_cons.2 ⟨fun hmem => ?_, h.erase entry.key⟩
  obtain ⟨other, hother, heq⟩ := List.mem_map.1 hmem
  simpa [heq] using (List.mem_filter.1 hother).2

theorem modify {α : Type} [Storable α] (key : String) (f : α → α) : (p.modify key f).Distinct := by
  have hkeys : (p.modify key f).entries.map (·.key) = p.entries.map (·.key) := by
    rw [Properties.modify, List.map_map]
    exact List.map_congr_left fun entry _ => key_revise key f entry
  rw [Distinct, hkeys]
  exact h

end Distinct

/-- Clearing the scope of the session drops what the resumable session keeps, and nothing
else. -/
theorem flatMap_keptBy_cleared {p : Properties} (distinct : p.Distinct) (clean : p.Clean)
    {scope : Scope} (hle : Scope.session ≤ scope) :
    (p.cleared scope).flatMap Session.keptBy
      = match p.resumption? with
        | some context => context.unacked
        | none => [] := by
  have hother : ∀ entry ∈ p.entries, entry.key ≠ resumptionKey → Session.keptBy entry = [] := by
    intro entry hmem hkey
    unfold Session.keptBy
    split
    · rename_i context hvalue
      exact absurd (clean.key entry hmem (by rw [hvalue]; rfl)) hkey
    · rfl
  have hnone : ∀ entries : List PropertyEntry, (∀ entry ∈ entries, entry ∈ p.entries) →
      (∀ entry ∈ entries, entry.key ≠ resumptionKey) →
      (entries.filter fun entry => entry.scope ≤ scope).flatMap Session.keptBy = [] := by
    intro entries hsub hkeys
    refine List.flatMap_eq_nil_iff.2 fun entry hmem => ?_
    have hmem := (List.mem_filter.1 hmem).1
    exact hother entry (hsub entry hmem) (hkeys entry hmem)
  unfold resumption? get?
  cases hfind : p.find? resumptionKey with
  | none =>
    refine hnone p.entries (fun _ h => h) fun entry hmem hkey => ?_
    simpa [hkey] using List.find?_eq_none.1 hfind entry hmem
  | some entry =>
    obtain ⟨hkey, front, back, hsplit, hfront⟩ := List.find?_eq_some_iff_append.1 hfind
    have hkey : entry.key = resumptionKey := by simpa using hkey
    have hmem : entry ∈ p.entries := by simp [hsplit]
    have hkeys : (front ++ entry :: back).map (·.key) |>.Nodup := hsplit ▸ distinct
    have hback : ∀ other ∈ back, other.key ≠ resumptionKey := by
      intro other hother heq
      rw [List.map_append, List.map_cons] at hkeys
      have hnot := (List.nodup_cons.1 (List.nodup_append.1 hkeys).2.1).1
      exact hnot (by rw [hkey, ← heq]; exact List.mem_map_of_mem hother)
    have hscope : entry.scope ≤ scope := by rw [clean.scope entry hmem hkey]; exact hle
    rw [cleared, hsplit, List.filter_append, List.flatMap_append,
      hnone front (fun other h => by simp [hsplit, h]) fun other h => by simpa using hfront other h,
      List.filter_cons_of_pos (by simpa using hscope), List.flatMap_cons,
      hnone back (fun other h => by simp [hsplit, h]) hback, List.append_nil, List.nil_append]
    show Session.keptBy entry
      = match (Storable.ofProperty? entry.value : Option Context) with
        | some context => context.unacked
        | none => []
    unfold Session.keptBy
    cases entry.value <;> rfl

end Properties

namespace Session

variable {s s' : Session}

/-- **Each property goes on standing once**, whatever happens. -/
theorem distinct_change (h : s.properties.Distinct) (change : Change) :
    (s.change change).properties.Distinct :=
  properties_change h (fun _ _ _ _ => h.cons _) h.clear (h.erase _) (fun _ => h.cons _)
    (h.modify _)

end Session

/-! ## What does not come from the peer -/

/-- **Aloof changes**: those that neither come from the peer nor meddle with the resumable
session behind the back of the library. -/
def Change.Aloof : Change → Prop
  | .remember _ key value => key ≠ Properties.resumptionKey ∧ value.isContext = false
  | .abandon => False
  | change => change.isVerdict = false

theorem Change.Aloof.keepsOff {change : Change} (h : change.Aloof) : change.KeepsOff := by
  cases change with
  | remember scope key value => exact h
  | _ => trivial

theorem Change.Quiet.aloof {change : Change} (h : change.Quiet) : change.Aloof := by
  cases change with
  | begin _ | enable _ | acknowledge _ | resume _ | abandon => cases h
  | remember scope key value => exact h.1
  | _ => rfl

/-- What the modules of the application do is aloof. -/
theorem Catalogue.within_aloof (catalogue : Catalogue) : catalogue.Within Change.Aloof := by
  have aloof (action : Action) : action.Within Change.Aloof := by
    cases action with
    | request draft => exact ⟨fun _ => rfl, fun _ _ _ => rfl⟩
    | fail _ => trivial
    | _ => rfl
  exact fun _ _ => ⟨fun action _ => aloof action, fun _ action _ => aloof action⟩

namespace Session

variable {s s' : Session}

/-- **A calm change** of a session, as far as elements on their way are concerned: nothing
happens to them, an element is written, or the resumable session ends and what it kept is
dropped. -/
inductive Calm (s s' : Session) : Prop
  /-- Nothing is written, and the resumable session drifts at most. -/
  | still (board : s'.board = s.board) (unsent : s'.unsent = s.unsent) (f : Context → Context)
      (drifts : ∀ context : Context, context.Drifts (f context))
      (resumption : s'.resumption? = s.resumption?.map f)
  /-- An element is written. -/
  | write (element : Element) (board : s'.board = s.board.issue.2)
      (unsent : s'.unsent = s.unsent ++ [⟨element, s.board.issue.1⟩])
      (resumption : s'.resumption? = s.resumption?)
  /-- The resumable session ends. -/
  | forget (board : s'.board = s.board.setAll s.unconfirmed .dropped)
      (unsent : s'.unsent = s.unsent)
      (resumption : s'.resumption? = none)

namespace Calm

/-- Nothing is written, and the properties stay as they are. -/
theorem of_same (board : s'.board = s.board) (outbox : s'.outbox = s.outbox)
    (properties : s'.properties = s.properties) : s.Calm s' := by
  refine .still board (congrArg (List.filterMap Outgoing.entry?) outbox) id Context.Drifts.refl ?_
  rw [Option.map_id_fun, id]
  exact congrArg (·.resumption?) properties

/-- What is no element is put into the outbox. -/
theorem push (s : Session) {item : Outgoing} (h : item.entry? = none) : s.Calm (s.push item) := by
  refine .still rfl ?_ id Context.Drifts.refl (by rw [Option.map_id_fun, id]; rfl)
  rw [unsent_push, h, Option.toList_none, List.append_nil]

/-- An element is put into the outbox. -/
theorem enqueue (s : Session) (element : Element) (request : Option Request) :
    s.Calm (s.enqueue element request).2 :=
  .write element rfl (unsent_push _ (.element ⟨element, _⟩ request)) rfl

/-- The context changes in its place. -/
theorem modify (s : Session) {f : Context → Context} (h : ∀ c : Context, c.Drifts (f c)) :
    s.Calm (s.modifyResumption f) :=
  .still rfl rfl f h (resumption?_modifyResumption s f)

end Calm

/-- **Every aloof change is calm.** -/
theorem calm_change (clean : s.properties.Clean) (distinct : s.properties.Distinct)
    {change : Change} (aloof : change.Aloof) : s.Calm (s.change change) := by
  have resolved {s' : Session} (hs : s.Resolves s') : s.Calm s' := by
    rw [hs.eq]
    exact .of_same rfl rfl rfl
  cases change with
  | write element => exact .enqueue s element none
  | give request => exact .enqueue s request.stanza (some request)
  | restart => exact .push s rfl
  | close => exact .push s rfl
  | remember scope key value =>
    refine .still rfl rfl id Context.Drifts.refl ?_
    rw [Option.map_id_fun, id]
    exact s.properties.get?_cons_of_ne ⟨key, scope, value⟩ aloof.1
  | clear scope =>
    by_cases hle : Scope.session ≤ scope
    · refine .forget ?_ rfl (clean.resumption?_clear_of_le hle)
      show s.board.setAll ((s.properties.cleared scope).flatMap keptBy) .dropped = _
      rw [Properties.flatMap_keptBy_cleared distinct clean hle]
      rfl
    · refine .still ?_ rfl id Context.Drifts.refl ?_
      · show s.board.setAll ((s.properties.cleared scope).flatMap keptBy) .dropped = _
        rw [clean.keptBy_cleared hle]
        rfl
      · rw [Option.map_id_fun, id]
        exact clean.resumption?_clear_of_not_le hle
  | receive => exact .modify s Context.drifts_recordReceived
  | report => exact .modify s Context.drifts_recordReport
  | deactivate => exact .modify s Context.drifts_deactivate
  | abandon => cases aloof
  | reset =>
    refine .forget ?_ (congrArg (·.unsent) s.resetManagement_eq) s.resumption?_resetManagement
    show s.resetManagement.board = _
    unfold resetManagement
    rw [abandonResumption_eq]
    rfl
  | begin _ | enable _ | acknowledge _ | resume _ => cases aloof
  | answer reply => exact resolved (s.resolves_answer reply)
  | cancel key => exact resolved (s.resolves_cancel key)
  | sweep condition =>
    show s.Calm (Session.perform _ _)
    rw [perform_eq]
    exact .of_same rfl rfl rfl
  | _ => exact .of_same rfl rfl rfl

/-- Elements that are sent again wait after those that waited before. -/
theorem unsent_resend (s : Session) (entries : List Entry) :
    (s.resend entries).unsent = s.unsent ++ entries := by
  have hentries : (entries.map fun entry => Outgoing.element entry none).filterMap Outgoing.entry?
      = entries := by
    rw [List.filterMap_map]
    exact List.filterMap_some
  show (s.outbox ++ entries.map fun entry => Outgoing.element entry none).filterMap _ = _
  rw [List.filterMap_append, hentries, Session.unsent]

/-- **What a change puts into the outbox**: an element under the next token, or what the
session that is resumed kept. -/
def adds (s : Session) : Change → List Entry
  | .write element => [⟨element, s.issued⟩]
  | .give request => [⟨request.stanza, s.issued⟩]
  | .resume report =>
    match s.resumption? with
    | some context => context.unconfirmed report
    | none => []
  | _ => []

theorem unsent_change (s : Session) (change : Change) :
    (s.change change).unsent = s.unsent ++ s.adds change := by
  have same {s' : Session} (h : s'.outbox = s.outbox) : s'.unsent = s.unsent ++ [] := by
    rw [unsent, h, List.append_nil, unsent]
  cases change with
  | write element => exact unsent_push _ (.element ⟨element, s.issued⟩ none)
  | give request => exact unsent_push _ (.element ⟨request.stanza, s.issued⟩ (some request))
  | restart => exact s.unsent_push .restart
  | close => exact s.unsent_push .close
  | abandon => exact same (congrArg (·.outbox) s.abandonResumption_eq)
  | reset => exact same (congrArg (·.outbox) s.resetManagement_eq)
  | acknowledge report => exact same (congrArg (·.outbox) (s.acknowledge_eq report))
  | resume report =>
    show (s.continueFrom report).unsent = s.unsent ++ s.adds (.resume report)
    unfold continueFrom adds
    cases s.resumption? with
    | none => exact (List.append_nil _).symm
    | some context => exact unsent_resend _ _
  | answer reply => exact same (congrArg (·.outbox) (s.resolves_answer reply).eq)
  | cancel key => exact same (congrArg (·.outbox) (s.resolves_cancel key).eq)
  | sweep condition =>
    refine same ?_
    show (Session.perform _ _).outbox = _
    rw [perform_eq]
  | _ => exact same rfl

/-- What waits goes on waiting, whatever happens to the session. -/
theorem mem_unsent_of_mem {entry : Entry} (h : entry ∈ s.unsent) (change : Change) :
    entry ∈ (s.change change).unsent := by
  rw [unsent_change]
  exact List.mem_append_left _ h

/-- A session that is resumed goes on from the report of the peer. -/
theorem resumption?_continueFrom (s : Session) {context : Context}
    (hs : s.resumption? = some context) (report : UInt32) :
    (s.continueFrom report).resumption? = some (context.resumeAt report) := by
  have hmodified : ((s.mark (context.confirmed report) .acked).modifyResumption
      (·.resumeAt report)).resumption? = some (context.resumeAt report) := by
    rw [resumption?_modifyResumption, resumption?_mark, hs]
    rfl
  rw [continueFrom, hs]
  exact hmodified

/-! ## Sessions as stories -/

/-- What a session holds, together with what was handed over and what of it was kept. -/
def story (s : Session) (handed managed : List Token) : Story :=
  ⟨s.board, s.unconfirmed, s.unsent, handed, managed⟩

variable {forgone handed managed : List Token} {context : Context}

theorem unconfirmed_of_some (h : s.resumption? = some context) :
    s.unconfirmed = context.unacked := by
  rw [unconfirmed, h]

theorem unconfirmed_of_none (h : s.resumption? = none) : s.unconfirmed = [] := by
  rw [unconfirmed, h]

/-- A context that changes without its queue keeps what it kept. -/
theorem unconfirmed_of_map {f : Context → Context} (h : s'.resumption? = s.resumption?.map f)
    (hf : ∀ context : Context, (f context).unacked = context.unacked) :
    s'.unconfirmed = s.unconfirmed := by
  unfold unconfirmed
  rw [h]
  cases s.resumption? with
  | none => rfl
  | some context => exact hf context

/-- Sessions that hold the same tell the same story. -/
theorem story_eq (hboard : s'.board = s.board) (hkept : s'.unconfirmed = s.unconfirmed)
    (hunsent : s'.unsent = s.unsent) : s'.story handed managed = s.story handed managed := by
  rw [story, hboard, hkept, hunsent, story]

/-- **What is calm turns the story** no further than by an element that is written or by
dropping what is kept. -/
theorem Calm.turns (calm : s.Calm s') :
    Story.Turns False forgone (s.story handed managed) (s'.story handed managed) := by
  cases calm with
  | still hboard hunsent f hdrifts hs =>
    rw [story_eq hboard (unconfirmed_of_map hs fun context => (hdrifts context).unacked) hunsent]
  | write element hboard hunsent hs =>
    have hkept : s'.unconfirmed = s.unconfirmed := by rw [unconfirmed, hs, unconfirmed]
    have hstory : s'.story handed managed
        = ⟨s.board.issue.2, s.unconfirmed, s.unsent ++ [⟨element, s.board.issue.1⟩], handed,
          managed⟩ := by
      rw [story, hboard, hkept, hunsent]
    rw [hstory]
    exact .single (.write element)
  | forget hboard hunsent hs =>
    have hstory : s'.story handed managed
        = ⟨s.board.setAll s.unconfirmed .dropped, [], s.unsent, handed, managed⟩ := by
      rw [story, hboard, unconfirmed_of_none hs, hunsent]
    rw [hstory]
    exact .single (.settle (List.append_nil s.unconfirmed).symm (.inl rfl))

end Session

/-! ## What comes from the peer -/

/-- **What an element rules turns the story**: what it confirms is settled, what it does not
confirm is dropped or sent again, and what waited for a session that was not enabled is
given up. -/
theorem Element.Rules.turns {e : Element} {s : Session} {change : Change}
    {forgone handed managed : List Token} (h : e.Rules s change)
    (hforgone : change = .abandon → ∀ entry ∈ s.unconfirmed, entry.token ∈ forgone) :
    Story.Turns True forgone (s.story handed managed) ((s.change change).story handed managed) := by
  cases change with
  | enable enabled =>
    have hkept : (s.modifyResumption (·.enable enabled)).unconfirmed = s.unconfirmed :=
      Session.unconfirmed_of_map (s.resumption?_modifyResumption _) fun _ => rfl
    have hstory : (s.modifyResumption (·.enable enabled)).story handed managed
        = s.story handed managed := Session.story_eq rfl hkept rfl
    show Story.Turns True forgone _ ((s.modifyResumption (·.enable enabled)).story handed managed)
    rw [hstory]
  | begin context =>
    obtain ⟨enabled, rfl, -, -⟩ := h
    have hstory : (s.startResumption (Context.start.enable enabled)).story handed managed
        = ⟨s.board.setAll s.unconfirmed .dropped, [], s.unsent, handed, managed⟩ := by
      rw [Session.story, Session.unconfirmed_of_some (s.resumption?_startResumption _)]
      rfl
    show Story.Turns True forgone _ ((s.startResumption _).story handed managed)
    rw [hstory]
    exact .single (.settle (List.append_nil s.unconfirmed).symm (.inl rfl))
  | acknowledge report =>
    show Story.Turns True forgone _ ((s.acknowledge report).story handed managed)
    cases hs : s.resumption? with
    | none => rw [Session.acknowledge, hs]
    | some context =>
      have hafter : (s.acknowledge report).resumption? = some (context.acknowledge report) := by
        rw [Session.resumption?_acknowledge, hs]
        rfl
      have hstory : (s.acknowledge report).story handed managed
          = ⟨s.board.setAll (context.confirmed report) .acked, context.unconfirmed report,
            s.unsent, handed, managed⟩ := by
        rw [Session.story, Session.unconfirmed_of_some hafter, Session.board_acknowledge hs,
          Session.acknowledge_eq]
        rfl
      have hkept : s.unconfirmed = context.confirmed report ++ context.unconfirmed report := by
        rw [context.confirmed_append_unconfirmed, Session.unconfirmed_of_some hs]
      rw [hstory]
      exact .single (.settle hkept (.inr ⟨trivial, rfl⟩))
  | resume report =>
    show Story.Turns True forgone _ ((s.continueFrom report).story handed managed)
    cases hs : s.resumption? with
    | none => rw [Session.continueFrom, hs]
    | some context =>
      have hkept : s.unconfirmed = context.confirmed report ++ context.unconfirmed report := by
        rw [context.confirmed_append_unconfirmed, Session.unconfirmed_of_some hs]
      have hstory : (s.continueFrom report).story handed managed
          = ⟨s.board.setAll (context.confirmed report) .acked, [],
            s.unsent ++ context.unconfirmed report, handed, managed⟩ := by
        rw [Session.story, Session.unconfirmed_of_some (s.resumption?_continueFrom hs report),
          Session.continueFrom, hs]
        exact congrArg (Story.mk _ _ · handed managed) (Session.unsent_resend _ _)
      -- what is confirmed is settled first, and what is left is sent again
      rw [hstory]
      exact .tail (.single (.settle hkept (.inr ⟨trivial, rfl⟩))) (.again trivial)
  | abandon =>
    have hstory : s.abandonResumption.story handed managed
        = ⟨s.board, [], s.unsent, handed, managed⟩ := by
      rw [Session.story, Session.unconfirmed_of_none s.resumption?_abandonResumption,
        Session.abandonResumption_eq]
      rfl
    show Story.Turns True forgone _ (s.abandonResumption.story handed managed)
    rw [hstory]
    exact .single (.abandon trivial (hforgone rfl))
  | _ => cases h

/-! ## Handing elements over -/

namespace Session

variable {s : Session} {context : Context} {entry : Entry} {handed managed : List Token}

/-- **Whether the resumable session keeps an element** that is handed over: a stanza, while
the session was asked for or is live. -/
def Keeps (s : Session) (entry : Entry) : Prop :=
  entry.stanza.isStanza = true
    ∧ (s.managementStatus? = some .pending ∨ s.managementStatus? = some .active)

instance (s : Session) (entry : Entry) : Decidable (s.Keeps entry) :=
  inferInstanceAs (Decidable (_ ∧ _))

theorem keeps_iff : s.Keeps entry ↔
    entry.stanza.isStanza = true
      ∧ ∃ context, s.resumption? = some context ∧ context.status ≠ .inactive := by
  refine and_congr_right fun _ => ?_
  unfold managementStatus?
  cases s.resumption? with
  | none => simp
  | some context => cases h : context.status <;> simp [h]

/-- A request to enable stream management begins another session. -/
theorem story_countSent_of_enable
    (is : entry.stanza.is "enable" Namespace.streamManagement = true) :
    (s.countSent entry).story handed managed
      = ⟨s.board.setAll s.unconfirmed .dropped, [], s.unsent, handed, managed⟩ := by
  have hs : (s.countSent entry).resumption? = some .start := by
    rw [resumption?_countSent, if_pos is]
  rw [story, unconfirmed_of_some hs, countSent, if_pos is]
  rfl

/-- What the session keeps joins its queue, which may have to give up its oldest element. -/
theorem story_countSent_of_keeps (hs : s.resumption? = some context)
    (is : ¬ entry.stanza.is "enable" Namespace.streamManagement = true)
    (hstanza : entry.stanza.isStanza = true) (hstatus : context.status ≠ .inactive) :
    (s.countSent entry).story handed managed
      = ⟨s.board.setAll (context.evicted entry) .dropped,
        context.unacked.drop (context.evicted entry).length ++ [entry], s.unsent, handed,
        managed⟩ := by
  have hafter : (s.countSent entry).resumption? = some (context.recordSent entry) := by
    rw [resumption?_countSent, if_neg is, hs]
    rfl
  have hqueue : (context.recordSent entry).unacked
      = context.unacked.drop (context.evicted entry).length ++ [entry] := by
    rw [Context.recordSent, if_pos hstanza]
    exact if_neg hstatus
  have hevicted : s.evicted entry = context.evicted entry := by rw [evicted, hs]
  rw [story, unconfirmed_of_some hafter, hqueue, countSent, if_neg is, hevicted]
  rfl

/-- What it does not keep leaves everything as it is. -/
theorem story_countSent_of_not_keeps
    (is : ¬ entry.stanza.is "enable" Namespace.streamManagement = true) (h : ¬ s.Keeps entry) :
    (s.countSent entry).story handed managed = s.story handed managed := by
  have hnot {context : Context} (hs : s.resumption? = some context)
      (hstanza : entry.stanza.isStanza = true) : context.status = .inactive :=
    Decidable.byContradiction fun hstatus => h (keeps_iff.2 ⟨hstanza, context, hs, hstatus⟩)
  have hevicted : s.evicted entry = [] := by
    unfold evicted
    split
    · rename_i context hs
      exact if_neg fun hfull => hfull.2.1 (hnot hs hfull.1)
    · rfl
  have hkept : (s.countSent entry).unconfirmed = s.unconfirmed := by
    cases hs : s.resumption? with
    | none =>
      rw [unconfirmed_of_none hs, unconfirmed_of_none]
      rw [resumption?_countSent, if_neg is, hs]
      rfl
    | some context =>
      have hafter : (s.countSent entry).resumption? = some (context.recordSent entry) := by
        rw [resumption?_countSent, if_neg is, hs]
        rfl
      rw [unconfirmed_of_some hs, unconfirmed_of_some hafter]
      unfold Context.recordSent
      split
      · rename_i hstanza
        exact if_pos (hnot hs hstanza)
      · rfl
  refine story_eq ?_ hkept (congrArg (·.unsent) (s.countSent_eq entry))
  rw [countSent, if_neg is, hevicted]
  rfl

/-- **The first element that waits is taken**: it joins those that are kept, or it does
not, and others may be dropped for it. -/
theorem turns_countSent {s' : Session} {forgone : List Token} {waiting : List Entry}
    (hunsent : s.unsent = entry :: waiting) (hboard : s'.board = s.board.setAll [entry] .sent)
    (hproperties : s'.properties = s.properties) (hrest : s'.unsent = waiting) :
    Story.Turns False forgone (s.story handed managed)
      ((s'.countSent entry).story (handed ++ [entry.token])
        (if s.Keeps entry then managed ++ [entry.token]
          else managed.filter (· ≠ entry.token))) := by
  have hs : s'.resumption? = s.resumption? := congrArg (·.resumption?) hproperties
  have hkept : s'.unconfirmed = s.unconfirmed := by rw [unconfirmed, hs, unconfirmed]
  have htake : Story.Turn False forgone (s.story handed managed)
      ⟨s'.board, s.unconfirmed, waiting, handed ++ [entry.token],
        managed.filter (· ≠ entry.token)⟩ := hboard ▸ .take hunsent
  by_cases is : entry.stanza.is "enable" Namespace.streamManagement = true
  · -- the request to enable stream management is no stanza
    have hnot : ¬ s.Keeps entry := fun hkeeps => by
      have := Element.not_isStanza_of_name (Element.name_of_is is) (by decide)
      rw [hkeeps.1] at this
      cases this
    rw [if_neg hnot, story_countSent_of_enable is, hkept, hrest]
    exact .tail (.single htake) (.settle (List.append_nil s.unconfirmed).symm (.inl rfl))
  · by_cases hkeeps : s.Keeps entry
    · obtain ⟨hstanza, context, hcontext, hstatus⟩ := keeps_iff.1 hkeeps
      have hkeep : Story.Turn False forgone (s.story handed managed)
          ⟨s'.board, s.unconfirmed ++ [entry], waiting, handed ++ [entry.token],
            managed ++ [entry.token]⟩ := hboard ▸ .keep hunsent
      have hqueue : s.unconfirmed ++ [entry] = context.evicted entry
          ++ (context.unacked.drop (context.evicted entry).length ++ [entry]) := by
        rw [← List.append_assoc, context.evicted_append_drop, unconfirmed_of_some hcontext]
      rw [if_pos hkeeps, story_countSent_of_keeps (hs.trans hcontext) is hstanza hstatus, hrest]
      exact .tail (.single hkeep) (.settle hqueue (.inl rfl))
    · have hnot : ¬ s'.Keeps entry := by
        rwa [Keeps, managementStatus?, hs]
      have hstory : s'.story (handed ++ [entry.token]) (managed.filter (· ≠ entry.token))
          = ⟨s'.board, s.unconfirmed, waiting, handed ++ [entry.token],
            managed.filter (· ≠ entry.token)⟩ := by
        rw [story, hkept, hrest]
      rw [if_neg hkeeps, story_countSent_of_not_keeps is hnot, hstory]
      exact .single htake

end Session

/-- The token of the element a frame stands for, if it stands for one. -/
def Frame.token? : Frame → Option Token
  | .element entry => some entry.token
  | .restart | .close | .failed _ => none

namespace Client

/-- **The tokens of the elements the transports took**, in that order. -/
def handed (c : Client) : List Token :=
  c.wire.filterMap Frame.token?

/-- The tokens of the elements that were kept when they were handed over last, after another
item was handed over. -/
def managedAfter (c : Client) (managed : List Token) : Outgoing → List Token
  | .element entry _ =>
    if c.accepts then
      if c.session.Keeps entry then managed ++ [entry.token]
      else managed.filter (· ≠ entry.token)
    else managed
  | .restart | .close => managed

variable {c : Client} {item : Outgoing} {rest : List Outgoing} {forgone managed : List Token}

/-- Frames that stand for no element add nothing to what was handed over. -/
theorem handed_record {frames : List Frame} (h : ∀ frame ∈ frames, frame.token? = none) :
    (c.record frames).handed = c.handed := by
  show (c.wire ++ frames).filterMap Frame.token? = _
  rw [List.filterMap_append, List.filterMap_eq_nil_iff.2 h, List.append_nil, handed]

theorem token?_restartFrames (transport : Option Transport) :
    ∀ frame ∈ (transport.map Transport.restartFrames).getD [], frame.token? = none := by
  cases transport with
  | none => simp
  | some transport =>
    show ∀ frame ∈ transport.restartFrames, _
    unfold Transport.restartFrames
    split
    · simp
    · split <;> simp [Frame.token?]

theorem token?_closeFrames (transport : Option Transport) :
    ∀ frame ∈ (transport.map Transport.closeFrames).getD [], frame.token? = none := by
  cases transport with
  | none => simp
  | some transport =>
    show ∀ frame ∈ transport.closeFrames, _
    unfold Transport.closeFrames
    split
    · simp
    · split <;> simp [Frame.token?]

/-- Restarting the stream leaves the elements on their way as they are. -/
theorem story_restart (clean : c.session.properties.Clean)
    (ho : c.session.outbox = .restart :: rest) :
    ((c.withOutbox rest).deliver .restart).session.story c.handed managed
      = c.session.story c.handed managed := by
  have hle : ¬ Scope.session ≤ Scope.stream := by decide
  refine Session.story_eq ?_ ?_ ?_
  · show c.session.board.setAll ((c.session.properties.cleared .stream).flatMap Session.keptBy)
      .dropped = _
    rw [clean.keptBy_cleared hle]
    rfl
  · have hs : ((c.withOutbox rest).deliver .restart).session.resumption? = c.session.resumption? :=
      clean.resumption?_clear_of_not_le hle
    rw [Session.unconfirmed, hs, Session.unconfirmed]
  · show rest.filterMap Outgoing.entry? = _
    rw [Session.unsent, ho]
    rfl

theorem story_setConnector (c : Client) (new : ConnectorState) (handed : List Token) :
    (c.setConnector new).session.story handed managed = c.session.story handed managed := by
  unfold setConnector
  split <;> rfl

theorem handed_setConnector (c : Client) (new : ConnectorState) :
    (c.setConnector new).handed = c.handed := by
  unfold setConnector
  split <;> rfl

/-- **Handing over an item turns the story.** -/
theorem turns_deliver (clean : c.session.properties.Clean)
    (ho : c.session.outbox = item :: rest) :
    Story.Turns False forgone (c.session.story c.handed managed)
      (((c.withOutbox rest).deliver item).session.story ((c.withOutbox rest).deliver item).handed
        (c.managedAfter managed item)) := by
  cases item with
  | restart =>
    have hhanded : ((c.withOutbox rest).deliver .restart).handed = c.handed :=
      handed_record (token?_restartFrames _)
    rw [hhanded]
    show Story.Turns False forgone _ (Session.story _ c.handed managed)
    rw [story_restart clean ho]
  | close =>
    have hunsent : rest.filterMap Outgoing.entry? = c.session.unsent := by
      rw [Session.unsent, ho]
      rfl
    show Story.Turns False forgone _ ((Client.setConnector _ _).session.story
      (Client.setConnector _ _).handed managed)
    rw [story_setConnector, handed_setConnector]
    show Story.Turns False forgone _
      ((c.withOutbox rest).session.story (Client.handed (c.record _)) managed)
    rw [handed_record (token?_closeFrames _)]
    show Story.Turns False forgone _ ⟨_, _, rest.filterMap Outgoing.entry?, _, _⟩
    rw [hunsent]
    exact .refl
  | element entry request =>
    have hunsent : c.session.unsent = entry :: rest.filterMap Outgoing.entry? := by
      rw [Session.unsent, ho]
      rfl
    show Story.Turns False forgone _
      (((c.withOutbox rest).deliverElement entry request).session.story
        ((c.withOutbox rest).deliverElement entry request).handed _)
    unfold deliverElement
    split
    · rename_i ht
      have hmanaged : c.managedAfter managed (.element entry request) = managed :=
        if_neg (by simp [accepts, show c.transport = none from ht])
      rw [hmanaged, Session.failUnsent_eq]
      exact .single (.refuse hunsent (.inl rfl))
    · rename_i transport ht
      split
      · rename_i error transport' hsend
        have hmanaged : c.managedAfter managed (.element entry request) = managed :=
          if_neg (by simp [accepts, show c.transport = some transport from ht, hsend])
        have hhanded : (c.record [.failed .send]).handed = c.handed :=
          handed_record (by simp [Frame.token?])
        rw [hmanaged, Session.failUnsent_eq]
        show Story.Turns False forgone _ (Session.story _ (c.record [.failed .send]).handed managed)
        rw [hhanded]
        exact .single (.refuse hunsent (.inr ⟨error, rfl⟩))
      · rename_i transport' hsend
        have haccepts : c.accepts = true := by
          simp [accepts, show c.transport = some transport from ht, hsend]
        have hhanded : (c.record [.element entry]).handed = c.handed ++ [entry.token] := by
          show (c.wire ++ [Frame.element entry]).filterMap Frame.token? = _
          rw [List.filterMap_append]
          rfl
        show Story.Turns False forgone _ (Session.story _ (c.record [.element entry]).handed _)
        rw [hhanded, managedAfter, if_pos haccepts]
        refine Session.turns_countSent hunsent ?_ ?_ ?_
        · rw [Session.awaitReply_eq]
          rfl
        · rw [Session.awaitReply_eq]
          rfl
        · rw [Session.awaitReply_eq]
          rfl

end Client

end Xmpp
