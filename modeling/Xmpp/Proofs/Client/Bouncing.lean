import Xmpp.Proofs.Client.Replies
import Xmpp.Proofs.Delivery.Turns

/-!
# Answers are not answered

A client tells the sender of a stanza when it cannot make sense of it. If it did so with
everything, two clients could keep telling each other for good, each of them puzzled by what the
other one said last. So a stanza that is an answer itself, of type `error` or `result`, must come
to nothing unless somebody waits for it, whatever its namespace and whatever it carries; and what
is said about any other stanza has to be such an answer.

There are two ways for something to be said. The modules that are concerned with a stanza reply to
it or refuse it, and of those refusals the sender learns one at most (`Client.said_route`).
And the controller reacts to the events that come of it, also to those that handlers of the
application make up. It says a lot then, but it never answers anything
(`Session.answersWaiting_react`). Therefore all answers that are handed over until the client is at
rest are among those the modules gave (`Client.answers_never_bounce`).
-/

namespace Xmpp

open Delivery

/-! ## Answers -/

namespace Element

/-- Whether an element is of type `error`. -/
def isError (e : Element) : Bool :=
  e.attr "type" == some "error"

/-- **Whether an element is an answer**: it tells how a stanza went. -/
def isAnswer (e : Element) : Bool :=
  e.isError || e.attr "type" == some "result"

/-- Whoever expects an answer has given none. -/
theorem not_isAnswer_of_expectsReply {e : Element} (h : e.expectsReply = true) :
    e.isAnswer = false := by
  unfold expectsReply at h
  unfold isAnswer isError
  simp only [Bool.and_eq_true, bne_iff_ne, ne_eq] at h
  simp [h.1.2, h.2]

/-- An element of another type is no answer. -/
theorem not_isAnswer_of_type {e : Element} {type : String} (h : e.attr "type" = some type)
    (error : type ≠ "error") (result : type ≠ "result") : e.isAnswer = false := by
  unfold isAnswer isError
  simp [h, error, result]

/-- **A reply to a stanza**, which says how it went. -/
def RepliesTo (reply e : Element) : Prop :=
  ∃ type payload, (type = "error" ∨ type = "result") ∧ reply = e.reply type payload

/-- A reply is an answer, and goes back where the stanza came from. -/
theorem RepliesTo.spec {reply e : Element} (h : reply.RepliesTo e) :
    reply.isAnswer = true ∧ reply.name = e.name ∧ reply.attr "id" = e.attr "id"
      ∧ reply.attr "to" = e.attr "from" := by
  obtain ⟨type, payload, htype, rfl⟩ := h
  obtain ⟨hsame, hid, hto⟩ := e.attr_reply type payload
  refine ⟨?_, rfl, hid, hto⟩
  rw [isAnswer, isError, hsame]
  rcases htype with rfl | rfl
  · rfl
  · rfl

theorem RepliesTo.isStanza {reply e : Element} (h : reply.RepliesTo e)
    (stanza : e.isStanza = true) : reply.isStanza = true := by
  unfold Element.isStanza
  rw [h.spec.2.1]
  exact stanza

end Element

/-! ## What waits in the outbox -/

namespace Session

variable (s : Session)

/-- **The answers that wait** to be handed to the transport. -/
def answersWaiting : List Element :=
  (s.unsent.map (·.stanza)).filter Element.isAnswer

theorem answersWaiting_of_outbox {s' : Session} (h : s'.outbox = s.outbox) :
    s'.answersWaiting = s.answersWaiting := by
  rw [answersWaiting, unsent, h]
  rfl

theorem answersWaiting_push (item : Outgoing) :
    (s.push item).answersWaiting
      = s.answersWaiting ++ (item.entry?.toList.map (·.stanza)).filter Element.isAnswer := by
  rw [answersWaiting, unsent_push, List.map_append, List.filter_append, answersWaiting]

/-- An element that is no answer adds none. -/
theorem answersWaiting_enqueue {element : Element} (h : element.isAnswer = false)
    (request : Option Request) :
    (s.enqueue element request).2.answersWaiting = s.answersWaiting := by
  have hpush := answersWaiting_push (s.track element).2 (.element (s.track element).1 request)
  have hnone : ([element].filter Element.isAnswer) = [] := by
    rw [List.filter_singleton, h]
    rfl
  refine hpush.trans ?_
  show s.answersWaiting ++ [element].filter Element.isAnswer = _
  rw [hnone, List.append_nil]

theorem answersWaiting_write {element : Element} (h : element.isAnswer = false) :
    (s.write element).answersWaiting = s.answersWaiting :=
  s.answersWaiting_enqueue h none

/-- A request is no answer, if its draft was none. -/
theorem answersWaiting_send {draft : Draft} (h : draft.stanza.isAnswer = false) :
    (s.send draft).2.answersWaiting = s.answersWaiting := by
  let made := draft.build s.config.requestTimeout s.clock s.drawn
  have hmade : made.1.stanza.isAnswer = false := by
    have htype : made.1.stanza.attr "type" = draft.stanza.attr "type" := by
      show (draft.build _ _ _).1.stanza.attr "type" = _
      unfold Draft.build
      cases draft.id? with
      | none => exact draft.stanza.attr_setAttr "id" _ "type"
      | some id => rfl
    rw [Element.isAnswer, Element.isError, htype]
    exact h
  exact ({ s with drawn := made.2 } : Session).answersWaiting_enqueue hmade (some made.1)

/-! ## The controller answers nothing -/

theorem answersWaiting_reportLogin (error : Option Error) :
    (reportLogin (s, error)).answersWaiting = s.answersWaiting := by
  unfold reportLogin
  split
  · rename_i heq
    rw [(Prod.mk.inj heq).1]
  · rename_i heq
    rw [(Prod.mk.inj heq).1]
    rfl
  · rename_i heq
    rw [(Prod.mk.inj heq).1]
    rfl

theorem answersWaiting_login : s.login.1.answersWaiting = s.answersWaiting := by
  unfold login
  split
  · rfl
  · split
    · rfl
    · exact answersWaiting_write ((s.setAuthState .inProgress).fire (.authStarted _)) rfl

theorem answersWaiting_login2 (bind : Bool) :
    (s.login2 bind).1.answersWaiting = s.answersWaiting := by
  unfold login2
  split
  · rfl
  · split
    · rfl
    · exact answersWaiting_write ((s.setAuthState .inProgress).fire (.authStarted _)) rfl

theorem answersWaiting_resetManagement :
    s.resetManagement.answersWaiting = s.answersWaiting :=
  s.answersWaiting_of_outbox (congrArg (·.outbox) s.resetManagement_eq)

theorem answersWaiting_timeoutAll : s.timeoutAll.answersWaiting = s.answersWaiting := by
  refine s.answersWaiting_of_outbox ?_
  unfold timeoutAll swept
  rw [perform_eq]

theorem answersWaiting_getIn (registered : Bool) :
    (s.getIn registered).answersWaiting = s.answersWaiting := by
  have hforget : s.forgetUnlessResumable.answersWaiting = s.answersWaiting := by
    unfold forgetUnlessResumable
    split
    · rfl
    · exact s.answersWaiting_resetManagement
  unfold getIn
  dsimp only
  rw [← hforget]
  generalize s.forgetUnlessResumable = s
  split
  · exact (answersWaiting_reportLogin _ _).trans (s.answersWaiting_login2 _)
  · split
    · exact (answersWaiting_reportLogin _ _).trans s.answersWaiting_login
    · split
      · exact s.answersWaiting_send rfl
      · rfl

theorem answersWaiting_enableManagement :
    s.enableManagement.2.answersWaiting = s.answersWaiting := by
  unfold enableManagement
  split
  · refine s.answersWaiting_write ?_
    cases s.config.resumptionWindow <;> rfl
  · rfl

theorem answersWaiting_submitForm (form : Form) :
    (s.submitForm form).2.answersWaiting = s.answersWaiting := by
  refine s.answersWaiting_send ?_
  rfl

theorem answersWaiting_bind : s.bind.2.answersWaiting = s.answersWaiting := by
  refine s.answersWaiting_send ?_
  rfl

theorem answersWaiting_settleIn (jid : Jid) (inline : Bool) :
    (s.settleIn jid inline).answersWaiting = s.answersWaiting := by
  have hnamed : ((s.setProperty .session Properties.boundKey jid).setOwnJid
      (some jid)).answersWaiting = s.answersWaiting := rfl
  unfold settleIn
  dsimp only
  rw [← hnamed]
  generalize (s.setProperty .session Properties.boundKey jid).setOwnJid (some jid) = s
  split
  · rfl
  · rename_i server _
    have hasked : ((((s.requestFeatures server).2.requestFeatures jid.bare).2.sendPresence).2
        |>.requestRoster).2.answersWaiting = s.answersWaiting := by
      rw [requestRoster, answersWaiting_send _ rfl, sendPresence, answersWaiting_send _ rfl,
        requestFeatures, answersWaiting_send _ rfl, requestFeatures, answersWaiting_send _ rfl]
    cases inline with
    | true => exact hasked
    | false => exact (answersWaiting_enableManagement _).trans hasked

theorem answersWaiting_resumeOrBind (c : Controller) :
    (c.resumeOrBind s).2.answersWaiting = s.answersWaiting := by
  have hresume : s.resume.2.answersWaiting = s.answersWaiting := by
    unfold resume
    split
    · exact s.answersWaiting_write rfl
    · rfl
  unfold Controller.resumeOrBind
  split
  · exact hresume
  · split
    · exact s.answersWaiting_bind
    · rfl

theorem answersWaiting_followConnector (old new : ConnectorState) :
    (s.followConnector old new).answersWaiting = s.answersWaiting := by
  have hended : s.timeoutAll.resetManagement.answersWaiting = s.answersWaiting :=
    (answersWaiting_resetManagement _).trans s.answersWaiting_timeoutAll
  unfold followConnector
  split
  · exact hended
  · split
    · exact hended
    · rfl
  · rfl
  · rfl

/-- **The controller answers nothing**, whatever event it reacts to. -/
theorem answersWaiting_react (c : Controller) (event : Event) :
    (c.react s event).2.answersWaiting = s.answersWaiting := by
  cases event with
  | features =>
    unfold Controller.react
    cases s.properties.authState with
    | unknown => exact s.answersWaiting_getIn _
    | succeeded => exact s.answersWaiting_resumeOrBind c
    | inProgress | failed => rfl
  | authSucceeded restartRequired inlineBound =>
    cases restartRequired <;> cases inlineBound
    · exact s.answersWaiting_resumeOrBind c
    · rfl
    · rfl
    · rfl
  | bound jid inline => exact s.answersWaiting_settleIn jid inline
  | managementFailed condition =>
    unfold Controller.react
    dsimp only
    split
    · exact (answersWaiting_bind _).trans s.answersWaiting_timeoutAll
    · rfl
  | formReceived form => exact s.answersWaiting_submitForm _
  | registered => exact (s.answersWaiting_push .close).trans (List.append_nil _)
  | connector old new => exact s.answersWaiting_followConnector old new
  | _ => rfl

end Session

/-! ## What is handed over -/

/-- The entry of the element a frame stands for, if it stands for one. -/
def Frame.entry? : Frame → Option Entry
  | .element entry => some entry
  | .restart | .close | .failed _ => none

/-- **The answers among frames.** -/
def Frame.answers (frames : List Frame) : List Element :=
  ((frames.filterMap Frame.entry?).map (·.stanza)).filter Element.isAnswer

/-- Frames without tokens stand for no elements. -/
theorem Frame.answers_eq_nil {frames : List Frame} (h : ∀ frame ∈ frames, frame.token? = none) :
    Frame.answers frames = [] := by
  have hnone : frames.filterMap Frame.entry? = [] := by
    refine List.filterMap_eq_nil_iff.2 fun frame hframe => ?_
    have htoken := h frame hframe
    cases frame with
    | element entry => cases htoken
    | _ => rfl
  rw [Frame.answers, hnone]
  rfl

theorem Frame.answers_append (frames frames' : List Frame) :
    Frame.answers (frames ++ frames') = Frame.answers frames ++ Frame.answers frames' := by
  rw [answers, List.filterMap_append, List.map_append, List.filter_append]
  rfl

namespace Client

open Session

variable {c c' d : Client} {e reply : Element} {s : Session}

/-- **Handing over an item** hands over the answer it is, or nothing that is one. -/
theorem answers_deliver (c : Client) (item : Outgoing) :
    ∃ frames, (c.deliver item).wire = c.wire ++ frames
      ∧ (Frame.answers frames).Sublist
        ((item.entry?.toList.map (·.stanza)).filter Element.isAnswer) := by
  have silent : ∀ {frames : List Frame} {answers : List Element},
      (∀ frame ∈ frames, frame.token? = none) → (Frame.answers frames).Sublist answers :=
    fun h => by
      rw [Frame.answers_eq_nil h]
      exact List.nil_sublist _
  cases item with
  | restart => exact ⟨_, rfl, silent (token?_restartFrames _)⟩
  | close =>
    refine ⟨(c.transport.map Transport.closeFrames).getD [], ?_, silent (token?_closeFrames _)⟩
    show (Client.setConnector _ _).wire = _
    unfold setConnector
    split
    · rfl
    · rfl
  | element entry request =>
    show ∃ frames, (c.deliverElement entry request).wire = _ ∧ _
    unfold deliverElement
    split
    · exact ⟨[], (List.append_nil _).symm, silent (List.forall_mem_nil _)⟩
    · split
      · exact ⟨[.failed .send], rfl, silent (by simp [Frame.token?])⟩
      · exact ⟨[.element entry], rfl, List.Sublist.refl _⟩

/-- **Moves hand over answers that waited**, and none is added on the way. -/
theorem Moves.answers {log : List Request} (moves : Moves c log c') :
    ∃ frames, c'.wire = c.wire ++ frames
      ∧ (Frame.answers frames ++ c'.session.answersWaiting).Sublist c.session.answersWaiting := by
  induction moves with
  | refl => exact ⟨[], (List.append_nil _).symm, List.Sublist.refl _⟩
  | @deliver c' log item rest _ ho ih =>
    obtain ⟨frames, hwire, hsub⟩ := ih
    obtain ⟨frames', hwire', hsub'⟩ := (c'.withOutbox rest).answers_deliver item
    have hwaiting : c'.session.answersWaiting
        = (item.entry?.toList.map (·.stanza)).filter Element.isAnswer
          ++ (c'.withOutbox rest).session.answersWaiting := by
      have hunsent : c'.session.unsent = item.entry?.toList ++ rest.filterMap Outgoing.entry? := by
        rw [unsent, ho]
        cases item <;> rfl
      rw [answersWaiting, hunsent, List.map_append, List.filter_append]
      rfl
    have hrest := ((c'.withOutbox rest).deliver item).session.answersWaiting_of_outbox
      (outbox_deliver (c'.withOutbox rest) item).symm
    refine ⟨frames ++ frames', ?_, ?_⟩
    · rw [hwire', ← List.append_assoc, ← hwire]
      rfl
    · rw [Frame.answers_append, List.append_assoc, ← hrest]
      rw [hwaiting] at hsub
      exact ((hsub'.append (List.Sublist.refl _)).append_left _).trans hsub
  | @react c' log event rest _ ho he ih =>
    obtain ⟨frames, hwire, hsub⟩ := ih
    refine ⟨frames, hwire, ?_⟩
    rwa [show ((c'.withEvents rest).handleEvent event).session.answersWaiting
      = c'.session.answersWaiting from answersWaiting_react _ _ _]

/-- **A run hands over answers that waited**, and leaves none. -/
theorem answers_run (c : Client) :
    ∃ frames, c.run.wire = c.wire ++ frames
      ∧ (Frame.answers frames).Sublist c.session.answersWaiting := by
  obtain ⟨log, moves⟩ := Moves.run c
  obtain ⟨frames, hwire, hsub⟩ := moves.answers
  exact ⟨frames, hwire, (List.sublist_append_left _ _).trans hsub⟩

end Client

/-! ## What modules say about a stanza -/

namespace Session

variable {s s' s'' : Session} {e : Element} {errors more : Nat} {replies others : List Element}

/-- **What was said about a stanza**: replies, of which at most this many are of type `error`, and
none at all if it is an answer itself. -/
structure Said (s : Session) (e : Element) (errors : Nat) (replies : List Element)
    (s' : Session) : Prop where
  /-- They were put into the outbox, and nothing else happened to the session that matters. -/
  replied : s.Replied replies s'
  /-- They are about the stanza. -/
  about : ∀ reply ∈ replies, reply.RepliesTo e
  /-- Few of them are of type `error`. -/
  errors : replies.countP Element.isError ≤ errors
  /-- Answers are not answered. -/
  silence : e.isAnswer = true → replies = []

/-- Nothing was said. -/
theorem Said.nothing (h : s.Replied [] s') : s.Said e 0 [] s' :=
  ⟨h, List.forall_mem_nil _, Nat.le_refl 0, fun _ => rfl⟩

/-- A single reply. -/
theorem Said.reply (unanswered : e.isAnswer = false) {type : String}
    (htype : type = "error" ∨ type = "result") {payload : List Element}
    (h : s.Replied [e.reply type payload] s') :
    s.Said e (if type = "error" then 1 else 0) [e.reply type payload] s' where
  replied := h
  about := fun reply hmem => ⟨type, payload, htype, List.mem_singleton.1 hmem⟩
  errors := by
    rw [List.countP_singleton, Element.isError, (e.attr_reply type payload).1]
    simp
  silence := fun answer => by
    rw [unanswered] at answer
    cases answer

theorem Said.trans (first : s.Said e errors replies s') (second : s'.Said e more others s'') :
    s.Said e (errors + more) (replies ++ others) s'' where
  replied := first.replied.trans second.replied
  about := fun reply hmem => (List.mem_append.1 hmem).elim (first.about reply) (second.about reply)
  errors := by
    rw [List.countP_append]
    exact Nat.add_le_add first.errors second.errors
  silence := fun answer => by rw [first.silence answer, second.silence answer, List.append_nil]

theorem Said.weaken (said : s.Said e errors replies s') (h : errors ≤ more) :
    s.Said e more replies s' :=
  ⟨said.replied, said.about, Nat.le_trans said.errors h, said.silence⟩

/-- **A module that is concerned with a stanza** replies to it with a result if at all, and says
nothing about an answer. -/
theorem said_handle (s : Session) (stanza : e.isStanza = true) {id : ModuleId}
    (hid : id ∈ ModuleId.concerned e) : ∃ replies, s.Said e 0 replies (s.handle id none e).1 := by
  obtain ⟨harranged, hconcerns⟩ := List.mem_filter.1 hid
  have quiet (h : (s.handle id none e).1 = s) :
      ∃ replies, s.Said e 0 replies (s.handle id none e).1 := by
    rw [h]
    exact ⟨[], .nothing (.refl s)⟩
  have misrouted (hid : id = .sasl ∨ id = .sasl2 ∨ id = .streamManagement) :
      ∃ replies, s.Said e 0 replies (s.handle id none e).1 :=
    quiet (congrArg Prod.fst (s.handle_misrouted_of_isStanza stanza hid))
  have told (event : Event) (idle : event.isIdle = true) :
      ∃ replies, s.Said e 0 replies (s.fire event) := ⟨[], .nothing ((Replied.refl s).fire idle)⟩
  cases id with
  | streamFeatures =>
    have hname : e.name = "features" := Element.name_of_is hconcerns
    rw [Element.isStanza, hname] at stanza
    cases stanza
  | streamError =>
    have hname : e.name = "error" := Element.name_of_is hconcerns
    rw [Element.isStanza, hname] at stanza
    cases stanza
  | sasl => exact misrouted (.inl rfl)
  | sasl2 => exact misrouted (.inr (.inl rfl))
  | streamManagement => exact misrouted (.inr (.inr rfl))
  | bind | registration => exact quiet rfl
  | presence => exact told (.presence e) rfl
  | message => exact told (.message e) rfl
  | roster =>
    rcases s.handleRoster_cases e with ⟨⟨htype, -⟩, query, h⟩ | ⟨-, error, h⟩
    · have unanswered := Element.not_isAnswer_of_type htype (by decide) (by decide)
      rw [show (s.handle .roster none e).1 = _ from congrArg Prod.fst h]
      exact ⟨_, .reply unanswered (.inr rfl) (((Replied.refl s).write _).fire rfl)⟩
    · exact quiet (congrArg Prod.fst h)
  | disco =>
    rcases s.handleDiscovery_cases e with ⟨htype, h⟩ | ⟨-, error, h⟩
    · have unanswered := Element.not_isAnswer_of_type htype (by decide) (by decide)
      rw [show (s.handle .disco none e).1 = _ from congrArg Prod.fst h]
      exact ⟨_, .reply unanswered (.inr rfl) ((Replied.refl s).write _)⟩
    · exact quiet (congrArg Prod.fst h)
  | extra name => exact absurd harranged (by simp [ModuleId.arranged])

end Session

namespace Client

open Session

variable {c d : Client} {e reply : Element} {s : Session}

/-- **A refusal is told once.** -/
theorem said_routeToBuiltIn (stanza : e.isStanza = true) {id : ModuleId}
    (hid : id ∈ ModuleId.concerned e) {state : Session × Bool} {replies : List Element}
    (said : s.Said e state.2.toNat replies state.1) :
    ∃ replies, s.Said e (routeToBuiltIn e state id).2.toNat replies
      (routeToBuiltIn e state id).1 := by
  obtain ⟨t, refused⟩ := state
  obtain ⟨others, heard⟩ := t.said_handle stanza hid
  have both := said.trans heard
  unfold routeToBuiltIn
  dsimp only
  rcases hhandle : t.handle id none e with ⟨t', _ | error⟩
  · rw [hhandle] at both
    exact ⟨_, both⟩
  · rw [hhandle] at both
    dsimp only
    split
    · rename_i htell
      obtain ⟨hfirst, hexpects⟩ := Bool.and_eq_true_iff.1 htell
      have refusal : t'.Said e 1 [e.refusal error.toStanzaError]
          (t'.write (e.refusal error.toStanzaError)) :=
        .reply (Element.not_isAnswer_of_expectsReply hexpects) (.inl rfl)
          ((Replied.refl t').write _)
      obtain rfl : refused = false := by simpa using hfirst
      exact ⟨_, both.trans refusal⟩
    · exact ⟨_, both⟩

/-- **The modules tell the sender of a stanza at most one error.** -/
theorem said_route (fitted : c.modules.Fitted) (stanza : e.isStanza = true) (s : Session) :
    ∃ replies, s.Said e 1 replies (c.route s e) := by
  rw [route_eq fitted]
  split
  · unfold turnAway
    split
    · rename_i hexpects
      have unanswered := Element.not_isAnswer_of_expectsReply hexpects
      exact ⟨_, .reply unanswered (.inl rfl) ((Replied.refl s).write _)⟩
    · exact ⟨[], (Said.nothing (.refl s)).weaken (Nat.zero_le 1)⟩
  · have hfold : ∃ replies, s.Said e
        ((ModuleId.concerned e).foldl (routeToBuiltIn e) (s, false)).2.toNat replies
        ((ModuleId.concerned e).foldl (routeToBuiltIn e) (s, false)).1 :=
      List.foldlRecOn (motive := fun state => ∃ replies, s.Said e state.2.toNat replies state.1)
        (ModuleId.concerned e) (routeToBuiltIn e) ⟨[], .nothing (.refl s)⟩
        fun _ ⟨_, said⟩ _ hid => said_routeToBuiltIn stanza hid said
    obtain ⟨replies, said⟩ := hfold
    exact ⟨replies, said.weaken (Bool.toNat_le _)⟩

/-! ## What comes of a stanza -/

/-- **The replies to an element** that are written with it. -/
def repliesTo (c : Client) (e : Element) : List Element :=
  (c.take e).answersWaiting

/-- **The answers that are handed to the transport** until the client is at rest again. -/
def handsBack (c : Client) (e : Element) : List Element :=
  Frame.answers ((c.receive e).wire.drop c.wire.length)

end Client

/-- **Nobody waits for an element**: if it answers a request, that was resolved before. -/
def Registry.Unawaited (g : Registry) (e : Element) : Prop :=
  ∀ r, g.answeredBy? e = some r → r.isCompleted = true

namespace Client

open Session

variable {c d : Client} {e reply : Element} {s : Session}

/-- All that is handed back was written with the element. -/
theorem handsBack_sublist (stock : c.Stock) (e : Element) :
    (c.handsBack e).Sublist (c.repliesTo e) := by
  have hreceive : c.receive e = (c.prepare (.receive e)).run :=
    operate_eq stock.atRest (.receive e)
  obtain ⟨frames, hwire, hsub⟩ := (c.prepare (.receive e)).answers_run
  rw [handsBack, hreceive, hwire]
  show (Frame.answers ((c.wire ++ frames).drop c.wire.length)).Sublist _
  rw [List.drop_left]
  exact hsub

/-- On the way to rest no other answers are written. -/
theorem answersWaiting_sublist {log : List Request} (moves : Moves (c.prepare (.receive e)) log d) :
    d.session.answersWaiting.Sublist (c.repliesTo e) := by
  obtain ⟨frames, -, hsub⟩ := moves.answers
  exact (List.sublist_append_right _ _).trans hsub

/-- **What is said about a stanza** are replies to it, at most one of type `error`, and nothing
is said about an answer. -/
theorem repliesTo_spec (stock : c.Stock) (stanza : e.isStanza = true) :
    (∀ reply ∈ c.repliesTo e, reply.RepliesTo e)
      ∧ (c.repliesTo e).countP Element.isError ≤ 1
      ∧ (e.isAnswer = true → c.repliesTo e = []) := by
  have hcounted : (c.session.countReceived e).outbox = [] := by
    rw [countReceived_eq]
    exact stock.atRest.1
  cases hanswered : c.session.registry.answeredBy? e with
  | some r =>
    -- whoever waited for the element is called, and may publish events
    have houtbox : (c.take e).outbox = [] := by
      rw [take_of_answeredBy? hanswered, perform_eq]
      exact hcounted
    have hnone : c.repliesTo e = [] := by
      rw [repliesTo, answersWaiting, unsent, houtbox]
      rfl
    rw [hnone]
    exact ⟨List.forall_mem_nil _, Nat.zero_le 1, fun _ => rfl⟩
  | none =>
    obtain ⟨replies, said⟩ := said_route stock.fitted stanza (c.session.countReceived e)
    obtain ⟨⟨entries, houtbox, hentries⟩, -⟩ := said.replied
    rw [hcounted, List.nil_append] at houtbox
    have hall : c.repliesTo e = replies := by
      rw [repliesTo, (take_of_answeredBy?_eq_none hanswered).1, answersWaiting,
        unsent_of_outbox houtbox, hentries]
      exact List.filter_eq_self.2 fun reply hmem => (said.about reply hmem).spec.1
    rw [hall]
    exact ⟨said.about, said.errors, said.silence⟩

/-- **An answer that nobody waits for comes to nothing.** -/
theorem wire_receive_of_unawaited (stock : c.Stock) (stanza : e.isStanza = true)
    (answer : e.isAnswer = true) (unawaited : c.session.registry.Unawaited e) :
    (c.receive e).wire = c.wire := by
  have hcounted : (c.session.countReceived e).outbox = []
      ∧ (c.session.countReceived e).events = [] := by
    rw [countReceived_eq]
    exact stock.atRest
  have hidle : (c.take e).outbox = [] ∧ ∀ event ∈ (c.take e).events, event.isIdle = true := by
    cases hanswered : c.session.registry.answeredBy? e with
    | some r =>
      have hnone : Request.effectsOf (r.answer? e) = [] := by
        rw [Request.answer?, Request.complete?_eq_none_iff.2 (unawaited r hanswered)]
        rfl
      rw [take_of_answeredBy? hanswered, hnone]
      show (c.session.countReceived e).outbox = []
        ∧ ∀ event ∈ (c.session.countReceived e).events, event.isIdle = true
      rw [hcounted.2]
      exact ⟨hcounted.1, List.forall_mem_nil _⟩
    | none =>
      obtain ⟨replies, said⟩ := said_route stock.fitted stanza (c.session.countReceived e)
      obtain ⟨⟨entries, houtbox, hentries⟩, news, hevents, hnews⟩ := said.replied
      rw [said.silence answer, List.map_eq_nil_iff] at hentries
      rw [(take_of_answeredBy?_eq_none hanswered).1, houtbox, hevents, hcounted.1, hcounted.2,
        hentries]
      exact ⟨rfl, hnews⟩
  have hreceive : c.receive e = (c.prepare (.receive e)).run :=
    operate_eq stock.atRest (.receive e)
  rw [hreceive, run_of_isIdle (c := c.prepare (.receive e)) hidle.1 hidle.2]
  rfl

/-- **Answers never bounce.** Whatever a client with the built-in modules went through, an answer
that nobody waits for comes to nothing: not a thing is handed to the transport. Whatever stanza it
receives, at most one reply of type `error` is written. No other answers than those that are
written then ever wait on the way to rest, and no others are handed over. Each of them has the name
and the id of the stanza and is addressed to its sender; and it is not answered by any client of
this kind, which does not write anything about it unless it waits for it. -/
theorem answers_never_bounce (stock : c.Stock) (stanza : e.isStanza = true) :
    (e.isAnswer = true → c.session.registry.Unawaited e → (c.receive e).wire = c.wire)
      ∧ (c.repliesTo e).countP Element.isError ≤ 1
      ∧ (∀ (log : List Request) (d : Client), Moves (c.prepare (.receive e)) log d →
        d.session.answersWaiting.Sublist (c.repliesTo e))
      ∧ (c.handsBack e).Sublist (c.repliesTo e)
      ∧ ∀ reply ∈ c.repliesTo e,
        reply.name = e.name ∧ reply.attr "id" = e.attr "id" ∧ reply.attr "to" = e.attr "from"
          ∧ ∀ d : Client, d.Stock →
            d.repliesTo reply = [] ∧ d.handsBack reply = []
              ∧ (d.session.registry.Unawaited reply → (d.receive reply).wire = d.wire) := by
  obtain ⟨hreplies, herrors, -⟩ := repliesTo_spec stock stanza
  refine ⟨wire_receive_of_unawaited stock stanza, herrors,
    fun _ _ moves => answersWaiting_sublist moves, handsBack_sublist stock e, fun reply hmem => ?_⟩
  have hreply := hreplies reply hmem
  obtain ⟨hanswer, hname, hid, hto⟩ := hreply.spec
  have hstanza := hreply.isStanza stanza
  refine ⟨hname, hid, hto, fun d hd => ?_⟩
  have hnone : d.repliesTo reply = [] := (repliesTo_spec hd hstanza).2.2 hanswer
  refine ⟨hnone, ?_, wire_receive_of_unawaited hd hstanza hanswer⟩
  have hsub := handsBack_sublist hd reply
  rw [hnone] at hsub
  exact List.sublist_nil.1 hsub

namespace Rehearsal

/-- A message that went astray: it is in the namespace of a login. -/
def misdirected : Element where
  name := "message"
  ns := Namespace.sasl
  attributes := [("type", "chat"), ("id", "7"), ("from", "romeo@montague.lit/home")]

/-- What its sender is told. -/
def complaint : Element :=
  misdirected.refusal (.new .wait .internalServerError "en" "Internal error.")

end Rehearsal

open Rehearsal in
/-- In the rehearsal the sender of the message is told that it made no sense, and if that is a
client like ours, it takes note of it in silence. -/
theorem answers_never_bounce_rehearsal :
    (listener.Stock ∧ misdirected.isStanza = true)
      ∧ listener.repliesTo misdirected = [complaint] ∧ listener.handsBack misdirected = [complaint]
      ∧ complaint.attr "to" = some "romeo@montague.lit/home"
      ∧ (listener.receive complaint).wire = listener.wire := by
  have hstanza : misdirected.isStanza = true := rfl
  have hreplies : listener.repliesTo misdirected = [complaint] := by decide +kernel
  have hhanded : listener.handsBack misdirected = [complaint] := by decide +kernel
  have unawaited : listener.session.registry.Unawaited complaint := by
    intro r hr
    rw [show listener.session.registry.answeredBy? complaint = none by rfl] at hr
    cases hr
  obtain ⟨-, -, -, -, hall⟩ := answers_never_bounce stock_listener hstanza
  obtain ⟨-, -, hto, hsilence⟩ := hall complaint (hreplies ▸ List.mem_singleton_self _)
  exact ⟨⟨stock_listener, hstanza⟩, hreplies, hhanded, hto,
    (hsilence listener stock_listener).2.2 unawaited⟩

end Client

end Xmpp
