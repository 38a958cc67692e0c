import Xmpp.Proofs.Client.Footing
import Xmpp.Proofs.Client.Stock
import Xmpp.Proofs.Request.Verification

/-!
# Answering requests

Whoever sends an `iq` of type `get` or `set` waits for exactly one answer. A
client with the built-in modules answers every one of them, whatever its
namespace, its children and its sender: what no module handles is turned away,
and what a module refuses is answered with its error. That there is at most one
answer depends on the modules. The roster and discovery both handle an `iq` if
it carries children for both, and the guard against answering twice only knows
of errors. So there are two answers when the first module answers by itself, and
when the second does after the first refused.

The count is exact (`receive_request_spec`): two for such a request if one of the
two modules accepts it, and one otherwise.
-/

namespace Xmpp

open Delivery

namespace Element

/-- **An answer** to a request: an `iq` of type `result` or `error` that carries
its id and is addressed to its sender. -/
def Answers (a e : Element) : Prop :=
  a.name = "iq" ∧ (a.attr "type" = some "result" ∨ a.attr "type" = some "error")
    ∧ a.attr "id" = e.attr "id" ∧ a.attr "to" = e.attr "from"

instance (a e : Element) : Decidable (a.Answers e) :=
  inferInstanceAs (Decidable (_ ∧ _ ∧ _ ∧ _))

/-- **A request**: an `iq` of type `get` or `set`. -/
def IsRequest (e : Element) : Prop :=
  e.name = "iq" ∧ (e.attr "type" = some "get" ∨ e.attr "type" = some "set")

instance (e : Element) : Decidable e.IsRequest :=
  inferInstanceAs (Decidable (_ ∧ _))

/-- What the attributes of a reply say. -/
theorem attr_reply (e : Element) (type : String) (payload : List Element) :
    (e.reply type payload).attr "type" = some type
      ∧ (e.reply type payload).attr "id" = e.attr "id"
      ∧ (e.reply type payload).attr "to" = e.attr "from" := by
  show (present [("type", some type), ("id", e.attr "id"), ("to", e.attr "from")]).lookup "type"
      = some type
    ∧ (present [("type", some type), ("id", e.attr "id"), ("to", e.attr "from")]).lookup "id"
      = e.attr "id"
    ∧ (present [("type", some type), ("id", e.attr "id"), ("to", e.attr "from")]).lookup "to"
      = e.attr "from"
  cases e.attr "id" <;> cases e.attr "from" <;> exact ⟨rfl, rfl, rfl⟩

/-- A reply to an `iq` that says how it went answers it. -/
theorem reply_answers {e : Element} (he : e.name = "iq") {type : String}
    (htype : type = "result" ∨ type = "error") (payload : List Element) :
    (e.reply type payload).Answers e := by
  obtain ⟨hsame, hid, hto⟩ := e.attr_reply type payload
  refine ⟨he, ?_, hid, hto⟩
  rw [hsame]
  exact htype.imp (congrArg some) (congrArg some)

theorem refusal_answers {e : Element} (he : e.name = "iq") (error : StanzaError) :
    (e.refusal error).Answers e :=
  reply_answers he (.inr rfl) _

/-- A request expects an answer. -/
theorem IsRequest.expectsReply {e : Element} (h : e.IsRequest) : e.expectsReply = true := by
  obtain ⟨hname, htype⟩ := h
  unfold Element.expectsReply isStanza
  rcases htype with htype | htype
  · rw [hname, htype]
    rfl
  · rw [hname, htype]
    rfl

end Element

/-! ## What modules put into the outbox -/

namespace Session

/-- **Replies were put into the outbox**, and no event was published that the
controller reacts to. -/
structure Replied (s : Session) (replies : List Element) (s' : Session) : Prop where
  /-- The replies stand at the end, and belong to no request. -/
  outbox : ∃ entries : List Entry, s'.outbox = s.outbox ++ entries.map (.element · none)
    ∧ entries.map (·.stanza) = replies
  /-- The events that were published change nothing. -/
  events : ∃ news, s'.events = s.events ++ news ∧ ∀ event ∈ news, event.isIdle = true

theorem Replied.refl (s : Session) : s.Replied [] s :=
  ⟨⟨[], (List.append_nil _).symm, rfl⟩, [], (List.append_nil _).symm, by simp⟩

theorem Replied.write {s s' : Session} {replies : List Element} (h : s.Replied replies s')
    (element : Element) : s.Replied (replies ++ [element]) (s'.write element) := by
  obtain ⟨⟨entries, houtbox, rfl⟩, hevents⟩ := h
  refine ⟨⟨entries ++ [(s'.track element).1], ?_, by rw [List.map_append]; rfl⟩, hevents⟩
  show s'.outbox ++ [_] = _
  rw [houtbox, List.map_append, List.append_assoc]
  rfl

theorem Replied.trans {s s' s'' : Session} {replies more : List Element}
    (first : s.Replied replies s') (second : s'.Replied more s'') :
    s.Replied (replies ++ more) s'' := by
  obtain ⟨⟨entries, houtbox, rfl⟩, news, hevents, hnews⟩ := first
  obtain ⟨⟨entries', houtbox', rfl⟩, news', hevents', hnews'⟩ := second
  refine ⟨⟨entries ++ entries', ?_, List.map_append⟩, news ++ news', ?_, fun event hmem => ?_⟩
  · rw [houtbox', houtbox, List.append_assoc, List.map_append]
  · rw [hevents', hevents, List.append_assoc]
  · exact (List.mem_append.1 hmem).elim (hnews event) (hnews' event)

theorem Replied.fire {s s' : Session} {replies : List Element} (h : s.Replied replies s')
    {event : Event} (idle : event.isIdle = true) : s.Replied replies (s'.fire event) := by
  obtain ⟨houtbox, news, hevents, hnews⟩ := h
  refine ⟨houtbox, news ++ [event], ?_, fun other hmem => ?_⟩
  · show s'.events ++ [event] = _
    rw [hevents, List.append_assoc]
  · rcases List.mem_append.1 hmem with hmem | hmem
    · exact hnews other hmem
    · exact List.mem_singleton.1 hmem ▸ idle

/-- **A change of the roster that is taken**: it carries a query for it, and
comes from the own account or says nothing about its sender. -/
def TakesRoster (s : Session) (e : Element) : Prop :=
  e.attr "type" = some "set" ∧ (e.child? "query" Namespace.roster).isSome
    ∧ ∀ address, e.attr "from" = some address →
      ∃ sender, Jid.parse address = .ok sender ∧ s.isBoundTo sender = true

/-- **The roster answers what it takes**, and leaves the rest to be refused. -/
theorem handleRoster_cases (s : Session) (e : Element) :
    (s.TakesRoster e ∧ ∃ query,
        s.handleRoster e = ((s.write (e.reply "result" [])).fire (.roster query), none))
      ∨ (¬ s.TakesRoster e ∧ ∃ error, s.handleRoster e = (s, some error)) := by
  have haccept : (∃ query, e.child? "query" Namespace.roster = some query
        ∧ s.acceptRoster e = ((s.write (e.reply "result" [])).fire (.roster query), none))
      ∨ (e.child? "query" Namespace.roster = none
        ∧ ∃ error, s.acceptRoster e = (s, some error)) := by
    unfold acceptRoster queryOf
    cases e.child? "query" Namespace.roster with
    | none => exact .inr ⟨rfl, _, rfl⟩
    | some query => exact .inl ⟨query, rfl, rfl⟩
  unfold handleRoster TakesRoster
  by_cases htype : e.attr "type" = some "set"
  · rw [if_neg (not_not_intro htype)]
    cases hfrom : e.attr "from" with
    | none =>
      rcases haccept with ⟨query, hchild, haccept⟩ | ⟨hchild, error, haccept⟩
      · exact .inl ⟨⟨htype, by rw [hchild]; rfl, by simp⟩, query, haccept⟩
      · exact .inr ⟨fun h => by simp [hchild] at h, error, haccept⟩
    | some address =>
      dsimp only [Option.map_some]
      cases hparse : Jid.parse address with
      | error error =>
        refine .inr ⟨fun h => ?_, _, rfl⟩
        obtain ⟨sender, hsender, -⟩ := h.2.2 address rfl
        rw [hparse] at hsender
        cases hsender
      | ok sender =>
        dsimp only
        cases hbound : s.isBoundTo sender with
        | false =>
          refine .inr ⟨fun h => ?_, _, rfl⟩
          obtain ⟨other, hother, hsame⟩ := h.2.2 address rfl
          rw [hparse] at hother
          rw [← Except.ok.inj hother, hbound] at hsame
          cases hsame
        | true =>
          rw [if_pos rfl]
          rcases haccept with ⟨query, hchild, haccept⟩ | ⟨hchild, error, haccept⟩
          · refine .inl ⟨⟨htype, by rw [hchild]; rfl, fun other hother => ?_⟩, query, haccept⟩
            obtain rfl := Option.some.inj hother
            exact ⟨sender, hparse, hbound⟩
          · exact .inr ⟨fun h => by simp [hchild] at h, error, haccept⟩
  · rw [if_pos htype]
    exact .inr ⟨fun h => htype h.1, _, rfl⟩

/-- Discovery answers a question, and leaves the rest to be refused. -/
theorem handleDiscovery_cases (s : Session) (e : Element) :
    (e.attr "type" = some "get" ∧ s.handleDiscovery e
        = (s.write (e.reply "result" [selfDescription s.config.software s.advertised]), none))
      ∨ (e.attr "type" ≠ some "get" ∧ ∃ error, s.handleDiscovery e = (s, some error)) := by
  unfold handleDiscovery
  by_cases htype : e.attr "type" = some "get"
  · exact .inl ⟨htype, by rw [if_neg (not_not_intro htype)]⟩
  · exact .inr ⟨htype, _, by rw [if_pos htype]; rfl⟩

/-- The modules that are meant for other elements refuse a stanza. -/
theorem handle_misrouted_of_isStanza (s : Session) {e : Element} (he : e.isStanza = true)
    {id : ModuleId} (hid : id = .sasl ∨ id = .sasl2 ∨ id = .streamManagement) :
    s.handle id none e = (s, some (.protocol (.unexpectedElement e.name))) := by
  have hname : e.name = "iq" ∨ e.name = "message" ∨ e.name = "presence" := by
    simpa [Element.isStanza, or_assoc] using he
  rcases hid with rfl | rfl | rfl
  · show s.handleSasl e = _
    unfold handleSasl
    rcases hname with hname | hname | hname <;> (rw [hname]; rfl)
  · show s.handleSasl2 e = _
    unfold handleSasl2
    rcases hname with hname | hname | hname <;> (rw [hname]; rfl)
  · show s.handleManagement e = _
    unfold handleManagement
    rcases hname with hname | hname | hname <;> (rw [hname]; rfl)

/-- In particular they refuse an `iq`. -/
theorem handle_misrouted (s : Session) {e : Element} (he : e.name = "iq") {id : ModuleId}
    (hid : id = .sasl ∨ id = .sasl2 ∨ id = .streamManagement) :
    s.handle id none e = (s, some (.protocol (.unexpectedElement e.name))) :=
  s.handle_misrouted_of_isStanza (by rw [Element.isStanza, he]; rfl) hid

/-- **A contested request**: it carries children for the roster and for
discovery, and one of them takes it. -/
structure Contested (s : Session) (e : Element) : Prop where
  /-- It is in the namespace of the modules. -/
  ns : e.ns = Namespace.client
  /-- It concerns the roster. -/
  roster : ∃ child ∈ e.children, child.ns = Namespace.roster
  /-- It concerns discovery. -/
  disco : ∃ child ∈ e.children, child.ns = Namespace.discoInfo
  /-- Discovery takes it, or the roster does. -/
  taken : e.attr "type" = some "get" ∨ s.TakesRoster e

/-- **A request that is seen to**: the outbox gained two answers to it if it is
contested, and one otherwise. -/
def SeenTo (s : Session) (e : Element) (s' : Session) : Prop :=
  ∃ answers : List Element, (∀ a ∈ answers, a.Answers e) ∧ s.Replied answers s'
    ∧ (s.Contested e → answers.length = 2) ∧ (¬ s.Contested e → answers.length = 1)

/-- A single answer is enough unless the request is contested. -/
theorem SeenTo.of_answer {s s' : Session} {e answer : Element} (free : ¬ s.Contested e)
    (answers : answer.Answers e) (replied : s.Replied [answer] s') : s.SeenTo e s' :=
  ⟨[answer], fun _ ha => List.mem_singleton.1 ha ▸ answers, replied, fun h => absurd h free,
    fun _ => rfl⟩

/-- Counting a stanza does not change which account the session is bound
to. -/
theorem contested_countReceived (s : Session) (e : Element) :
    (s.countReceived e).Contested e ↔ s.Contested e := by
  have hbound : ∀ jid, (s.countReceived e).isBoundTo jid = s.isBoundTo jid := fun jid => by
    have hkey : Properties.boundKey ≠ Properties.resumptionKey := by decide
    exact congrArg (Option.any fun own : Jid => own.bare.Same jid.bare)
      (s.get?_countReceived e hkey)
  have htakes : (s.countReceived e).TakesRoster e ↔ s.TakesRoster e := by
    unfold TakesRoster
    simp only [hbound]
  exact ⟨fun h => ⟨h.ns, h.roster, h.disco, h.taken.imp_right htakes.1⟩,
    fun h => ⟨h.ns, h.roster, h.disco, h.taken.imp_right htakes.2⟩⟩

end Session

namespace Client

open Session

variable {e : Element} {s s' : Session}

/-- A module that refuses a request has it answered, unless an error was sent
before. -/
theorem routeToBuiltIn_of_error (he : e.IsRequest) (id : ModuleId) {error : Error}
    (h : s'.handle id none e = (s', some error)) (replied : Bool) :
    routeToBuiltIn e (s', replied) id
      = if replied then (s', true) else (s'.write (e.refusal error.toStanzaError), true) := by
  simp only [routeToBuiltIn, h, he.expectsReply, Bool.and_true]
  cases replied <;> rfl

/-- A module that takes a request answers it by itself. -/
theorem routeToBuiltIn_of_none (id : ModuleId) {t : Session}
    (h : s.handle id none e = (t, none)) (replied : Bool) :
    routeToBuiltIn e (s, replied) id = (t, replied) := by
  simp only [routeToBuiltIn, h]

/-- One module that gets a request answers it, or has it refused. -/
theorem replied_routeToBuiltIn (he : e.IsRequest) {id : ModuleId}
    (h : id = .roster ∨ id = .disco ∨ id = .sasl ∨ id = .sasl2 ∨ id = .streamManagement) :
    ∃ answer, answer.Answers e
      ∧ s.Replied [answer] (routeToBuiltIn e (s, false) id).1 := by
  have refused : ∀ error, s.handle id none e = (s, some error) →
      ∃ answer, answer.Answers e ∧ s.Replied [answer] (routeToBuiltIn e (s, false) id).1 :=
    fun error herror => ⟨_, Element.refusal_answers he.1 _, by
      rw [routeToBuiltIn_of_error he id herror]
      exact (Replied.refl s).write _⟩
  rcases h with rfl | rfl | hid
  · rcases s.handleRoster_cases e with ⟨-, query, h⟩ | ⟨-, error, h⟩
    · refine ⟨_, Element.reply_answers he.1 (.inl rfl) [], ?_⟩
      rw [routeToBuiltIn_of_none .roster h]
      exact ((Replied.refl s).write _).fire rfl
    · exact refused error h
  · rcases s.handleDiscovery_cases e with ⟨-, h⟩ | ⟨-, error, h⟩
    · refine ⟨_, Element.reply_answers he.1 (.inl rfl)
        [selfDescription s.config.software s.advertised], ?_⟩
      rw [routeToBuiltIn_of_none .disco h]
      exact (Replied.refl s).write _
    · exact refused error h
  · exact refused _ (s.handle_misrouted he.1 hid)

/-- **The roster and discovery together** answer a request twice if one of them
takes it: by its own answer, and by the error of the other. If neither does, only
the first error is sent. -/
theorem replied_both (he : e.IsRequest) :
    ∃ answers : List Element, (∀ a ∈ answers, a.Answers e)
      ∧ s.Replied answers ([ModuleId.roster, .disco].foldl (routeToBuiltIn e) (s, false)).1
      ∧ (e.attr "type" = some "get" ∨ s.TakesRoster e → answers.length = 2)
      ∧ (¬ (e.attr "type" = some "get" ∨ s.TakesRoster e) → answers.length = 1) := by
  show ∃ answers : List Element, (∀ a ∈ answers, a.Answers e)
      ∧ s.Replied answers
        (routeToBuiltIn e (routeToBuiltIn e (s, false) .roster) .disco).1 ∧ _
  have result : ∀ payload, (e.reply "result" payload).Answers e :=
    Element.reply_answers he.1 (.inl rfl)
  have refusal := fun error => Element.refusal_answers he.1 error
  rcases s.handleRoster_cases e with ⟨htakes, query, hroster⟩ | ⟨htakes, error, hroster⟩
  · -- a change of the roster is no question, so discovery refuses it
    rw [routeToBuiltIn_of_none .roster hroster]
    have htype : e.attr "type" ≠ some "get" := by
      rw [htakes.1]
      decide
    obtain ⟨error, hdisco⟩ := ((Session.handleDiscovery_cases _ e).resolve_left
      fun h => htype h.1).2
    rw [routeToBuiltIn_of_error he .disco hdisco]
    refine ⟨[_, _], ?_, (((Replied.refl s).write _).fire rfl).write _, fun _ => rfl,
      fun h => absurd (.inr htakes) h⟩
    intro a ha
    rcases List.mem_cons.1 ha with rfl | ha
    · exact result _
    · exact List.mem_singleton.1 ha ▸ refusal _
  · rw [routeToBuiltIn_of_error he .roster hroster]
    rcases Session.handleDiscovery_cases (s.write (e.refusal error.toStanzaError)) e with
      ⟨htype, hdisco⟩ | ⟨htype, error', hdisco⟩
    · rw [if_neg Bool.false_ne_true, routeToBuiltIn_of_none .disco hdisco]
      refine ⟨[_, _], ?_, ((Replied.refl s).write _).write _, fun _ => rfl,
        fun h => absurd (.inl htype) h⟩
      intro a ha
      rcases List.mem_cons.1 ha with rfl | ha
      · exact refusal _
      · exact List.mem_singleton.1 ha ▸ result _
    · rw [if_neg Bool.false_ne_true, routeToBuiltIn_of_error he .disco hdisco]
      refine ⟨[_], ?_, (Replied.refl s).write _, fun h => ?_, fun _ => rfl⟩
      · intro a ha
        exact List.mem_singleton.1 ha ▸ refusal _
      · exact absurd h (not_or.2 ⟨htype, htakes⟩)

/-- **Routing a request** among the built-in modules has it answered twice if it
is contested, and once otherwise. -/
theorem replied_route {c : Client} (fitted : c.modules.Fitted) (he : e.IsRequest) :
    s.SeenTo e (c.route s e) := by
  have hconcerned := ModuleId.concerned_iq he.1
  rw [route_eq fitted]
  -- one module alone, or none at all
  have one : ∀ {id}, ¬ s.Contested e →
      (id = .roster ∨ id = .disco ∨ id = .sasl ∨ id = .sasl2 ∨ id = .streamManagement) →
      s.SeenTo e ([id].foldl (routeToBuiltIn e) (s, false)).1 := fun free hid =>
    have ⟨_, answers, replied⟩ := replied_routeToBuiltIn he hid
    .of_answer free answers replied
  have none : ¬ s.Contested e → s.SeenTo e (turnAway s e) := by
    intro free
    refine .of_answer free (Element.refusal_answers he.1 .unhandled) ?_
    rw [turnAway, if_pos he.expectsReply]
    exact (Replied.refl s).write _
  by_cases hclient : e.ns = Namespace.client
  · rw [if_pos hclient] at hconcerned
    by_cases hroster : e.children.any (·.ns == Namespace.roster)
    · rw [if_pos hroster] at hconcerned
      by_cases hdisco : e.children.any (·.ns == Namespace.discoInfo)
      · rw [if_pos hdisco] at hconcerned
        rw [hconcerned]
        obtain ⟨answers, hanswers, hreplied, htwo, hone⟩ := replied_both (s := s) he
        exact ⟨answers, hanswers, hreplied, fun h => htwo h.taken, fun h => hone fun taken =>
          h ⟨hclient, by simpa using hroster, by simpa using hdisco, taken⟩⟩
      · rw [if_neg hdisco] at hconcerned
        rw [hconcerned]
        exact one (fun h => hdisco (by simpa using h.disco)) (.inl rfl)
    · rw [if_neg hroster] at hconcerned
      have free : ¬ s.Contested e := fun h => hroster (by simpa using h.roster)
      by_cases hdisco : e.children.any (·.ns == Namespace.discoInfo)
      · rw [if_pos hdisco] at hconcerned
        rw [hconcerned]
        exact one free (.inr (.inl rfl))
      · rw [if_neg hdisco] at hconcerned
        rw [hconcerned]
        exact none free
  · rw [if_neg hclient] at hconcerned
    have free : ¬ s.Contested e := fun h => hclient h.ns
    split at hconcerned
    · rw [hconcerned]
      exact one free (.inr (.inr (.inl rfl)))
    · split at hconcerned
      · rw [hconcerned]
        exact one free (.inr (.inr (.inr (.inl rfl))))
      · split at hconcerned
        · rw [hconcerned]
          exact one free (.inr (.inr (.inr (.inr rfl))))
        · rw [hconcerned]
          exact none free

/-! ## What is written -/

/-- **Replies are written**, on a transport that takes whatever it is given, and
nothing else is. -/
theorem wire_run_of_entries {c : Client} (reliable : c.Reliable) {entries : List Entry}
    (ho : c.session.outbox = entries.map (.element · none))
    (idle : ∀ event ∈ c.session.events, event.isIdle = true) :
    c.run.wire = c.wire ++ entries.map .element := by
  induction entries generalizing c with
  | nil =>
    rw [run_of_isIdle ho idle, List.map_nil, List.append_nil]
    rfl
  | cons entry rest ih =>
    obtain ⟨transport, htransport, accepts⟩ := reliable
    have hdeliver := deliver_of_accepts
      (c := c.withOutbox (rest.map (.element · none))) htransport accepts entry none
    rw [run_deliver ho, ih ?_ ?_ ?_, hdeliver]
    · exact List.append_assoc ..
    · rw [hdeliver]
      exact ⟨_, rfl, accepts⟩
    · rw [outbox_deliver]
      rfl
    · rw [hdeliver]
      show ∀ event ∈ (Session.countSent _ entry).events, event.isIdle = true
      rw [Session.countSent_eq]
      exact idle

/-- A request answers none, so it goes to the modules. -/
theorem take_of_isRequest {c : Client} (he : e.IsRequest) :
    c.take e = c.route (c.session.countReceived e) e := by
  have hreply : Registry.isReply e = false := by
    unfold Registry.isReply
    rcases he.2 with htype | htype
    · rw [he.1, htype]
      rfl
    · rw [he.1, htype]
      rfl
  have hnobody : c.session.registry.answeredBy? e = none := by
    rw [Registry.answeredBy?, hreply]
    rfl
  exact (take_of_answeredBy?_eq_none hnobody).1

/-- **Every request is answered, exactly once or, if it is contested, exactly
twice**, and nothing else is written. -/
theorem replied_receive {c : Client} (stock : c.Stock) (reliable : c.Reliable)
    (he : e.IsRequest) :
    ∃ entries : List Entry, (c.receive e).wire = c.wire ++ entries.map .element
      ∧ (∀ entry ∈ entries, entry.stanza.Answers e)
      ∧ (c.session.Contested e → entries.length = 2)
      ∧ (¬ c.session.Contested e → entries.length = 1) := by
  obtain ⟨answers, hanswers, ⟨⟨entries, houtbox, rfl⟩, news, hevents, hnews⟩, htwo, hone⟩ :=
    replied_route (s := c.session.countReceived e) stock.fitted he
  rw [Session.contested_countReceived] at htwo hone
  have hrest := stock.atRest
  have htake := take_of_isRequest (c := c) he
  have hreceive : c.receive e
      = ({ c with session := c.route (c.session.countReceived e) e } : Client).run := by
    rw [← htake]
    exact operate_eq hrest (.receive e)
  refine ⟨entries, ?_, fun entry hmem => hanswers _ (List.mem_map.2 ⟨entry, hmem, rfl⟩), ?_, ?_⟩
  · rw [hreceive]
    refine wire_run_of_entries (c := { c with session := c.route _ e }) reliable ?_ ?_
    · show (c.route _ e).outbox = _
      rw [houtbox, Session.countReceived_eq]
      show c.session.outbox ++ _ = _
      rw [hrest.1, List.nil_append]
    · show ∀ event ∈ (c.route _ e).events, _
      rw [hevents, Session.countReceived_eq]
      show ∀ event ∈ c.session.events ++ news, _
      rw [hrest.2, List.nil_append]
      exact hnews
  · simpa using htwo
  · simpa using hone

/-- Whether a frame carries an answer to a request. -/
def answeredIn (e : Element) : Frame → Bool
  | .element entry => entry.stanza.Answers e
  | .restart | .close | .failed _ => false

/-- **The answers to a request** among what is written while it is handled. -/
def answers (c : Client) (e : Element) : List Frame :=
  ((c.receive e).wire.drop c.wire.length).filter (answeredIn e)

/-- All that is written while a request is handled are answers to it. -/
theorem exists_answers {c : Client} (stock : c.Stock) (reliable : c.Reliable)
    (he : e.IsRequest) :
    ∃ entries : List Entry, (c.receive e).wire = c.wire ++ entries.map .element
      ∧ c.answers e = entries.map .element
      ∧ (c.session.Contested e → entries.length = 2)
      ∧ (¬ c.session.Contested e → entries.length = 1) := by
  obtain ⟨entries, hwire, hanswers, hlength⟩ := replied_receive stock reliable he
  refine ⟨entries, hwire, ?_, hlength⟩
  rw [answers, hwire, List.drop_left]
  refine List.filter_eq_self.2 fun frame hframe => ?_
  obtain ⟨entry, hentry, rfl⟩ := List.mem_map.1 hframe
  exact decide_eq_true (hanswers entry hentry)

/-- **Every request gets its answer, and a contested one gets two.** Whatever a
client with the built-in modules went through, on a transport that takes
whatever it is given, a request is answered to its sender under its id:
twice if it carries children for both the roster and discovery and one of them
takes it, and otherwise once. Nothing else is written. -/
theorem receive_request_spec {c : Client} (stock : c.Stock) (reliable : c.Reliable)
    (he : e.IsRequest) :
    (c.receive e).wire = c.wire ++ c.answers e
      ∧ (c.session.Contested e → (c.answers e).length = 2)
      ∧ (¬ c.session.Contested e → (c.answers e).length = 1) := by
  obtain ⟨entries, hwire, hall, htwo, hone⟩ := exists_answers stock reliable he
  rw [hall, List.length_map]
  exact ⟨hwire, htwo, hone⟩

namespace Rehearsal

/-- A client that has just connected. -/
def listener : Client :=
  [Operation.install (ModuleId.builtIn.map (Descriptor.default [])), .connected {}].foldl
    Client.operate (blank account [])

/-- The account gets a client with the built-in modules. -/
theorem create_account :
    create account [] [] = .ok ((blank account []).operate
      (.install (ModuleId.builtIn.map (Descriptor.default [])))) := by
  cases h : create account [] [] with
  | ok c =>
    rw [eq_of_create h, List.append_nil]
  | error error =>
    have : (create account [] []).toOption.isSome = true := by decide +kernel
    rw [h] at this
    cases this

theorem stock_listener : listener.Stock := by
  have hop : (Operation.connected {}).batch? = none := rfl
  exact (Stock.of_create create_account).operate hop

theorem reliable_listener : listener.Reliable := by
  have start : (blank account []).NeverRefused := fun _ h => nomatch h
  refine (start.foldl_operate (atRest_blank _ _) _ fun transport hmem => ?_).reliable
    (by decide +kernel)
  simp only [List.mem_cons, reduceCtorEq, Operation.connected.injEq, List.not_mem_nil, or_false,
    false_or] at hmem
  rw [hmem]
  exact fun _ => rfl

/-- Somebody asks for our roster and our features at once. -/
def asksForBoth : Element where
  name := "iq"
  ns := Namespace.client
  attributes := [("type", "get"), ("id", "1"), ("from", "romeo@montague.lit/home")]
  content := Element.nodes [emptyQuery Namespace.roster, emptyQuery Namespace.discoInfo]

/-- Somebody asks for our features. -/
def asksForFeatures : Element where
  name := "iq"
  ns := Namespace.client
  attributes := [("type", "get"), ("id", "2"), ("from", "romeo@montague.lit/home")]
  content := Element.nodes [emptyQuery Namespace.discoInfo]

theorem contested_asksForBoth : listener.session.Contested asksForBoth where
  ns := rfl
  roster := by decide
  disco := by decide
  taken := .inl rfl

end Rehearsal

open Rehearsal in
/-- In the rehearsal the question for both is answered twice, and the one for
features once. -/
theorem receive_request_spec_rehearsal :
    (listener.Stock ∧ listener.Reliable ∧ asksForBoth.IsRequest ∧ asksForFeatures.IsRequest)
      ∧ (listener.answers asksForBoth).length = 2
      ∧ (listener.answers asksForFeatures).length = 1 := by
  refine ⟨⟨stock_listener, reliable_listener, by decide, by decide⟩, ?_, ?_⟩
  · exact (receive_request_spec stock_listener reliable_listener (by decide)).2.1
      contested_asksForBoth
  · refine (receive_request_spec stock_listener reliable_listener (by decide)).2.2 fun h => ?_
    obtain ⟨child, hchild, hns⟩ := h.roster
    revert child
    decide

open Rehearsal in
/-- **Not every request is answered exactly once.** -/
theorem not_forall_answered_once :
    ¬ ∀ (c : Client) (e : Element), c.Stock → c.Reliable → e.IsRequest →
      (c.answers e).length = 1 := by
  intro h
  have hone := h listener asksForBoth stock_listener reliable_listener (by decide)
  obtain ⟨entries, -, hall, htwo, -⟩ :=
    exists_answers stock_listener reliable_listener (e := asksForBoth) (by decide)
  rw [hall, List.length_map, htwo contested_asksForBoth] at hone
  cases hone

end Client

end Xmpp
