import Xmpp.Proofs.Client.Run

/-!
# From a bound resource to a session

Once the server bound a resource the client introduces itself: it asks the server
and its account for their features, announces itself, asks for the roster and
enables stream management if the stream features say that the server has it. This
file works out what is written then and how the client stands afterwards, on a
transport that takes whatever it is given (`Client.receive_bound`).

Everything of that kind depends on very little of a client, its `setting`, and
handing over an element leaves the setting as it is.
-/

namespace Xmpp

open Delivery Resumption

/-- The element without its id. -/
def Element.anonymous (e : Element) : Element :=
  { e with attributes := e.attributes.filter fun a => a.1 != "id" }

/-- Giving an element an id does not matter if ids do not. -/
@[simp] theorem Element.anonymous_setAttr (e : Element) (id : String) :
    (e.setAttr "id" id).anonymous = e.anonymous := by
  have hmap : ∀ attributes : List (String × String),
      (attributes.map fun a => if a.1 == "id" then ("id", id) else a).filter
          (fun a => a.1 != "id")
        = attributes.filter fun a => a.1 != "id" := by
    intro attributes
    induction attributes with
    | nil => rfl
    | cons a rest ih =>
      by_cases h : a.1 = "id"
      · simpa [h] using ih
      · simpa [h] using ih
  unfold Element.anonymous Element.setAttr
  dsimp only
  congr 1
  split
  · exact hmap _
  · rw [List.filter_append]
    simp

namespace Client

/-- What the start of a session depends on. -/
structure Setting where
  /-- How far the login has come. -/
  auth : AuthState
  /-- The features of the stream. -/
  features : Option Element
  /-- What the application decided. -/
  config : Config
  /-- What the controller remembers. -/
  controller : Controller
  /-- The modules. -/
  modules : Modules

/-- The setting of a client. -/
def setting (c : Client) : Setting where
  auth := c.session.properties.authState
  features := c.session.properties.features?
  config := c.session.config
  controller := c.controller
  modules := c.modules

/-- **Elements were written**: they were handed to the transport in this order,
each under an id of its own if it has one. -/
def Wrote (c : Client) (elements : List Element) (c' : Client) : Prop :=
  ∃ entries : List Entry, c'.wire = c.wire ++ entries.map .element
    ∧ entries.map (·.stanza.anonymous) = elements

theorem Wrote.trans {c c' c'' : Client} {a b : List Element} (first : c.Wrote a c')
    (second : c'.Wrote b c'') : c.Wrote (a ++ b) c'' := by
  obtain ⟨entries, hwire, rfl⟩ := first
  obtain ⟨entries', hwire', rfl⟩ := second
  refine ⟨entries ++ entries', ?_, List.map_append⟩
  rw [hwire', hwire, List.append_assoc, List.map_append]

end Client

/-! ## Handing over elements -/

namespace Session

variable (s : Session)

/-- Counting an element that was sent leaves the state of the login and the stream
features alone. -/
theorem get?_countSent {α : Type} [Storable α] (entry : Entry) {key : String}
    (h : key ≠ Properties.resumptionKey) :
    (s.countSent entry).properties.get? (α := α) key = s.properties.get? key := by
  unfold countSent
  split
  · exact Properties.get?_set_of_ne _ _ _ h
  · exact Properties.get?_modify_of_ne _ _ h

theorem get?_countReceived {α : Type} [Storable α] (element : Element) {key : String}
    (h : key ≠ Properties.resumptionKey) :
    (s.countReceived element).properties.get? (α := α) key = s.properties.get? key := by
  unfold countReceived
  split
  · exact Properties.get?_modify_of_ne _ _ h
  · rfl

/-- Counting what is received starts no resumable session. -/
theorem resumption?_countReceived (element : Element) (h : s.resumption? = none) :
    (s.countReceived element).resumption? = none := by
  unfold countReceived
  split
  · rw [resumption?_modifyResumption, h]
    rfl
  · exact h

end Session

/-- Whether nothing is published when a request is handed over: it is answered, or
nobody waits for it. -/
def Request.isSilent (r : Request) : Bool :=
  !r.isFireAndForget || r.handlers.isEmpty

/-- A pipeline without handlers publishes nothing. -/
theorem Pipeline.events_run (p : Pipeline) (h : p.handlers = []) (outcome : Outcome) :
    (p.run outcome).2.filterMap Effect.event? = [] := by
  induction p with
  | reply => rfl
  | respond before handler _ => simp [Pipeline.handlers] at h
  | map before mark transform ih | tryMap before mark transform ih =>
    have hbefore := ih h
    simp only [Pipeline.run]
    split
    · rename_i heq
      rw [heq] at hbefore
      exact hbefore
    · rename_i heq
      rw [heq] at hbefore
      rw [List.filterMap_append, hbefore]
      cases mark <;> rfl

/-- Settling futures publishes nothing. -/
theorem Effect.events_map_settled (tickets : List Nat) (outcome : Outcome) :
    (tickets.map fun ticket => Effect.settled ticket outcome).filterMap Effect.event? = [] := by
  induction tickets with
  | nil => rfl
  | cons ticket rest ih => exact ih

namespace Session

/-- A request that is silent publishes nothing when it is handed over. -/
theorem events_awaitReply (s : Session) {request : Option Request}
    (h : ∀ r, request = some r → r.isSilent = true) :
    (s.awaitReply request).events = s.events := by
  cases request with
  | none => rfl
  | some r =>
    unfold awaitReply
    dsimp only
    split
    · rename_i hfire
      have hsilent := h r rfl
      simp only [Request.isSilent, hfire, Bool.not_true, Bool.false_or, List.isEmpty_iff]
        at hsilent
      rw [Request.markSent?, if_pos hfire, perform_eq]
      unfold Request.complete?
      unfold Request.handlers at hsilent
      cases hp : r.pipeline with
      | none => exact List.append_nil _
      | some p =>
        rw [hp] at hsilent
        show s.events ++ (p.run _).2.filterMap Effect.event? = s.events
        rw [p.events_run hsilent, List.append_nil]
    · unfold register
      rw [perform_eq]
      show s.events ++ _ = s.events
      rw [Effect.events_map_settled, List.append_nil]

end Session

namespace Client

/-- **An element was handed over** to a transport that took it. The request to
enable stream management apart, the resumable session is all that remembers it. -/
structure HandedOver (c : Client) (entry : Entry) (c' : Client) : Prop where
  reliable : c'.Reliable
  setting : c'.setting = c.setting
  wrote : c.Wrote [entry.stanza.anonymous] c'
  outbox : c'.session.outbox = c.session.outbox
  events : c'.session.events = c.session.events
  resumption : c'.session.resumption? =
    if entry.stanza.is "enable" Namespace.streamManagement then some .start
    else c.session.resumption?.map (·.recordSent entry)
  properties : entry.stanza.is "enable" Namespace.streamManagement = false →
    c'.session.properties = c.session.properties.modify Properties.resumptionKey
      fun context : Context => context.recordSent entry

/-- A reliable transport takes the element. -/
theorem Reliable.deliver {c : Client} (h : c.Reliable) (entry : Entry) {request : Option Request}
    (silent : ∀ r, request = some r → r.isSilent = true) :
    c.HandedOver entry (c.deliver (.element entry request)) := by
  obtain ⟨transport, ht, hrefuses⟩ := h
  have hdeliver := deliver_of_accepts ht hrefuses entry request
  have hawait := (c.session.mark [entry] .sent).awaitReply_eq request
  have hproperties :
      ((c.session.mark [entry] .sent).awaitReply request).properties = c.session.properties :=
    congrArg (·.properties) hawait
  have hevents := Session.events_awaitReply (c.session.mark [entry] .sent) silent
  rw [hdeliver]
  refine ⟨⟨_, rfl, hrefuses⟩, ?_, ⟨[entry], rfl, rfl⟩, ?_, ?_, ?_, ?_⟩
  · have hauth : (((c.session.mark [entry] .sent).awaitReply request).countSent
        entry).properties.authState = c.session.properties.authState := by
      unfold Properties.authState
      rw [Session.get?_countSent _ _ (by decide), hproperties]
    have hfeatures : (((c.session.mark [entry] .sent).awaitReply request).countSent
        entry).properties.features? = c.session.properties.features? := by
      unfold Properties.features?
      rw [Session.get?_countSent _ _ (by decide), hproperties]
    have hconfig : (((c.session.mark [entry] .sent).awaitReply request).countSent
        entry).config = c.session.config := by
      rw [Session.countSent_eq]
      exact congrArg (·.config) hawait
    unfold setting
    dsimp only [record]
    rw [hauth, hfeatures, hconfig]
  · show (Session.countSent _ entry).outbox = _
    rw [Session.countSent_eq]
    exact congrArg (·.outbox) hawait
  · show (Session.countSent _ entry).events = _
    rw [Session.countSent_eq]
    exact hevents
  · show (Session.countSent _ entry).resumption? = _
    rw [Session.resumption?_countSent]
    unfold Session.resumption?
    rw [hproperties]
  · intro hplain
    show (Session.countSent _ entry).properties = _
    unfold Session.countSent
    rw [if_neg (by rw [hplain]; decide)]
    show Properties.modify _ _ _ = _
    rw [show (Session.mark _ _ _).properties = c.session.properties from hproperties]

/-- The elements in the outbox of a client without a resumable session are
written. -/
theorem Reliable.run_elements {c : Client} (h : c.Reliable)
    (items : List (Entry × Option Request))
    (silent : ∀ item ∈ items, ∀ r, item.2 = some r → r.isSilent = true)
    (plain : ∀ item ∈ items, item.1.stanza.is "enable" Namespace.streamManagement = false)
    {rest : List Outgoing}
    (ho : c.session.outbox = items.map (fun item => .element item.1 item.2) ++ rest)
    (hres : c.session.resumption? = none) :
    ∃ c', c.run = c'.run ∧ c'.Reliable ∧ c'.setting = c.setting
      ∧ c.Wrote (items.map (·.1.stanza.anonymous)) c' ∧ c'.session.outbox = rest
      ∧ c'.session.events = c.session.events ∧ c'.session.resumption? = none := by
  induction items generalizing c with
  | nil => exact ⟨c, rfl, h, rfl, ⟨[], (List.append_nil _).symm, rfl⟩, ho, rfl, hres⟩
  | cons item items ih =>
    rw [List.map_cons, List.cons_append] at ho
    have hfirst : (c.withOutbox (items.map (fun item => .element item.1 item.2)
        ++ rest)).Reliable := h
    have handed := hfirst.deliver item.1 (silent item (List.mem_cons_self ..))
    have hresumption := handed.resumption
    rw [plain item (List.mem_cons_self ..)] at hresumption
    obtain ⟨c', hrun, reliable, setting, wrote, outbox, events, resumption⟩ :=
      ih handed.reliable (fun i hi => silent i (List.mem_cons_of_mem _ hi))
        (fun i hi => plain i (List.mem_cons_of_mem _ hi)) handed.outbox (by
          rw [hresumption]
          show Option.map _ c.session.resumption? = none
          rw [hres]
          rfl)
    exact ⟨c', (run_deliver ho).trans hrun, reliable, setting.trans handed.setting,
      Wrote.trans (a := [item.1.stanza.anonymous]) handed.wrote wrote, outbox,
      events.trans handed.events, resumption⟩

end Client

/-! ## Events that change nothing -/

/-- Whether an event is only for the application: the controller does nothing
about it but publish another one of this kind. -/
def Event.isIdle : Event → Bool
  | .connector _ _ | .features | .streamError _ _ _ | .authSucceeded false false | .bound _ _
  | .managementFailed _ | .resumed _ _ | .formReceived _ | .registered => false
  | _ => true

/-- The event the controller publishes about one that is only for the application, if it
does. -/
def Event.echo? : Event → Option Event
  | .authFailed e => some (.stopped ("Authentication error: " ++ e.message))
  | .bindFailed _ => some (.reconnect "Session bind error" false false)
  | .registrationFailed e => some (.stopped ("Registration error: " ++ e.message))
  | .parseError _ => some (.reconnect "Parse error" false false)
  | _ => none

/-- What the controller publishes is only for the application, too, and it says no more
about it. -/
theorem Event.isIdle_of_echo? {event echo : Event} (h : event.echo? = some echo) :
    echo.isIdle = true ∧ echo.echo? = none := by
  cases event <;> cases h <;> exact ⟨rfl, rfl⟩

theorem Controller.react_of_isIdle {event : Event} (h : event.isIdle = true) (c : Controller)
    (s : Session) :
    c.react s event = (c, { s with events := s.events ++ event.echo?.toList }) := by
  have nothing : (c, s) = (c, { s with events := s.events ++ [] }) := by rw [List.append_nil]
  cases event with
  | authFailed e => rfl
  | bindFailed e => rfl
  | registrationFailed e => rfl
  | parseError message => rfl
  | authSucceeded restartRequired inlineBound =>
    cases restartRequired <;> cases inlineBound
    · cases h
    · exact nothing
    · exact nothing
    · exact nothing
  | connector _ _ => cases h
  | features => cases h
  | streamError _ _ _ => cases h
  | bound _ _ => cases h
  | managementFailed _ => cases h
  | resumed _ _ => cases h
  | formReceived _ => cases h
  | registered => cases h
  | _ => exact nothing

/-- **Events that change nothing are published**, and after them what the controller says
about them. -/
theorem Client.run_of_isIdle {c : Client} (ho : c.session.outbox = [])
    (he : ∀ e ∈ c.session.events, e.isIdle = true) :
    c.run = { c.withEvents [] with
      published := c.published ++ c.session.events ++ c.session.events.filterMap Event.echo? } := by
  obtain ⟨log, moves⟩ := Moves.run c
  -- along the way only the events and what was published differ, and what will have been
  -- published in the end stays the same
  have hkept : ∀ {log : List Request} {c' : Client}, Moves c log c' →
      ∃ events published, (∀ e ∈ events, e.isIdle = true)
        ∧ c' = { c.withEvents events with published }
        ∧ published ++ events ++ events.filterMap Event.echo?
          = c.published ++ c.session.events ++ c.session.events.filterMap Event.echo? := by
    intro log c' moves
    induction moves with
    | refl => exact ⟨c.session.events, c.published, he, rfl, rfl⟩
    | deliver _ ho' ih =>
      obtain ⟨events, published, -, rfl, -⟩ := ih
      exact absurd (ho'.symm.trans ho) (List.cons_ne_nil _ _)
    | @react c' log event rest _ _ he' ih =>
      obtain ⟨events, published, hidle, rfl, hsum⟩ := ih
      obtain rfl : events = event :: rest := he'
      have hreact := Controller.react_of_isIdle (hidle event List.mem_cons_self) c.controller
        (c.withEvents rest).session
      refine ⟨rest ++ event.echo?.toList, published ++ [event], fun e hmem => ?_, ?_, ?_⟩
      · rcases List.mem_append.1 hmem with hrest | hmem
        · exact hidle e (List.mem_cons_of_mem _ hrest)
        · exact (Event.isIdle_of_echo? (Option.mem_toList.1 hmem)).1
      · show ({ c.withEvents rest with published := published } : Client).handleEvent event = _
        unfold handleEvent
        dsimp only
        rw [show ({ c.withEvents rest with published } : Client).controller = c.controller from rfl,
          hreact]
        rfl
      · rw [← hsum]
        cases hecho : event.echo? with
        | none => simp [hecho]
        | some echo => simp [hecho, (Event.isIdle_of_echo? hecho).2]
  obtain ⟨events, published, -, hrun, hsum⟩ := hkept moves
  have hrest := (atRest_run c).2
  rw [hrun] at hrest
  obtain rfl : events = [] := hrest
  rw [List.filterMap_nil, List.append_nil, List.append_nil] at hsum
  rw [hrun, hsum]

/-! ## The greeting -/

namespace Session

/-- **Elements were put into the outbox**, of which none enables stream management
and none publishes anything when it is handed over. -/
def Posted (s : Session) (elements : List Element) (s' : Session) : Prop :=
  ∃ items : List (Entry × Option Request),
    s'.outbox = s.outbox ++ items.map (fun item => .element item.1 item.2)
    ∧ items.map (·.1.stanza.anonymous) = elements
    ∧ (∀ item ∈ items, ∀ r, item.2 = some r → r.isSilent = true)
    ∧ (∀ item ∈ items, item.1.stanza.is "enable" Namespace.streamManagement = false)
    ∧ s'.properties = s.properties ∧ s'.config = s.config ∧ s'.events = s.events

theorem Posted.trans {s s' s'' : Session} {a b : List Element} (first : s.Posted a s')
    (second : s'.Posted b s'') : s.Posted (a ++ b) s'' := by
  obtain ⟨items, ho, rfl, silent, plain, hp, hc, he⟩ := first
  obtain ⟨items', ho', rfl, silent', plain', hp', hc', he'⟩ := second
  refine ⟨items ++ items', ?_, List.map_append, ?_, ?_, hp'.trans hp, hc'.trans hc, he'.trans he⟩
  · rw [ho', ho, List.append_assoc, List.map_append]
  · intro item hitem
    exact (List.mem_append.1 hitem).elim (silent item) (silent' item)
  · intro item hitem
    exact (List.mem_append.1 hitem).elim (plain item) (plain' item)

/-- Sending a request posts its stanza. -/
theorem posted_send (s : Session) (draft : Draft)
    (silent : draft.stanza.name = "iq" ∨ draft.pipeline.handlers = [])
    (plain : draft.stanza.name ≠ "enable") :
    s.Posted [draft.stanza.anonymous] (s.send draft).2 := by
  let made := draft.build s.config.requestTimeout s.clock s.drawn
  have hstanza : made.1.stanza.anonymous = draft.stanza.anonymous
      ∧ made.1.stanza.name = draft.stanza.name ∧ made.1.key.name = draft.stanza.name := by
    show (draft.build _ _ _).1.stanza.anonymous = _
      ∧ (draft.build _ _ _).1.stanza.name = _ ∧ (draft.build _ _ _).1.key.name = _
    unfold Draft.build
    cases draft.id? with
    | some id => exact ⟨rfl, rfl, rfl⟩
    | none => exact ⟨Element.anonymous_setAttr _ _, rfl, rfl⟩
  refine ⟨[(⟨made.1.stanza, s.board.states.length⟩, some made.1)], rfl, ?_, ?_, ?_, rfl, rfl, rfl⟩
  · exact congrArg (fun e => [e]) hstanza.1
  · intro item hitem r hr
    obtain rfl := List.mem_singleton.1 hitem
    obtain rfl := Option.some.inj hr
    unfold Request.isSilent Request.isFireAndForget
    rcases silent with hiq | hnone
    · rw [hstanza.2.2, hiq]
      rfl
    · have : made.1.handlers = [] := (draft.handlers_build ..).trans hnone
      rw [this]
      simp
  · intro item hitem
    obtain rfl := List.mem_singleton.1 hitem
    unfold Element.is
    dsimp only
    rw [hstanza.2.1]
    simp [plain]

/-- Whether an address names a server, as that of every account does. -/
def serves (jid : Jid) : Bool :=
  (Jid.parse jid.domain).toOption.isSome

/-- **The greeting**: what every session says first once it has an address. -/
def greeting (jid : Jid) : List Element :=
  match Jid.parse jid.domain with
  | .error _ => []
  | .ok server =>
    [(Draft.iqGet (some server) (emptyQuery Namespace.discoInfo)).stanza,
     (Draft.iqGet (some jid.bare) (emptyQuery Namespace.discoInfo)).stanza,
     { name := "presence", ns := Namespace.client },
     (Draft.iqGet none (emptyQuery Namespace.roster)).stanza]

/-- Whether stream management is asked for along with the greeting. -/
def asksToManage (s : Session) (jid : Jid) : Bool :=
  serves jid && s.canManage

/-- A request for information has no id before it is sent. -/
theorem anonymous_iqGet (recipient : Option Jid) (payload : Element) :
    (Draft.iqGet recipient payload).stanza.anonymous = (Draft.iqGet recipient payload).stanza := by
  cases recipient <;> rfl

theorem posted_requestFeatures (s : Session) (jid : Jid) :
    s.Posted [(Draft.iqGet (some jid) (emptyQuery Namespace.discoInfo)).stanza]
      (s.requestFeatures jid).2 := by
  rw [← anonymous_iqGet]
  refine posted_send s _ (.inl rfl) ?_
  show "iq" ≠ "enable"
  decide

theorem posted_sendPresence (s : Session) :
    s.Posted [{ name := "presence", ns := Namespace.client }] s.sendPresence.2 := by
  refine posted_send s _ (.inr rfl) ?_
  show "presence" ≠ "enable"
  decide

theorem posted_requestRoster (s : Session) :
    s.Posted [(Draft.iqGet none (emptyQuery Namespace.roster)).stanza] s.requestRoster.2 := by
  rw [← anonymous_iqGet]
  refine posted_send s _ (.inl rfl) ?_
  show "iq" ≠ "enable"
  decide

/-- The request to enable stream management has no id. -/
theorem anonymous_enable (max : Option UInt32) : (enable max).anonymous = enable max := by
  cases max <;> rfl

/-- The session with an address. -/
def addressed (s : Session) (jid : Jid) : Session :=
  (s.setProperty .session Properties.boundKey jid).setOwnJid (some jid)

/-- **The session has an address.** The greeting is posted, followed by the request
to enable stream management if there is one, and the session is ready; unless the
address names no server, which stops the session. -/
theorem settleIn_eq (s : Session) (jid : Jid) :
    ∃ s' news, (s.addressed jid).Posted (greeting jid) s' ∧ news.isIdle = true ∧
      s.settleIn jid false =
        if s.asksToManage jid then (s'.write (enable s.config.resumptionWindow)).fire news
        else s'.fire news := by
  cases h : Jid.parse jid.domain with
  | error e =>
    refine ⟨s.addressed jid, .stopped (Error.jid e).message, ?_, rfl, ?_⟩
    · unfold greeting
      rw [h]
      exact ⟨[], (List.append_nil _).symm, rfl, by simp, by simp, rfl, rfl, rfl⟩
    · unfold settleIn asksToManage serves
      rw [h]
      rfl
  | ok server =>
    have posted := (((posted_requestFeatures (s.addressed jid) server).trans
      (posted_requestFeatures _ jid.bare)).trans (posted_sendPresence _)).trans
      (posted_requestRoster _)
    generalize hs : (((((s.addressed jid).requestFeatures server).2.requestFeatures
      jid.bare).2.sendPresence).2.requestRoster).2 = s' at posted
    refine ⟨s', .ready, ?_, rfl, ?_⟩
    · unfold greeting
      rw [h]
      exact posted
    · obtain ⟨-, -, -, -, -, hproperties, hconfig, -⟩ := posted
      have hfeatures : s'.properties.features? = s.properties.features? := by
        rw [hproperties]
        exact Properties.get?_set_of_ne _ _ _ (by decide)
      have hmanage : s'.canManage = s.canManage := by
        unfold canManage Properties.feature?
        rw [hfeatures, hconfig]
        rfl
      unfold settleIn asksToManage serves
      rw [h]
      dsimp only
      rw [if_neg (by decide)]
      change ((((((s.addressed jid).requestFeatures server).2.requestFeatures
        jid.bare).2.sendPresence).2.requestRoster).2.enableManagement).2.fire .ready = _
      rw [hs]
      show s'.enableManagement.2.fire .ready = if s.canManage then _ else _
      unfold enableManagement
      rw [hmanage, hconfig]
      split <;> rfl

/-- What is written once the session has an address. -/
def opening (s : Session) (jid : Jid) : List Element :=
  greeting jid ++ if s.asksToManage jid then [enable s.config.resumptionWindow] else []

end Session

namespace Client

/-- **How a session opens** when its address becomes known. -/
structure Opened (c : Client) (jid : Jid) (c' : Client) : Prop where
  setting : c'.setting = c.setting
  wrote : c.Wrote (c.session.opening jid) c'
  resumption : c'.session.resumption? = if c.session.asksToManage jid then some .start else none

/-- The events that are left do not matter to how a session opens. -/
theorem Opened.idle {c c' : Client} {jid : Jid} (opened : c.Opened jid c')
    (ho : c'.session.outbox = []) (he : ∀ e ∈ c'.session.events, e.isIdle = true) :
    c.Opened jid c'.run := by
  rw [run_of_isIdle ho he]
  exact ⟨opened.setting, opened.wrote, opened.resumption⟩

/-- The controller learns of the address: the opening is in the outbox, and only an
event that changes nothing is left. -/
theorem handleEvent_bound (c : Client) (jid : Jid) :
    let c₁ := (c.withEvents []).handleEvent (.bound jid false)
    c₁.setting = c.setting ∧ c₁.session.resumption? = c.session.resumption?
      ∧ (∃ news, c₁.session.events = [news] ∧ news.isIdle = true)
      ∧ ∃ (items : List (Entry × Option Request)) (token : Token),
        c₁.session.outbox = c.session.outbox
          ++ (items.map (fun item => .element item.1 item.2)
            ++ if c.session.asksToManage jid then
              [.element ⟨enable c.session.config.resumptionWindow, token⟩ none] else [])
        ∧ items.map (·.1.stanza.anonymous) = Session.greeting jid
        ∧ (∀ item ∈ items, ∀ r, item.2 = some r → r.isSilent = true)
        ∧ ∀ item ∈ items, item.1.stanza.is "enable" Namespace.streamManagement = false := by
  intro c₁
  obtain ⟨s', news, ⟨items, hitems, hgreeting, silent, plain, hproperties, hconfig, hevents⟩,
    idle, hsettle⟩ := (c.withEvents []).session.settleIn_eq jid
  have hsession : c₁.session = if c.session.asksToManage jid then
      (s'.write (enable c.session.config.resumptionWindow)).fire news else s'.fire news := hsettle
  have hother {α : Type} [Storable α] {key : String} (hne : key ≠ Properties.boundKey) :
      c₁.session.properties.get? (α := α) key = c.session.properties.get? key := by
    have hp : c₁.session.properties = (c.session.addressed jid).properties := by
      rw [hsession]
      split <;> exact hproperties
    rw [hp]
    exact Properties.get?_set_of_ne _ _ _ hne
  refine ⟨?_, hother (by decide), ⟨news, ?_, idle⟩, items, s'.board.states.length, ?_, hgreeting,
    silent, plain⟩
  · have hc : c₁.session.config = c.session.config := by
      rw [hsession]
      split <;> exact hconfig
    unfold setting Properties.authState Properties.features?
    rw [hother (by decide), hother (by decide), hc]
    rfl
  · rw [hsession]
    split
    · exact congrArg (· ++ [news]) hevents
    · exact congrArg (· ++ [news]) hevents
  · rw [hsession]
    split
    · show s'.outbox ++ _ = _
      rw [hitems, List.append_assoc]
      rfl
    · rw [List.append_nil]
      exact hitems

/-- **A session opens** with the greeting, and with the request to enable stream
management if the stream features that are remembered offer it. -/
theorem Reliable.run_bound {c : Client} (h : c.Reliable) {jid : Jid}
    (ho : c.session.outbox = []) (he : c.session.events = [.bound jid false])
    (hres : c.session.resumption? = none) : c.Opened jid c.run := by
  obtain ⟨hsetting, hresumption, ⟨news, hnews, idle⟩, items, token, hitems, hgreeting, silent,
    plain⟩ := c.handleEvent_bound jid
  rw [ho, List.nil_append] at hitems
  obtain ⟨c', hrun, reliable, setting, wrote, outbox, events, resumption⟩ :=
    Reliable.run_elements (c := (c.withEvents []).handleEvent (.bound jid false)) h items silent
      plain hitems (hresumption.trans hres)
  have hidle {events : List Event} (heq : events = [news]) : ∀ e ∈ events, e.isIdle = true := by
    rw [heq]
    intro e hmem
    rw [List.mem_singleton.1 hmem]
    exact idle
  rw [run_react ho he, hrun]
  -- the request to enable stream management comes last, and starts a resumable session
  by_cases hmanage : c.session.asksToManage jid = true
  · rw [if_pos hmanage] at outbox
    let entry : Entry := ⟨enable c.session.config.resumptionWindow, token⟩
    have handed : (c'.withOutbox []).HandedOver entry
        ((c'.withOutbox []).deliver (.element entry none)) :=
      Reliable.deliver (c := c'.withOutbox []) reliable entry (by simp)
    rw [run_deliver outbox]
    refine Opened.idle ⟨?_, ?_, ?_⟩ handed.outbox
      (hidle (handed.events.trans (events.trans hnews)))
    · exact handed.setting.trans (setting.trans hsetting)
    · have hlast := handed.wrote
      rw [show entry.stanza.anonymous = _ from Session.anonymous_enable _] at hlast
      unfold Session.opening
      rw [if_pos hmanage, ← hgreeting]
      refine wrote.trans ?_
      exact hlast
    · rw [if_pos hmanage, handed.resumption]
      rfl
  · rw [if_neg hmanage] at outbox
    refine Opened.idle ⟨setting.trans hsetting, ?_, ?_⟩ outbox (hidle (events.trans hnews))
    · unfold Session.opening
      rw [if_neg hmanage, List.append_nil, ← hgreeting]
      exact wrote
    · rw [if_neg hmanage]
      exact resumption

/-- **A client that waits for an address**, with nothing to be resumed. -/
structure AwaitsAddress (c : Client) : Prop where
  rest : c.AtRest
  reliable : c.Reliable
  unmanaged : c.session.resumption? = none

/-- **A reply binds a resource** if all that comes of it is the news that the client
has this address: no future is settled, and no code of the application called. -/
def Binds (c : Client) (reply : Element) (jid : Jid) : Prop :=
  (c.session.registry.resolve? reply).map (fun (_, effects) =>
      (effects.filterMap Effect.event?, effects.filterMap Effect.settled?,
        effects.filterMap Effect.note?))
    = some ([.bound jid false], [], [])

/-- **How a session starts**: the client opens it as soon as it knows its
address. -/
theorem AwaitsAddress.receive {c : Client} {reply : Element} {jid : Jid}
    (awaits : c.AwaitsAddress) (binds : c.Binds reply jid) : c.Opened jid (c.receive reply) := by
  obtain ⟨⟨registry, effects⟩, hresolve, hcomes⟩ := Option.map_eq_some_iff.1 binds
  obtain ⟨hevents, hsettled, hnotes⟩ : _ ∧ _ ∧ _ := by simpa only [Prod.mk.injEq] using hcomes
  have hperform (s : Session) : s.perform effects = s.fire (.bound jid false) := by
    rw [Session.perform_eq, hevents, hsettled, hnotes, List.append_nil, List.append_nil]
    rfl
  let counted := c.session.countReceived reply
  have hcounted : counted = { c.session with properties := counted.properties } :=
    c.session.countReceived_eq reply
  have hunmanaged : counted.resumption? = none :=
    c.session.resumption?_countReceived reply awaits.unmanaged
  let answered : Client :=
    { c with session := ({ counted with registry } : Session).fire (.bound jid false) }
  have hreceive : c.receive reply = answered.run := by
    unfold Client.receive
    dsimp only
    rw [show c.session.countReceived reply = counted from rfl,
      show counted.registry = c.session.registry from congrArg (·.registry) hcounted, hresolve]
    dsimp only
    rw [hperform]
  have opened : answered.Opened jid answered.run := by
    refine Reliable.run_bound (c := answered) awaits.reliable ?_ ?_ hunmanaged
    · show counted.outbox = []
      rw [hcounted]
      exact awaits.rest.1
    · show counted.events ++ _ = _
      rw [hcounted]
      show c.session.events ++ _ = _
      rw [awaits.rest.2]
      rfl
  have hfeatures : answered.session.properties.features? = c.session.properties.features? :=
    c.session.get?_countReceived reply (by decide)
  have hconfig : answered.session.config = c.session.config := congrArg (·.config) hcounted
  have hsetting : answered.setting = c.setting := by
    have hauth : answered.session.properties.authState = c.session.properties.authState := by
      show ((c.session.countReceived reply).properties.get? Properties.authKey).getD _ = _
      rw [c.session.get?_countReceived reply (by decide)]
      rfl
    unfold setting
    rw [hauth, hfeatures, hconfig]
  have hasks : answered.session.asksToManage jid = c.session.asksToManage jid := by
    unfold Session.asksToManage Session.canManage Properties.feature?
    rw [hfeatures, hconfig]
  rw [hreceive]
  refine ⟨opened.setting.trans hsetting, ?_, hasks ▸ opened.resumption⟩
  have hopening : answered.session.opening jid = c.session.opening jid := by
    unfold Session.opening
    rw [hasks, hconfig]
  exact hopening ▸ opened.wrote

end Client

end Xmpp
