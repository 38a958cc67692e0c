import Xmpp.Proofs.Client.Forgery
import Xmpp.Proofs.Client.Loss
import Xmpp.Proofs.Session.Exchanges

/-!
# Getting in

A session that has not logged in reads from the stream features how it can. There may be
four ways: the second generation of the login protocol, the first, creating the account,
and none. Which one is taken is a matter of what the features list and what the
configuration has to offer, and `Session.Enters` spells it out for each of them, with what
is written and what is published.

A feature is looked at twice, once to see whether it lists a mechanism that can be used,
and once to log in by it, and the two readings belong to different functions. That they
agree on every feature is the point: whoever can log in does (`Session.started_of_canLogin`,
`Session.started_of_canLogin2`), so the controller never ends up with a login that cannot
be started. Both readings choose the mechanism alike, the strongest that is listed
(`Login.choose?_cases`). A configuration with a password but without a user would have no
mechanism at all; no client is created with one.
-/

namespace Xmpp

open Delivery

/-! ## The mechanism -/

namespace Login

/-- The names of the mechanisms a configuration can make use of, the strongest first. -/
def names (config : Config) : List String :=
  if config.password.isSome then ["SCRAM-SHA-256", "SCRAM-SHA-1", "PLAIN"] else ["ANONYMOUS"]

/-- **A mechanism speaks for the account** that is configured: it knows its user and its password,
or it is for those who have none. -/
def Mechanism.SpeaksFor (config : Config) : Mechanism → Prop
  | .anonymous => config.password = none
  | .plain user password => config.jid.node = some user ∧ config.password = some password
  | .scram _ user password nonce stage =>
    config.jid.node = some user ∧ config.password = some password ∧ nonce = config.nonce
      ∧ stage = .initial

/-- **The mechanism to use** among those offered: the strongest of them. -/
structure Chosen (config : Config) (offered : List String) (m : Mechanism) : Prop where
  /-- It is offered. -/
  offers : m.name ∈ offered
  /-- No stronger one is. -/
  strongest : ∃ front back, names config = front ++ m.name :: back
    ∧ ∀ name ∈ front, name ∉ offered
  /-- It speaks for the account. -/
  speaks : m.SpeaksFor config

/-- Whether there is a mechanism to use among those offered. -/
def Usable (config : Config) (offered : List String) : Prop :=
  ∃ name ∈ names config, name ∈ offered

/-- **A configuration that is accepted** has a user for its password. -/
def Accepted (config : Config) : Prop :=
  config.password.isSome = true → config.jid.node.isSome = true

variable {config : Config}

/-- **The choice is right**: there is one if there is a mechanism to use, and then it is the
strongest. -/
theorem choose?_cases (accepted : Accepted config) (offered : List String) :
    (∃ m, choose? config offered = some m ∧ Chosen config offered m)
      ∨ (choose? config offered = none ∧ ¬ Usable config offered) := by
  cases hpassword : config.password with
  | none =>
    have hnames : names config = ["ANONYMOUS"] := by simp [names, hpassword]
    by_cases hlisted : "ANONYMOUS" ∈ offered
    · exact .inl ⟨.anonymous, by simp [choose?, hpassword, hlisted], hlisted,
        ⟨[], [], hnames, List.forall_mem_nil _⟩, hpassword⟩
    · refine .inr ⟨by simp [choose?, hpassword, hlisted], ?_⟩
      rintro ⟨name, hname, hoffered⟩
      rw [hnames, List.mem_singleton] at hname
      exact hlisted (hname ▸ hoffered)
  | some password =>
    obtain ⟨user, huser⟩ : ∃ user, config.jid.node = some user :=
      Option.isSome_iff_exists.1 (accepted (by rw [hpassword]; rfl))
    have hnames : names config = ["SCRAM-SHA-256", "SCRAM-SHA-1", "PLAIN"] := by
      simp [names, hpassword]
    by_cases h256 : "SCRAM-SHA-256" ∈ offered
    · exact .inl ⟨.scram .sha256 user password config.nonce .initial,
        by simp [choose?, hpassword, huser, h256], h256,
        ⟨[], _, hnames, List.forall_mem_nil _⟩, huser, hpassword, rfl, rfl⟩
    · by_cases h1 : "SCRAM-SHA-1" ∈ offered
      · exact .inl ⟨.scram .sha1 user password config.nonce .initial,
          by simp [choose?, hpassword, huser, h256, h1], h1,
          ⟨["SCRAM-SHA-256"], _, hnames, by simpa using h256⟩, huser, hpassword, rfl, rfl⟩
      · by_cases hplain : "PLAIN" ∈ offered
        · exact .inl ⟨.plain user password,
            by simp [choose?, hpassword, huser, h256, h1, hplain], hplain,
            ⟨["SCRAM-SHA-256", "SCRAM-SHA-1"], _, hnames, by simp [h256, h1]⟩, huser, hpassword⟩
        · refine .inr ⟨by simp [choose?, hpassword, huser, h256, h1, hplain], ?_⟩
          rintro ⟨name, hname, hoffered⟩
          rw [hnames] at hname
          simp only [List.mem_cons, List.not_mem_nil, or_false] at hname
          rcases hname with rfl | rfl | rfl
          · exact h256 hoffered
          · exact h1 hoffered
          · exact hplain hoffered

/-- **A mechanism is chosen if and only if there is one to use.** -/
theorem isSome_choose?_iff (accepted : Accepted config) (offered : List String) :
    (choose? config offered).isSome = true ↔ Usable config offered := by
  rcases choose?_cases accepted offered with ⟨m, hm, hchosen⟩ | ⟨hnone, hnot⟩
  · obtain ⟨front, back, hnames, -⟩ := hchosen.strongest
    rw [hm]
    refine iff_of_true rfl ⟨m.name, ?_, hchosen.offers⟩
    rw [hnames]
    exact List.mem_append_right _ List.mem_cons_self
  · rw [hnone]
    exact iff_of_false Bool.false_ne_true hnot

end Login

/-! ## What the features offer -/

namespace Element

/-- **A stream feature that lists a mechanism to use**: the first of this name. -/
structure OffersLogin (features : Element) (config : Config) (name ns : String)
    (feature : Element) : Prop where
  /-- It is the one that is looked at. -/
  found : features.child? name ns = some feature
  /-- It lists a mechanism to use. -/
  usable : Login.Usable config (Login.offeredBy feature)

/-- Whether we can log in by the second generation. -/
def OffersSecond (features : Element) (config : Config) : Prop :=
  ∃ feature, features.OffersLogin config "authentication" Namespace.sasl2 feature

/-- Whether we can log in by the first generation. -/
def OffersFirst (features : Element) (config : Config) : Prop :=
  ∃ feature, features.OffersLogin config "mechanisms" Namespace.sasl feature

/-- Whether accounts can be created. -/
def OffersAccount (features : Element) : Prop :=
  ∃ feature, features.child? "register" Namespace.registerFeature = some feature

/-- Whether a login feature offers to bind a resource along with the login. -/
def OffersBinding (feature : Element) : Prop :=
  ∃ inline bind, feature.child? "inline" Namespace.sasl2 = some inline
    ∧ inline.child? "bind" Namespace.bind2 = some bind

/-- **An element that logs in** by the first generation. -/
structure LogsIn (e : Element) (m : Login.Mechanism) : Prop where
  /-- What it is. -/
  is : e.is "auth" Namespace.sasl = true
  /-- It names the mechanism. -/
  mechanism : e.attr "mechanism" = some m.name
  /-- It carries the first word of the mechanism. -/
  text : e.text = Base64.encode m.greet.1

/-- **An element that logs in** by the second generation. -/
structure LogsIn2 (e : Element) (m : Login.Mechanism) (binds : Prop) : Prop where
  /-- What it is. -/
  is : e.is "authenticate" Namespace.sasl2 = true
  /-- It names the mechanism. -/
  mechanism : e.attr "mechanism" = some m.name
  /-- It carries the first word of the mechanism, if there is one. -/
  response : (e.child? "initial-response" Namespace.sasl2).map Element.text
    = if m.greet.1.isEmpty then none else some (Base64.encode m.greet.1)
  /-- It may ask for a resource. -/
  bind : (∃ bind, e.child? "bind" Namespace.bind2 = some bind) ↔ binds

end Element

/-! ## What is done -/

namespace Session

/-- **A session that is ready to get in**: what can be resumed is kept, and any other resumable
session is forgotten, with what it holds. -/
structure Readied (s t : Session) : Prop where
  /-- What can be resumed is left as it was. -/
  kept : s.Resumable → t = s
  /-- What cannot is forgotten. -/
  forgotten : ¬ s.Resumable → t.resumption? = none
    ∧ t.board = s.board.setAll s.unconfirmed .dropped
    ∧ ∀ key ≠ Properties.resumptionKey, t.properties.find? key = s.properties.find? key
  /-- Nothing else happens. -/
  others : t = { s with properties := t.properties, board := t.board }

/-- **An exchange begins**: one element is written, which belongs to no request, and one event is
published. -/
structure Begins (s u : Session) (m : Login.Mechanism) (e : Element) : Prop where
  /-- The element is written. -/
  written : ∃ token, u.outbox = s.outbox ++ [.element ⟨e, token⟩ none]
  /-- The login begins. -/
  fired : u.events = s.events ++ [.authStarted m.name]
  /-- So the session has not to be asked again. -/
  authState : u.properties.authState = .inProgress

/-- **How a session gets in** that is ready: by the first way there is. -/
inductive Enters (s : Session) (features : Element) (registered : Bool) : Session → Prop
  /-- By the second generation. -/
  | second {feature e : Element} {m : Login.Mechanism} {u : Session}
      (found : features.child? "authentication" Namespace.sasl2 = some feature)
      (chosen : Login.Chosen s.config (Login.offeredBy feature) m)
      (greeting : e.LogsIn2 m (feature.OffersBinding ∧ ¬ s.Resumable))
      (begins : s.Begins u m e) (held : u.logins.sasl2 = some m.greet.2)
      (requested : u.logins.bindRequested = true ↔ feature.OffersBinding ∧ ¬ s.Resumable) :
      Enters s features registered u
  /-- By the first, for want of the second. -/
  | first {feature e : Element} {m : Login.Mechanism} {u : Session}
      (second : ¬ features.OffersSecond s.config)
      (found : features.child? "mechanisms" Namespace.sasl = some feature)
      (chosen : Login.Chosen s.config (Login.offeredBy feature) m)
      (greeting : e.LogsIn m) (begins : s.Begins u m e) (held : u.logins.sasl = some m.greet.2) :
      Enters s features registered u
  /-- By asking for the form to create the account, if that is wanted, offered and was not done
  before. -/
  | account {entry : Entry} {request : Request} {u : Session}
      (second : ¬ features.OffersSecond s.config) (first : ¬ features.OffersFirst s.config)
      (wanted : s.config.registration.isSome = true) (offered : features.OffersAccount)
      (new : registered = false)
      (asks : entry.stanza.name = "iq" ∧ entry.stanza.attr "type" = some "get"
        ∧ ∃ query, entry.stanza.child? "query" Namespace.register = some query)
      (waits : request.handlers.map (fun handler => handler matches .registrationForm) = [true])
      (written : u.outbox = s.outbox ++ [.element entry (some request)])
      (fired : u.events = s.events) (remembers : u.properties = s.properties) :
      Enters s features registered u
  /-- There is no way. -/
  | nowhere (second : ¬ features.OffersSecond s.config) (first : ¬ features.OffersFirst s.config)
      (account : ¬ (s.config.registration.isSome = true ∧ features.OffersAccount
        ∧ registered = false)) :
      Enters s features registered
        (s.fire (.stopped "No supported authentication or registration method"))

variable {s t u : Session} {features feature : Element}

theorem readied_forgetUnlessResumable (s : Session) : s.Readied s.forgetUnlessResumable := by
  unfold forgetUnlessResumable
  split
  · rename_i h
    exact ⟨fun _ => rfl, fun hnot => absurd ((canResume_iff s).1 h) hnot, rfl⟩
  · rename_i h
    refine ⟨fun hresumable => absurd ((canResume_iff s).2 hresumable) h, fun _ =>
      ⟨resumption?_resetManagement s, board_resetManagement s, fun key hkey => ?_⟩,
      resetManagement_eq s⟩
    rw [properties_resetManagement]
    split
    · unfold Properties.find? Properties.erase
      rw [List.find?_filter]
      congr 1
      funext entry
      by_cases hentry : entry.key = key
      · simp [hentry, hkey]
      · simp [hentry]
    · rfl

/-- Getting ready loses nothing that can be resumed, and gains nothing. -/
theorem Readied.resumable_iff (h : s.Readied t) : t.Resumable ↔ s.Resumable := by
  by_cases hs : s.Resumable
  · rw [h.kept hs]
  · refine iff_of_false ?_ hs
    rintro ⟨context, hcontext, -⟩
    rw [(h.forgotten hs).1] at hcontext
    cases hcontext

theorem Readied.get? {α : Type} [Storable α] (h : s.Readied t) {key : String}
    (hkey : key ≠ Properties.resumptionKey) :
    t.properties.get? (α := α) key = s.properties.get? key := by
  unfold Properties.get?
  by_cases hs : s.Resumable
  · rw [h.kept hs]
  · rw [(h.forgotten hs).2.2 key hkey]

theorem feature?_eq (h : s.properties.features? = some features) (name ns : String) :
    s.properties.feature? name ns = features.child? name ns := by
  unfold Properties.feature?
  rw [h]
  rfl

/-- A mechanism can be chosen from a feature if it lists one to use. -/
theorem any_choose?_iff {config : Config} (accepted : Login.Accepted config) (name ns : String) :
    ((features.child? name ns).any fun feature =>
        (Login.choose? config (Login.offeredBy feature)).isSome) = true ↔
      ∃ feature, features.OffersLogin config name ns feature := by
  rw [Option.any_eq_true]
  exact exists_congr fun feature =>
    ⟨fun h => ⟨h.1, (Login.isSome_choose?_iff accepted _).1 h.2⟩,
      fun h => ⟨h.found, (Login.isSome_choose?_iff accepted _).2 h.usable⟩⟩

/-- **The second generation can be used if the features offer it.** -/
theorem canLogin2_iff (accepted : Login.Accepted s.config)
    (h : s.properties.features? = some features) :
    s.canLogin2 = true ↔ features.OffersSecond s.config := by
  unfold canLogin2 sasl2Feature?
  rw [feature?_eq h]
  exact any_choose?_iff accepted _ _

/-- **The first generation can be used if the features offer it.** -/
theorem canLogin_iff (accepted : Login.Accepted s.config)
    (h : s.properties.features? = some features) :
    s.canLogin = true ↔ features.OffersFirst s.config := by
  unfold canLogin saslFeature?
  rw [feature?_eq h]
  exact any_choose?_iff accepted _ _

theorem offersRegistration_iff (h : s.properties.features? = some features) :
    s.offersRegistration = true ↔ features.OffersAccount := by
  unfold offersRegistration
  rw [feature?_eq h]
  exact Option.isSome_iff_exists

theorem inlineBind?_isSome_iff : (inlineBind? feature).isSome = true ↔ feature.OffersBinding := by
  unfold inlineBind? Element.OffersBinding
  rw [Option.isSome_iff_exists]
  constructor
  · rintro ⟨bind, h⟩
    obtain ⟨inline, hinline, hbind⟩ := Option.bind_eq_some_iff.1 h
    exact ⟨inline, bind, hinline, hbind⟩
  · rintro ⟨inline, bind, hinline, hbind⟩
    exact ⟨bind, Option.bind_eq_some_iff.2 ⟨inline, hinline, hbind⟩⟩

/-- What is said first does not change the name of a mechanism. -/
theorem name_greet (m : Login.Mechanism) : m.greet.2.name = m.name := by
  cases m with
  | scram hash user password nonce stage => cases hash <;> rfl
  | _ => rfl

/-- **Logging in by the second generation** uses the mechanism that is chosen. -/
theorem login2_spec (accepted : Login.Accepted s.config) (bind : Bool)
    (found : s.sasl2Feature? = some feature)
    (usable : Login.Usable s.config (Login.offeredBy feature)) :
    ∃ m e, Login.Chosen s.config (Login.offeredBy feature) m
      ∧ e.LogsIn2 m (feature.OffersBinding ∧ bind = true)
      ∧ s.Begins (s.login2 bind).1 m e
      ∧ (s.login2 bind).1.logins.sasl2 = some m.greet.2
      ∧ ((s.login2 bind).1.logins.bindRequested = true ↔ feature.OffersBinding ∧ bind = true)
      ∧ (s.login2 bind).2 = none := by
  obtain ⟨m, hm, chosen⟩ := (Login.choose?_cases accepted _).resolve_right fun h => h.2 usable
  have halong : (if bind then inlineBind? feature else none).isSome = true
      ↔ feature.OffersBinding ∧ bind = true := by
    cases bind with
    | false => exact iff_of_false Bool.false_ne_true fun h => Bool.false_ne_true h.2
    | true => exact inlineBind?_isSome_iff.trans (and_iff_left rfl).symm
  unfold login2
  rw [found]
  dsimp only
  rw [hm]
  dsimp only
  generalize (if bind then inlineBind? feature else none) = along at halong
  rw [name_greet]
  refine ⟨m, _, chosen, ⟨rfl, rfl, ?_, ?_⟩, ⟨⟨_, rfl⟩, rfl, ?_⟩, rfl, halong, rfl⟩
  · unfold Element.child?
    rw [Element.children_mk]
    cases m.greet.1.isEmpty with
    | true => cases along <;> rfl
    | false => exact congrArg some (Element.text_ofText "initial-response" Namespace.sasl2 _)
  · unfold Element.child?
    rw [Element.children_mk, ← Option.isSome_iff_exists, ← halong]
    cases m.greet.1.isEmpty <;> cases along <;> rfl
  · exact s.properties.authState_set .connection .inProgress

/-- **Logging in by the first generation** uses the mechanism that is chosen. -/
theorem login_spec (accepted : Login.Accepted s.config) (found : s.saslFeature? = some feature)
    (usable : Login.Usable s.config (Login.offeredBy feature)) :
    ∃ m e, Login.Chosen s.config (Login.offeredBy feature) m ∧ e.LogsIn m
      ∧ s.Begins s.login.1 m e ∧ s.login.1.logins.sasl = some m.greet.2 ∧ s.login.2 = none := by
  obtain ⟨m, hm, chosen⟩ := (Login.choose?_cases accepted _).resolve_right fun h => h.2 usable
  have hchoice :
      Login.choose? s.config ((s.saslFeature?.map Login.offeredBy).getD []) = some m := by
    rw [found]
    exact hm
  obtain ⟨registered, hregistered, hname⟩ := m.exists_ofName?_name
  unfold login
  rw [hchoice]
  dsimp only
  rw [hregistered]
  dsimp only
  rw [name_greet, hname]
  refine ⟨m, _, chosen, ⟨rfl, rfl, ?_⟩, ⟨⟨_, rfl⟩, rfl, ?_⟩, rfl, rfl⟩
  · exact Element.text_ofText "auth" Namespace.sasl _
  · exact s.properties.authState_set .connection .inProgress

/-- There is nothing to report of a login that was begun. -/
theorem reportLogin_of_started {result : Session × Option Error} (started : result.2 = none) :
    reportLogin result = result.1 := by
  obtain ⟨s, error⟩ := result
  obtain rfl : error = none := started
  rfl

/-- **Getting in takes the first way there is.** -/
theorem enters_getIn (accepted : Login.Accepted s.config)
    (h : s.properties.features? = some features) (registered : Bool) :
    ∃ t, s.Readied t ∧ (t.Resumable ↔ s.Resumable)
      ∧ t.Enters features registered (s.getIn registered) := by
  have readied := s.readied_forgetUnlessResumable
  unfold getIn
  dsimp only
  generalize s.forgetUnlessResumable = t at readied
  have hconfig : t.config = s.config := congrArg (·.config) readied.others
  have hfeatures : t.properties.features? = some features := (readied.get? (by decide)).trans h
  rw [← hconfig] at accepted
  have hresume : (!t.canResume) = true ↔ ¬ t.Resumable := by
    rw [← canResume_iff, Bool.not_eq_true', Bool.not_eq_true]
  refine ⟨t, readied, readied.resumable_iff, ?_⟩
  split
  · rename_i hsecond
    obtain ⟨feature, found, usable⟩ := (canLogin2_iff accepted hfeatures).1 hsecond
    obtain ⟨m, e, chosen, greeting, begins, held, requested, started⟩ :=
      login2_spec accepted (!t.canResume) ((feature?_eq hfeatures _ _).trans found) usable
    rw [hresume] at greeting requested
    rw [reportLogin_of_started started]
    exact .second found chosen greeting begins held requested
  · rename_i hsecond
    rw [canLogin2_iff accepted hfeatures] at hsecond
    split
    · rename_i hfirst
      obtain ⟨feature, found, usable⟩ := (canLogin_iff accepted hfeatures).1 hfirst
      obtain ⟨m, e, chosen, greeting, begins, held, started⟩ :=
        login_spec accepted ((feature?_eq hfeatures _ _).trans found) usable
      rw [reportLogin_of_started started]
      exact .first hsecond found chosen greeting begins held
    · rename_i hfirst
      rw [canLogin_iff accepted hfeatures] at hfirst
      split
      · rename_i haccount
        rw [Bool.and_eq_true, Bool.and_eq_true, Bool.not_eq_true',
          offersRegistration_iff hfeatures] at haccount
        obtain ⟨⟨new, wanted⟩, offered⟩ := haccount
        exact .account hsecond hfirst wanted offered new ⟨rfl, rfl, _, rfl⟩ rfl rfl rfl rfl
      · rename_i haccount
        refine .nowhere hsecond hfirst fun ⟨wanted, offered, new⟩ => haccount ?_
        rw [Bool.and_eq_true, Bool.and_eq_true, Bool.not_eq_true',
          offersRegistration_iff hfeatures]
        exact ⟨⟨new, wanted⟩, offered⟩

end Session

namespace Client

/-- A client that was created has a user for its password. -/
theorem accepted_of_create {config : Config} {catalogue : Catalogue} {batch : List Descriptor}
    {c : Client} (created : create config catalogue batch = .ok c) : Login.Accepted config := by
  intro hpassword
  unfold create at created
  split at created
  · cases created
  · rename_i h
    rw [hpassword, Bool.true_and, Bool.not_eq_true, Option.isNone_eq_false_iff] at h
    exact h

/-- **The way in is the right one, and it never fails.** Whatever the features are, a session of a
client that was created, and that has not begun to log in, is made ready and takes the first way
in that there is; and by either generation a login that is possible is begun. -/
theorem entrance {config : Config} {catalogue : Catalogue} {batch : List Descriptor} {c : Client}
    (created : create config catalogue batch = .ok c) :
    (∀ s : Session, (s.canLogin = true → s.login.2 = none)
      ∧ ∀ bind, s.canLogin2 = true → (s.login2 bind).2 = none)
    ∧ ∀ (controller : Controller) (s : Session) (features : Element), s.config = config →
      s.properties.features? = some features → s.properties.authState = .unknown →
        (controller.react s .features).1 = controller
        ∧ ∃ t, s.Readied t ∧ (t.Resumable ↔ s.Resumable)
          ∧ t.Enters features controller.registered (controller.react s .features).2 := by
  refine ⟨fun s => ⟨Session.started_of_canLogin, fun bind => Session.started_of_canLogin2 bind⟩,
    fun controller s features hconfig hfeatures unknown => ?_⟩
  have accepted := accepted_of_create created
  rw [← hconfig] at accepted
  have hreact : controller.react s .features = (controller, s.getIn controller.registered) := by
    unfold Controller.react
    dsimp only
    rw [unknown]
  rw [hreact]
  exact ⟨rfl, Session.enters_getIn accepted hfeatures _⟩

namespace Rehearsal

/-- A feature that lists these mechanisms, and more. -/
def lists (name ns : String) (mechanisms : List String) (more : List Element) : Element where
  name := name
  ns := ns
  content := Element.nodes (mechanisms.map (.ofText "mechanism" ns) ++ more)

/-- Both generations are offered, the second along with binding a resource. -/
def offersBoth : Element where
  name := "features"
  ns := Namespace.stream
  content := Element.nodes
    [lists "mechanisms" Namespace.sasl ["SCRAM-SHA-256"] [],
      lists "authentication" Namespace.sasl2 ["EXTERNAL", "PLAIN", "SCRAM-SHA-1"]
        [{ name := "inline"
           ns := Namespace.sasl2
           content := Element.nodes [{ name := "bind", ns := Namespace.bind2 }] }]]

/-- The session that was told so. -/
def invited : Session :=
  furnished.session.takeFeatures offersBoth

end Rehearsal

open Rehearsal

/-- In the rehearsal the second generation is used, although the first lists a stronger mechanism,
and a resource is asked for. -/
theorem entrance_rehearsal :
    create account [] [] = .ok furnished ∧ invited.config = account
      ∧ invited.properties.features? = some offersBoth ∧ invited.properties.authState = .unknown
      ∧ invited.canLogin = true ∧ invited.login.2 = none
      ∧ invited.canLogin2 = true ∧ (invited.login2 true).2 = none
      ∧ (∃ t, invited.Readied t ∧ (t.Resumable ↔ invited.Resumable)
        ∧ t.Enters offersBoth false (({} : Controller).react invited .features).2)
      ∧ ((({} : Controller).react invited .features).2.outbox.filterMap Outgoing.entry?).map
          (fun entry => (entry.stanza.name, entry.stanza.attr "mechanism",
            (entry.stanza.child? "bind" Namespace.bind2).isSome))
        = [("authenticate", some "SCRAM-SHA-1", true)] := by
  have created : create account [] [] = .ok furnished := create_account
  have hfeatures : invited.properties.features? = some offersBoth := by decide +kernel
  have unknown : invited.properties.authState = .unknown := by decide +kernel
  have hconfig : invited.config = account := rfl
  have can : invited.canLogin = true := by decide +kernel
  have can2 : invited.canLogin2 = true := by decide +kernel
  obtain ⟨started, enters⟩ := entrance created
  exact ⟨created, hconfig, hfeatures, unknown, can, (started invited).1 can, can2,
    (started invited).2 true can2, (enters {} invited offersBoth hconfig hfeatures unknown).2,
    by decide +kernel⟩

end Client

end Xmpp
