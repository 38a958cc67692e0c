import Xmpp.Session.Management
import Xmpp.Text.Blank

/-!
# Logging in

There are two generations of the login protocol. In the first, the login is
a conversation of its own, after which the stream starts anew. In the second
the login may bind a resource and enable stream management along with it,
and the stream goes on.

Both use the same mechanisms, and the choice is the same: with a password
the strongest mechanism the server offers, without one only the anonymous
mechanism. A mechanism is held from the first word until the exchange has an
outcome.
-/

namespace Xmpp

namespace Login

/-- **Choosing a mechanism** among those offered. A password is of no use
without a user. -/
def choose? (config : Config) (offered : List String) : Option Mechanism :=
  match config.password, config.jid.node with
  | none, _ => if offered.contains "ANONYMOUS" then some .anonymous else none
  | some _, none => none
  | some password, some user =>
    if offered.contains "SCRAM-SHA-256" then
      some (.scram .sha256 user password config.nonce .initial)
    else if offered.contains "SCRAM-SHA-1" then
      some (.scram .sha1 user password config.nonce .initial)
    else if offered.contains "PLAIN" then some (.plain user password)
    else none

/-- The mechanisms a stream feature lists. -/
def offeredBy (feature : Element) : List String :=
  (feature.children.filter (·.name == "mechanism")).map Element.text

end Login

namespace Session

open Login

/-! ## The first generation -/

/-- The stream feature that offers the first generation of the login. -/
def saslFeature? (s : Session) : Option Element :=
  s.properties.feature? "mechanisms" Namespace.sasl

/-- Whether we can log in by the first generation. -/
def canLogin (s : Session) : Bool :=
  s.saslFeature?.any fun feature => (choose? s.config (offeredBy feature)).isSome

/-- **Logging in** by the first generation, which knows mechanisms by the
words it has for them. -/
def login (s : Session) : Session × Option Error :=
  match choose? s.config ((s.saslFeature?.map offeredBy).getD []) with
  | none => (s, some (.auth .noMechanism))
  | some mechanism =>
    match Registered.ofName? mechanism.name with
    | none => (s, some (.auth .noMechanism))
    | some registered =>
      let (data, mechanism) := mechanism.greet
      let s := (s.setAuthState .inProgress).fire (.authStarted mechanism.name)
      let s := s.write
        { name := "auth"
          ns := Namespace.sasl
          attributes := [("mechanism", registered.name)]
          content := [.text (Base64.encode data)] }
      ({ s with logins := { s.logins with sasl := some mechanism } }, none)

/-- A login of the first generation failed. -/
def failLogin (s : Session) (error : AuthError) : Session :=
  ({ s with logins := { s.logins with sasl := none } }.setAuthState .failed).fire
    (.authFailed error)

/-- The data of a strictly read element of the first generation. -/
def readData? (e : Element) (name : String) : Option (List UInt8) :=
  if e.is name Namespace.sasl && e.hasOnly [] && e.isChildless then
    (Base64.decode e.text).toOption
  else none

/-- The server challenges us. -/
def takeChallenge (s : Session) (challenge : List UInt8) : Session :=
  match s.logins.sasl with
  | none => s
  | some mechanism =>
    match mechanism.respond challenge with
    | .error e => s.failLogin (.mechanism e)
    | .ok (answer, mechanism) =>
      let s := { s with logins := { s.logins with sasl := some mechanism } }
      s.write (.ofText "response" Namespace.sasl (Base64.encode answer))

/-- The server accepts us. If we accept it, too, the stream is restarted. -/
def takeSuccess (s : Session) (data : List UInt8) : Session :=
  match s.logins.sasl with
  | none => s
  | some mechanism =>
    let s := { s with logins := { s.logins with sasl := none } }
    match mechanism.accept data with
    | .error e => s.failLogin (.mechanism e)
    | .ok () => ((s.setAuthState .succeeded).restart).fire (.authSucceeded true false)

/-- **Handling an element of the first generation.** -/
def handleSasl (s : Session) (e : Element) : Session × Option Error :=
  if e.name == "challenge" then
    match readData? e "challenge" with
    | some challenge => (s.takeChallenge challenge, none)
    | none => s.malformed
  else if e.name == "success" then
    match readData? e "success" with
    | some data => (s.takeSuccess data, none)
    | none => s.malformed
  else if e.name == "failure" then
    match Failure.read? e with
    | some failure => (s.failLogin (.refused failure), none)
    | none => s.malformed
  else (s, some (.protocol (.unexpectedElement e.name)))

/-! ## The second generation -/

/-- The stream feature that offers the second generation of the login. -/
def sasl2Feature? (s : Session) : Option Element :=
  s.properties.feature? "authentication" Namespace.sasl2

/-- Whether we can log in by the second generation. -/
def canLogin2 (s : Session) : Bool :=
  s.sasl2Feature?.any fun feature => (choose? s.config (offeredBy feature)).isSome

/-- What a login feature offers to do along with it: binding a resource. -/
def inlineBind? (feature : Element) : Option Element :=
  (feature.child? "inline" Namespace.sasl2).bind (·.child? "bind" Namespace.bind2)

/-- Whether binding along with the login can enable stream management. -/
def inlineManagement (bind : Element) : Bool :=
  (bind.child? "inline" Namespace.bind2).any fun inline =>
    inline.children.any fun c =>
      c.is "feature" Namespace.bind2 && c.attr "var" = some Namespace.streamManagement

/-- A child of the second generation that holds a text. -/
def textChild (name text : String) : Element :=
  .ofText name Namespace.sasl2 text

/-- How we introduce ourselves. -/
def userAgent (config : Config) : Element where
  name := "user-agent"
  ns := Namespace.sasl2
  attributes := [("id", config.userAgentId)]
  content := Element.nodes
    (textChild "software" config.software :: config.device.toList.map (textChild "device"))

/-- What we ask to be done along with the login. -/
def bindAlong (config : Config) (bind : Element) : Element where
  name := "bind"
  ns := Namespace.bind2
  content := Element.nodes
    (.ofText "tag" Namespace.bind2 config.software ::
      if inlineManagement bind && config.streamManagement then
        [Resumption.enable config.resumptionWindow]
      else [])

/-- **Logging in** by the second generation. With `bind` a resource is bound
along with it, if the server offers that. -/
def login2 (s : Session) (bind : Bool) : Session × Option Error :=
  match s.sasl2Feature? with
  | none => (s, some (.auth .noMechanism))
  | some feature =>
    match choose? s.config (offeredBy feature) with
    | none => (s, some (.auth .noMechanism))
    | some mechanism =>
      let along := if bind then inlineBind? feature else none
      let (data, mechanism) := mechanism.greet
      let s := (s.setAuthState .inProgress).fire (.authStarted mechanism.name)
      let s := s.write
        { name := "authenticate"
          ns := Namespace.sasl2
          attributes := [("mechanism", mechanism.name)]
          content := Element.nodes
            (userAgent s.config ::
              (if data.isEmpty then [] else
                [textChild "initial-response" (Base64.encode data)])
              ++ along.toList.map (bindAlong s.config)) }
      ({ s with logins :=
          { s.logins with sasl2 := some mechanism, bindRequested := along.isSome } }, none)

/-- A login of the second generation failed. -/
def failLogin2 (s : Session) (error : AuthError) : Session :=
  ({ s with logins := { s.logins with sasl2 := none, bindRequested := false }
     }.setAuthState .failed).fire (.authFailed error)

/-- The data an element holds. White space around them does not count, and
a single equals sign stands for none. -/
def decodeData (e : Element) : Except AuthError (List UInt8) :=
  let text := Text.trim e.text
  if text = "" ∨ text = "=" then .ok []
  else (Base64.decode text).mapError .base64

/-- The server challenges us. -/
def takeChallenge2 (s : Session) (e : Element) : Session :=
  match s.logins.sasl2 with
  | none => s
  | some mechanism =>
    match decodeData e with
    | .error error => s.failLogin2 error
    | .ok challenge =>
      match mechanism.respond challenge with
      | .error error => s.failLogin2 (.mechanism error)
      | .ok (answer, mechanism) =>
        let s := { s with logins := { s.logins with sasl2 := some mechanism } }
        s.write (textChild "response" (Base64.encode answer))

/-- Whether we accept what the server says last. -/
def judge (mechanism : Mechanism) (e : Element) : Except AuthError Unit := do
  let data ← match e.child? "additional-data" Namespace.sasl2 with
    | some data => decodeData data
    | none => .ok []
  (mechanism.accept data).mapError .mechanism

/-- The address we are logged in as. -/
def authorized (e : Element) : Except Error Jid :=
  match e.child? "authorization-identifier" Namespace.sasl2 with
  | none => .error (.protocol (.missingAttribute "success" "authorization-identifier"))
  | some identifier => (Jid.parse (Text.trim identifier.text)).mapError .jid

/-- What the server enabled along with binding. -/
def enabledAlong? (e : Element) : Option Element :=
  (e.child? "bound" Namespace.bind2).bind (·.child? "enabled" Namespace.streamManagement)

/-- The server accepts us, and tells what was done along with it. -/
def takeSuccess2 (s : Session) (e : Element) : Session × Option Error :=
  match s.logins.sasl2 with
  | none => (s, none)
  | some mechanism =>
    let s := { s with logins := { s.logins with sasl2 := none } }
    match judge mechanism e with
    | .error error => (s.failLogin2 error, none)
    | .ok () =>
      match authorized e with
      | .error error => (s, some error)
      | .ok jid =>
        let inline := s.logins.bindRequested && !jid.isBare
        let s := { s with logins := { s.logins with bindRequested := false } }
        let s := (s.setAuthState .succeeded).fire (.authSucceeded false inline)
        if inline then
          match (enabledAlong? e).map Resumption.Enabled.read? with
          | some none => s.malformed
          | some (some enabled) => ((s.takeEnabled enabled).fire (.bound jid true), none)
          | none => (s.fire (.bound jid true), none)
        else (s, none)

/-- The condition a refusal names. -/
def refusal (e : Element) : String :=
  match e.children.find? fun c => c.ns == Namespace.sasl && c.name != "text" with
  | some condition => condition.name
  | none => "undefined-condition"

/-- **Handling an element of the second generation.** Tasks after the login
are not supported. -/
def handleSasl2 (s : Session) (e : Element) : Session × Option Error :=
  if e.name == "challenge" then (s.takeChallenge2 e, none)
  else if e.name == "success" then s.takeSuccess2 e
  else if e.name == "failure" then (s.failLogin2 (.refused2 (refusal e)), none)
  else if e.name == "continue" then (s.failLogin2 (.refused2 "continue"), none)
  else (s, some (.protocol (.unexpectedElement e.name)))

/-! ## Summaries -/

/-- The name of the mechanism of an exchange under way, for people. -/
def mechanismSummary (mechanism : Option Mechanism) : String :=
  match mechanism with
  | some m => "Some(" ++ Text.quoted m.name ++ ")"
  | none => "None"

/-- The login of the first generation, for people. -/
def saslSummary (s : Session) : String :=
  "SaslModule \x7b mechanism: " ++ mechanismSummary s.logins.sasl ++ " \x7d"

/-- The login of the second generation, for people. -/
def sasl2Summary (s : Session) : String :=
  "Sasl2Module \x7b mechanism: " ++ mechanismSummary s.logins.sasl2 ++ ", bind_requested: "
    ++ toString s.logins.bindRequested ++ " \x7d"

end Session

end Xmpp
