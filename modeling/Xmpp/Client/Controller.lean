import Xmpp.Session.Binding
import Xmpp.Session.Login
import Xmpp.Session.Registration
import Xmpp.Session.Services

/-!
# The controller

The controller takes a session from the first stream features to the point
where it can be used. It reacts to events: with features it logs in or
creates the account, after the login it resumes the old session or binds a
resource, and when the connection goes away it decides what is kept. It
never tries anything twice; failures are classified into those that a new
connection may overcome and those that it cannot.
-/

namespace Xmpp

/-- **What the controller remembers.** -/
structure Controller where
  /-- Whether the account was created by this client. -/
  registered : Bool := false
  /-- Whether the answer to a request to resume is outstanding. -/
  resuming : Bool := false
deriving DecidableEq

namespace Session

/-! ## Parts of a reaction -/

/-- The session failed for good. -/
def stop (s : Session) (message : String) : Session :=
  s.fire (.stopped message)

/-- Tells how starting a login went wrong, if it did. -/
def reportLogin : Session × Option Error → Session
  | (s, none) => s
  | (s, some (.auth e)) => s.stop ("Authentication error: " ++ e.message)
  | (s, some e) => s.stop e.message

/-- Forgets a session that cannot be resumed. -/
def forgetUnlessResumable (s : Session) : Session :=
  if s.canResume then s else s.resetManagement

/-- **Getting in**: by the second generation of the login protocol, by the
first, or by creating the account. A session that can be resumed keeps its
resource, so none is bound along with the login. -/
def getIn (s : Session) (registered : Bool) : Session :=
  let s := s.forgetUnlessResumable
  if s.canLogin2 then reportLogin (s.login2 !s.canResume)
  else if s.canLogin then reportLogin s.login
  else if !registered && s.config.registration.isSome && s.offersRegistration then
    s.requestForm.2
  else s.stop "No supported authentication or registration method"

/-- **The session has an address.** Asks the server and the account for their
features, announces itself, asks for the roster, and enables stream
management unless that was done along with the login. -/
def settleIn (s : Session) (jid : Jid) (inline : Bool) : Session :=
  let s := (s.setProperty .session Properties.boundKey jid).setOwnJid (some jid)
  match Jid.parse jid.domain with
  | .error e => s.stop (Error.jid e).message
  | .ok server =>
    let s := (s.requestFeatures server).2
    let s := (s.requestFeatures jid.bare).2
    let s := s.sendPresence.2
    let s := s.requestRoster.2
    let s := if inline then s else s.enableManagement.2
    s.fire .ready

/-- Ends the session: nothing of it is left. -/
def wrapUp (s : Session) : Session :=
  let s := (s.timeoutAll.resetManagement).clear .session
  s.setOwnJid (some s.config.jid)

/-- Keeps the session so that it can be resumed. -/
def suspend (s : Session) : Session :=
  s.deactivateManagement.clear .connection

/-- **The transport changed its state.** A stream that is closed ends the
session; a connection that is lost does so only if the session cannot be
resumed. -/
def followConnector (s : Session) (old new : ConnectorState) : Session :=
  match new with
  | .disconnecting => s.timeoutAll.resetManagement
  | .disconnected =>
    if old = .disconnecting ∨ s.canResume = false then s.wrapUp else s.suspend
  | .connecting | .connected => s

end Session

namespace Controller

/-- **After the login** the old session is resumed, or else a resource bound
if the server offers that. -/
def resumeOrBind (c : Controller) (s : Session) : Controller × Session :=
  if s.canResume then
    let (asked, s) := s.resume
    ({ c with resuming := asked }, s)
  else if s.properties.canBind then (c, s.bind.2)
  else (c, s)

/-- **Reacting to an event.** -/
def react (c : Controller) (s : Session) : Event → Controller × Session
  | .features =>
    match s.properties.authState with
    | .unknown => (c, s.getIn c.registered)
    | .succeeded => c.resumeOrBind s
    | .inProgress | .failed => (c, s)
  | .authSucceeded false false => c.resumeOrBind s
  | .authFailed e => (c, s.stop ("Authentication error: " ++ e.message))
  | .bound jid inline => (c, s.settleIn jid inline)
  | .bindFailed _ => (c, s.fire (.reconnect "Session bind error" false false))
  | .resumed _ _ => ({ c with resuming := false }, s.fire .ready)
  | .managementFailed _ =>
    if c.resuming then
      ({ c with resuming := false }, ((s.timeoutAll.clear .session).bind).2)
    else (c, s)
  | .formReceived form => (c, (s.submitForm (s.config.fill form)).2)
  | .registered => ({ c with registered := true }, s.close)
  | .registrationFailed e => (c, s.stop ("Registration error: " ++ e.message))
  | .parseError _ => (c, s.fire (.reconnect "Parse error" false false))
  | .streamError condition _ seeOtherHost =>
    let redirected := seeOtherHost.isSome
    (c, (s.clear .connection).fire
      (.reconnect ("Stream error: " ++ condition) redirected redirected))
  | .connector old new => (c, s.followConnector old new)
  | _ => (c, s)

end Controller

end Xmpp
