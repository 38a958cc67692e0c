import Xmpp.Request.Error
import Xmpp.Registration.Form

/-!
# Events

What happens in a session is published as events. Modules and the handlers
of requests fire them, the controller reacts to them, and in the end each of
them is handed to the application.
-/

namespace Xmpp

/-- **The state of the transport** as its owner reports it. -/
inductive ConnectorState where
  /-- No transport. -/
  | disconnected
  /-- The transport is being set up. -/
  | connecting
  /-- The stream is open. -/
  | connected
  /-- The stream is being closed. -/
  | disconnecting
deriving DecidableEq

/-- **An event** of a session. -/
inductive Event where
  /-- The transport changed its state. -/
  | connector (old new : ConnectorState)
  /-- Stream features arrived and were stored. -/
  | features
  /-- The server closed the stream with an error. -/
  | streamError (condition : String) (text seeOtherHost : Option String)
  /-- The transport could not make sense of what the server sent. -/
  | parseError (message : String)
  /-- A login with this mechanism started. -/
  | authStarted (mechanism : String)
  /-- The login succeeded. The stream may have to be restarted, or a
  resource bound along with it. -/
  | authSucceeded (restartRequired inlineBound : Bool)
  /-- The login failed. -/
  | authFailed (error : AuthError)
  /-- A resource was bound, possibly along with the login. -/
  | bound (jid : Jid) (inline : Bool)
  /-- The server refused to bind a resource. -/
  | bindFailed (error : RequestError)
  /-- Stream management was enabled. -/
  | managementEnabled (id : Option String) (resume : Bool) (max : Option UInt32)
  /-- Enabling or resuming failed. -/
  | managementFailed (condition : Option Condition)
  /-- A session was resumed. -/
  | resumed (h : UInt32) (previd : String)
  /-- The server sent its registration form. -/
  | formReceived (form : Form)
  /-- The account was created. -/
  | registered
  /-- The account was not created. -/
  | registrationFailed (error : RequestError)
  /-- The session can be used. -/
  | ready
  /-- The session failed for good. -/
  | stopped (message : String)
  /-- The session failed, but a new connection may help. -/
  | reconnect (message : String) (immediately force : Bool)
  /-- An entity told its features. -/
  | discovered (jid : Jid) (features : List String)
  /-- The roster, or a change of it. -/
  | roster (query : Element)
  /-- A message arrived. -/
  | message (stanza : Element)
  /-- A presence arrived. -/
  | presence (stanza : Element)
deriving DecidableEq

end Xmpp
