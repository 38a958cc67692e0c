import Xmpp.Registration.Form
import Xmpp.Text.Base64

/-!
# Configuration

What an application decides about its session before it starts.
-/

namespace Xmpp

/-- What fills in a registration form on behalf of the application. -/
abbrev FormFiller := Form → Form

/-- **The configuration of a client.** Times are in milliseconds. -/
structure Config where
  /-- The account to log into, with the resource to ask for, if any. -/
  jid : Jid
  /-- The password; without one the login is anonymous. -/
  password : Option String := none
  /-- How long to wait for replies. -/
  requestTimeout : Nat := 30000
  /-- How often acknowledgements and timeouts are seen to. -/
  tickInterval : Nat := 2000
  /-- Whether to use stream management. -/
  streamManagement : Bool := true
  /-- For how many seconds the session should be resumable. -/
  resumptionWindow : Option UInt32 := none
  /-- What fills in the registration form, if the account is to be
  created. -/
  registration : Option (List FormFiller) := none
  /-- A name of this installation that does not change. -/
  userAgentId : String
  /-- The name of the software. -/
  software : String := "xmpp-session"
  /-- The name of the device. -/
  device : Option String := none
  /-- The nonce of a login that proves knowledge of the password: thirty-two
  random octets in base64. -/
  nonce : String := Base64.encode (List.replicate 32 0)

namespace Config

/-- What is known about registration, for people. -/
def registrationSummary? (config : Config) : Option String :=
  config.registration.map fun fillers =>
    "RegistrationConfig \x7b handlers: " ++ toString fillers.length ++ " \x7d"

/-- A registration form filled in: the user name and the password if there
are any, then by the fillers in their order. -/
def fill (config : Config) (form : Form) : Form :=
  let form := match config.jid.node with
    | some node => form.set "username" node
    | none => form
  let form := match config.password with
    | some password => form.set "password" password
    | none => form
  (config.registration.getD []).foldl (fun form filler => filler form) form

end Config

end Xmpp
