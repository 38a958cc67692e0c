import Xmpp.Delivery
import Xmpp.Login.Failure
import Xmpp.Text.Base64
import Xmpp.Text.Case

/-!
# Errors

Everything that can go wrong, by cause. Each type of error has a function
that words it for people, and the error at the top can also name the cause
it wraps.
-/

namespace Xmpp

/-- An error of the layer that reads and writes XML. -/
inductive XmlError where
  /-- The document ends too early. -/
  | endOfDocument
  /-- A prefix is malformed. -/
  | invalidPrefix
  /-- An element has no namespace. -/
  | missingNamespace
  /-- A prefix is declared twice. -/
  | duplicatePrefix
deriving DecidableEq

/-- The wording of an XML error. -/
def XmlError.message : XmlError → String
  | .endOfDocument => "the end of the document has been reached prematurely"
  | .invalidPrefix => "the prefix is invalid"
  | .missingNamespace => "the XML element is missing a namespace"
  | .duplicatePrefix => "the prefix is already defined"

/-- **The peer broke the protocol.** -/
inductive ProtocolError where
  /-- What it sent is no XML. -/
  | xml (error : XmlError)
  /-- An element does not keep to its schema. -/
  | schema (detail : String)
  /-- The answer to a bind request makes no sense. -/
  | invalidBindResponse
  /-- The answer to a registration request makes no sense. -/
  | invalidRegistrationResponse
  /-- An attribute is missing. -/
  | missingAttribute (element key : String)
  /-- An element makes no sense at this point. -/
  | unexpectedElement (name : String)
deriving DecidableEq

/-- The wording of a protocol error. -/
def ProtocolError.message : ProtocolError → String
  | .xml e => "XML parser error: " ++ e.message
  | .schema detail => "error with expected stanza schema: " ++ detail
  | .invalidBindResponse => "invalid response to resource binding"
  | .invalidRegistrationResponse => "invalid response to in-band registration"
  | .missingAttribute element key =>
    "missing attribute " ++ key ++ " on <" ++ element ++ "/>"
  | .unexpectedElement name => "unexpected element <" ++ name ++ "/>"

/-- **A login mechanism cannot go on.** -/
inductive MechanismError where
  /-- The challenge is no text. -/
  | undecodableChallenge
  /-- The challenge has no nonce. -/
  | noServerNonce
  /-- The challenge has no salt. -/
  | noServerSalt
  /-- The challenge has no number of iterations. -/
  | noServerIterations
  /-- Nothing is to be answered at this point. -/
  | invalidState
  /-- The final data are no text. -/
  | undecodableSuccess
  /-- The final data have no signature. -/
  | noSignature
  /-- The signature is wrong: the server does not know the password. -/
  | invalidSignature
deriving DecidableEq

/-- The wording of an error of a mechanism. -/
def MechanismError.message : MechanismError → String
  | .undecodableChallenge => "can't decode challenge"
  | .noServerNonce => "no server nonce"
  | .noServerSalt => "no server salt"
  | .noServerIterations => "no server iterations"
  | .invalidState => "not in the right state to receive this response"
  | .undecodableSuccess => "can't decode success response"
  | .noSignature => "no signature in success response"
  | .invalidSignature => "invalid signature in success response"

/-- **Authentication failed.** -/
inductive AuthError where
  /-- No mechanism suits both sides. -/
  | noMechanism
  /-- Our side of the mechanism cannot go on. -/
  | mechanism (error : MechanismError)
  /-- The server refused, in the first generation of the protocol. -/
  | refused (failure : Login.Failure)
  /-- The server refused, in the second generation of the protocol, naming
  this condition. -/
  | refused2 (condition : String)
  /-- The server sent data that are no base64. -/
  | base64 (error : Base64.DecodeError)
deriving DecidableEq

/-- The wording of an authentication error. -/
def AuthError.message : AuthError → String
  | .noMechanism => "no matching SASL mechanism available"
  | .mechanism e => "local SASL implementation error: " ++ e.message
  | .refused f => "failure from the server: " ++ Text.inCapitals f.name
  | .refused2 c => "failure from the server: " ++ c
  | .base64 e => "invalid base64 from the server: " ++ e.message

/-- **The client is set up wrongly.** -/
inductive ConfigurationError where
  /-- These modules cannot be put in an order. -/
  | dependencyCycle (modules : List String)
  /-- A module is missing. -/
  | missingModule (name : String)
  /-- There is a password and nobody it could belong to. -/
  | missingCredentials
deriving DecidableEq

/-- The wording of a configuration error. -/
def ConfigurationError.message : ConfigurationError → String
  | .dependencyCycle modules =>
    "dependency cycle between modules: " ++ ", ".intercalate modules
  | .missingModule name => "module " ++ name ++ " is not installed"
  | .missingCredentials => "no usable credentials"

/-- **Any error** of the library. -/
inductive Error where
  /-- The transport failed. -/
  | io (error : IoError)
  /-- A text is no address. -/
  | jid (error : Jid.ParseError)
  /-- The peer broke the protocol. -/
  | protocol (error : ProtocolError)
  /-- Authentication failed. -/
  | auth (error : AuthError)
  /-- The client is set up wrongly. -/
  | configuration (error : ConfigurationError)
  /-- A stanza is refused; the error goes back to its sender. -/
  | stanza (error : StanzaError)
  /-- There is no transport. -/
  | notConnected
  /-- Something happened that cannot happen. -/
  | invalidState
deriving DecidableEq

/-- The wording of an error. -/
def Error.message : Error → String
  | .io e => "IO error: " ++ e.message
  | .jid e => "jid parse error: " ++ e.message
  | .protocol e => "protocol error: " ++ e.message
  | .auth e => "authentication error: " ++ e.message
  | .configuration e => "configuration error: " ++ e.message
  | .stanza e => "stanza error: " ++ Text.inCapitals e.condition.name
  | .notConnected => "not connected"
  | .invalidState => "invalid state"

/-- The wording of the cause an error wraps, if it has one of its own. -/
def Error.cause? : Error → Option String
  | .io e => some e.message
  | .protocol e => some e.message
  | .auth e => some e.message
  | .configuration e => some e.message
  | .jid _ | .stanza _ | .notConnected | .invalidState => none

end Xmpp
