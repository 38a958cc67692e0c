import Xmpp.Stanza.Error

/-!
# Failures of authentication

What a server may say about an authentication that failed. It names a
condition of a closed list; a name outside the list counts as wrong
credentials.
-/

namespace Xmpp.Login

/-- **The conditions** of a failed authentication. -/
inductive Failure where
  /-- The client gave up. -/
  | aborted
  /-- The account is disabled. -/
  | accountDisabled
  /-- The credentials have expired. -/
  | credentialsExpired
  /-- The mechanism needs an encrypted stream. -/
  | encryptionRequired
  /-- The data is no base64. -/
  | incorrectEncoding
  /-- The identity asked for is invalid. -/
  | invalidAuthzid
  /-- The server does not offer the mechanism. -/
  | invalidMechanism
  /-- The request is malformed. -/
  | malformedRequest
  /-- The mechanism is too weak for this account. -/
  | mechanismTooWeak
  /-- The credentials are wrong. -/
  | notAuthorized
  /-- The server cannot tell at the moment. -/
  | temporaryAuthFailure
deriving DecidableEq

namespace Failure

/-- All conditions. -/
def all : List Failure :=
  [.aborted, .accountDisabled, .credentialsExpired, .encryptionRequired,
   .incorrectEncoding, .invalidAuthzid, .invalidMechanism, .malformedRequest,
   .mechanismTooWeak, .notAuthorized, .temporaryAuthFailure]

/-- The name of the element that stands for a condition. -/
def name : Failure → String
  | .aborted => "aborted"
  | .accountDisabled => "account-disabled"
  | .credentialsExpired => "credentials-expired"
  | .encryptionRequired => "encryption-required"
  | .incorrectEncoding => "incorrect-encoding"
  | .invalidAuthzid => "invalid-authzid"
  | .invalidMechanism => "invalid-mechanism"
  | .malformedRequest => "malformed-request"
  | .mechanismTooWeak => "mechanism-too-weak"
  | .notAuthorized => "not-authorized"
  | .temporaryAuthFailure => "temporary-auth-failure"

/-- The condition an element of this name stands for. -/
def ofName? (name : String) : Option Failure :=
  all.find? (·.name == name)

theorem ofName?_name (f : Failure) : ofName? f.name = some f := by
  cases f <;> decide

/-- What has been read of the children of a failure. -/
structure Parts where
  /-- The condition, once there was one. -/
  condition : Option Failure := none
  /-- The descriptions. -/
  texts : Texts := []

/-- Reads one more child: descriptions at most one per language, and one
condition. -/
def Parts.next? (p : Parts) (child : Element) : Option Parts :=
  if child.ns != Namespace.sasl then none
  else if child.name == "text" then (p.texts.read? child).map ({ p with texts := · })
  else if p.condition.isNone && child.isChildless && child.hasOnly [] then
    some { p with condition := some ((ofName? child.name).getD .notAuthorized) }
  else none

/-- **Reading a failure** by its schema. -/
def read? (e : Element) : Option Failure :=
  if e.is "failure" Namespace.sasl && e.hasOnly [] then do
    (← e.children.foldlM Parts.next? {}).condition
  else none

end Failure

end Xmpp.Login
