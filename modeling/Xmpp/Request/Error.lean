import Xmpp.Error

/-!
# Failures of requests

A request that produced no value did so for one of these reasons. A request
that was not answered in time fails as if the peer had answered with the
condition `remote-server-timeout`.
-/

namespace Xmpp

/-- **Why a value could not be transformed.** -/
inductive TransformError where
  /-- The reply breaks the protocol. -/
  | protocol (error : ProtocolError)
  /-- Any other reason, in words. -/
  | reason (text : String)
deriving DecidableEq

/-- The wording of a transformation error. -/
def TransformError.message : TransformError → String
  | .protocol e => e.message
  | .reason text => text

/-- **Why a request failed.** -/
inductive RequestError where
  /-- The peer answered with an error, or not in time. -/
  | stanza (condition : Condition) (text : Option String)
  /-- The reply could not be made into a value. -/
  | transform (error : TransformError)
  /-- It was cancelled. -/
  | cancelled
  /-- There was no transport. -/
  | notConnected
  /-- The transport refused it. -/
  | send (error : IoError)
  /-- The client went away first. -/
  | abandoned
deriving DecidableEq

namespace RequestError

/-- The failure of a request that was not answered in time. -/
def timeout : RequestError :=
  .stanza .remoteServerTimeout none

/-- Whether the request was not answered in time. -/
def isTimeout (e : RequestError) : Bool :=
  match e with
  | .stanza condition _ => condition = .remoteServerTimeout
  | _ => false

/-- The condition an error of the peer names. -/
def condition? : RequestError → Option Condition
  | .stanza condition _ => some condition
  | _ => none

/-- The wording of a request error. -/
def message : RequestError → String
  | .stanza condition (some text) =>
    "error reply " ++ Text.inCapitals condition.name ++ ": " ++ text
  | .stanza condition none => "error reply " ++ Text.inCapitals condition.name
  | .transform e => "could not process reply: " ++ e.message
  | .cancelled => "request cancelled"
  | .notConnected => "not connected"
  | .send e => "send error: " ++ e.message
  | .abandoned => "client went away before the request was resolved"

/-- The wording of the cause a request error wraps. -/
def cause? : RequestError → Option String
  | .transform e => some e.message
  | .send e => some e.message
  | _ => none

end RequestError

end Xmpp
