/-!
# Conditions of stanza errors

The closed list of conditions an error stanza may name, and the five kinds
of error, which tell the sender what to do about it.
-/

namespace Xmpp

/-- **The defined conditions** of a stanza error. -/
inductive Condition where
  /-- The request is malformed. -/
  | badRequest
  /-- Something of this name exists already. -/
  | conflict
  /-- The receiver does not know this feature. -/
  | featureNotImplemented
  /-- The sender lacks the permission. -/
  | forbidden
  /-- The receiver has moved for good. -/
  | gone
  /-- The receiver failed internally. -/
  | internalServerError
  /-- There is no such item. -/
  | itemNotFound
  /-- An address is malformed. -/
  | jidMalformed
  /-- A criterion of the receiver is not met. -/
  | notAcceptable
  /-- Nobody may do this. -/
  | notAllowed
  /-- The sender has to authenticate first. -/
  | notAuthorized
  /-- A policy of the receiver is violated. -/
  | policyViolation
  /-- The receiver is unavailable for now. -/
  | recipientUnavailable
  /-- The receiver has moved for now. -/
  | redirect
  /-- The sender has to register first. -/
  | registrationRequired
  /-- There is no such remote server. -/
  | remoteServerNotFound
  /-- A remote server, or the peer itself, did not answer in time. -/
  | remoteServerTimeout
  /-- The receiver lacks resources. -/
  | resourceConstraint
  /-- The receiver does not offer this service. -/
  | serviceUnavailable
  /-- The sender has to subscribe first. -/
  | subscriptionRequired
  /-- None of the other conditions. -/
  | undefinedCondition
  /-- The request makes no sense at this point. -/
  | unexpectedRequest
deriving DecidableEq

namespace Condition

/-- All conditions. -/
def all : List Condition :=
  [.badRequest, .conflict, .featureNotImplemented, .forbidden, .gone,
   .internalServerError, .itemNotFound, .jidMalformed, .notAcceptable, .notAllowed,
   .notAuthorized, .policyViolation, .recipientUnavailable, .redirect,
   .registrationRequired, .remoteServerNotFound, .remoteServerTimeout,
   .resourceConstraint, .serviceUnavailable, .subscriptionRequired, .undefinedCondition,
   .unexpectedRequest]

/-- The name of the element that stands for a condition. -/
def name : Condition → String
  | .badRequest => "bad-request"
  | .conflict => "conflict"
  | .featureNotImplemented => "feature-not-implemented"
  | .forbidden => "forbidden"
  | .gone => "gone"
  | .internalServerError => "internal-server-error"
  | .itemNotFound => "item-not-found"
  | .jidMalformed => "jid-malformed"
  | .notAcceptable => "not-acceptable"
  | .notAllowed => "not-allowed"
  | .notAuthorized => "not-authorized"
  | .policyViolation => "policy-violation"
  | .recipientUnavailable => "recipient-unavailable"
  | .redirect => "redirect"
  | .registrationRequired => "registration-required"
  | .remoteServerNotFound => "remote-server-not-found"
  | .remoteServerTimeout => "remote-server-timeout"
  | .resourceConstraint => "resource-constraint"
  | .serviceUnavailable => "service-unavailable"
  | .subscriptionRequired => "subscription-required"
  | .undefinedCondition => "undefined-condition"
  | .unexpectedRequest => "unexpected-request"

/-- The condition an element of this name stands for. -/
def ofName? (name : String) : Option Condition :=
  all.find? (·.name == name)

theorem ofName?_name (c : Condition) : ofName? c.name = some c := by
  cases c <;> decide

theorem name_of_ofName? {s : String} {c : Condition} (h : ofName? s = some c) : c.name = s := by
  simpa using List.find?_some h

end Condition

/-- **What the sender should do** about a stanza error. -/
inductive ErrorKind where
  /-- Retry with credentials. -/
  | auth
  /-- Do not retry. -/
  | cancel
  /-- Go on, it was only a warning. -/
  | proceed
  /-- Retry with other data. -/
  | modify
  /-- Retry after a while. -/
  | wait
deriving DecidableEq

namespace ErrorKind

/-- All kinds. -/
def all : List ErrorKind :=
  [.auth, .cancel, .proceed, .modify, .wait]

/-- The value of the attribute that stands for a kind. -/
def name : ErrorKind → String
  | .auth => "auth"
  | .cancel => "cancel"
  | .proceed => "continue"
  | .modify => "modify"
  | .wait => "wait"

/-- The kind an attribute of this value stands for. -/
def ofName? (name : String) : Option ErrorKind :=
  all.find? (·.name == name)

theorem ofName?_name (k : ErrorKind) : ofName? k.name = some k := by
  cases k <;> decide

end ErrorKind

end Xmpp
