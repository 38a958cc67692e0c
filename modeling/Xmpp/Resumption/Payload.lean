import Xmpp.Stanza.Error
import Xmpp.Text.Decimal
import Xmpp.Text.Blank

/-!
# Elements of stream management

What the two sides of a stream tell each other about it. Three of the
elements a server sends are read by a strict schema: known attributes only,
no children, and no characters but blanks. The one that reports a failure is
read leniently, since servers put its condition and its counter in various
shapes.
-/

namespace Xmpp.Resumption

/-- Whether an element holds nothing but these attributes and blanks. -/
def isEmptyWith (e : Element) (keys : List String) : Bool :=
  e.hasOnly keys && e.isChildless && e.runs.all fun run => run.toList.all Text.isXmlBlank

/-- An attribute that may be missing but not malformed. -/
def optional {α : Type} (value : Option String) (read? : String → Option α) :
    Option (Option α) :=
  match value with
  | none => some none
  | some s => (read? s).map some

/-- A truth value, spelled out. -/
def truth? (s : String) : Option Bool :=
  if s = "true" then some true else if s = "false" then some false else none

/-- **The server enabled stream management.** -/
structure Enabled where
  /-- The name of the session, if it has one. -/
  id : Option String
  /-- Where the server would like the session to be resumed. -/
  location : Option String
  /-- For how many seconds it can be resumed. -/
  max : Option UInt32
  /-- Whether it can be resumed at all. -/
  resume : Bool
deriving DecidableEq

/-- Reading the element that enables stream management. -/
def Enabled.read? (e : Element) : Option Enabled :=
  if e.is "enabled" Namespace.streamManagement
      && isEmptyWith e ["id", "location", "max", "resume"] then do
    let max ← optional (e.attr "max") Decimal.unsigned32?
    let resume ← optional (e.attr "resume") truth?
    return { id := e.attr "id", location := e.attr "location", max, resume := resume.getD false }
  else none

/-- Reading an acknowledgement: the number of stanzas the peer has handled. -/
def readAck? (e : Element) : Option UInt32 :=
  if e.is "a" Namespace.streamManagement && isEmptyWith e ["h"] then
    (e.attr "h").bind Decimal.unsigned32?
  else none

/-- **The server resumed a session.** -/
structure Resumed where
  /-- The number of our stanzas it has handled. -/
  h : UInt32
  /-- The name of the session. -/
  previd : String
deriving DecidableEq

/-- Reading the element that resumes a session. -/
def Resumed.read? (e : Element) : Option Resumed :=
  if e.is "resumed" Namespace.streamManagement && isEmptyWith e ["h", "previd"] then do
    return { h := ← (e.attr "h").bind Decimal.unsigned32?, previd := ← e.attr "previd" }
  else none

/-- **Enabling or resuming failed.** -/
structure Failed where
  /-- The number of our stanzas the server has handled, if it says so. -/
  h : Option UInt32
  /-- Why it failed, if it says so. -/
  condition : Option Condition
deriving DecidableEq

/-- What an element that reports a failure says. Malformed parts count as
missing. -/
def Failed.salvage (e : Element) : Failed where
  h := (e.attr "h").bind Decimal.unsigned32?
  condition := StanzaError.findCondition? e

/-- The element that asks for stream management with resumption. -/
def enable (max : Option UInt32) : Element where
  name := "enable"
  ns := Namespace.streamManagement
  attributes := Element.present
    [("max", max.map fun n => toString n.toNat), ("resume", some "true")]

/-- The element that asks to resume a session. -/
def resume (h : UInt32) (previd : String) : Element where
  name := "resume"
  ns := Namespace.streamManagement
  attributes := [("h", toString h.toNat), ("previd", previd)]

/-- The element that asks for an acknowledgement. -/
def ackRequest : Element where
  name := "r"
  ns := Namespace.streamManagement

/-- The element that acknowledges stanzas. -/
def ack (h : UInt32) : Element where
  name := "a"
  ns := Namespace.streamManagement
  attributes := [("h", toString h.toNat)]

end Xmpp.Resumption
