import Xmpp.Session.Basic

/-!
# Stream management

Stream management counts the stanzas of a session on both sides, so that
each side knows what the other has received, and a session whose connection
was lost can be resumed on another one. This file puts the counters and the
queue of `Resumption.Context` to work in a session: it asks to enable and to
resume, takes the answers, and exchanges reports.

A context that is replaced or forgotten takes its queue with it: what was
not confirmed until then is dropped. Only a context that was still waiting
to be enabled gives its queue up without a verdict, since the stanzas did go
out on a live stream.
-/

namespace Xmpp.Session

open Delivery Resumption

/-- The resumable session. -/
def resumption? (s : Session) : Option Context :=
  s.properties.resumption?

/-- Changes the resumable session in its place. -/
def modifyResumption (s : Session) (f : Context → Context) : Session :=
  { s with properties := s.properties.modify Properties.resumptionKey f }

/-- Marks entries as being in a state. -/
def mark (s : Session) (entries : List Entry) (state : State) : Session :=
  { s with board := s.board.setAll entries state }

/-- The stanzas the resumable session keeps. -/
def unconfirmed (s : Session) : List Entry :=
  match s.resumption? with
  | some context => context.unacked
  | none => []

/-- Forgets the resumable session, leaving its stanzas as they are. -/
def abandonResumption (s : Session) : Session :=
  if s.resumption?.isSome then
    { s with properties := s.properties.erase Properties.resumptionKey }
  else s

/-- **Forgetting the resumable session** without telling the server. -/
def resetManagement (s : Session) : Session :=
  (s.mark s.unconfirmed .dropped).abandonResumption

/-- Starts a resumable session instead of the one there was. -/
def startResumption (s : Session) (context : Context) : Session :=
  (s.mark s.unconfirmed .dropped).setProperty .session Properties.resumptionKey context

@[simp] theorem resumption?_mark (s : Session) (entries : List Entry) (state : State) :
    (s.mark entries state).resumption? = s.resumption? := rfl

@[simp] theorem resumption?_modifyResumption (s : Session) (f : Context → Context) :
    (s.modifyResumption f).resumption? = s.resumption?.map f :=
  Properties.get?_modify_self ..

@[simp] theorem resumption?_abandonResumption (s : Session) :
    s.abandonResumption.resumption? = none := by
  unfold abandonResumption
  cases h : s.resumption? with
  | none => exact h
  | some context => exact (Properties.get?_erase ..).trans (if_pos rfl)

@[simp] theorem resumption?_resetManagement (s : Session) :
    s.resetManagement.resumption? = none :=
  resumption?_abandonResumption _

@[simp] theorem resumption?_startResumption (s : Session) (context : Context) :
    (s.startResumption context).resumption? = some context :=
  s.properties.get?_set_self .session Properties.resumptionKey context

/-! ## Counting -/

/-- Counts an element that was received. -/
def countReceived (s : Session) (element : Element) : Session :=
  if element.isStanza then s.modifyResumption Context.recordReceived else s

/-- The stanzas the resumable session gives up for one more that was sent. -/
def evicted (s : Session) (entry : Entry) : List Entry :=
  match s.resumption? with
  | some context => context.evicted entry
  | none => []

/-- Counts an element that the transport took, and keeps it until it is
confirmed. The peer counts from the request to enable stream management on,
so that is where a new context starts. -/
def countSent (s : Session) (entry : Entry) : Session :=
  if entry.stanza.is "enable" Namespace.streamManagement then s.startResumption .start
  else
    (s.mark (s.evicted entry) .dropped).modifyResumption fun context => context.recordSent entry

/-! ## Asking -/

/-- The phase of the resumable session. -/
def managementStatus? (s : Session) : Option Status :=
  s.resumption?.map (·.status)

/-- The number of stanzas the server has not confirmed. -/
def unackedCount (s : Session) : Nat :=
  s.unconfirmed.length

/-- What is needed to resume the session. -/
def resumeInfo? (s : Session) : Option (String × UInt32) :=
  s.resumption?.bind Context.resumeInfo?

/-- Whether the session can be resumed. -/
def canResume (s : Session) : Bool :=
  s.resumeInfo?.isSome

/-- Whether stream management is wanted and offered. -/
def canManage (s : Session) : Bool :=
  s.config.streamManagement && (s.properties.feature? "sm" Namespace.streamManagement).isSome

/-- **Asking to enable stream management.** Tells whether the question was
asked. -/
def enableManagement (s : Session) : Bool × Session :=
  if s.canManage then (true, s.write (enable s.config.resumptionWindow)) else (false, s)

/-- **Asking to resume the session.** Tells whether the question was
asked. -/
def resume (s : Session) : Bool × Session :=
  match s.resumeInfo? with
  | some (previd, h) => (true, s.write (Resumption.resume h previd))
  | none => (false, s)

/-! ## Reports -/

/-- Whether the session is live and counted. -/
def isManaged (s : Session) : Bool :=
  s.managementStatus? = some .active

/-- Asks the peer how many stanzas it has handled. -/
def requestAck (s : Session) : Session :=
  if s.isManaged then s.write ackRequest else s

/-- Reports how many stanzas we have handled. -/
def sendAck (s : Session) (force : Bool) : Session :=
  match s.resumption?.bind (·.report? force) with
  | some h => (s.modifyResumption Context.recordReport).write (ack h)
  | none => s

/-- **Seeing to reports** from time to time: asks while something is
unconfirmed, and reports if there is something new to report. -/
def manage (s : Session) : Session :=
  if s.isManaged then
    (if 0 < s.unackedCount then s.requestAck else s).sendAck false
  else s

/-- The connection went away; the session is kept so that it can be
resumed. -/
def deactivateManagement (s : Session) : Session :=
  s.modifyResumption Context.deactivate

/-- The peer reported how many stanzas it has handled. -/
def acknowledge (s : Session) (h : UInt32) : Session :=
  match s.resumption? with
  | some context =>
    (s.mark (context.confirmed h) .acked).modifyResumption (·.acknowledge h)
  | none => s

theorem resumption?_acknowledge (s : Session) (h : UInt32) :
    (s.acknowledge h).resumption? = s.resumption?.map (·.acknowledge h) := by
  unfold acknowledge
  cases hs : s.resumption? with
  | none => simpa using hs
  | some context => simp [hs]

/-- A report changes the states of what it confirms. -/
theorem board_acknowledge {s : Session} {context : Context} (hs : s.resumption? = some context)
    (h : UInt32) :
    (s.acknowledge h).board = s.board.setAll (context.confirmed h) .acked := by
  simp [acknowledge, hs, modifyResumption, mark]

/-! ## Answers -/

/-- The event that tells how a session was enabled. -/
def enabledEvent (context : Context) : Event :=
  .managementEnabled context.id context.resumeInfo?.isSome context.max

/-- **The server enabled stream management.** A context that waits for it is
completed; otherwise a new one takes the place of the one there is. -/
def takeEnabled (s : Session) (e : Enabled) : Session :=
  let s := match s.managementStatus? with
    | some .pending => s.modifyResumption (·.enable e)
    | _ => s.startResumption (Context.start.enable e)
  match s.resumption? with
  | some context => s.fire (enabledEvent context)
  | none => s

/-- **The server resumed the session.** What it has handled is confirmed,
and the rest is sent again. -/
def takeResumed (s : Session) (r : Resumed) : Session × Option Error :=
  match s.resumption? with
  | none => (s, some (.protocol (.unexpectedElement "resumed")))
  | some context =>
    let again := context.unconfirmed r.h
    let s := (s.mark (context.confirmed r.h) .acked).modifyResumption (·.resumeAt r.h)
    ((s.resend again).fire (.resumed r.h r.previd), none)

/-- **Enabling or resuming failed.** A context that waited to be enabled is
given up; of any other one what the server reports to have handled is
confirmed, and the rest is dropped. -/
def takeFailed (s : Session) (f : Failed) : Session :=
  let s := match s.managementStatus? with
    | some .pending => s.abandonResumption
    | _ =>
      (match f.h with
        | some h => s.acknowledge h
        | none => s).resetManagement
  s.fire (.managementFailed f.condition)

/-- A malformed element of the peer. -/
def malformed (s : Session) : Session × Option Error :=
  (s, some (.protocol (.schema "")))

/-- **Handling an element of stream management.** -/
def handleManagement (s : Session) (e : Element) : Session × Option Error :=
  if e.name == "enabled" then
    match Enabled.read? e with
    | some enabled => (s.takeEnabled enabled, none)
    | none => s.malformed
  else if e.name == "resumed" then
    match Resumed.read? e with
    | some resumed => s.takeResumed resumed
    | none => s.malformed
  else if e.name == "failed" then (s.takeFailed (.salvage e), none)
  else if e.name == "a" then
    match readAck? e with
    | some h => (s.acknowledge h, none)
    | none => s.malformed
  else if e.name == "r" then (s.sendAck true, none)
  else (s, some (.protocol (.unexpectedElement e.name)))

end Xmpp.Session
