import Xmpp.Delivery

/-!
# Transports

A transport is what the owner of a client attaches to it: the sending half
of a connection. It may refuse anything it is asked for. What it will refuse
is part of the value, so that a run of a client is a function of what it is
given: the fate of each attempt to send depends on how many attempts went
before it.

What a transport was asked for is recorded as *frames*.
-/

namespace Xmpp

/-- **A transport.** -/
structure Transport where
  /-- Why an attempt to send fails, if it does, by the number of attempts
  before it. -/
  refuses : Nat → Option IoError := fun _ => none
  /-- Why restarting the stream fails, if it does. -/
  restartFault : Option IoError := none
  /-- Why closing the stream fails, if it does. -/
  closeFault : Option IoError := none
  /-- Whether it can only send: it ignores restarts and closing. -/
  onlySends : Bool := false
  /-- The number of attempts to send so far. -/
  attempts : Nat := 0

/-- What a transport can be asked for. -/
inductive Transport.Operation where
  /-- Sending an element. -/
  | send
  /-- Restarting the stream. -/
  | restart
  /-- Closing the stream. -/
  | close
deriving DecidableEq

/-- **A frame**: something a transport was asked for. -/
inductive Frame where
  /-- It took an element, which is known by its token. -/
  | element (entry : Delivery.Entry)
  /-- It restarted the stream. -/
  | restart
  /-- It closed the stream. -/
  | close
  /-- It failed. -/
  | failed (operation : Transport.Operation)
deriving DecidableEq

namespace Transport

/-- **Sending an element**: the error if there is one, and the transport
after the attempt. -/
def send (t : Transport) : Option IoError × Transport :=
  (t.refuses t.attempts, { t with attempts := t.attempts + 1 })

/-- The frames of restarting the stream. -/
def restartFrames (t : Transport) : List Frame :=
  if t.onlySends then []
  else if t.restartFault.isSome then [.failed .restart]
  else [.restart]

/-- The frames of closing the stream. -/
def closeFrames (t : Transport) : List Frame :=
  if t.onlySends then []
  else if t.closeFault.isSome then [.failed .close]
  else [.close]

/-- A transport that takes a number of elements and fails with this error
ever after; without a number it fails at once, and without an error
never. -/
def limited (quota : Option Nat) (fault : Option IoError) (attempts : Nat) : Option IoError :=
  if quota.any (attempts < ·) then none else fault

end Transport

end Xmpp
