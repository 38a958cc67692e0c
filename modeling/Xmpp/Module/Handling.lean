import Xmpp.Session.Binding
import Xmpp.Session.Login
import Xmpp.Session.Registration
import Xmpp.Session.Services

/-!
# Handling elements by modules

What each module does with an element that was routed to it. A built-in
module does what its part of the session does; a module of the application
takes the actions of its description. Either way an error is left to
whoever routed the element.
-/

namespace Xmpp.Session

/-- **Taking an action.** -/
def act (s : Session) : Action → Session × Option Error
  | .write element => (s.write element, none)
  | .request draft => (s.post draft, none)
  | .fire event => (s.fire event, none)
  | .restart => (s.restart, none)
  | .close => (s.close, none)
  | .clear scope => (s.clear scope, none)
  | .fail error => (s, some error)

/-- Taking actions in order, until one fails. -/
def actAll (s : Session) : List Action → Session × Option Error
  | [] => (s, none)
  | action :: rest =>
    match s.act action with
    | (s, none) => s.actAll rest
    | (s, some error) => (s, some error)

/-- Adds a line to the record if it is kept for this description. -/
def noteFor (s : Session) (description : Description) (line : Note) : Session :=
  if description.recorded then s.note line else s

/-- A module of the application handles an element. -/
def handleExtra (s : Session) (name : String) (tag : Option String) (e : Element) :
    Session × Option Error :=
  let description := s.catalogue.describe name
  (s.noteFor description (.handled name tag e.name)).actAll (description.handle e)

/-- **Handling an element** by the module of this identity, whose instance
has this tag. -/
def handle (s : Session) (id : ModuleId) (tag : Option String) (e : Element) :
    Session × Option Error :=
  match id with
  | .streamFeatures => (s.takeFeatures e, none)
  | .streamError => (s.takeStreamError e, none)
  | .sasl2 => s.handleSasl2 e
  | .sasl => s.handleSasl e
  | .bind => (s, none)
  | .registration => (s, none)
  | .streamManagement => s.handleManagement e
  | .presence => (s.fire (.presence e), none)
  | .message => (s.fire (.message e), none)
  | .roster => s.handleRoster e
  | .disco => s.handleDiscovery e
  | .extra name => s.handleExtra name tag e

end Xmpp.Session
