import Xmpp.Module.Id
import Xmpp.Request.Basic
import Xmpp.Session.Properties

/-!
# Modules of the application

A module of the application is described by data: what it states about
itself, and the actions it takes when it is set up and when an element comes
in. The actions are what the session offers to every module. A list of
actions is carried out in order, and an error ends it.

The descriptions form a catalogue. It is consulted anew each time a module
is asked for or takes action.
-/

namespace Xmpp

/-- **An action** of a module of the application. -/
inductive Action where
  /-- Writes an element. -/
  | write (element : Element)
  /-- Sends a request. -/
  | request (draft : Draft)
  /-- Publishes an event. -/
  | fire (event : Event)
  /-- Restarts the stream. -/
  | restart
  /-- Closes the stream. -/
  | close
  /-- Clears a scope of the session properties. -/
  | clear (scope : Scope)
  /-- Gives up with an error. -/
  | fail (error : Error)

/-- **The description of a module** of the application. -/
structure Description where
  /-- What the module states about itself. -/
  facts : ModuleFacts := {}
  /-- What it does when it is set up. -/
  setUp : List Action := []
  /-- What it does with an element. -/
  handle : Element → List Action := fun _ => []
  /-- Whether its calls are recorded. -/
  recorded : Bool := false

/-- The descriptions of the modules of the application, by name. -/
abbrev Catalogue := List (String × Description)

namespace Catalogue

/-- The description of a module; without an entry it does nothing. -/
def describe (c : Catalogue) (name : String) : Description :=
  (c.lookup name).getD {}

/-- The facts about any module. -/
def facts (c : Catalogue) : ModuleId → ModuleFacts
  | .extra name => (c.describe name).facts
  | id => id.facts

/-- Every module that some module can need. -/
def needed (c : Catalogue) : List ModuleId :=
  ModuleId.builtIn ++ c.flatMap fun entry => entry.2.facts.requires

end Catalogue

/-- **A line of the record** of calls to code of the application. -/
inductive Note where
  /-- A handler of a request was called. -/
  | called (mark : Mark) (outcome : Outcome)
  /-- A transformation of a request ran. -/
  | transformed (mark : Mark) (fallible : Bool)
  /-- A module was set up, at a time when these modules and features were
  there; `seesItself` if it found itself among the modules at work. -/
  | setUp (name : String) (tag : Option String) (modules features : List String)
    (seesItself : Bool)
  /-- A module was handed an element of this name. -/
  | handled (name : String) (tag : Option String) (element : String)
deriving DecidableEq

/-- The line an effect adds to the record, if it is such a call. A
transformation of the library has no mark and adds none. -/
def Effect.note? : Effect → Option Note
  | .called mark outcome => some (.called mark outcome)
  | .transformed (some mark) fallible _ => some (.transformed mark fallible)
  | .transformed none _ _ | .fired _ | .settled _ _ => none

end Xmpp
