import Xmpp.Xml.Criterion

/-!
# Modules

What a client can do is divided into modules. Each of them says which
incoming elements it handles, which features it stands for, and which other
modules it needs. The built-in ones are a closed list; an application adds
its own by name.
-/

namespace Xmpp

/-- **The identity of a module.** -/
inductive ModuleId where
  /-- Keeps the stream features. -/
  | streamFeatures
  /-- Reports stream errors. -/
  | streamError
  /-- Logs in by the second generation of the protocol. -/
  | sasl2
  /-- Logs in by the first generation of the protocol. -/
  | sasl
  /-- Binds a resource. -/
  | bind
  /-- Creates the account. -/
  | registration
  /-- Counts stanzas and resumes sessions. -/
  | streamManagement
  /-- Sends and reports presence. -/
  | presence
  /-- Sends and reports messages. -/
  | message
  /-- Fetches the roster and takes changes of it. -/
  | roster
  /-- Asks for features and tells ours. -/
  | disco
  /-- A module of the application. -/
  | extra (name : String)
deriving DecidableEq

namespace ModuleId

/-- The name of a module. -/
def name : ModuleId → String
  | .streamFeatures => "stream-features"
  | .streamError => "stream-error"
  | .sasl2 => "sasl2"
  | .sasl => "sasl"
  | .bind => "bind"
  | .registration => "in-band-registration"
  | .streamManagement => "stream-management"
  | .presence => "presence"
  | .message => "message"
  | .roster => "roster"
  | .disco => "disco"
  | .extra name => name

/-- The modules every client has, in the order in which they are asked
for. -/
def builtIn : List ModuleId :=
  [.streamFeatures, .streamError, .sasl2, .sasl, .bind, .registration, .streamManagement,
   .presence, .message, .roster, .disco]

/-- The module of this name. -/
def ofName (name : String) : ModuleId :=
  (builtIn.find? (·.name == name)).getD (.extra name)

end ModuleId

/-- **What a module states about itself.** -/
structure ModuleFacts where
  /-- The modules it needs. -/
  requires : List ModuleId := []
  /-- The features it stands for. -/
  features : List String := []
  /-- Which elements it handles; `none` for a module that handles none. -/
  criterion : Option Criterion := none

/-- The facts about the built-in modules. -/
def ModuleId.facts : ModuleId → ModuleFacts
  | .streamFeatures => { criterion := some (.nameAndXmlns "features" Namespace.stream) }
  | .streamError => { criterion := some (.nameAndXmlns "error" Namespace.stream) }
  | .sasl2 =>
    { requires := [.streamFeatures, .bind], criterion := some (.xmlns Namespace.sasl2) }
  | .sasl => { requires := [.streamFeatures], criterion := some (.xmlns Namespace.sasl) }
  | .bind => { requires := [.streamFeatures] }
  | .registration => { requires := [.streamFeatures] }
  | .streamManagement =>
    { requires := [.streamFeatures], criterion := some (.xmlns Namespace.streamManagement) }
  | .presence => { criterion := some (.nameAndXmlns "presence" Namespace.client) }
  | .message => { criterion := some (.nameAndXmlns "message" Namespace.client) }
  | .roster => { criterion := some (.stanzaWith "iq" Namespace.roster) }
  | .disco =>
    { features := [Namespace.discoInfo]
      criterion := some (.stanzaWith "iq" Namespace.discoInfo) }
  | .extra _ => {}

end Xmpp
