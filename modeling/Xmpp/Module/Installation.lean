import Xmpp.Module.Handling
import Xmpp.Module.Order

/-!
# Installing modules

Modules are installed in batches. A batch is a list of descriptors; it is
completed by what its modules need and put in order, so that every module
comes after the modules it needs. Once all of them are registered, each is
set up in that order, and the first that fails ends the installation. What
was registered until then stays.

A registered module occupies a slot. While it is being set up its slot is
vacant: a module that looks around meanwhile sees the others, but not
itself.
-/

namespace Xmpp

/-- **A descriptor**: which module to install, and the tag of its instance
if it was made by the application. -/
structure Descriptor where
  /-- The module. -/
  id : ModuleId
  /-- The modules it needs. -/
  requires : List ModuleId
  /-- The tag of its instance. -/
  tag : Option String := none
deriving DecidableEq

namespace Descriptor

/-- The descriptor of a module as others need it. -/
def default (catalogue : Catalogue) (id : ModuleId) : Descriptor where
  id := id
  requires := (catalogue.facts id).requires

/-- A descriptor for people. -/
def summary (d : Descriptor) : String :=
  "ModuleDescriptor \x7b name: " ++ Text.quoted d.id.name ++ ", requires: "
    ++ toString d.requires.length ++ " \x7d"

/-- The descriptor of a module in a batch: the last one given, or the
default one if there is none. -/
def select (catalogue : Catalogue) (batch : List Descriptor) (id : ModuleId) : Descriptor :=
  (batch.reverse.find? (·.id = id)).getD (default catalogue id)

/-- **The order in which a batch is installed** when these modules are there
already. -/
def resolve (catalogue : Catalogue) (batch : List Descriptor) (installed : List ModuleId) :
    Except ConfigurationError (List Descriptor) :=
  let needs id := (select catalogue batch id).requires
  let all := batch.flatMap (·.requires) ++ catalogue.needed
  match Order.arrange needs (Order.nodes needs all installed (batch.map (·.id))) with
  | .ok order => .ok (order.map (select catalogue batch))
  | .error stuck => .error (.dependencyCycle (stuck.map ModuleId.name))

end Descriptor

/-- **An instance of a module.** -/
structure Occupant where
  /-- The tag the application gave it. -/
  tag : Option String := none
  /-- How often it was set up. -/
  timesSetUp : Nat := 0
deriving DecidableEq

/-- **A slot** of the registry of modules. -/
structure Slot where
  /-- The module it belongs to. -/
  id : ModuleId
  /-- Which elements the module handles. -/
  criterion : Option Criterion
  /-- The features the module stands for. -/
  features : List String
  /-- The module, unless it is being set up. -/
  occupant : Option Occupant

/-- **The registered modules**, in the order of installation. -/
structure Modules where
  /-- The slots. -/
  slots : List Slot := []

namespace Modules

/-- The identities of the modules. -/
def ids (m : Modules) : List ModuleId :=
  m.slots.map (·.id)

/-- The names of the modules. -/
def names (m : Modules) : List String :=
  m.slots.map (·.id.name)

/-- Whether a module is registered. -/
def contains (m : Modules) (id : ModuleId) : Bool :=
  m.slots.any (·.id = id)

/-- The instance of a module. -/
def occupant? (m : Modules) (id : ModuleId) : Option Occupant :=
  (m.slots.find? (·.id = id)).bind (·.occupant)

/-- The instance of a module that has to be there. -/
def require (m : Modules) (id : ModuleId) : Except ConfigurationError Occupant :=
  match m.occupant? id with
  | some occupant => .ok occupant
  | none => .error (.missingModule id.name)

/-- The features all modules stand for, each once. -/
def features (m : Modules) : List String :=
  Order.fresh [] (m.slots.flatMap (·.features))

/-- The slots of the modules that handle an element. -/
def targets (m : Modules) (e : Element) : List Slot :=
  m.slots.filter fun slot => slot.criterion.any (·.selects e)

/-- The names of the modules, for people. -/
def summary (m : Modules) : String :=
  Text.listed (m.names.map Text.quoted)

/-- Changes who occupies the slot of a module. -/
def occupy (m : Modules) (id : ModuleId) (occupant : Option Occupant) : Modules :=
  ⟨m.slots.map fun slot => if slot.id = id then { slot with occupant } else slot⟩

/-- Registers a module. -/
def register (m : Modules) (catalogue : Catalogue) (d : Descriptor) : Modules :=
  let facts := catalogue.facts d.id
  ⟨m.slots ++
    [{ id := d.id
       criterion := facts.criterion
       features := facts.features
       occupant := some { tag := d.tag } }]⟩

end Modules

namespace Session

/-- **Setting up a module** that has this tag and sees these modules. -/
def setUp (s : Session) (id : ModuleId) (tag : Option String) (modules : Modules) :
    Session × Option Error :=
  match id with
  | .disco => ({ s with advertised := modules.features }, none)
  | .extra name =>
    let description := s.catalogue.describe name
    let line := Note.setUp name tag modules.names modules.features (modules.occupant? id).isSome
    (s.noteFor description line).actAll description.setUp
  | _ => (s, none)

end Session

namespace Modules

/-- Sets up the module in a slot, which is vacant meanwhile. -/
def setUp (m : Modules) (s : Session) (id : ModuleId) : Modules × Session × Option Error :=
  match m.occupant? id with
  | none => (m, s, some .invalidState)
  | some occupant =>
    let (s, error) := s.setUp id occupant.tag (m.occupy id none)
    (m.occupy id (some { occupant with timesSetUp := occupant.timesSetUp + 1 }), s, error)

/-- Sets up modules in order, until one fails. -/
def setUpAll (m : Modules) (s : Session) : List ModuleId → Modules × Session × Option Error
  | [] => (m, s, none)
  | id :: rest =>
    match m.setUp s id with
    | (m, s, none) => m.setUpAll s rest
    | (m, s, some error) => (m, s, some error)

/-- **Installing a batch.** -/
def install (m : Modules) (s : Session) (batch : List Descriptor) :
    Modules × Session × Option Error :=
  match Descriptor.resolve s.catalogue batch m.ids with
  | .error e => (m, s, some (.configuration e))
  | .ok order =>
    (order.foldl (fun m d => m.register s.catalogue d) m).setUpAll s (order.map (·.id))

/-- A slot's module handles an element. -/
def process (slot : Slot) (s : Session) (e : Element) : Session × Option Error :=
  match slot.occupant with
  | none => (s, some .invalidState)
  | some occupant => s.handle slot.id occupant.tag e

end Modules

end Xmpp
