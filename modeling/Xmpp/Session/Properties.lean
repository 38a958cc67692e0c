import Xmpp.Resumption.Context
import Xmpp.Text.Quoted

/-!
# Session properties

A session remembers things by name: how far the login has come, the stream
features, the address it is bound to, the resumable session, and whatever an
application adds. Every property has a *scope*, the lifetime it belongs to.
The scopes are nested, and clearing one clears all narrower ones along with
it.

A property has a type, and reading it as another type gives nothing. Setting
a property replaces the one of the same name, whatever its type and scope.
-/

namespace Xmpp

/-- **Lifetimes**, narrowest first. -/
inductive Scope where
  /-- Until the stream is restarted. -/
  | stream
  /-- Until the transport goes away. -/
  | connection
  /-- As long as the session can be resumed. -/
  | session
  /-- Until the application clears it. -/
  | user
deriving DecidableEq

namespace Scope

/-- The place of a scope in the order. -/
def rank : Scope → Nat
  | .stream => 0
  | .connection => 1
  | .session => 2
  | .user => 3

/-- The name of a scope. -/
def name : Scope → String
  | .stream => "Stream"
  | .connection => "Connection"
  | .session => "Session"
  | .user => "User"

instance : LE Scope := ⟨fun a b => a.rank ≤ b.rank⟩

instance (a b : Scope) : Decidable (a ≤ b) :=
  inferInstanceAs (Decidable (a.rank ≤ b.rank))

end Scope

/-- **How far the login on the current connection has come.** -/
inductive AuthState where
  /-- Nothing happened yet. -/
  | unknown
  /-- An exchange is under way. -/
  | inProgress
  /-- The server accepted our credentials. -/
  | succeeded
  /-- The server rejected our credentials. -/
  | failed
deriving DecidableEq

/-- **The value of a property.** -/
inductive Property where
  /-- A number. -/
  | number (value : UInt32)
  /-- A text. -/
  | text (value : String)
  /-- An element. -/
  | element (value : Element)
  /-- The state of the login. -/
  | auth (value : AuthState)
  /-- An address. -/
  | jid (value : Jid)
  /-- A resumable session. -/
  | resumption (value : Resumption.Context)
deriving DecidableEq

/-- Types whose values can be properties. -/
class Storable (α : Type) where
  /-- The property that holds a value. -/
  toProperty : α → Property
  /-- The value a property holds, if it is one of this type. -/
  ofProperty? : Property → Option α
  /-- A value is read back as itself. -/
  ofProperty?_toProperty : ∀ a, ofProperty? (toProperty a) = some a

instance : Storable UInt32 where
  toProperty := .number
  ofProperty? | .number n => some n | _ => none
  ofProperty?_toProperty _ := rfl

instance : Storable String where
  toProperty := .text
  ofProperty? | .text s => some s | _ => none
  ofProperty?_toProperty _ := rfl

instance : Storable Element where
  toProperty := .element
  ofProperty? | .element e => some e | _ => none
  ofProperty?_toProperty _ := rfl

instance : Storable AuthState where
  toProperty := .auth
  ofProperty? | .auth a => some a | _ => none
  ofProperty?_toProperty _ := rfl

instance : Storable Jid where
  toProperty := .jid
  ofProperty? | .jid j => some j | _ => none
  ofProperty?_toProperty _ := rfl

instance : Storable Resumption.Context where
  toProperty := .resumption
  ofProperty? | .resumption c => some c | _ => none
  ofProperty?_toProperty _ := rfl

/-- A property with its name and scope. -/
structure PropertyEntry where
  /-- The name. -/
  key : String
  /-- The scope. -/
  scope : Scope
  /-- The value. -/
  value : Property
deriving DecidableEq

/-- The property changed if it has this name and the type asked for. -/
def PropertyEntry.revise {α : Type} [Storable α] (key : String) (f : α → α)
    (entry : PropertyEntry) : PropertyEntry :=
  if entry.key == key then
    match Storable.ofProperty? entry.value with
    | some value => { entry with value := Storable.toProperty (f value) }
    | none => entry
  else entry

/-- **The properties of a session**, at most one of each name. -/
structure Properties where
  /-- The properties, the one set last first. -/
  entries : List PropertyEntry := []
deriving DecidableEq

namespace Properties

variable {α : Type} [Storable α]

/-- The property of a name. -/
def find? (p : Properties) (key : String) : Option PropertyEntry :=
  p.entries.find? (·.key == key)

/-- The properties without the one of a name. -/
def erase (p : Properties) (key : String) : Properties :=
  ⟨p.entries.filter (·.key != key)⟩

/-- Sets a property. -/
def set (p : Properties) (scope : Scope) (key : String) (value : α) : Properties :=
  ⟨⟨key, scope, Storable.toProperty value⟩ :: (p.erase key).entries⟩

/-- Reads a property, if it has the type asked for. -/
def get? (p : Properties) (key : String) : Option α :=
  (p.find? key).bind fun entry => Storable.ofProperty? entry.value

/-- Whether there is a property of this name. -/
def contains (p : Properties) (key : String) : Bool :=
  (p.find? key).isSome

/-- Changes a property in its place, if it has the type asked for. -/
def modify (p : Properties) (key : String) (f : α → α) : Properties :=
  ⟨p.entries.map (·.revise key f)⟩

/-- Removes a property, if it has the type asked for, and tells its
value. -/
def take? (p : Properties) (key : String) : Option (α × Properties) :=
  (p.get? key).map fun value => (value, p.erase key)

/-- **Clearing a scope** and all narrower ones. -/
def clear (p : Properties) (scope : Scope) : Properties :=
  ⟨p.entries.filter fun entry => !decide (entry.scope ≤ scope)⟩

/-- What clearing a scope removes. -/
def cleared (p : Properties) (scope : Scope) : List PropertyEntry :=
  p.entries.filter fun entry => entry.scope ≤ scope

/-! ## The properties of the library -/

/-- The name of the state of the login. -/
def authKey : String := "auth-state"

/-- The name of the address the session is bound to. -/
def boundKey : String := "bound-jid"

/-- The name of the stream features. -/
def featuresKey : String := "stream-features"

/-- The name of the resumable session. -/
def resumptionKey : String := "sm-state"

/-- How far the login has come. -/
def authState (p : Properties) : AuthState :=
  (p.get? authKey).getD .unknown

/-- The address the session is bound to. -/
def boundJid? (p : Properties) : Option Jid :=
  p.get? boundKey

/-- The stream features received last on this stream. -/
def features? (p : Properties) : Option Element :=
  p.get? featuresKey

/-- The stream feature with this name and namespace. -/
def feature? (p : Properties) (name ns : String) : Option Element :=
  p.features?.bind fun features => features.child? name ns

/-- Whether the server offers to bind a resource. -/
def canBind (p : Properties) : Bool :=
  (p.feature? "bind" Namespace.bind).isSome

/-- The resumable session. -/
def resumption? (p : Properties) : Option Resumption.Context :=
  p.get? resumptionKey

/-! ## Summary -/

/-- Properties are listed by scope, those of one scope by name. -/
def listedBefore (a b : PropertyEntry) : Bool :=
  a.scope.rank < b.scope.rank || (a.scope = b.scope && a.key ≤ b.key)

/-- Names and scopes of the properties, for people. -/
def summary (p : Properties) : String :=
  let keys := (p.entries.mergeSort listedBefore).map fun entry =>
    "(" ++ entry.scope.name ++ ", " ++ Text.quoted entry.key ++ ")"
  "SessionObject \x7b keys: " ++ Text.listed keys ++ " \x7d"

/-! ## Laws -/

@[simp] theorem get?_set_self (p : Properties) (scope : Scope) (key : String) (value : α) :
    (p.set scope key value).get? key = some value := by
  simp [get?, find?, set, Storable.ofProperty?_toProperty]

theorem get?_set_of_ne (p : Properties) (scope : Scope) {key other : String} (value : α)
    {β : Type} [Storable β] (h : other ≠ key) :
    (p.set scope key value).get? (α := β) other = p.get? other := by
  have hk : (key == other) = false := by simpa using Ne.symm h
  simp only [get?, find?, set, erase, List.find?_cons, hk, List.find?_filter]
  congr 2
  funext entry
  by_cases he : entry.key = other <;> simp [he, h]

@[simp] theorem get?_erase (p : Properties) (key other : String) :
    (p.erase key).get? (α := α) other = if other = key then none else p.get? other := by
  simp only [get?, find?, erase, List.find?_filter]
  split
  · subst_vars
    rw [List.find?_eq_none.2 (by simp)]
    rfl
  · rename_i h
    congr 2
    funext entry
    by_cases he : entry.key = other <;> simp [he, h]

/-- Changing a property leaves its name as it is. -/
@[simp] theorem key_revise (key : String) (f : α → α) (entry : PropertyEntry) :
    (entry.revise key f).key = entry.key := by
  unfold PropertyEntry.revise
  split
  · split <;> rfl
  · rfl

theorem find?_modify (p : Properties) (key other : String) (f : α → α) :
    (p.modify key f).find? other = (p.find? other).map (·.revise key f) := by
  simp only [find?, modify, List.find?_map, Function.comp_def, key_revise]

@[simp] theorem get?_modify_self (p : Properties) (key : String) (f : α → α) :
    (p.modify key f).get? key = (p.get? key).map f := by
  simp only [get?, find?_modify]
  cases hf : p.find? key with
  | none => rfl
  | some entry =>
    have he : entry.key = key := by simpa using List.find?_some hf
    simp only [Option.map_some, Option.bind_some, PropertyEntry.revise, he, beq_self_eq_true,
      if_true]
    cases hv : Storable.ofProperty? (α := α) entry.value with
    | none => simp [hv]
    | some value => simp [Storable.ofProperty?_toProperty]

theorem get?_modify_of_ne (p : Properties) {key other : String} (f : α → α) {β : Type}
    [Storable β] (h : other ≠ key) :
    (p.modify key f).get? (α := β) other = p.get? other := by
  simp only [get?, find?_modify]
  cases hf : p.find? other with
  | none => rfl
  | some entry =>
    have he : entry.key = other := by simpa using List.find?_some hf
    simp [PropertyEntry.revise, he, h]

end Properties

end Xmpp
