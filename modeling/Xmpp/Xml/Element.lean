/-!
# Elements

Everything that crosses the wire here is a parsed XML element: a name, a
namespace, attributes and a content in which child elements and runs of
characters alternate in any way. Nothing is ever read from or written to
bytes, so there is no notion of a namespace declaration and no text to
escape.

Attributes are a list of pairs with distinct keys. Their order carries no
meaning, and a look-up takes the first pair of a key.

An element is a *stanza* when its name is one of `iq`, `message` and
`presence`, whatever its namespace. Stanzas are what stream management
counts and what can be answered.
-/

namespace Xmpp

/-- One item of the content of an element: a child or a run of
characters. -/
inductive Node (α : Type) where
  /-- A child element. -/
  | child (element : α)
  /-- A run of characters. -/
  | text (characters : String)

/-- **An XML element** with its namespace resolved. -/
structure Element where
  /-- The local name. -/
  name : String
  /-- The namespace. -/
  ns : String
  /-- The attributes, with distinct keys. -/
  attributes : List (String × String) := []
  /-- Children and characters, in document order. -/
  content : List (Node Element) := []

namespace Element

mutual

/-- Equality of elements, decided item by item. -/
def decEq : (a b : Element) → Decidable (a = b)
  | ⟨n, s, as, c⟩, ⟨n', s', as', c'⟩ =>
    match decEqContent c c' with
    | isFalse h => isFalse fun e => h (by cases e; rfl)
    | isTrue h =>
      if g : n = n' ∧ s = s' ∧ as = as' then
        isTrue (by rw [g.1, g.2.1, g.2.2, h])
      else isFalse fun e => g (by cases e; exact ⟨rfl, rfl, rfl⟩)

/-- Equality of contents, decided item by item. -/
def decEqContent : (a b : List (Node Element)) → Decidable (a = b)
  | [], [] => isTrue rfl
  | [], _ :: _ => isFalse (by simp)
  | _ :: _, [] => isFalse (by simp)
  | .text _ :: _, .child _ :: _ => isFalse (by simp)
  | .child _ :: _, .text _ :: _ => isFalse (by simp)
  | .text t :: r, .text t' :: r' =>
    match decEqContent r r' with
    | isFalse h => isFalse (by simp [h])
    | isTrue h => if g : t = t' then isTrue (by rw [g, h]) else isFalse (by simp [g])
  | .child e :: r, .child e' :: r' =>
    match decEq e e', decEqContent r r' with
    | isTrue h, isTrue g => isTrue (by rw [h, g])
    | isFalse h, _ => isFalse (by simp [h])
    | _, isFalse g => isFalse (by simp [g])

end

instance : DecidableEq Element := decEq

instance : Inhabited Element := ⟨{ name := "", ns := "" }⟩

/-- The value of an attribute, if the element carries it. -/
def attr (e : Element) (key : String) : Option String :=
  e.attributes.lookup key

/-- The element with one attribute set, in place if it was there. -/
def setAttr (e : Element) (key value : String) : Element :=
  { e with attributes :=
      if e.attributes.any (·.1 == key) then
        e.attributes.map fun a => if a.1 == key then (key, value) else a
      else e.attributes ++ [(key, value)] }

/-- Replacing an attribute in its place changes what is looked up under its
key and nothing else. -/
theorem lookup_replace (key value other : String) (attributes : List (String × String)) :
    (attributes.map fun a => if a.1 == key then (key, value) else a).lookup other =
      if other = key then (attributes.lookup key).map fun _ => value
      else attributes.lookup other := by
  induction attributes with
  | nil => simp
  | cons a rest ih =>
    obtain ⟨k, v⟩ := a
    by_cases ho : other = key <;> by_cases hk : k = key <;> by_cases hok : other = k <;>
      simp_all [List.lookup_cons] <;> grind

/-- A key is looked up with success if some attribute has it. -/
theorem isSome_lookup (key : String) (attributes : List (String × String)) :
    (attributes.lookup key).isSome = attributes.any (·.1 == key) := by
  induction attributes with
  | nil => rfl
  | cons a rest ih =>
    rw [List.lookup_cons, List.any_cons, BEq.comm (a := a.1)]
    cases key == a.1 with
    | true => rfl
    | false => exact ih

@[simp] theorem attr_setAttr (e : Element) (key value other : String) :
    (e.setAttr key value).attr other = if other = key then some value else e.attr other := by
  simp only [setAttr, attr, ← isSome_lookup]
  cases h : e.attributes.lookup key with
  | some old =>
    rw [Option.isSome_some, if_pos rfl, lookup_replace, h]
    rfl
  | none =>
    rw [if_neg (by simp), List.lookup_append]
    by_cases ho : other = key
    · simp [ho, h]
    · rw [List.lookup_cons, beq_eq_false_iff_ne.2 ho]
      simp [ho]

/-- The child elements in document order. -/
def children (e : Element) : List Element :=
  e.content.filterMap fun
    | .child c => some c
    | .text _ => none

/-- The runs of characters directly inside the element, in document
order. -/
def runs (e : Element) : List String :=
  e.content.filterMap fun
    | .child _ => none
    | .text t => some t

/-- The characters directly inside the element, joined. -/
def text (e : Element) : String :=
  e.runs.foldl (· ++ ·) ""

/-- Whether the element has this name and this namespace. -/
def is (e : Element) (name ns : String) : Bool :=
  e.name == name && e.ns == ns

/-- The first child with this name and this namespace. -/
def child? (e : Element) (name ns : String) : Option Element :=
  e.children.find? (·.is name ns)

/-- The children in one namespace. -/
def childrenIn (e : Element) (ns : String) : List Element :=
  e.children.filter (·.ns == ns)

/-- Whether the element is an `iq`, a `message` or a `presence`. -/
def isStanza (e : Element) : Bool :=
  e.name == "iq" || e.name == "message" || e.name == "presence"

/-- Attributes of which some may be absent. -/
def present (attributes : List (String × Option String)) : List (String × String) :=
  attributes.filterMap fun a => a.2.map fun value => (a.1, value)

/-- An element holding nothing but these characters. -/
def ofText (name ns characters : String) : Element :=
  { name, ns, content := [.text characters] }

/-- The content made of these children alone. -/
def nodes (children : List Element) : List (Node Element) :=
  children.map .child

@[simp] theorem children_mk (name ns : String) (as : List (String × String))
    (cs : List Element) :
    children { name, ns, attributes := as, content := nodes cs } = cs := by
  induction cs with
  | nil => rfl
  | cons c cs ih =>
    simp only [children, nodes, List.map_cons, List.filterMap_cons] at ih ⊢
    rw [ih]

@[simp] theorem text_ofText (name ns t : String) : (ofText name ns t).text = t := by
  simp [ofText, text, runs]

end Element

end Xmpp
