import Xmpp.Error

/-!
# Registration forms

A server that lets clients create accounts sends a form to be filled in. It
comes in two shapes: a data form, whose fields are elements with a name and
a value, and a plain query, whose fields are the child elements themselves,
except for the instructions and the mark that the account exists already.

A form keeps the fields in the order in which the server sent them, with
repetitions. A value may be missing, which in a plain query is the same as
an empty one. Setting a field changes the first one of its name, or adds it
at the end.
-/

namespace Xmpp

/-- **A registration form.** -/
structure Form where
  /-- Instructions for people. -/
  instructions : Option String := none
  /-- Names and values of the fields, in order. -/
  fields : List (String × Option String) := []
  /-- Whether it came as a data form. -/
  isDataForm : Bool := false
  /-- Whether the account exists already. -/
  isRegistered : Bool := false
deriving DecidableEq

namespace Form

/-- A field of a data form; one without a name is skipped. -/
def dataField? (e : Element) : Option (String × Option String) :=
  if e.is "field" Namespace.dataForms then
    (e.attr "var").map fun name => (name, (e.child? "value" Namespace.dataForms).map Element.text)
  else none

/-- The form a data form element stands for. -/
def ofDataForm (x : Element) : Form where
  instructions := (x.child? "instructions" Namespace.dataForms).map Element.text
  fields := x.children.filterMap dataField?
  isDataForm := true

/-- Adds what a child of a plain query says. -/
def addPlain (form : Form) (e : Element) : Form :=
  if e.name == "instructions" then { form with instructions := some e.text }
  else if e.name == "registered" then { form with isRegistered := true }
  else
    let text := e.text
    { form with
      fields := form.fields ++ [(e.name, if text.isEmpty then none else some text)] }

/-- The form a plain query stands for. -/
def ofPlainQuery (query : Element) : Form :=
  (query.childrenIn Namespace.register).foldl addPlain {}

/-- **The form in a reply.** A data form in the query takes precedence over
the rest of it. -/
def ofReply (reply : Element) : Except ProtocolError Form :=
  match reply.child? "query" Namespace.register with
  | none => .error .invalidRegistrationResponse
  | some query =>
    match query.child? "x" Namespace.dataForms with
    | some x => .ok (ofDataForm x)
    | none => .ok (ofPlainQuery query)

/-- The names of the fields, in order. -/
def fieldNames (form : Form) : List String :=
  form.fields.map (·.1)

/-- Whether there is a field of this name. -/
def has (form : Form) (name : String) : Bool :=
  form.fields.any (·.1 == name)

/-- The value of the first field of this name. -/
def get? (form : Form) (name : String) : Option String :=
  (form.fields.find? (·.1 == name)).bind (·.2)

/-- Sets the first field of a name, or adds it at the end. -/
def setField (name value : String) :
    List (String × Option String) → List (String × Option String)
  | [] => [(name, some value)]
  | f :: rest => if f.1 == name then (f.1, some value) :: rest else f :: setField name value rest

/-- The first field of a name after a field was set. -/
theorem find?_setField (name value other : String) (fields : List (String × Option String)) :
    (setField name value fields).find? (·.1 == other) =
      if name = other then some (name, some value) else fields.find? (·.1 == other) := by
  induction fields with
  | nil => by_cases h : name = other <;> simp [setField, h]
  | cons f rest ih =>
    rw [setField]
    by_cases h : name = other <;> by_cases hf : f.1 = name <;> by_cases ho : f.1 = other <;>
      simp_all

/-- The form with a field set. -/
def set (form : Form) (name value : String) : Form :=
  { form with fields := setField name value form.fields }

@[simp] theorem get?_set (form : Form) (name value other : String) :
    (form.set name value).get? other = if name = other then some value else form.get? other := by
  rw [get?, set, find?_setField]
  split <;> rfl

/-- The form with a suffix added to the value of a field. -/
def append (form : Form) (name suffix : String) : Form :=
  form.set name ((form.get? name).getD "" ++ suffix)

/-- The form with a field set if the server asked for it. -/
def setIfPresent (form : Form) (name value : String) : Form :=
  if form.has name then form.set name value else form

/-- The content that stands for a value. -/
def valueNodes (value : Option String) : List (Node Element) :=
  value.toList.map .text

/-- **The query that submits the form**, in the shape in which it came. -/
def submission (form : Form) : Element where
  name := "query"
  ns := Namespace.register
  content :=
    if form.isDataForm then
      [.child
        { name := "x"
          ns := Namespace.dataForms
          attributes := [("type", "submit")]
          content := Element.nodes (form.fields.map fun f =>
            { name := "field"
              ns := Namespace.dataForms
              attributes := [("var", f.1)]
              content := Element.nodes (f.2.toList.map fun value =>
                .ofText "value" Namespace.dataForms value) }) }]
    else
      Element.nodes (form.fields.map fun f =>
        { name := f.1, ns := Namespace.register, content := valueNodes f.2 })

end Form

end Xmpp
