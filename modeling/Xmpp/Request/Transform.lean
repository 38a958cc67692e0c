import Xmpp.Request.Pipeline
import Xmpp.Text.Decimal

/-!
# Ready-made transformations

Transformations an application can put into a pipeline. Used where failing
is allowed they fail on a value they do not apply to; used where it is not,
only those that always have a result on the right kind of value do anything,
and everything else passes unchanged.
-/

namespace Xmpp

/-- **A ready-made transformation.** -/
inductive Transform where
  /-- The characters of an element. -/
  | text
  /-- The name of an element. -/
  | name
  /-- An attribute of an element. -/
  | attr (key : String)
  /-- The first child of an element with this name and namespace. -/
  | child (name ns : String)
  /-- The number a text stands for. -/
  | int
  /-- A text with a suffix. -/
  | append (suffix : String)
  /-- A number increased by another. -/
  | add (summand : Int)
  /-- Always fails. -/
  | fail (reason : String)
deriving DecidableEq

namespace Transform

/-- What a transformation is called. -/
def label : Transform → String
  | .text => "text"
  | .name => "name"
  | .attr _ => "attr"
  | .child _ _ => "child"
  | .int => "int"
  | .append _ => "append"
  | .add _ => "add"
  | .fail _ => "fail"

/-- The value or the reason why there is none. -/
def orFail {α : Type} (value : Option α) (make : α → Value) (reason : String) :
    Except TransformError Value :=
  match value with
  | some a => .ok (make a)
  | none => .error (.reason reason)

/-- The transformation where it may fail. -/
def apply (t : Transform) (value : Value) : Except TransformError Value :=
  match t, value with
  | .text, .element e => .ok (.text e.text)
  | .name, .element e => .ok (.text e.name)
  | .attr key, .element e => orFail (e.attr key) .text ("no attribute " ++ key)
  | .child n ns, .element e => orFail (e.child? n ns) .element ("no child " ++ n)
  | .int, .text s => orFail (Decimal.signed32? s) .number "not an integer"
  | .append suffix, .text s => .ok (.text (s ++ suffix))
  | .add n, .number m => .ok (.number (m + n))
  | .fail reason, _ => .error (.reason reason)
  | t, _ => .error (.reason (t.label ++ " does not apply"))

/-- The transformation where it may not fail. -/
def applyTotal (t : Transform) (value : Value) : Value :=
  match t, value with
  | .text, .element e => .text e.text
  | .name, .element e => .text e.name
  | .append suffix, .text s => .text (s ++ suffix)
  | .add n, .number m => .number (m + n)
  | _, value => value

end Transform

end Xmpp
