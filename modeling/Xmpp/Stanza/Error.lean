import Xmpp.Stanza.Condition
import Xmpp.Xml.Element
import Xmpp.Xml.Namespace
import Xmpp.Jid.Basic

/-!
# Stanza errors

A stanza error is an `error` element in the namespace of client stanzas: a
kind, one defined condition, and descriptions in several languages. It is
read in two ways. `StanzaError.read?` insists on the schema.
`StanzaError.salvage` takes what it can get of an error that does not keep
to it: the first condition it recognises and the first text.

A reply of type `error` reports the error it carries; see `ofReply`.
-/

namespace Xmpp

namespace Element

/-- Whether all attributes of the element are among these. -/
def hasOnly (e : Element) (keys : List String) : Bool :=
  e.attributes.all fun a => keys.contains a.1

/-- Whether the element has no child elements. -/
def isChildless (e : Element) : Bool :=
  e.children.isEmpty

end Element

/-- Descriptions by language, in the order of the languages; a missing
language is the empty one. -/
abbrev Texts := List (String × String)

namespace Texts

/-- Adds a description of a language there is none of yet. -/
def insert? (lang text : String) : Texts → Option Texts
  | [] => some [(lang, text)]
  | (l, t) :: rest =>
    if lang = l then none
    else if lang < l then some ((lang, text) :: (l, t) :: rest)
    else (insert? lang text rest).map ((l, t) :: ·)

/-- Adds what a `text` element says. It may carry its language and nothing
else. -/
def read? (texts : Texts) (e : Element) : Option Texts :=
  if e.isChildless && e.hasOnly ["xml:lang"] then
    texts.insert? ((e.attr "xml:lang").getD "") e.text
  else none

end Texts

/-- **A stanza error.** -/
structure StanzaError where
  /-- What the sender should do. -/
  kind : ErrorKind
  /-- What went wrong. -/
  condition : Condition
  /-- Descriptions for people. -/
  texts : Texts
deriving DecidableEq

namespace StanzaError

/-- An error with one description. -/
def new (kind : ErrorKind) (condition : Condition) (lang text : String) : StanzaError :=
  { kind, condition, texts := [(lang, text)] }

/-- The `error` element that reports an error. -/
def toElement (e : StanzaError) : Element :=
  { name := "error"
    ns := Namespace.client
    attributes := [("type", e.kind.name)]
    content := Element.nodes
      ({ name := e.condition.name, ns := Namespace.stanzaErrors }
        :: e.texts.map fun t =>
          { name := "text", ns := Namespace.stanzaErrors, attributes := [("xml:lang", t.1)]
            content := [.text t.2] }) }

/-- The condition a childless element without attributes stands for. -/
def readCondition? (e : Element) : Option Condition :=
  if e.ns == Namespace.stanzaErrors && e.isChildless && e.hasOnly [] then
    Condition.ofName? e.name
  else none

/-- What has been read of the children of an error. -/
structure Parts where
  /-- The condition, once there was one. -/
  condition : Option Condition := none
  /-- The descriptions. -/
  texts : Texts := []
  /-- Whether there was a child of another namespace. -/
  other : Bool := false

/-- Reads one more child: descriptions at most one per language, one
condition, and at most one child of another namespace. -/
def Parts.next? (p : Parts) (child : Element) : Option Parts :=
  if child.ns == Namespace.stanzaErrors then
    if child.name == "text" then (p.texts.read? child).map ({ p with texts := · })
    else if p.condition.isSome then none
    else (readCondition? child).map ({ p with condition := some · })
  else if p.other then none
  else some { p with other := true }

/-- **Reading an error by its schema.** Besides its kind it may name an
address and an obsolete code, which are not kept. -/
def read? (e : Element) : Option StanzaError :=
  if e.is "error" Namespace.client && e.hasOnly ["type", "by", "code"] then do
    let kind ← (e.attr "type").bind ErrorKind.ofName?
    match e.attr "by" with
    | some address => if (Jid.parse address).toOption.isNone then none
    | none => pure ()
    let parts ← e.children.foldlM Parts.next? {}
    let condition ← parts.condition
    return { kind, condition, texts := parts.texts }
  else none

/-- The first condition among the children of an element, descriptions
left aside. -/
def findCondition? (e : Element) : Option Condition :=
  ((e.childrenIn Namespace.stanzaErrors).filter (·.name != "text")).findSome? readCondition?

/-- **What an error says** that need not keep to the schema: its condition,
undefined if none is recognised, and its description. -/
def salvage (e : Element) : Condition × Option String :=
  match read? e with
  | some error => (error.condition, error.texts.head?.map (·.2))
  | none =>
    ((findCondition? e).getD .undefinedCondition,
      (e.child? "text" Namespace.stanzaErrors).map Element.text)

/-- **What an error reply says**: what its first child named `error` says,
or an undefined condition if it has none. -/
def ofReply (reply : Element) : Condition × Option String :=
  match reply.children.find? (·.name == "error") with
  | some e => salvage e
  | none => (.undefinedCondition, none)

end StanzaError

end Xmpp
