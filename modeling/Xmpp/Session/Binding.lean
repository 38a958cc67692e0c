import Xmpp.Session.Basic

/-!
# Binding a resource

After the login a client binds a resource, which gives it an address of its
own. It asks for the resource of the configured address, if that has one,
and otherwise leaves the choice to the server; either way the server tells
the full address in its reply.
-/

namespace Xmpp

namespace Binding

/-- The payload that asks for a resource. -/
def query (resource : Option String) : Element where
  name := "bind"
  ns := Namespace.bind
  content := Element.nodes (resource.toList.map (.ofText "resource" Namespace.bind))

/-- The full address in the payload of a reply, by its schema: nothing but
the address, and nothing about the address but its text. -/
def jid? (bind : Element) : Option Jid :=
  match bind.hasOnly [], bind.children with
  | true, [jid] =>
    if jid.is "jid" Namespace.bind && jid.hasOnly [] && jid.isChildless then
      (Jid.parse jid.text).toOption.filter fun jid => !jid.isBare
    else none
  | _, _ => none

/-- **The address a reply binds.** -/
def ofReply (reply : Element) : Except ProtocolError Jid :=
  match (reply.child? "bind" Namespace.bind).bind jid? with
  | some jid => .ok jid
  | none => .error .invalidBindResponse

end Binding

namespace Session

/-- **Binding a resource.** The outcome is published. -/
def bind (s : Session) : Sent × Session :=
  let draft := (Draft.iqSet none (Binding.query s.config.jid.resource)).labelled "bind"
  s.send ((draft.interpret Binding.ofReply .jid).respond .bind)

end Session

end Xmpp
