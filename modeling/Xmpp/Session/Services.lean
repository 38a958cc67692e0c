import Xmpp.Session.Stream

/-!
# Messages, presence, roster and discovery

What a client can do once it has an address. It sends chat messages and its
presence, asks for its roster, and asks others for their features. In turn
it publishes the messages and presences it receives, accepts changes of the
roster, and tells its own features.

Only our own account may change the roster. A change without a sender comes
from the server on behalf of the account.
-/

namespace Xmpp

/-- An empty query in a namespace. -/
def emptyQuery (ns : String) : Element where
  name := "query"
  ns := ns

/-- The query a reply carries. -/
def queryOf (ns : String) (reply : Element) : Except ProtocolError Element :=
  match reply.child? "query" ns with
  | some query => .ok query
  | none => .error (.unexpectedElement reply.name)

/-- The features a reply lists. -/
def featuresOf (reply : Element) : Except ProtocolError (List String) :=
  (queryOf Namespace.discoInfo reply).map fun query =>
    (query.children.filter (·.is "feature" Namespace.discoInfo)).filterMap (·.attr "var")

/-- **What we tell about ourselves**: what kind of software we are, and our
features. -/
def selfDescription (software : String) (features : List String) : Element where
  name := "query"
  ns := Namespace.discoInfo
  content := Element.nodes
    ({ name := "identity"
       ns := Namespace.discoInfo
       attributes := [("category", "client"), ("type", "pc"), ("name", software)] }
      :: features.map fun feature =>
        { name := "feature", ns := Namespace.discoInfo, attributes := [("var", feature)] })

namespace Session

/-! ## Asking -/

/-- **Sending a chat message.** -/
def sendChat (s : Session) (recipient : Jid) (body : String) : Sent × Session :=
  s.send
    { stanza :=
        { name := "message"
          ns := Namespace.client
          attributes := [("type", "chat"), ("to", recipient.toString)]
          content := Element.nodes [.ofText "body" Namespace.client body] } }

/-- **Announcing that we are available.** -/
def sendPresence (s : Session) : Sent × Session :=
  s.send (Draft.labelled { stanza := { name := "presence", ns := Namespace.client } }
    "initial presence")

/-- **Asking for the roster.** -/
def requestRoster (s : Session) : Sent × Session :=
  let draft := (Draft.iqGet none (emptyQuery Namespace.roster)).labelled "roster"
  s.send ((draft.interpret (queryOf Namespace.roster) .element).respond .roster)

/-- **Asking somebody for features.** -/
def requestFeatures (s : Session) (jid : Jid) : Sent × Session :=
  let draft := (Draft.iqGet (some jid) (emptyQuery Namespace.discoInfo)).labelled "disco#info"
  s.send ((draft.interpret featuresOf .features).respond (.discovery jid))

/-! ## Answering -/

/-- Refuses a stanza for good. -/
def refuse (s : Session) (condition : Condition) (text : String) : Session × Option Error :=
  (s, some (.stanza (.new .cancel condition "en" text)))

/-- Whether an address belongs to the account the session is bound to. -/
def isBoundTo (s : Session) (jid : Jid) : Bool :=
  s.properties.boundJid?.any fun own => own.bare.Same jid.bare

/-- The query of a roster change is accepted and published. -/
def acceptRoster (s : Session) (push : Element) : Session × Option Error :=
  match queryOf Namespace.roster push with
  | .error e => (s, some (.protocol e))
  | .ok query => ((s.write (push.reply "result" [])).fire (.roster query), none)

/-- **A change of the roster** is accepted from our own account only. -/
def handleRoster (s : Session) (e : Element) : Session × Option Error :=
  if e.attr "type" ≠ some "set" then s.refuse .badRequest "Only roster pushes are accepted."
  else
    match (e.attr "from").map Jid.parse with
    | some (.error error) => (s, some (.jid error))
    | some (.ok sender) =>
      if s.isBoundTo sender then s.acceptRoster e
      else s.refuse .serviceUnavailable "Roster pushes are only accepted from the own account."
    | none => s.acceptRoster e

/-- **A question for our features** is answered with those we tell. -/
def handleDiscovery (s : Session) (e : Element) : Session × Option Error :=
  if e.attr "type" ≠ some "get" then
    s.refuse .featureNotImplemented "Only disco#info queries are supported."
  else (s.write (e.reply "result" [selfDescription s.config.software s.advertised]), none)

end Session

end Xmpp
