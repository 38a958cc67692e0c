/-!
# Namespaces

The namespaces of the protocols a client session speaks.
-/

namespace Xmpp.Namespace

/-- Client stanzas. -/
def client : String := "jabber:client"

/-- The stream wrapper: stream features and stream errors. -/
def stream : String := "http://etherx.jabber.org/streams"

/-- Conditions of stream errors. -/
def streamErrors : String := "urn:ietf:params:xml:ns:xmpp-streams"

/-- Conditions of stanza errors. -/
def stanzaErrors : String := "urn:ietf:params:xml:ns:xmpp-stanzas"

/-- SASL negotiation of the first generation. -/
def sasl : String := "urn:ietf:params:xml:ns:xmpp-sasl"

/-- SASL negotiation of the second generation. -/
def sasl2 : String := "urn:xmpp:sasl:2"

/-- Resource binding. -/
def bind : String := "urn:ietf:params:xml:ns:xmpp-bind"

/-- Resource binding inside authentication. -/
def bind2 : String := "urn:xmpp:bind:0"

/-- Stream management. -/
def streamManagement : String := "urn:xmpp:sm:3"

/-- In-band registration. -/
def register : String := "jabber:iq:register"

/-- The stream feature that announces in-band registration. -/
def registerFeature : String := "http://jabber.org/features/iq-register"

/-- Data forms. -/
def dataForms : String := "jabber:x:data"

/-- Service discovery. -/
def discoInfo : String := "http://jabber.org/protocol/disco#info"

/-- The roster. -/
def roster : String := "jabber:iq:roster"

end Xmpp.Namespace
