import Xmpp.Session.Basic

/-!
# The stream

What is said about the stream itself rather than inside it: the features the
server offers at the current point, which are kept until the stream is
restarted, and the error with which either side ends it. Replies to stanzas
are made here, too.
-/

namespace Xmpp

/-- **A reply to a stanza**: same name and id, addressed to its sender. -/
def Element.reply (stanza : Element) (type : String) (payload : List Element) : Element where
  name := stanza.name
  ns := Namespace.client
  attributes := Element.present
    [("type", some type), ("id", stanza.attr "id"), ("to", stanza.attr "from")]
  content := Element.nodes payload

/-- The reply that refuses a stanza. -/
def Element.refusal (stanza : Element) (error : StanzaError) : Element :=
  stanza.reply "error" [error.toElement]

/-- **An error that ends the stream.** -/
structure StreamError where
  /-- The condition it names. -/
  condition : String := "undefined-condition"
  /-- A description for people. -/
  text : Option String := none
  /-- Where to connect instead. -/
  seeOtherHost : Option String := none
deriving DecidableEq

namespace StreamError

/-- Takes in what one more child says. -/
def next (error : StreamError) (child : Element) : StreamError :=
  if child.name == "text" then { error with text := some child.text }
  else if child.name == "see-other-host" then
    { error with condition := child.name, seeOtherHost := some child.text }
  else { error with condition := child.name }

/-- **What a stream error says.** Of several conditions the last one
counts. -/
def read (e : Element) : StreamError :=
  (e.childrenIn Namespace.streamErrors).foldl next {}

/-- The event that reports the error. -/
def event (error : StreamError) : Event :=
  .streamError error.condition error.text error.seeOtherHost

/-- The element with which we end the stream. -/
def toElement (condition : String) : Element where
  name := "error"
  ns := Namespace.stream
  content := Element.nodes [{ name := condition, ns := Namespace.streamErrors }]

end StreamError

namespace Session

/-- **The server tells its features.** They take the place of those it told
before. -/
def takeFeatures (s : Session) (features : Element) : Session :=
  (s.setProperty .stream Properties.featuresKey features).fire .features

/-- **The server ends the stream.** -/
def takeStreamError (s : Session) (e : Element) : Session :=
  s.fire (StreamError.read e).event

end Session

end Xmpp
