import Xmpp.Session.Basic

/-!
# Creating the account

Before the login a client may create its account, if the server offers that
on the stream: it asks for the registration form and submits it filled in.
Both outcomes are published, and it is up to the controller to fill in the
form and to go on.
-/

namespace Xmpp.Session

/-- Whether the server lets us create the account on this stream. -/
def offersRegistration (s : Session) : Bool :=
  (s.properties.feature? "register" Namespace.registerFeature).isSome

/-- **Asking for the registration form.** -/
def requestForm (s : Session) : Sent × Session :=
  let draft := (Draft.iqGet none { name := "query", ns := Namespace.register }).labelled
    "registration form"
  s.send ((draft.interpret Form.ofReply .form).respond .registrationForm)

/-- **Submitting the form.** -/
def submitForm (s : Session) (form : Form) : Sent × Session :=
  s.send (((Draft.iqSet none form.submission).labelled "registration").respond .registration)

end Xmpp.Session
