/-!
# Names in capitals

Conditions have names like `item-not-found` on the wire, and appear as
`ItemNotFound` in messages to people.
-/

namespace Xmpp.Text

/-- The characters of a name in capitals: every letter after a hyphen is
raised and the hyphen dropped; `raise` says whether the next one is. -/
def capitalize (raise : Bool) : List Char → List Char
  | [] => []
  | c :: cs =>
    if c = '-' then capitalize true cs
    else (if raise then c.toUpper else c) :: capitalize false cs

/-- A hyphenated name in capitals. -/
def inCapitals (name : String) : String :=
  String.ofList (capitalize true name.toList)

example : inCapitals "jid-malformed" = "JidMalformed" := by decide

end Xmpp.Text
