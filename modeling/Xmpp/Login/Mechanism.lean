import Xmpp.Error
import Xmpp.Digest.Keyed
import Xmpp.Text.Decimal

/-!
# Login mechanisms

A mechanism is the part of a login that proves who we are: what is said
first, how a challenge is answered, and whether the server's last word is
acceptable. Three kinds are known.

* `plain` says user and password at once, and `anonymous` says nothing. They
  answer a challenge with nothing and accept any last word.
* `scram` proves knowledge of the password without telling it. Both sides
  exchange nonces; the password is stretched with a salt of the server into
  two keys, one of which signs the conversation for us and the other for the
  server, whose signature is its last word.

The messages of `scram` are attributes `k=v` with commas between them. A
part without an equals sign is ignored, and of two with one key the later
one counts. User name and password are used as they are.
-/

namespace Xmpp.Login

open Digest

/-- How far an exchange of proofs has come. -/
inductive ScramStage where
  /-- Our first message has not been said. -/
  | initial
  /-- Our first message has been said. -/
  | greeted
  /-- The challenge was answered; the server has to show this signature. -/
  | answered (signature : List UInt8)
deriving DecidableEq

/-- **A mechanism** in some stage of its exchange. -/
inductive Mechanism where
  /-- User and password in the clear. -/
  | plain (user password : String)
  /-- No credentials at all. -/
  | anonymous
  /-- Proof of knowledge of the password. -/
  | scram (hash : Hash) (user password nonce : String) (stage : ScramStage)
deriving DecidableEq

/-- **The registered mechanisms** that the first generation of the login has a
word for. -/
inductive Registered where
  /-- `scram` with the longer digest. -/
  | scramSha256
  /-- `scram` with the shorter digest. -/
  | scramSha1
  /-- `plain`. -/
  | plain
  /-- `anonymous`. -/
  | anonymous
deriving DecidableEq

namespace Registered

/-- The word for a registered mechanism. -/
def name : Registered → String
  | .scramSha256 => "SCRAM-SHA-256"
  | .scramSha1 => "SCRAM-SHA-1"
  | .plain => "PLAIN"
  | .anonymous => "ANONYMOUS"

/-- The registered mechanism of a name, if there is one. -/
def ofName? : String → Option Registered
  | "SCRAM-SHA-256" => some .scramSha256
  | "SCRAM-SHA-1" => some .scramSha1
  | "PLAIN" => some .plain
  | "ANONYMOUS" => some .anonymous
  | _ => none

end Registered

namespace Mechanism

/-- The name of a mechanism. -/
def name : Mechanism → String
  | .plain _ _ => "PLAIN"
  | .anonymous => "ANONYMOUS"
  | .scram .sha1 _ _ _ _ => "SCRAM-SHA-1"
  | .scram .sha256 _ _ _ _ => "SCRAM-SHA-256"

/-- **There is a word for every mechanism**, which is its name. -/
theorem exists_ofName?_name (m : Mechanism) :
    ∃ registered, Registered.ofName? m.name = some registered ∧ registered.name = m.name := by
  cases m with
  | plain _ _ => exact ⟨.plain, rfl, rfl⟩
  | anonymous => exact ⟨.anonymous, rfl, rfl⟩
  | scram hash _ _ _ _ =>
    cases hash with
    | sha1 => exact ⟨.scramSha1, rfl, rfl⟩
    | sha256 => exact ⟨.scramSha256, rfl, rfl⟩

/-- The octets of a text. -/
def utf8 (s : String) : List UInt8 :=
  s.toUTF8.toList

/-- The text of octets, if they are one. -/
def text? (octets : List UInt8) : Option String :=
  String.fromUTF8? ⟨octets.toArray⟩

/-- The attributes of a message, later ones first. -/
def attributes (text : List Char) : List (String × String) :=
  let rec parts (done : List (List Char)) (part : List Char) : List Char → List (List Char)
    | [] => part.reverse :: done
    | c :: cs => if c = ',' then parts (part.reverse :: done) [] cs else parts done (c :: part) cs
  (parts [] [] text).filterMap fun part =>
    match Jid.cut '=' part with
    | (key, some value) => some (String.ofList key, String.ofList value)
    | (_, none) => none

/-- The header that precedes our first message: channel binding is known
here but not used. -/
def header : String := "y,,"

/-- Our first message without its header. -/
def greeting (user nonce : String) : String :=
  "n=" ++ user ++ ",r=" ++ nonce

/-- What is said first, and the mechanism after it was said. -/
def greet : Mechanism → List UInt8 × Mechanism
  | .plain user password =>
    (0 :: utf8 user ++ 0 :: utf8 password, .plain user password)
  | .anonymous => ([], .anonymous)
  | .scram hash user password nonce _ =>
    (utf8 (header ++ greeting user nonce), .scram hash user password nonce .greeted)

/-- The nonce, the salt and the number of iterations of a challenge. -/
def readChallenge (challenge : List UInt8) :
    Except MechanismError (String × List UInt8 × Nat) :=
  match text? challenge with
  | none => .error .undecodableChallenge
  | some text =>
    let attributes := attributes text.toList
    match attributes.lookup "r", (attributes.lookup "s").map Base64.decode,
      (attributes.lookup "i").bind Decimal.unsigned32? with
    | none, _, _ => .error .noServerNonce
    | some _, none, _ | some _, some (.error _), _ => .error .noServerSalt
    | some _, some (.ok _), none => .error .noServerIterations
    | some nonce, some (.ok salt), some iterations => .ok (nonce, salt, iterations.toNat)

/-- **Answering a challenge**: the answer, and the mechanism after it. -/
def respond (challenge : List UInt8) : Mechanism → Except MechanismError (List UInt8 × Mechanism)
  | .plain user password => .ok ([], .plain user password)
  | .anonymous => .ok ([], .anonymous)
  | .scram hash user password nonce .greeted =>
    match readChallenge challenge with
    | .error e => .error e
    | .ok (serverNonce, salt, iterations) =>
      let bare := "c=" ++ Base64.encode (utf8 header) ++ ",r=" ++ serverNonce
      let conversation :=
        utf8 (greeting user nonce) ++ utf8 "," ++ challenge ++ utf8 "," ++ utf8 bare
      let salted := hash.stretch (utf8 password) salt iterations
      let clientKey := hash.keyed salted (utf8 "Client Key")
      let serverKey := hash.keyed salted (utf8 "Server Key")
      let proof := xor clientKey (hash.keyed (hash.digest clientKey) conversation)
      let signature := hash.keyed serverKey conversation
      .ok (utf8 (bare ++ ",p=" ++ Base64.encode proof),
        .scram hash user password nonce (.answered signature))
  | .scram _ _ _ _ _ => .error .invalidState

/-- **Judging the server's last word.** -/
def accept (data : List UInt8) : Mechanism → Except MechanismError Unit
  | .plain _ _ | .anonymous => .ok ()
  | .scram _ _ _ _ stage =>
    match text? data, stage with
    | none, _ => .error .undecodableSuccess
    | some text, .answered signature =>
      match ((attributes text.toList).lookup "v").map Base64.decode with
      | some (.ok shown) => if shown = signature then .ok () else .error .invalidSignature
      | none | some (.error _) => .error .noSignature
    | some _, _ => .error .invalidState

end Mechanism

end Xmpp.Login
