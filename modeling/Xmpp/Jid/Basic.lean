import Xmpp.Jid.Preparation

/-!
# Addresses

An address is a domain, possibly with a node before it and a resource after
it: `node@domain/resource`. The resource begins after the first slash, and
the node ends at the first at sign before it. An address without a resource
is *bare*; it stands for an account or a server, and an address with one for
a single connection of it.

Two addresses are the same when they are written alike. Preparation may put
a slash or an at sign into a domain, where it is a character like any other,
so the parts of two addresses can differ although the addresses are the same.
-/

namespace Xmpp

/-- **An address** whose parts are prepared. -/
structure Jid where
  /-- The node, if there is one. -/
  node : Option String
  /-- The domain. -/
  domain : String
  /-- The resource, if there is one. -/
  resource : Option String
deriving DecidableEq

namespace Jid

/-- **Why a text is no address**: a part is empty although its delimiter is
there, too long, or refused by preparation. -/
inductive ParseError where
  /-- Nothing is left of the part. -/
  | empty (part : Part)
  /-- The part has more than 1023 octets. -/
  | tooLong (part : Part)
  /-- The part contains what it may not contain. -/
  | unprepared (part : Part)
deriving DecidableEq

/-- The wording of a parse error. -/
def ParseError.message : ParseError → String
  | .empty .node => "nodepart empty despite the presence of a @"
  | .empty .domain => "no domain found in this JID"
  | .empty .resource => "resource empty despite the presence of a /"
  | .tooLong .node => "localpart longer than 1023 bytes"
  | .tooLong .domain => "domain longer than 1023 bytes"
  | .tooLong .resource => "resource longer than 1023 bytes"
  | .unprepared .node => "localpart doesn’t pass nodeprep validation"
  | .unprepared .domain => "domain doesn’t pass nameprep validation"
  | .unprepared .resource => "resource doesn’t pass resourceprep validation"

/-- A part of an address: prepared, then measured. -/
def Part.read (part : Part) (text : List Char) : Except ParseError String :=
  match part.prepare text with
  | none => .error (.unprepared part)
  | some prepared =>
    let s := String.ofList prepared
    if prepared.isEmpty then .error (.empty part)
    else if 1023 < s.utf8ByteSize then .error (.tooLong part)
    else .ok s

/-- The text before the first occurrence of a character and the text after
it, if it occurs. -/
def cut (c : Char) : List Char → List Char × Option (List Char)
  | [] => ([], none)
  | d :: rest =>
    if d = c then ([], some rest)
    else
      let (before, after) := cut c rest
      (d :: before, after)

/-- A part that may be missing. -/
def Part.read? (part : Part) : Option (List Char) → Except ParseError (Option String)
  | none => .ok none
  | some text => (part.read text).map some

/-- **Reading an address.** The parts are read in the order node, domain,
resource, and the first fault is reported. -/
def parse (text : String) : Except ParseError Jid := do
  let (address, resource) := cut '/' text.toList
  let (node, domain) := match cut '@' address with
    | (domain, none) => (none, domain)
    | (node, some domain) => (some node, domain)
  let node ← Part.node.read? node
  let domain ← Part.domain.read domain
  let resource ← Part.resource.read? resource
  return { node, domain, resource }

/-- The written form of an address. -/
def toString (jid : Jid) : String :=
  (match jid.node with
    | some node => node ++ "@"
    | none => "")
  ++ jid.domain ++
  (match jid.resource with
    | some resource => "/" ++ resource
    | none => "")

instance : ToString Jid := ⟨toString⟩

/-- **When two addresses are the same**: they are written alike. -/
def Same (a b : Jid) : Prop :=
  a.toString = b.toString

instance : DecidableRel Same := fun a b =>
  inferInstanceAs (Decidable (a.toString = b.toString))

/-- Being the same address is an equivalence. -/
theorem same_equivalence : Equivalence Same where
  refl _ := rfl
  symm h := h.symm
  trans h g := h.trans g

/-- The address without its resource. -/
def bare (jid : Jid) : Jid :=
  { jid with resource := none }

/-- Whether the address has no resource. -/
def isBare (jid : Jid) : Bool :=
  jid.resource.isNone

@[simp] theorem bare_bare (jid : Jid) : jid.bare.bare = jid.bare := rfl

@[simp] theorem isBare_bare (jid : Jid) : jid.bare.isBare = true := rfl

theorem bare_eq_self {jid : Jid} (h : jid.isBare = true) : jid.bare = jid := by
  cases jid with
  | mk node domain resource => cases resource <;> simp_all [bare, isBare]

end Jid

end Xmpp
