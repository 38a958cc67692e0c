import Xmpp.Request.Basic

/-!
# Requests waiting for a reply

The registry holds the requests that were sent and wait for a reply, one for
each key, in the order of the keys. A reply is matched by its key, and then
its sender is checked, so that nobody can answer for somebody else: a reply
to a request with a recipient must come from there, or from a resource of it
if the recipient is bare; our own account may leave out its address on
either side.
-/

namespace Xmpp

/-- **The requests waiting for a reply**, and the address replies of our own
account are judged by. -/
structure Registry where
  /-- The requests, in ascending order of their keys. -/
  requests : List Request := []
  /-- Our own address. -/
  ownJid : Option Jid := none

namespace Registry

/-- The number of requests waiting for a reply. -/
def size (g : Registry) : Nat :=
  g.requests.length

/-- The request of this key. -/
def find? (g : Registry) (key : RequestKey) : Option Request :=
  g.requests.find? (·.key = key)

/-- What is found under a key has it. -/
theorem key_of_find? {g : Registry} {key : RequestKey} {r : Request}
    (h : g.find? key = some r) : r.key = key := by
  simpa using List.find?_some h

/-- Whether there is a request of this key. -/
def contains (g : Registry) (key : RequestKey) : Bool :=
  (g.find? key).isSome

/-- Puts a request in its place, instead of one with the same key. -/
def insertRequest (r : Request) : List Request → List Request
  | [] => [r]
  | s :: rest =>
    if r.key = s.key then r :: rest
    else if r.key.before s.key then r :: s :: rest
    else s :: insertRequest r rest

/-- A request put in its place is found under its key, and under any other
key what was found before. -/
theorem find?_insertRequest (r : Request) (key : RequestKey) (requests : List Request) :
    (insertRequest r requests).find? (·.key = key) =
      if r.key = key then some r else requests.find? (·.key = key) := by
  induction requests with
  | nil => by_cases h : r.key = key <;> simp [insertRequest, h]
  | cons s rest ih =>
    rw [insertRequest]
    split
    · by_cases h : r.key = key <;> simp_all
    · split
      · by_cases h : r.key = key <;> simp [h]
      · by_cases h : r.key = key <;> by_cases hs : s.key = key <;> simp_all

/-- The registry with a request added, instead of one with the same key. -/
def register (g : Registry) (r : Request) : Registry :=
  { g with requests := insertRequest r g.requests }

@[simp] theorem find?_register (g : Registry) (r : Request) (key : RequestKey) :
    (g.register r).find? key = if r.key = key then some r else g.find? key :=
  find?_insertRequest r key g.requests

/-- The registry without the request of this key. -/
def erase (g : Registry) (key : RequestKey) : Registry :=
  { g with requests := g.requests.filter fun r => r.key ≠ key }

@[simp] theorem find?_erase (g : Registry) (key other : RequestKey) :
    (g.erase key).find? other = if other = key then none else g.find? other := by
  simp only [find?, erase, List.find?_filter]
  split
  · subst_vars
    simp
  · rename_i h
    congr 1
    funext r
    by_cases hr : r.key = other <;> simp [hr, h]

/-- Whether an address belongs to our own account. -/
def isOwnAccount (g : Registry) (jid : Jid) : Bool :=
  g.ownJid.any fun own => jid.bare.Same own.bare

/-- **Whether a sender may answer a request** to a recipient. -/
def admits (g : Registry) (recipient sender : Option Jid) : Bool :=
  match recipient, sender with
  | none, none => true
  | some recipient, some sender =>
    sender.Same recipient || (recipient.isBare && sender.bare.Same recipient.bare)
  | some recipient, none => g.isOwnAccount recipient
  | none, some sender => g.isOwnAccount sender

/-- Whether the sender of a reply may answer a request. One whose address
cannot be read may not. -/
def verifies (g : Registry) (r : Request) (reply : Element) : Bool :=
  match (reply.attr "from").map Jid.parse with
  | none => g.admits r.recipient none
  | some (.ok sender) => g.admits r.recipient (some sender)
  | some (.error _) => false

/-- Whether an element can be a reply at all. An `iq` can be one only if its
type says so. -/
def isReply (e : Element) : Bool :=
  e.name != "iq" || e.attr "type" = some "result" || e.attr "type" = some "error"

/-- **The request an element answers.** -/
def answeredBy? (g : Registry) (reply : Element) : Option Request :=
  if isReply reply then
    (RequestKey.of? reply).bind fun key =>
      (g.find? key).filter fun r => g.verifies r reply
  else none

/-- Resolves the request an element answers, if it answers one. -/
def resolve? (g : Registry) (reply : Element) : Option (Registry × List Effect) :=
  (g.answeredBy? reply).map fun r => (g.erase r.key, Request.effectsOf (r.answer? reply))

/-- What came of sweeping requests out of the registry. -/
structure Swept where
  /-- The registry without them. -/
  registry : Registry
  /-- The effects of failing them, in the order of their keys. -/
  effects : List Effect
  /-- How many of them were still unresolved. -/
  count : Nat

/-- Fails all requests that meet a condition with a timeout. -/
def sweep (g : Registry) (condition : Request → Bool) : Swept :=
  let swept := (g.requests.filter condition).filterMap Request.expire?
  { registry := { g with requests := g.requests.filter fun r => !condition r }
    effects := swept.flatMap (·.2)
    count := swept.length }

/-- **Failing all requests**, or all made no later than `cutoff`. -/
def timeoutAll (g : Registry) (cutoff : Option Nat) : Swept :=
  g.sweep fun r => cutoff.all fun c => r.created ≤ c

/-- **Failing the overdue requests.** Those that were resolved by other
means are forgotten. -/
def sweepOutdated (g : Registry) (now : Nat) : Swept :=
  ({ g with requests := g.requests.filter fun r => !r.isCompleted } : Registry).sweep
    fun r => r.isOutdated now

/-- **Cancelling** the request of this key, if there is one. -/
def cancel? (g : Registry) (key : RequestKey) : Option (Registry × Option (List Effect)) :=
  (g.find? key).map fun r => (g.erase key, r.cancel?.map (·.2))

end Registry

end Xmpp
