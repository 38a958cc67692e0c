import Xmpp.Digest.Sha1
import Xmpp.Digest.Sha256

/-!
# Keyed digests and derived keys

A keyed digest hashes a message together with a key: once with the key
masked by one constant, and the result again with the key masked by another.
A password is stretched into a key by iterating the keyed digest and adding
up, bit by bit, everything the iterations give.
-/

namespace Xmpp.Digest

/-- **The digest functions** a password exchange may be based on. -/
inductive Hash where
  /-- SHA-1, twenty octets. -/
  | sha1
  /-- SHA-256, thirty-two octets. -/
  | sha256
deriving DecidableEq

/-- The digest of a message. -/
def Hash.digest : Hash → List UInt8 → List UInt8
  | .sha1 => Sha1.digest
  | .sha256 => Sha256.digest

/-- Bitwise sum of two sequences of octets of one length. -/
def xor (x y : List UInt8) : List UInt8 :=
  List.zipWith (· ^^^ ·) x y

/-- The key as one block: hashed if it is longer, then filled with zeros. -/
def Hash.keyBlock (hash : Hash) (key : List UInt8) : List UInt8 :=
  let key := if 64 < key.length then hash.digest key else key
  key ++ List.replicate (64 - key.length) 0

/-- **The keyed digest** of a message. -/
def Hash.keyed (hash : Hash) (key message : List UInt8) : List UInt8 :=
  let block := hash.keyBlock key
  hash.digest (block.map (· ^^^ 0x5C) ++ hash.digest (block.map (· ^^^ 0x36) ++ message))

/-- Adds up the results of `n` further iterations. -/
def Hash.iterate (hash : Hash) (password : List UInt8) :
    Nat → List UInt8 → List UInt8 → List UInt8
  | 0, _, sum => sum
  | n + 1, last, sum =>
    let next := hash.keyed password last
    hash.iterate password n next (xor sum next)

/-- **The key derived from a password** with a salt and a number of
iterations, as long as one digest. There is always a first iteration, so
none and one give the same key. -/
def Hash.stretch (hash : Hash) (password salt : List UInt8) (iterations : Nat) : List UInt8 :=
  let first := hash.keyed password (salt ++ [0, 0, 0, 1])
  hash.iterate password (iterations - 1) first first

end Xmpp.Digest
