/-!
# Blocks of a message

The digests used here read a message in blocks of 64 octets, sixteen words
of 32 bits each with the high octet first. A message is made to fill its
last block by an octet with the high bit set, zeros, and its length in bits
as a number of eight octets.
-/

namespace Xmpp.Digest

/-- The four octets of a word, the high one first. -/
def octetsOfWord (w : UInt32) : List UInt8 :=
  [(w >>> 24).toUInt8, (w >>> 16).toUInt8, (w >>> 8).toUInt8, w.toUInt8]

/-- The words of a sequence of octets, whose length is a multiple of four. -/
def wordsOfOctets : List UInt8 → List UInt32
  | a :: b :: c :: d :: rest =>
    (a.toUInt32 <<< 24 ||| b.toUInt32 <<< 16 ||| c.toUInt32 <<< 8 ||| d.toUInt32)
      :: wordsOfOctets rest
  | _ => []

/-- The number of zeros between a message of `n` octets and its length. -/
def zeros (n : Nat) : Nat :=
  (119 - n % 64) % 64

/-- The message with its end marked and its length appended. -/
def padded (message : List UInt8) : List UInt8 :=
  let n := message.length
  let bits := 8 * n
  message ++ 0x80 :: (List.replicate (zeros n) 0
    ++ octetsOfWord (UInt32.ofNat (bits / UInt32.size)) ++ octetsOfWord (UInt32.ofNat bits))

/-- A padded message fills its last block. -/
theorem length_padded (message : List UInt8) : (padded message).length % 64 = 0 := by
  simp [padded, octetsOfWord, zeros]
  omega

/-- The blocks of `n` words each of a list of words. -/
def blocks (n : Nat) : Nat → List UInt32 → List (List UInt32)
  | 0, _ => []
  | count + 1, words => words.take n :: blocks n count (words.drop n)

/-- The blocks a message is read in. -/
def messageBlocks (message : List UInt8) : List (List UInt32) :=
  let words := wordsOfOctets (padded message)
  blocks 16 (words.length / 16) words

/-- The word turned left by `n` bits, `n` between 1 and 31. -/
def rotateLeft (w : UInt32) (n : UInt32) : UInt32 :=
  w <<< n ||| w >>> (32 - n)

/-- The word turned right by `n` bits, `n` between 1 and 31. -/
def rotateRight (w : UInt32) (n : UInt32) : UInt32 :=
  w >>> n ||| w <<< (32 - n)

end Xmpp.Digest
