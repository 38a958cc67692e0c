import Xmpp.Digest.Block

/-!
# SHA-1

The digest of twenty octets: eighty rounds for each block over five words,
with a message schedule in which every word from the sixteenth on is made of
four earlier ones.
-/

namespace Xmpp.Digest.Sha1

/-- The five chaining words. -/
structure State where
  /-- First word. -/
  a : UInt32
  /-- Second word. -/
  b : UInt32
  /-- Third word. -/
  c : UInt32
  /-- Fourth word. -/
  d : UInt32
  /-- Fifth word. -/
  e : UInt32

/-- The chaining words before the first block. -/
def start : State :=
  ⟨0x67452301, 0xEFCDAB89, 0x98BADCFE, 0x10325476, 0xC3D2E1F0⟩

/-- The eighty words of the message schedule of a block. -/
def schedule (block : List UInt32) : Array UInt32 :=
  (List.range 64).foldl (fun w i =>
    w.push (rotateLeft (w.getD (i + 13) 0 ^^^ w.getD (i + 8) 0 ^^^ w.getD (i + 2) 0
      ^^^ w.getD i 0) 1)) block.toArray

/-- The function and the constant of a round. -/
def mix (i : Nat) (b c d : UInt32) : UInt32 × UInt32 :=
  if i < 20 then ((b &&& c) ||| (~~~b &&& d), 0x5A827999)
  else if i < 40 then (b ^^^ c ^^^ d, 0x6ED9EBA1)
  else if i < 60 then ((b &&& c) ||| (b &&& d) ||| (c &&& d), 0x8F1BBCDC)
  else (b ^^^ c ^^^ d, 0xCA62C1D6)

/-- One round. -/
def round (w : Array UInt32) (s : State) (i : Nat) : State :=
  let (f, k) := mix i s.b s.c s.d
  ⟨rotateLeft s.a 5 + f + s.e + k + w.getD i 0, s.a, rotateLeft s.b 30, s.c, s.d⟩

/-- The chaining words after a block. -/
def compress (s : State) (block : List UInt32) : State :=
  let t := (List.range 80).foldl (round (schedule block)) s
  ⟨s.a + t.a, s.b + t.b, s.c + t.c, s.d + t.d, s.e + t.e⟩

/-- **SHA-1** of a message. -/
def digest (message : List UInt8) : List UInt8 :=
  let s := (messageBlocks message).foldl compress start
  [s.a, s.b, s.c, s.d, s.e].flatMap octetsOfWord

/-- A digest has twenty octets. -/
theorem length_digest (message : List UInt8) : (digest message).length = 20 := by
  simp [digest, octetsOfWord]

end Xmpp.Digest.Sha1
