/-!
# Base64

The standard alphabet with padding, in its strict form: no white space, the
padding complete, and no stray bits in the last digit. There is exactly one
text for every sequence of octets.

A text is taken apart in quads of digits. All quads but the last stand for
three octets each and consist of digits alone. The last one may be short
(then the text is at fault) or padded. Of several faults the one reported is
the first that a reader meets who looks

1. at the last octet, when it stands alone after complete quads and is
   neither a digit nor padding,
2. at the quads before the last, from left to right,
3. at the octets of the last quad, from left to right, and
4. at its length, its padding and its stray bits, in this order.
-/

namespace Xmpp.Base64

/-- **What is wrong with a text** that is not base64. -/
inductive DecodeError where
  /-- An octet which is no digit here, with its offset. -/
  | symbol (offset : Nat) (octet : UInt8)
  /-- A length no sequence of octets leads to. -/
  | length (length : Nat)
  /-- A last digit with stray bits, with its offset. -/
  | lastSymbol (offset : Nat) (octet : UInt8)
  /-- Padding that does not complete the last quad. -/
  | padding
deriving DecidableEq

/-- The wording of a decoding error. -/
def DecodeError.message : DecodeError → String
  | .symbol offset octet =>
    "Invalid symbol " ++ toString octet.toNat ++ ", offset " ++ toString offset ++ "."
  | .length n => "Invalid input length: " ++ toString n
  | .lastSymbol offset octet =>
    "Invalid last symbol " ++ toString octet.toNat ++ ", offset " ++ toString offset ++ "."
  | .padding => "Invalid padding"

/-- The padding octet, an equals sign. -/
def pad : UInt8 := 61

/-- The digits, by value. -/
def alphabet : List Char :=
  "ABCDEFGHIJKLMNOPQRSTUVWXYZabcdefghijklmnopqrstuvwxyz0123456789+/".toList

/-- The digit of a value below 64. -/
def digit (value : Nat) : Char :=
  alphabet.getD value 'A'

/-- The value of a digit. -/
def value? (octet : UInt8) : Option Nat :=
  let n := octet.toNat
  if 65 ≤ n ∧ n ≤ 90 then some (n - 65)
  else if 97 ≤ n ∧ n ≤ 122 then some (n - 71)
  else if 48 ≤ n ∧ n ≤ 57 then some (n + 4)
  else if n = 43 then some 62
  else if n = 47 then some 63
  else none

/-- The digits of octets, three octets to four digits. -/
def encodeDigits : List UInt8 → List Char
  | a :: b :: c :: rest =>
    let n := a.toNat * 65536 + b.toNat * 256 + c.toNat
    digit (n / 262144) :: digit (n / 4096 % 64) :: digit (n / 64 % 64) :: digit (n % 64)
      :: encodeDigits rest
  | [a, b] =>
    let n := a.toNat * 1024 + b.toNat * 4
    [digit (n / 4096), digit (n / 64 % 64), digit (n % 64), '=']
  | [a] =>
    let n := a.toNat * 16
    [digit (n / 64), digit (n % 64), '=', '=']
  | [] => []

/-- The text that stands for a sequence of octets. -/
def encode (octets : List UInt8) : String :=
  String.ofList (encodeDigits octets)

/-- The values of a run of digits that starts at an offset. -/
def values (offset : Nat) : List UInt8 → Except DecodeError (List Nat)
  | [] => .ok []
  | octet :: rest =>
    match value? octet with
    | none => .error (.symbol offset octet)
    | some v => (values (offset + 1) rest).map (v :: ·)

/-- The octets that complete quads of digit values stand for. -/
def octets : List Nat → List UInt8
  | a :: b :: c :: d :: rest =>
    let n := a * 262144 + b * 4096 + c * 64 + d
    UInt8.ofNat (n / 65536) :: UInt8.ofNat (n / 256 % 256) :: UInt8.ofNat (n % 256)
      :: octets rest
  | _ => []

/-- What has been read of the last quad: the values of its digits, the last
digit, and where its padding started and how much there is of it. -/
structure Tail where
  /-- The values of the digits. -/
  digits : List Nat := []
  /-- The last digit. -/
  last : UInt8 := 0
  /-- Offset of the first padding octet. -/
  padStart : Nat := 0
  /-- Number of padding octets. -/
  pads : Nat := 0

/-- Reads the last quad, which starts at `offset`; `index` counts the octets
read of it. Padding is allowed after two digits and ends the digits. -/
def readTail (offset index : Nat) (tail : Tail) : List UInt8 → Except DecodeError Tail
  | [] => .ok tail
  | octet :: rest =>
    if octet = pad then
      if index < 2 then .error (.symbol (offset + index) octet)
      else
        let start := if tail.pads = 0 then offset + index else tail.padStart
        readTail offset (index + 1) { tail with padStart := start, pads := tail.pads + 1 } rest
    else if 0 < tail.pads then .error (.symbol tail.padStart pad)
    else match value? octet with
      | none => .error (.symbol (offset + index) octet)
      | some v =>
        readTail offset (index + 1) { tail with digits := tail.digits ++ [v], last := octet } rest

/-- The octets of the last quad, which starts at `offset`. -/
def finish (offset : Nat) (tail : Tail) : Except DecodeError (List UInt8) :=
  match tail.digits with
  | [] => .error (.length offset)
  | [_] => .error (.length (offset + 1))
  | digits =>
    if (digits.length + tail.pads) % 4 ≠ 0 then .error .padding
    else match digits with
      | [a, b] =>
        if b % 16 ≠ 0 then .error (.lastSymbol (offset + 1) tail.last)
        else .ok [UInt8.ofNat (a * 4 + b / 16)]
      | [a, b, c] =>
        if c % 4 ≠ 0 then .error (.lastSymbol (offset + 2) tail.last)
        else .ok [UInt8.ofNat (a * 4 + b / 16), UInt8.ofNat (b % 16 * 16 + c / 4)]
      | digits => .ok (octets digits)

/-- Where the last quad starts in a text of `n` octets. -/
def tailStart (n : Nat) : Nat :=
  if n % 4 = 0 then n - 4 else n - n % 4

/-- An octet that stands alone after complete quads and is neither a digit
nor padding. -/
def strayLast? (text : List UInt8) : Option UInt8 :=
  if text.length % 4 = 1 then
    text.getLast?.filter fun octet => octet ≠ pad && (value? octet).isNone
  else none

/-- **Decoding**: the octets a text stands for. -/
def decodeOctets (text : List UInt8) : Except DecodeError (List UInt8) :=
  match text, strayLast? text with
  | [], _ => .ok []
  | _, some octet => .error (.symbol (text.length - 1) octet)
  | _, none => do
    let start := tailStart text.length
    let digits ← values 0 (text.take start)
    let tail ← readTail start 0 {} (text.drop start)
    let rest ← finish start tail
    return octets digits ++ rest

/-- Decoding of a text by its octets. -/
def decode (text : String) : Except DecodeError (List UInt8) :=
  decodeOctets text.toUTF8.toList

/-- The offsets and octets of the faults: one example for each kind, and the
precedence where there are two. -/
example :
    (["A", "AA", "AB==", "!", "!!!!", "AAA!", "a\nb", "AAAA=", "AA=A", "!!!!!"].map fun s =>
      match decode s with
      | .error e => e.message
      | .ok _ => "") =
    ["Invalid input length: 1", "Invalid padding", "Invalid last symbol 66, offset 1.",
     "Invalid symbol 33, offset 0.", "Invalid symbol 33, offset 0.",
     "Invalid symbol 33, offset 3.", "Invalid symbol 10, offset 1.",
     "Invalid symbol 61, offset 4.", "Invalid symbol 61, offset 2.",
     "Invalid symbol 33, offset 4."] := by
  decide +kernel

end Xmpp.Base64
