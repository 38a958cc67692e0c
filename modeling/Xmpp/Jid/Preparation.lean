import Xmpp.Text.Unicode.Normalization
import Xmpp.Text.Unicode.Folding
import Xmpp.Text.Unicode.Assignment
import Xmpp.Text.Unicode.Direction

/-!
# Preparation of the parts of an address

Two spellings of an address are the same address when their parts are equal
after preparation. Preparing a part

1. drops the characters that are invisible by nature, and folds the case
   unless the part is a resource,
2. brings the rest into compatibility normal form,
3. refuses characters that have no place in the part,
4. refuses a mixture of writing directions, and
5. refuses unassigned characters.

A text of ASCII characters alone needs no table: folding is the lower case
of the letters, and normalisation changes nothing.
-/

namespace Xmpp.Jid

/-- **The parts of an address**, each with its own rules. -/
inductive Part where
  /-- The local part, before the at sign. -/
  | node
  /-- The domain. -/
  | domain
  /-- The resource, after the slash. -/
  | resource
deriving DecidableEq

/-- Whether upper and lower case are the same in this part. -/
def Part.foldsCase : Part → Bool
  | .node => true
  | .domain => true
  | .resource => false

/-- Whether a number lies in one of the ranges. -/
def within (ranges : List (Nat × Nat)) (n : Nat) : Bool :=
  ranges.any fun r => r.1 ≤ n && n ≤ r.2

/-- Characters that are dropped. -/
def invisible : List (Nat × Nat) :=
  [(0xAD, 0xAD), (0x34F, 0x34F), (0x1806, 0x1806), (0x180B, 0x180D), (0x200B, 0x200D),
   (0x2060, 0x2060), (0xFE00, 0xFE0F), (0xFEFF, 0xFEFF)]

/-- Characters no part may contain: spaces beyond ASCII, control characters
beyond ASCII, private use, code points that are no characters, replacement
and description characters, marks that change the display, and tags. -/
def prohibited : List (Nat × Nat) :=
  [(0xA0, 0xA0), (0x1680, 0x1680), (0x2000, 0x200B), (0x202F, 0x202F), (0x205F, 0x205F),
   (0x3000, 0x3000),
   (0x80, 0x9F), (0x6DD, 0x6DD), (0x70F, 0x70F), (0x180E, 0x180E), (0x200C, 0x200D),
   (0x2028, 0x2029), (0x2060, 0x2063), (0x206A, 0x206F), (0xFEFF, 0xFEFF),
   (0xFFF9, 0xFFFC), (0x1D173, 0x1D17A),
   (0xE000, 0xF8FF), (0xF0000, 0xFFFFD), (0x100000, 0x10FFFD),
   (0xFDD0, 0xFDEF), (0xFFFE, 0xFFFF), (0x1FFFE, 0x1FFFF), (0x2FFFE, 0x2FFFF),
   (0x3FFFE, 0x3FFFF), (0x4FFFE, 0x4FFFF), (0x5FFFE, 0x5FFFF), (0x6FFFE, 0x6FFFF),
   (0x7FFFE, 0x7FFFF), (0x8FFFE, 0x8FFFF), (0x9FFFE, 0x9FFFF), (0xAFFFE, 0xAFFFF),
   (0xBFFFE, 0xBFFFF), (0xCFFFE, 0xCFFFF), (0xDFFFE, 0xDFFFF), (0xEFFFE, 0xEFFFF),
   (0xFFFFE, 0xFFFFF), (0x10FFFE, 0x10FFFF),
   (0xFFFD, 0xFFFD), (0x2FF0, 0x2FFB),
   (0x340, 0x341), (0x200E, 0x200F), (0x202A, 0x202E),
   (0xE0001, 0xE0001), (0xE0020, 0xE007F)]

/-- ASCII characters a part may not contain: control characters in a node or
a resource, and in a node also the space and the characters that delimit
addresses or need escaping. -/
def Part.prohibitedAscii : Part → List (Nat × Nat)
  | .node =>
    [(0x00, 0x20), (0x7F, 0x7F), (0x22, 0x22), (0x26, 0x27), (0x2F, 0x2F), (0x3A, 0x3A),
     (0x3C, 0x3C), (0x3E, 0x3E), (0x40, 0x40)]
  | .domain => []
  | .resource => [(0x00, 0x1F), (0x7F, 0x7F)]

/-- The case folding of a character. -/
def fold (n : Nat) : List Nat :=
  (Unicode.row? Unicode.foldings n).getD [n]

/-- Whether a text mixes writing directions: it contains a character written
from right to left, and either one written from left to right or an end that
is not written from right to left. -/
def mixesDirections (text : List Nat) : Bool :=
  let backward := Unicode.inRanges Unicode.rightToLeft
  text.any backward &&
    (text.any (Unicode.inRanges Unicode.leftToRight)
      || !(text.head?.any backward && text.getLast?.any backward))

/-- Preparation of a text of ASCII characters. -/
def Part.prepareAscii (part : Part) (text : List Char) : Option (List Char) :=
  let text := if part.foldsCase then text.map Char.toLower else text
  if text.any fun c => within part.prohibitedAscii c.toNat then none else some text

/-- Preparation of any text, given by its code points. -/
def Part.prepareCodePoints (part : Part) (text : List Nat) : Option (List Nat) :=
  let visible := text.filter fun n => !within invisible n
  let folded := if part.foldsCase then visible.flatMap fold else visible
  let normal := Unicode.normalize folded
  if normal.any fun n => within part.prohibitedAscii n || within prohibited n then none
  else if mixesDirections normal then none
  else if normal.any (Unicode.inRanges Unicode.unassigned) then none
  else some normal

/-- **The prepared form of a part**, if the text can be one. -/
def Part.prepare (part : Part) (text : List Char) : Option (List Char) :=
  if text.all fun c => c.toNat < 128 then part.prepareAscii text
  else (part.prepareCodePoints (text.map Char.toNat)).map (·.map Char.ofNat)

end Xmpp.Jid
