import Xmpp.Text.Unicode.Decomposition
import Xmpp.Text.Unicode.Composition

/-!
# Compatibility normalisation

Two texts that look alike for all practical purposes have one normal form.
It is reached in three steps: every character is replaced by its complete
decomposition, the combining characters that follow one another are put in
the order of their classes, and characters are composed again wherever a
composition exists and nothing stands in between.

The syllables of Hangul follow a rule instead of a table: a syllable is a
leading consonant, a vowel and possibly a trailing consonant, and its number
is made of theirs.
-/

namespace Xmpp.Unicode

/-- First syllable of Hangul. -/
def hangulStart : Nat := 0xAC00

/-- Number of syllables of Hangul. -/
def hangulCount : Nat := 11172

/-- The consonants and the vowel of a syllable with this number. -/
def hangulParts (index : Nat) : List Nat :=
  let leading := 0x1100 + index / 588
  let vowel := 0x1161 + index % 588 / 28
  if index % 28 = 0 then [leading, vowel] else [leading, vowel, 0x11A7 + index % 28]

/-- The complete decomposition of a character. -/
def decompose (n : Nat) : List Nat :=
  if hangulStart ≤ n ∧ n < hangulStart + hangulCount then hangulParts (n - hangulStart)
  else (row? decompositions n).getD [n]

/-- The combining class of a character, zero for a character that starts a
new combination. -/
def combiningClass (n : Nat) : Nat :=
  if inRanges combiningClasses n then
    ((rowAt? combiningClasses n).map fun row => row.getD 2 0).getD 0
  else 0

/-- Puts a combining character behind all those of its class or a lower one
at the end of a text given in reverse. -/
def insertCombining (n : Nat) (rank : Nat) : List Nat → List Nat
  | [] => [n]
  | m :: rest =>
    if rank < combiningClass m then m :: insertCombining n rank rest else n :: m :: rest

/-- The text with its combining characters in order. -/
def reorder (text : List Nat) : List Nat :=
  (text.foldl (fun reversed n =>
    let rank := combiningClass n
    if rank = 0 then n :: reversed else insertCombining n rank reversed) []).reverse

/-- What follows a character in the pairs of its row. -/
def pairs? (m : Nat) : List Nat → Option Nat
  | second :: composed :: rest => if second = m then some composed else pairs? m rest
  | _ => none

/-- The character two others compose to. -/
def compose? (n m : Nat) : Option Nat :=
  if 0x1100 ≤ n ∧ n < 0x1113 ∧ 0x1161 ≤ m ∧ m < 0x1176 then
    some (hangulStart + ((n - 0x1100) * 21 + (m - 0x1161)) * 28)
  else if hangulStart ≤ n ∧ n < hangulStart + hangulCount ∧ (n - hangulStart) % 28 = 0
      ∧ 0x11A8 ≤ m ∧ m < 0x11C3 then
    some (n + (m - 0x11A7))
  else (row? compositions n).bind (pairs? m)

/-- What has been composed of a text. -/
structure Composing where
  /-- The finished part, in reverse. -/
  done : List Nat := []
  /-- The last character of class zero, if there was one. -/
  starter : Option Nat := none
  /-- What follows it and could not be composed with it, in reverse. -/
  after : List Nat := []

/-- Everything composed so far, in reverse. -/
def Composing.reversed (c : Composing) : List Nat :=
  c.after ++ c.starter.toList ++ c.done

/-- Adds a character. It is composed with the last character of class zero
unless something of its own class or a higher one, or of class zero, stands
between them. -/
def Composing.next (c : Composing) (n : Nat) : Composing :=
  let rank := combiningClass n
  match c.starter with
  | none =>
    if rank = 0 then { c with starter := some n } else { c with done := n :: c.done }
  | some s =>
    let blocked := match c.after with
      | [] => false
      | m :: _ => rank ≤ combiningClass m
    match (if blocked then none else compose? s n) with
    | some composed => { c with starter := some composed }
    | none =>
      if rank = 0 then { done := c.reversed, starter := some n, after := [] }
      else { c with after := n :: c.after }

/-- **The compatibility normal form** of a text. -/
def normalize (text : List Nat) : List Nat :=
  ((reorder (text.flatMap decompose)).foldl Composing.next {}).reversed.reverse

end Xmpp.Unicode
