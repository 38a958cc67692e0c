/-!
# Decimal numerals

Numbers travel as attributes and texts. A numeral is one or more of the
digits `0` to `9` after an optional sign: no blanks, no separators. A plus
sign is always allowed, a minus sign only where negative numbers are in
range, and a value out of range is no number at all.
-/

namespace Xmpp.Decimal

/-- The value of one digit. -/
def digit? (c : Char) : Option Nat :=
  if '0' ≤ c ∧ c ≤ '9' then some (c.toNat - '0'.toNat) else none

/-- The value of a run of digits read after `acc`, if they all are. -/
def digits? (acc : Nat) : List Char → Option Nat
  | [] => some acc
  | c :: cs => (digit? c).bind fun d => digits? (10 * acc + d) cs

/-- The value of a non-empty run of digits. -/
def natural? : List Char → Option Nat
  | [] => none
  | cs => digits? 0 cs

/-- A number below 2^32, with an optional plus sign. -/
def unsigned32? (s : String) : Option UInt32 :=
  let digits := match s.toList with
    | '+' :: cs => cs
    | cs => cs
  (natural? digits).bind fun n => if n < UInt32.size then some (UInt32.ofNat n) else none

/-- A number from −2^31 to 2^31 − 1, with an optional sign. -/
def signed32? (s : String) : Option Int :=
  match s.toList with
  | '-' :: cs => (natural? cs).bind fun n => if n ≤ 0x80000000 then some (-(n : Int)) else none
  | '+' :: cs => (natural? cs).bind fun n => if n < 0x80000000 then some (n : Int) else none
  | cs => (natural? cs).bind fun n => if n < 0x80000000 then some (n : Int) else none

end Xmpp.Decimal
