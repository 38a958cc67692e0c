/-!
# Rows of numbers

Properties of characters are given by tables, and a table is written as a
text of rows: hexadecimal numbers with commas between them, a semicolon
after each row, and blanks wherever a line ends. The first number of a row
is its key, and the rows are in ascending order of their keys, so that a row
is found by halving.
-/

namespace Xmpp.Unicode

/-- What has been read of a text of rows. -/
structure Reading where
  /-- The finished rows. -/
  rows : Array (Array Nat) := #[]
  /-- The finished numbers of the current row. -/
  row : Array Nat := #[]
  /-- The value of the digits of the current number. -/
  number : Nat := 0

/-- The value of a hexadecimal digit; anything else counts as zero. -/
def hexDigit (c : Char) : Nat :=
  if '0' ≤ c ∧ c ≤ '9' then c.toNat - '0'.toNat
  else if 'a' ≤ c ∧ c ≤ 'f' then c.toNat - 'a'.toNat + 10
  else 0

/-- Reads one more character. -/
def Reading.next (r : Reading) (c : Char) : Reading :=
  if c == ',' then { r with row := r.row.push r.number, number := 0 }
  else if c == ';' then { rows := r.rows.push (r.row.push r.number) }
  else if c == ' ' || c == '\n' then r
  else { r with number := 16 * r.number + hexDigit c }

/-- The rows a text stands for. -/
def rows (text : String) : Array (Array Nat) :=
  (text.foldl Reading.next {}).rows

/-- The key of a row. -/
def key (row : Array Nat) : Nat :=
  row.getD 0 0

/-- Halves the span from `low` to `high` until one row is left, at most
`steps` times. -/
def seek (table : Array (Array Nat)) (n : Nat) : (steps low high : Nat) → Option (Array Nat)
  | 0, _, _ => none
  | steps + 1, low, high =>
    if high ≤ low then none
    else if low + 1 = high then table[low]?
    else
      let middle := (low + high) / 2
      if key (table.getD middle #[]) ≤ n then seek table n steps middle high
      else seek table n steps low middle

/-- The last row whose key is at most `n`, if the first one is. -/
def rowAt? (table : Array (Array Nat)) (n : Nat) : Option (Array Nat) :=
  (seek table n (table.size + 1) 0 table.size).filter fun row => key row ≤ n

/-- The row whose key is `n`, without the key. -/
def row? (table : Array (Array Nat)) (n : Nat) : Option (List Nat) :=
  ((rowAt? table n).filter fun row => key row == n).map fun row => row.toList.drop 1

/-- Whether `n` lies in one of the ranges of a table. A row of one number is
the range of this number alone. -/
def inRanges (table : Array (Array Nat)) (n : Nat) : Bool :=
  (rowAt? table n).any fun row => n ≤ row.getD 1 (key row)

end Xmpp.Unicode
