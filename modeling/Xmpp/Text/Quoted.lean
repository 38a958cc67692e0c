import Xmpp.Text.Unicode.Printing

/-!
# Quoted texts

Summaries for people show a text between quotes. Quotes, backslashes and
line ends are escaped, and a character that would not be seen is shown by
its number.
-/

namespace Xmpp.Text

/-- A character by its number. -/
def byNumber (c : Char) : String :=
  "\\u\x7b" ++ String.ofList (Nat.toDigits 16 c.toNat) ++ "\x7d"

/-- Whether a character leaves a mark of its own. -/
def isPrintable (c : Char) : Bool :=
  if c.toNat < 128 then 32 ≤ c.toNat && c.toNat < 127
  else !Unicode.inRanges Unicode.unprintable c.toNat

/-- A character inside quotes. -/
def escape (c : Char) : String :=
  match c with
  | '\x00' => "\\0"
  | '\t' => "\\t"
  | '\r' => "\\r"
  | '\n' => "\\n"
  | '\\' => "\\\\"
  | '"' => "\\\""
  | c => if isPrintable c then String.singleton c else byNumber c

/-- A text between quotes. -/
def quoted (s : String) : String :=
  "\"" ++ String.join (s.toList.map escape) ++ "\""

/-- Several texts between brackets. -/
def listed (items : List String) : String :=
  "[" ++ ", ".intercalate items ++ "]"

example : quoted "a\"b" = "\"a\\\"b\"" := by decide +kernel

end Xmpp.Text
