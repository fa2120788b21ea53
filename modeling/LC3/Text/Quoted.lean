import LC3.Text.Hex
import LC3.Text.Printable

/-!
# Quoted text

Messages show foreign text between double quotes, with the quote, the backslash and every
character that does not print on its own escaped, so that one line of output shows exactly
which characters were met.

- `escapeChar`: what stands for one character.
- `quoted`: the whole text between quotes.
-/

namespace LC3.Text

/-- The characters that stand for `c` inside double quotes. A character with no short
escape that does not print on its own is written by its number. -/
def escapeChar (c : Char) : String :=
  match c with
  | '\x00' => "\\0"
  | '\t' => "\\t"
  | '\n' => "\\n"
  | '\r' => "\\r"
  | '\x22' => "\\\""
  | '\\' => "\\\\"
  | c => if isStandalone c then c.toString else "\\u\x7b" ++ lowerHex c.toNat ++ "\x7d"

/-- `s` between double quotes, escaped. -/
def quoted (s : String) : String :=
  "\"" ++ String.join (s.toList.map escapeChar) ++ "\""

end LC3.Text
