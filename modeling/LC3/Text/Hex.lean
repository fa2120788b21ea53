/-!
# Hexadecimal text

- `upperHex width n`: `n` with capital digits, padded with zeros to `width`.
- `lowerHex n`: `n` with small digits and no padding.
-/

namespace LC3.Text

/-- The hexadecimal digits of `n`, without leading zeros (`0` for zero), in lower case. -/
def lowerHex (n : Nat) : String :=
  String.ofList (Nat.toDigits 16 n)

/-- `n` in capital hexadecimal digits, at least `width` of them. -/
def upperHex (width n : Nat) : String :=
  let digits := (Nat.toDigits 16 n).map Char.toUpper
  String.ofList (List.replicate (width - digits.length) '0' ++ digits)

/-- A word as messages write it: `0x` and four capital digits. -/
def wordHex (w : UInt16) : String :=
  "0x" ++ upperHex 4 w.toNat

end LC3.Text
