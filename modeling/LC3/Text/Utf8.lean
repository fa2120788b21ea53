/-!
# Text from bytes that may be malformed

Bytes are read as UTF-8. Where they are not well formed, each longest stretch that could have
begun a character is replaced by one replacement character (U+FFFD), and reading goes on
behind it.

- `decodeLossy`: the text of any bytes.
-/

namespace LC3.Text

/-- What stands for bytes that are no text. -/
def replacement : Char := '\ufffd'

/-- A character that has begun. -/
structure Unfinished where
  /-- How many bytes are owed. -/
  owed : Nat
  /-- The least byte that may come next. -/
  low : UInt8
  /-- The greatest byte that may come next. -/
  high : UInt8
  /-- The bits that have come so far. -/
  code : Nat

/-- What a byte can begin. -/
inductive Beginning where
  /-- A character of one byte. -/
  | whole (c : Char)
  /-- A character of more bytes. -/
  | unfinished (u : Unfinished)
  /-- Nothing. -/
  | malformed

/-- What byte `b` begins. The bounds on the second byte exclude longer forms than needed,
surrogates and numbers beyond the last code point. -/
def Beginning.ofByte (b : UInt8) : Beginning :=
  let n := b.toNat
  if n < 0x80 then .whole (Char.ofNat n)
  else if n < 0xC2 then .malformed
  else if n < 0xE0 then .unfinished ⟨1, 0x80, 0xBF, n - 0xC0⟩
  else if n < 0xF0 then
    .unfinished ⟨2, if n = 0xE0 then 0xA0 else 0x80, if n = 0xED then 0x9F else 0xBF, n - 0xE0⟩
  else if n < 0xF5 then
    .unfinished ⟨3, if n = 0xF0 then 0x90 else 0x80, if n = 0xF4 then 0x8F else 0xBF, n - 0xF0⟩
  else .malformed

/-- Text decoded so far, and a character that has begun behind it. -/
structure Decoding where
  /-- The text. -/
  text : String
  /-- The character that has begun. -/
  pending : Option Unfinished

namespace Decoding

/-- Go on with a byte that begins something new. -/
def begin (text : String) (b : UInt8) : Decoding :=
  match Beginning.ofByte b with
  | .whole c => ⟨text.push c, none⟩
  | .unfinished u => ⟨text, some u⟩
  | .malformed => ⟨text.push replacement, none⟩

/-- Go on with one byte. -/
def next (d : Decoding) (b : UInt8) : Decoding :=
  match d.pending with
  | none => begin d.text b
  | some u =>
    if u.low ≤ b ∧ b ≤ u.high then
      let code := u.code * 64 + (b.toNat - 0x80)
      if u.owed ≤ 1 then ⟨d.text.push (Char.ofNat code), none⟩
      else ⟨d.text, some ⟨u.owed - 1, 0x80, 0xBF, code⟩⟩
    else begin (d.text.push replacement) b

/-- The text at the end of the bytes. -/
def finish (d : Decoding) : String :=
  match d.pending with
  | none => d.text
  | some _ => d.text.push replacement

end Decoding

/-- The text of bytes, with a replacement character for each malformed stretch. -/
def decodeLossy (bytes : Array UInt8) : String :=
  (bytes.foldl Decoding.next ⟨"", none⟩).finish

end LC3.Text
