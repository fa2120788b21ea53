import LC3.IoError
import LC3.Word

/-!
# Sources of bytes

A source delivers bytes from the front on, a few at a time. How many come with one call is the
source's own affair, as long as it is at least one until the end is reached. A source may be
endless, and it may break.

- `ByteSource`: the bytes, how they are portioned, and where the source breaks.
- `ByteSource.deliver`: one call.
- `ByteSource.nextWord`: two bytes, however they are portioned.
-/

namespace LC3

/-- A source of bytes. -/
structure ByteSource where
  /-- The byte at each place; nothing at the end. -/
  byteAt : Nat → Option UInt8
  /-- The most bytes that a call delivers from each place on; at least one comes anyway. -/
  portion : Nat → Nat
  /-- The place at which the source breaks, and how. -/
  breaks : Option (Nat × IoError)
  /-- The number of bytes delivered so far. -/
  position : Nat

namespace ByteSource

/-- A source of given bytes, all at once if wanted, that does not break. -/
def ofBytes (bytes : List UInt8) : ByteSource :=
  let stored := bytes.toArray
  ⟨fun i => stored[i]?, fun _ => stored.size, none, 0⟩

/-- The source with at most `count` bytes to a call. With none to a call it is at its end. -/
def portioned (s : ByteSource) (count : Nat) : ByteSource :=
  if count = 0 then { s with byteAt := fun _ => none } else { s with portion := fun _ => count }

/-- A source that cannot be read. -/
def unreadable (cause : IoError) : ByteSource where
  byteAt _ := none
  portion _ := 1
  breaks := some (0, cause)
  position := 0

/-- The bytes from place `start` on, at most `count` of them. -/
def slice (byteAt : Nat → Option UInt8) (start : Nat) : Nat → List UInt8
  | 0 => []
  | count + 1 =>
    match byteAt start with
    | none => []
    | some b => b :: slice byteAt (start + 1) count

/-- The number of bytes that a call for at most `count` may deliver. -/
def allowance (s : ByteSource) (count : Nat) : Nat :=
  let portion := min count (max 1 (s.portion s.position))
  match s.breaks with
  | none => portion
  | some (place, _) => min portion (place - s.position)

/-- One call for at most `count` bytes. No bytes mean the end. -/
def deliver (s : ByteSource) (count : Nat) : Except IoError (List UInt8) × ByteSource :=
  match s.breaks with
  | some (place, cause) =>
    if place ≤ s.position then (.error cause, s) else go
  | none => go
where
  /-- The delivery of a source that is not broken yet. -/
  go : Except IoError (List UInt8) × ByteSource :=
    let bytes := slice s.byteAt s.position (s.allowance count)
    (.ok bytes, { s with position := s.position + bytes.length })

/-- The next two bytes as a word, after as many calls as it takes. Nothing is returned when
the source ends before; a byte that was delivered is lost then. -/
def nextWord (s : ByteSource) : Except IoError (Option Word) × ByteSource :=
  match s.deliver 2 with
  | (.error cause, s) => (.error cause, s)
  | (.ok [], s) => (.ok none, s)
  | (.ok (high :: low :: _), s) => (.ok (some (LC3.ofBytes high low)), s)
  | (.ok [high], s) =>
    match s.deliver 1 with
    | (.error cause, s) => (.error cause, s)
    | (.ok [], s) => (.ok none, s)
    | (.ok (low :: _), s) => (.ok (some (LC3.ofBytes high low)), s)

end ByteSource

end LC3
