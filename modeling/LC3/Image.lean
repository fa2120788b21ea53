import LC3.ByteSource
import LC3.Event
import LC3.Memory

/-!
# Program images

An image is a sequence of words: the address of the program, then the program. It is read up
to the ceiling of memory; whether more follows is found out by looking at one more word.

- `Image.read`: the image that a source delivers.
- `Image.store`: the image in memory.
- `Memory.load`: both, with nothing stored unless the whole image could be read.
-/

namespace LC3

/-- A program and its place. -/
structure Image where
  /-- The address of the first word. -/
  origin : Word
  /-- The words. -/
  words : List Word
  /-- Whether the source goes on above the ceiling. -/
  truncated : Bool
  deriving DecidableEq

/-- Why an image was not loaded. -/
inductive LoadError where
  /-- There is no file to read. -/
  | unopened (path : String) (cause : IoError)
  /-- The source broke. -/
  | unread (cause : IoError)
  /-- The source is shorter than a word. -/
  | missingOrigin
  deriving DecidableEq, Repr

/-- The text reported for an image that was not loaded. -/
def LoadError.message : LoadError → String
  | .unopened path cause => s!"cannot open {path}: {cause.message}"
  | .unread cause => s!"read failed: {cause.message}"
  | .missingOrigin => "image has no origin word"

/-- What is known of a loaded image. -/
structure Loaded where
  /-- The address of the first word. -/
  origin : Word
  /-- The number of words stored. -/
  count : Nat
  /-- Whether the image went on above the ceiling. -/
  truncated : Bool
  deriving DecidableEq, Repr

namespace Image

/-- The words up to the end of a source, at most `limit` of them, behind those in `taken`. -/
def readWords (s : ByteSource) (taken : Array Word) :
    Nat → Except IoError (Array Word) × ByteSource
  | 0 => (.ok taken, s)
  | limit + 1 =>
    match s.nextWord with
    | (.error cause, s) => (.error cause, s)
    | (.ok none, s) => (.ok taken, s)
    | (.ok (some w), s) => readWords s (taken.push w) limit

/-- Whether a source that has filled the memory goes on. -/
def readsOn (s : ByteSource) (filled : Bool) : Except IoError Bool × ByteSource :=
  if filled then
    match s.nextWord with
    | (.error cause, s) => (.error cause, s)
    | (.ok w, s) => (.ok w.isSome, s)
  else (.ok false, s)

/-- The image that a source delivers. -/
def read (s : ByteSource) : Except LoadError Image × ByteSource :=
  match s.nextWord with
  | (.error cause, s) => (.error (.unread cause), s)
  | (.ok none, s) => (.error .missingOrigin, s)
  | (.ok (some origin), s) =>
    match readWords s #[] (Memory.room origin) with
    | (.error cause, s) => (.error (.unread cause), s)
    | (.ok words, s) =>
      match readsOn s (words.size == Memory.room origin) with
      | (.error cause, s) => (.error (.unread cause), s)
      | (.ok truncated, s) => (.ok ⟨origin, words.toList, truncated⟩, s)

/-- The memory with an image in it, and what is known of the image. -/
def store (image : Image) (m : Memory) : Memory × Loaded :=
  let (m, count) := m.loadAt image.origin image.words
  (m, ⟨image.origin, count, image.truncated⟩)

/-- What there is to report of an image. -/
def events (image : Image) : List Event :=
  if image.truncated then [.imageTruncated image.origin] else []

end Image

/-- What loading an image leaves. -/
structure Loading where
  /-- What is known of the image. -/
  result : Except LoadError Loaded
  /-- The memory. -/
  memory : Memory
  /-- What is left of the source. -/
  source : ByteSource
  /-- What was reported. -/
  events : List Event

namespace Memory

/-- Load the image that a source delivers. -/
def load (m : Memory) (s : ByteSource) : Loading :=
  match Image.read s with
  | (.error cause, s) => ⟨.error cause, m, s, []⟩
  | (.ok image, s) =>
    let (m, loaded) := image.store m
    ⟨.ok loaded, m, s, image.events⟩

/-- Load an image of given bytes. -/
def loadBytes (m : Memory) (bytes : List UInt8) : Loading := m.load (.ofBytes bytes)

end Memory

end LC3
