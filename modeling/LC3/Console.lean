import LC3.IoError

/-!
# Consoles

The machine talks to one console: it takes bytes from a keyboard, either at once or not at
all, and writes bytes to a display. Every call may fail, and gives the console that is left.

- `Console`: what the machine asks of a console.
- `BufferConsole`: a queue of input and everything that was written.
- `Rationed`: a console whose calls stop working after a given number of them.
-/

namespace LC3

/-- What the machine asks of a console of type `κ`. -/
class Console (κ : Type) where
  /-- The key that is ready now, if there is one. -/
  pollKey : κ → Except IoError (Option UInt8) × κ
  /-- The next byte of input, or nothing at its end. -/
  readByte : κ → Except IoError (Option UInt8) × κ
  /-- Write bytes to the display. -/
  writeBytes : κ → List UInt8 → Except IoError Unit × κ
  /-- Make all that was written visible. -/
  flush : κ → Except IoError Unit × κ

/-- A console whose input is given beforehand and whose output is kept. -/
structure BufferConsole where
  /-- The bytes not yet taken. -/
  input : List UInt8
  /-- The bytes written so far. -/
  output : Array UInt8
  deriving DecidableEq

namespace BufferConsole

/-- A console with input and nothing written. -/
def ofInput (input : List UInt8) : BufferConsole := ⟨input, #[]⟩

/-- The first byte of the queue, and the console without it. -/
def take (c : BufferConsole) : Option UInt8 × BufferConsole :=
  match c.input with
  | [] => (none, c)
  | b :: rest => (some b, { c with input := rest })

/-- The console with bytes behind its output. -/
def put (c : BufferConsole) (bytes : List UInt8) : BufferConsole :=
  { c with output := c.output ++ bytes }

/-- The console with bytes behind its input. -/
def feed (c : BufferConsole) (bytes : List UInt8) : BufferConsole :=
  { c with input := c.input ++ bytes }

end BufferConsole

instance : Console BufferConsole where
  pollKey c := let (b, c) := c.take; (.ok b, c)
  readByte c := let (b, c) := c.take; (.ok b, c)
  writeBytes c bytes := (.ok (), c.put bytes)
  flush c := (.ok (), c)

/-- How many more calls of one kind work; `none` is no bound. -/
abbrev Ration := Option Nat

/-- One call: whether it works, and the ration that is left. -/
def Ration.spend : Ration → Bool × Ration
  | none => (true, none)
  | some 0 => (false, some 0)
  | some (n + 1) => (true, some n)

/-- A console with a ration for each kind of call. A call without a ration fails and does
not reach the console. -/
structure Rationed (κ : Type) where
  /-- The console behind the rations. -/
  inner : κ
  /-- The ration of keyboard polls. -/
  polls : Ration
  /-- The ration of reads. -/
  reads : Ration
  /-- The ration of writes. -/
  writes : Ration
  /-- The ration of flushes. -/
  flushes : Ration

instance {κ : Type} [Console κ] : Console (Rationed κ) where
  pollKey c :=
    match c.polls.spend with
    | (true, left) =>
      let (r, inner) := Console.pollKey c.inner
      (r, { c with inner, polls := left })
    | (false, left) => (.error (.broken "poll"), { c with polls := left })
  readByte c :=
    match c.reads.spend with
    | (true, left) =>
      let (r, inner) := Console.readByte c.inner
      (r, { c with inner, reads := left })
    | (false, left) => (.error (.broken "read"), { c with reads := left })
  writeBytes c bytes :=
    match c.writes.spend with
    | (true, left) =>
      let (r, inner) := Console.writeBytes c.inner bytes
      (r, { c with inner, writes := left })
    | (false, left) => (.error (.broken "write"), { c with writes := left })
  flush c :=
    match c.flushes.spend with
    | (true, left) =>
      let (r, inner) := Console.flush c.inner
      (r, { c with inner, flushes := left })
    | (false, left) => (.error (.broken "flush"), { c with flushes := left })

end LC3
