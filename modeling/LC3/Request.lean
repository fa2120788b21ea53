import LC3.Memory
import LC3.Ring

/-!
# Block requests

A request lies in the buffer of a descriptor: an operation code, a signed position, a length
in words, and then the payload.

- `Operation`: what a code asks for.
- `Request.load`, `Request.store`: the header in memory.
- `Request.payloadLength`: the length as far as a buffer can hold it.
-/

namespace LC3

/-- What a request asks for. -/
inductive Operation where
  /-- Fill the payload. -/
  | read
  /-- Take the payload. -/
  | write
  /-- Nothing that is known. -/
  | other (code : Word)
  deriving DecidableEq, Repr

namespace Operation

/-- The operation of a code. -/
def ofWord (code : Word) : Operation :=
  if code = 1 then .read else if code = 2 then .write else .other code

/-- The code of an operation. -/
def toWord : Operation → Word
  | .read => 1
  | .write => 2
  | .other code => code

/-- The name of an operation in reports. -/
def name : Operation → String
  | read => "Read"
  | write => "Write"
  | other code => s!"Other({code.toNat})"

end Operation

/-- The words of a request ahead of its payload. -/
abbrev headerWords : Nat := 3

/-- The most payload that a buffer holds. -/
abbrev maxPayload : Nat := 29

/-- The header of a request. -/
structure Request where
  /-- What is asked for. -/
  op : Operation
  /-- Where on the device. -/
  position : Int16
  /-- How many words. -/
  length : Word
  deriving DecidableEq

namespace Request

/-- The header as memory holds it. -/
def header (q : Request) : List Word := [q.op.toWord, q.position.toUInt16, q.length]

/-- The request whose header lies at `address`. -/
def load (m : Memory) (address : Word) : Request where
  op := .ofWord (m.get address)
  position := (m.get (address + 1)).toInt16
  length := m.get (address + 2)

/-- The memory after the header is stored at `address`. -/
def store (q : Request) (m : Memory) (address : Word) : Memory :=
  m.writeSlice address q.header

/-- The memory after the request at `address` is marked as consumed. -/
def clear (m : Memory) (address : Word) : Memory := m.set address 0

/-- Where the payload of the request at `address` begins. -/
def payload (address : Word) : Word := address + 3

/-- The length of the payload as far as a buffer can hold it. -/
def payloadLength (q : Request) : Nat := min q.length.toNat maxPayload

end Request

end LC3
