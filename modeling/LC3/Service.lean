import LC3.Bus
import LC3.Registers

/-!
# Services

Programs reach the console by calling services. The machine carries a service out itself; the
vector table in memory is not used. Before a service runs, the link register takes the
return address, whatever comes of the call.

- `Service.ofVector`: the services and their vectors.
- `Service.call`: the effect of calling a vector.
- `stringBytes`, `packedBytes`: the text that the two string services write.
-/

namespace LC3

/-- The services. -/
inductive Service where
  /-- Take a byte of input. -/
  | getc
  /-- Write a byte. -/
  | out
  /-- Write a string of one byte a word. -/
  | puts
  /-- Take a byte of input and write it. -/
  | echo
  /-- Write a string of two bytes a word. -/
  | putsp
  /-- Stop. -/
  | halt
  deriving DecidableEq, Repr

/-- Why a service failed. -/
structure ConsoleFault where
  /-- The service that was running. -/
  service : Service
  /-- What went wrong. -/
  cause : IoError
  deriving DecidableEq

/-- What an executed instruction asks for. -/
inductive Signal where
  /-- The next instruction. -/
  | proceed
  /-- To stop. -/
  | halt
  /-- To stop for good. -/
  | abort (opcode : BadOpcode)
  deriving DecidableEq, Repr

/-- What an instruction leaves: a signal or a failure, the registers and the bus. -/
structure Effect (κ δ : Type) where
  /-- What is asked for. -/
  signal : Except ConsoleFault Signal
  /-- The registers. -/
  regs : Registers
  /-- The bus. -/
  bus : Bus κ δ

namespace Service

/-- The service of a vector. -/
def ofVector (vector : UInt8) : Option Service :=
  match vector.toNat with
  | 0x20 => some .getc
  | 0x21 => some .out
  | 0x22 => some .puts
  | 0x23 => some .echo
  | 0x24 => some .putsp
  | 0x25 => some .halt
  | _ => none

/-- The name of a service. -/
def name : Service → String
  | getc => "GETC"
  | out => "OUT"
  | puts => "PUTS"
  | echo => "IN"
  | putsp => "PUTSP"
  | halt => "HALT"

end Service

/-- The text reported for a failed service. -/
def ConsoleFault.message (f : ConsoleFault) : String :=
  "console I/O failed in " ++ f.service.name

/-! ## Strings in memory -/

/-- `n` more than the number of words from `address + n` on up to a zero word, if one comes
among the next `limit` words; else `n + limit`. -/
def zeroFreeFrom (m : Memory) (address : Word) (n : Nat) : Nat → Nat
  | 0 => n
  | limit + 1 =>
    if m.get (address + UInt16.ofNat n) = 0 then n else zeroFreeFrom m address (n + 1) limit

/-- The words of the string at `address`: up to a zero word, and at most one for each
address. -/
def stringWords (m : Memory) (address : Word) : List Word :=
  m.readSlice address (zeroFreeFrom m address 0 addressCount)

/-- The bytes of a string of one byte a word. -/
def stringBytes (m : Memory) (address : Word) : List UInt8 :=
  (stringWords m address).map lowByte

/-- The bytes of a word that holds two: the less significant one comes first, and the other
one counts unless it is zero. -/
def packedPair (w : Word) : List UInt8 :=
  if highByte w = 0 then [lowByte w] else [lowByte w, highByte w]

/-- The bytes of a string of two bytes a word. -/
def packedBytes (m : Memory) (address : Word) : List UInt8 :=
  (stringWords m address).flatMap packedPair

/-- The word for a byte of input; the end of input reads as all ones. -/
def inputWord : Option UInt8 → Word
  | some byte => byte.toUInt16
  | none => 0xFFFF

namespace Service

variable {κ δ : Type} [Console κ]

/-- The effect of a console call that yields nothing, with `signal` if it works. -/
def settle (service : Service) (signal : Signal) (regs : Registers) :
    Except IoError Unit × Bus κ δ → Effect κ δ
  | (.ok (), bus) => ⟨.ok signal, regs, bus⟩
  | (.error cause, bus) => ⟨.error ⟨service, cause⟩, regs, bus⟩

/-- Carry out a service. -/
def perform (service : Service) (regs : Registers) (bus : Bus κ δ) : Effect κ δ :=
  match service with
  | .getc =>
    match bus.readByte with
    | (.error cause, bus) => ⟨.error ⟨service, cause⟩, regs, bus⟩
    | (.ok byte, bus) => ⟨.ok .proceed, regs.assign Reg.r0 (inputWord byte), bus⟩
  | .out => settle service .proceed regs (bus.emit [lowByte (regs.get Reg.r0)])
  | .puts => settle service .proceed regs (bus.emit (stringBytes bus.memory (regs.get Reg.r0)))
  | .echo =>
    match bus.readByte with
    | (.error cause, bus) => ⟨.error ⟨service, cause⟩, regs, bus⟩
    | (.ok none, bus) => ⟨.ok .proceed, regs.assign Reg.r0 (inputWord none), bus⟩
    | (.ok (some byte), bus) =>
      match bus.emit [byte] with
      | (.error cause, bus) => ⟨.error ⟨service, cause⟩, regs, bus⟩
      | (.ok (), bus) => ⟨.ok .proceed, regs.assign Reg.r0 (inputWord (some byte)), bus⟩
  | .putsp => settle service .proceed regs (bus.emit (packedBytes bus.memory (regs.get Reg.r0)))
  | .halt => settle service .halt regs (bus.report (.haltCalled (regs.pc - 1))).flush

/-- Call the service of a vector. A vector without a service is reported and skipped. -/
def call (vector : UInt8) (regs : Registers) (bus : Bus κ δ) : Effect κ δ :=
  let regs := regs.set Reg.link regs.pc
  match ofVector vector with
  | none => ⟨.ok .proceed, regs, bus.report (.unknownService vector (regs.pc - 1))⟩
  | some service => service.perform regs bus

end Service

end LC3
