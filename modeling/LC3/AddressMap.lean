import LC3.Word

/-!
# The address map

Fixed addresses of the machine.

- `inTrapTable`: the addresses of the trap vectors.
- `inInterruptWindow`: the addresses where a store rings a device.
- `keyboardStatus`, `keyboardData`: the two keyboard registers.
- `defaultDoorbell`, `defaultRingBase`: where the standard block device listens and where
  its ring lies.
- `programStart`: where execution begins unless configured otherwise.
-/

namespace LC3

/-- Whether `address` holds a trap vector. -/
def inTrapTable (address : Word) : Bool := address ≤ 0x00FF

/-- Whether a store to `address` is delivered to a device. -/
def inInterruptWindow (address : Word) : Bool := 0x0100 ≤ address && address ≤ 0x01FF

/-- The entry of the interrupt window that the standard block device owns. -/
def defaultDoorbell : Word := 0x0100

/-- The first address of the standard block device's ring. -/
def defaultRingBase : Word := 0x7FFF

/-- The keyboard status register; bit 15 says that a key has been found. -/
def keyboardStatus : Word := 0xFE00

/-- The keyboard data register, which holds the key found last. -/
def keyboardData : Word := 0xFE02

/-- The keyboard status word after a key has been found. -/
def keyReady : Word := 0x8000

/-- The address of the first instruction of a program that says nothing else. -/
def programStart : Word := 0x3000

end LC3
