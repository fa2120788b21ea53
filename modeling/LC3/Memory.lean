import LC3.Word

/-!
# Memory

One word at each of the `2 ^ 16` addresses, and nothing else: no access here has an effect
beyond the words it names. Addresses wrap at the ceiling, except when an image is loaded.

- `Memory.get`, `Memory.set`: one word, with the laws `get_set_self`, `get_set_other`.
- `Memory.ext_get`: a memory is the function that `get` reads off it.
- `Memory.readSlice`, `Memory.writeSlice`: consecutive words, wrapping.
- `Memory.loadAt`: consecutive words up to the ceiling.
- `Memory.image`: the whole memory as a program image.
-/

namespace LC3

/-- The contents of the address space. -/
structure Memory where
  /-- The word at each address. -/
  words : Vector Word addressCount

namespace Memory

/-- A memory that holds zero everywhere. -/
def zero : Memory := ⟨Vector.replicate addressCount 0⟩

instance : Inhabited Memory := ⟨zero⟩

/-- The word at `address`. -/
def get (m : Memory) (address : Word) : Word :=
  getElem m.words address.toNat address.toNat_lt

/-- `m` with `value` at `address`. -/
def set (m : Memory) (address value : Word) : Memory :=
  ⟨m.words.set address.toNat value address.toNat_lt⟩

@[simp] theorem get_zero (address : Word) : zero.get address = 0 := by
  simp [get, zero]

@[simp] theorem get_set_self (m : Memory) (a v : Word) : (m.set a v).get a = v := by
  simp [get, set]

theorem get_set_other {m : Memory} {a b v : Word} (h : b ≠ a) :
    (m.set a v).get b = m.get b := by
  have : a.toNat ≠ b.toNat := fun e => h (UInt16.toNat_inj.mp e).symm
  simp [get, set, this]

/-- A word after a store is the stored value at the address of the store and the old word
everywhere else. -/
theorem get_set (m : Memory) (a v b : Word) :
    (m.set a v).get b = if b = a then v else m.get b := by
  by_cases h : b = a
  · subst h; simp
  · simp [h, get_set_other h]

/-- Memories that read the same everywhere are equal. -/
theorem ext_get {m n : Memory} (h : ∀ a, m.get a = n.get a) : m = n := by
  obtain ⟨ws⟩ := m
  obtain ⟨vs⟩ := n
  congr 1
  apply Vector.ext
  intro i hi
  have same := h (UInt16.ofNat i)
  have inside : i % 65536 = i := Nat.mod_eq_of_lt hi
  simpa [get, inside] using same

/-- The `count` words from `address` on, wrapping at the ceiling. -/
def readSlice (m : Memory) (address : Word) (count : Nat) : List Word :=
  (List.range count).map fun i => m.get (address + UInt16.ofNat i)

/-- `m` with `values` stored one after the other from `address` on, wrapping at the ceiling.
Of two values that meet at one address the later one stays. -/
def writeSlice (m : Memory) (address : Word) : List Word → Memory
  | [] => m
  | value :: rest => (m.set address value).writeSlice (address + 1) rest

/-- `m` with `values` stored from the address `start` on, as far as there are addresses. -/
def placeFrom (m : Memory) (start : Nat) : List Word → Memory
  | [] => m
  | value :: rest =>
    if start < addressCount then (m.set (UInt16.ofNat start) value).placeFrom (start + 1) rest
    else m

/-- The number of addresses from `origin` to the ceiling. -/
def room (origin : Word) : Nat := addressCount - origin.toNat

/-- `m` with `values` stored from `origin` on up to the ceiling, and how many of them were. -/
def loadAt (m : Memory) (origin : Word) (values : List Word) : Memory × Nat :=
  (m.placeFrom origin.toNat values, min values.length (room origin))

/-- The number of words that are not zero. -/
def usedWords (m : Memory) : Nat :=
  m.words.toArray.countP (· != 0)

/-- The bytes of a list of words, the more significant one of each word first. -/
def bigEndian (values : List Word) : List UInt8 :=
  values.flatMap fun w => [highByte w, lowByte w]

/-- The memory as a program image: an origin word of zero, then every word in order. -/
def image (m : Memory) : List UInt8 :=
  bigEndian (0 :: m.words.toList)

end Memory

end LC3
