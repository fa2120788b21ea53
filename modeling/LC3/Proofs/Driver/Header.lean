import LC3.Proofs.Block.Service
import LC3.Proofs.Driver.Submission

/-!
# Request headers

A header lies in three words of memory, wherever they are. Whoever stores it, it is read back as it
was meant, and a header that is read can be stored again without a trace.

- `Operation.toWord_ofWord`: no code is lost. `Operation.ofWord_toWord`: an operation is read back
  as itself unless it is a known code that calls itself unknown.
- `Request.header_load`: the words of a header that was read.
- `Request.header_codec`: the three ways to store and read a header agree.
-/

namespace LC3

namespace Operation

/-- What is read as an operation is stored as the same code. -/
theorem toWord_ofWord (code : Word) : (ofWord code).toWord = code := by
  unfold ofWord
  split
  · next h => exact h.symm
  · split
    · next h => exact h.symm
    · rfl

/-- The two codes that are known are read as what they ask for. -/
theorem ofWord_toWord (op : Operation) :
    ofWord op.toWord = if op = .other 1 then .read else if op = .other 2 then .write else op := by
  cases op with
  | read => rfl
  | write => rfl
  | other code =>
    by_cases hread : code = 1
    · subst hread
      rfl
    by_cases hwrite : code = 2
    · subst hwrite
      rfl
    · simp [toWord, ofWord, hread, hwrite]

end Operation

namespace Bus

variable {κ δ : Type} [Handler δ]

/-- Outside the interrupt window the driver stores as memory does. -/
theorem writeAll_of_outside (b : Bus κ δ) {a : Word} {values : List Word}
    (h : ∀ i < values.length, inInterruptWindow (a + UInt16.ofNat i) = false) :
    BlockDriver.writeAll b a values = b.mapMemory (·.writeSlice a values) := by
  have hrun : ∀ x ∈ Memory.run a values, inInterruptWindow x.1 = false := by
    intro x hx
    have haddress : x.1 ∈ (Memory.run a values).map Prod.fst := List.mem_map_of_mem hx
    rw [Memory.map_fst_run] at haddress
    obtain ⟨i, hi, hx⟩ := List.mem_map.mp haddress
    rw [← hx]
    exact h i (List.mem_range.mp hi)
  rw [writeAll_eq_stores, stores_eq_mapMemory hrun]
  simp only [Memory.stores_run]

end Bus

namespace Request

variable (q : Request) (m : Memory) (a : Word)

/-- A header that is read is the words that lie there. -/
theorem header_load : (load m a).header = m.readSlice a 3 := by
  have hthird : a + 1 + 1 = a + 2 := UInt16.add_assoc a 1 1
  rw [Memory.readSlice_succ, Memory.readSlice_succ, Memory.readSlice_succ, hthird, header, load,
    Operation.toWord_ofWord, UInt16.toUInt16_toInt16]
  rfl

/-- Storing a header cannot tell a code that is known from an operation that has it. -/
theorem load_store_eq :
    load (q.store m a) a = { q with op := Operation.ofWord q.op.toWord } := by
  have hheader : { q with op := Operation.ofWord q.op.toWord }.header = q.header := by
    simp only [header, Operation.toWord_ofWord]
  have hread := load_store { q with op := Operation.ofWord q.op.toWord } m a
    (congrArg Operation.ofWord (Operation.toWord_ofWord _))
  rwa [store, hheader] at hread

/-- The words of a header are three. -/
theorem get_store_other {x : Word} (h₀ : x ≠ a) (h₁ : x ≠ a + 1) (h₂ : x ≠ a + 2) :
    (q.store m a).get x = m.get x := by
  have hthird : a + 1 + 1 = a + 2 := UInt16.add_assoc a 1 1
  rw [store, header, Memory.writeSlice, Memory.writeSlice, Memory.writeSlice, Memory.writeSlice,
    hthird, Memory.get_set_other h₂, Memory.get_set_other h₁, Memory.get_set_other h₀]

/-- **Headers**: what is stored is read back, except that an unknown operation with a known code
comes back as the operation of that code. What is read can be stored again and leaves the whole
memory as it was. Storing touches the three words of the header alone, so the driver, who stores
them one by one through the bus, leaves the same memory and nothing else, provided that none of
them lies in the interrupt window. -/
theorem header_codec {κ δ : Type} [Handler δ] (q : Request) (m : Memory) (a : Word) :
    load (q.store m a) a =
      { q with
        op := if q.op = .other 1 then .read else if q.op = .other 2 then .write else q.op } ∧
    (load m a).store m a = m ∧
    (∀ x, x ≠ a → x ≠ a + 1 → x ≠ a + 2 → (q.store m a).get x = m.get x) ∧
    ∀ b : Bus κ δ,
      (∀ x, x = a ∨ x = a + 1 ∨ x = a + 2 → inInterruptWindow x = false) →
        BlockDriver.writeAll b a q.header = { b with memory := q.store b.memory a } := by
  refine ⟨?_, ?_, fun x => q.get_store_other m a, fun b h => ?_⟩
  · rw [load_store_eq, Operation.ofWord_toWord]
  · rw [store, header_load, Memory.writeSlice_readSlice]
  · apply b.writeAll_of_outside
    intro i hi
    have hi : i < 3 := hi
    apply h
    obtain rfl | rfl | rfl : i = 0 ∨ i = 1 ∨ i = 2 := by omega
    · exact .inl (UInt16.add_zero a)
    · exact .inr (.inl rfl)
    · exact .inr (.inr rfl)

/-- A header around the ceiling, whose operation calls the code of a read unknown. -/
theorem header_codec_around :
    let q : Request := ⟨.other 1, -2, 4⟩
    let b : Bus BufferConsole Device := Bus.ofConsole (.ofInput []) .silent
    load (q.store b.memory 0xFFFF) 0xFFFF = ⟨.read, -2, 4⟩ ∧
      (load b.memory 0xFFFF).store b.memory 0xFFFF = b.memory ∧
      (q.store b.memory 0xFFFF).get 0x0002 = b.memory.get 0x0002 ∧
      (∀ x : Word, x = 0xFFFF ∨ x = 0xFFFF + 1 ∨ x = 0xFFFF + 2 → inInterruptWindow x = false) ∧
      BlockDriver.writeAll b 0xFFFF q.header = { b with memory := q.store b.memory 0xFFFF } := by
  intro q b
  have hwindow : ∀ x : Word, x = 0xFFFF ∨ x = 0xFFFF + 1 ∨ x = 0xFFFF + 2 →
      inInterruptWindow x = false := by
    rintro x (rfl | rfl | rfl) <;> rfl
  obtain ⟨hload, hstore, hother, hdriver⟩ :=
    header_codec (κ := BufferConsole) (δ := Device) q b.memory 0xFFFF
  refine ⟨hload, hstore, hother 0x0002 ?_ ?_ ?_, hwindow, hdriver b hwindow⟩ <;> decide

end Request

end LC3
