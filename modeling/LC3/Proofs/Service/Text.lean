import LC3.Proofs.Cpu.Failure
import Mathlib.Order.Bounds.Basic

/-!
# Strings that services write

A string in memory is a run of words up to a zero. The run may pass the ceiling and the keyboard
registers; without a zero anywhere it ends when it has been once around. `PUTS` writes a byte for
each word of the run and `PUTSP` one or two, and neither does anything else.

- `Memory.ZeroFree`: runs without a zero. `zeroFreeFrom_greatest`: the scan finds the longest one.
- `packPairs`: bytes packed two to a word; `flatMap_packPairs`: unpacked, they are the bytes again.
- `Console.View`: what is seen of a console from outside.
- `Service.Prints`: a service has written given bytes and done nothing else.
- `Service.string_output`: what the two services write.
-/

namespace LC3

/-! ## Runs without a zero -/

/-- None of the `n` words from `a` on is zero; a run goes once around at most. -/
def Memory.ZeroFree (m : Memory) (a : Word) (n : Nat) : Prop :=
  n ≤ addressCount ∧ ∀ k < n, m.get (a + UInt16.ofNat k) ≠ 0

variable {m : Memory} {a : Word} {n : Nat}

/-- The scan passes words that are not zero, and stops in front of a zero or at its limit. -/
theorem zeroFreeFrom_spec (m : Memory) (a : Word) (n limit : Nat) :
    let stop := zeroFreeFrom m a n limit
    n ≤ stop ∧ stop ≤ n + limit ∧
      (∀ k, n ≤ k → k < stop → m.get (a + UInt16.ofNat k) ≠ 0) ∧
      (stop < n + limit → m.get (a + UInt16.ofNat stop) = 0) := by
  induction limit generalizing n with
  | zero =>
    refine ⟨Nat.le_refl n, Nat.le_refl n, fun k hk hstop => ?_, fun h => ?_⟩
    · exact absurd hstop (Nat.not_lt.mpr hk)
    · exact absurd h (Nat.lt_irrefl n)
  | succ limit ih =>
    rw [zeroFreeFrom]
    split
    · next hzero =>
      refine ⟨Nat.le_refl n, Nat.le_add_right n _, fun k hk hstop => ?_, fun _ => hzero⟩
      exact absurd hstop (Nat.not_lt.mpr hk)
    · next hnonzero =>
      obtain ⟨hlow, hhigh, hfree, hstop⟩ := ih (n + 1)
      refine ⟨by omega, by omega, fun k hk hlt => ?_, fun h => hstop (by omega)⟩
      rcases Nat.eq_or_lt_of_le hk with rfl | hk
      · exact hnonzero
      · exact hfree k hk hlt

/-- **The scan finds the longest run without a zero.** -/
theorem zeroFreeFrom_greatest (m : Memory) (a : Word) :
    IsGreatest {n | m.ZeroFree a n} (zeroFreeFrom m a 0 addressCount) := by
  obtain ⟨-, hbound, hfree, hstop⟩ := zeroFreeFrom_spec m a 0 addressCount
  rw [Nat.zero_add] at hbound hstop
  refine ⟨⟨hbound, fun k => hfree k (Nat.zero_le k)⟩, fun n hn => ?_⟩
  -- a longer run would reach over the zero in front of which the scan stops
  by_contra hlonger
  have hlt : zeroFreeFrom m a 0 addressCount < n := Nat.not_le.mp hlonger
  exact hn.2 _ hlt (hstop (Nat.lt_of_lt_of_le hlt hn.1))

/-- A run goes once around exactly when there is no zero in memory. -/
theorem eq_addressCount_iff (h : IsGreatest {n | m.ZeroFree a n} n) :
    n = 65536 ↔ ∀ x, m.get x ≠ 0 := by
  constructor
  · rintro rfl x
    rw [← add_distance a x]
    exact h.1.2 _ (distance_lt a x)
  · intro hall
    exact Nat.le_antisymm h.1.1 (h.2 ⟨Nat.le_refl _, fun k _ => hall _⟩)

theorem stringWords_of_greatest (h : IsGreatest {n | m.ZeroFree a n} n) :
    stringWords m a = m.readSlice a n := by
  rw [stringWords, (zeroFreeFrom_greatest m a).unique h]

/-- Words without a zero among them, with a zero behind them, are a string. -/
theorem stringWords_of_readSlice {ws : List Word} (hfree : ∀ w ∈ ws, w ≠ 0)
    (hlength : ws.length < 65536) (hread : m.readSlice a (ws.length + 1) = ws ++ [0]) :
    stringWords m a = ws := by
  have hget (k : Nat) (hk : k < (ws ++ [0]).length) :
      m.get (a + UInt16.ofNat k) = (ws ++ [0])[k] := by
    simp only [← hread, Memory.readSlice, List.getElem_map, List.getElem_range]
  have hgreatest : IsGreatest {n | m.ZeroFree a n} ws.length := by
    refine ⟨⟨Nat.le_of_lt hlength, fun k hk => ?_⟩, fun n hn => ?_⟩
    · rw [hget k (by simp; omega), List.getElem_append_left hk]
      exact hfree _ (List.getElem_mem hk)
    · by_contra hlonger
      refine hn.2 ws.length (Nat.not_le.mp hlonger) ?_
      rw [hget ws.length (by simp), List.getElem_concat_length rfl]
  have hsplit : m.readSlice a (ws.length + 1) = m.readSlice a ws.length ++
      [m.get (a + UInt16.ofNat ws.length)] := by
    simp only [Memory.readSlice, List.range_succ, List.map_append, List.map_cons, List.map_nil]
  rw [stringWords_of_greatest hgreatest]
  exact (List.append_inj' (hsplit.symm.trans hread) rfl).1

/-! ## Two bytes to a word -/

/-- Bytes two to a word, the less significant one first. A last byte without another has a word
of its own. -/
def packPairs : List UInt8 → List Word
  | [] => []
  | [low] => [ofBytes 0 low]
  | low :: high :: rest => ofBytes high low :: packPairs rest

theorem length_packPairs : ∀ s : List UInt8, (packPairs s).length = (s.length + 1) / 2
  | [] => rfl
  | [_] => by simp [packPairs]
  | _ :: _ :: rest => by
    simp only [packPairs, List.length_cons, length_packPairs rest]
    omega

/-- A word is zero only if its less significant byte is. -/
theorem ofBytes_ne_zero {high low : UInt8} (h : low ≠ 0) : ofBytes high low ≠ 0 := by
  intro hzero
  have hlow := lowByte_ofBytes high low
  rw [hzero] at hlow
  exact h hlow.symm

theorem packPairs_ne_zero :
    ∀ {s : List UInt8}, (∀ b ∈ s, b ≠ 0) → ∀ w ∈ packPairs s, w ≠ 0
  | [], _ => by simp [packPairs]
  | [low], h => by simpa [packPairs] using ofBytes_ne_zero (h low (by simp))
  | low :: high :: rest, h => by
    rw [packPairs, List.forall_mem_cons]
    refine ⟨ofBytes_ne_zero (h low (by simp)), packPairs_ne_zero fun b hb => h b ?_⟩
    exact List.mem_cons_of_mem low (List.mem_cons_of_mem high hb)

/-- **Packed bytes come out as they were**, an odd one at the end included. -/
theorem flatMap_packPairs :
    ∀ {s : List UInt8}, (∀ b ∈ s, b ≠ 0) → (packPairs s).flatMap packedPair = s
  | [], _ => rfl
  | [low], _ => by simp [packPairs, packedPair]
  | low :: high :: rest, h => by
    have hhigh : high ≠ 0 := h high (by simp)
    have hrest : (packPairs rest).flatMap packedPair = rest :=
      flatMap_packPairs fun b hb => h b (List.mem_cons_of_mem low (List.mem_cons_of_mem high hb))
    rw [packPairs, List.flatMap_cons, hrest]
    simp [packedPair, hhigh]

/-! ## What is seen of a console -/

/-- What is seen of a console from outside: the bytes that it has yet to deliver and the bytes
that it shows. Calls that work show what is written and touch no input. -/
structure Console.View (κ : Type) [Console κ] where
  /-- The bytes not yet taken. -/
  input : κ → List UInt8
  /-- The bytes written so far. -/
  output : κ → List UInt8
  /-- What is written stands behind what was written before. -/
  write : ∀ {c left bytes}, writeBytes c bytes = (.ok (), left) →
    output left = output c ++ bytes ∧ input left = input c
  /-- To make output visible writes nothing. -/
  flush : ∀ {c left}, flush c = (.ok (), left) → output left = output c ∧ input left = input c

namespace Console

/-- A console with a queue of input shows what it keeps. -/
def View.buffer : View BufferConsole where
  input := BufferConsole.input
  output c := c.output.toList
  write h := by
    cases h
    simp [BufferConsole.put]
  flush h := by
    cases h
    exact ⟨rfl, rfl⟩

theorem View.input_buffer (c : BufferConsole) : View.buffer.input c = c.input := rfl

theorem View.output_buffer (c : BufferConsole) : View.buffer.output c = c.output.toList := rfl

variable {κ : Type} [Console κ]

/-- A console that works shows the bytes that are written and then made visible. -/
theorem View.carryOut_write (view : View κ) {c : κ} {bytes : List UInt8}
    (hworks : (carryOut c [.write bytes, .flush]).1 = .ok ()) :
    let left := (carryOut c [.write bytes, .flush]).2
    view.output left = view.output c ++ bytes ∧ view.input left = view.input c := by
  simp only [carryOut, use] at hworks ⊢
  rcases hwrite : writeBytes c bytes with ⟨_ | _, written⟩
  · rw [hwrite] at hworks
    cases hworks
  · rw [hwrite] at hworks
    simp only at hworks ⊢
    rcases hflush : Console.flush written with ⟨_ | _, left⟩
    · rw [hflush] at hworks
      cases hworks
    · obtain ⟨hshown, hqueue⟩ := view.write hwrite
      obtain ⟨hstill, hkept⟩ := view.flush hflush
      exact ⟨hstill.trans hshown, hkept.trans hqueue⟩

end Console

/-! ## The services -/

namespace Service

open Console (carryOut)

variable {κ δ : Type} [Console κ]

/-- A service has written `bytes`, made them visible, and done nothing else but keep the link. -/
structure Prints (regs : Registers) (bus : Bus κ δ) (bytes : List UInt8) (effect : Effect κ δ) :
    Prop where
  /-- The program goes on. -/
  signal : effect.signal = .ok .proceed
  /-- The bytes stand behind what was written before. -/
  output : ∀ view : Console.View κ,
    view.output effect.bus.console = view.output bus.console ++ bytes
  /-- No input is taken. -/
  input : ∀ view : Console.View κ, view.input effect.bus.console = view.input bus.console
  /-- The condition code is the old one. -/
  cond : effect.regs.cond = regs.cond
  /-- The program goes on behind the call. -/
  pc : effect.regs.pc = regs.pc
  /-- The link register holds the return address and every other register what it held. -/
  general : ∀ r, effect.regs.get r = if r = Reg.link then regs.pc else regs.get r
  /-- The console is used for nothing else, and the bus is the old one otherwise, its memory
  included. -/
  bus : effect.bus = { bus with console := (carryOut bus.console [.write bytes, .flush]).2 }

/-- A service that writes bytes on a console that works. -/
theorem prints_settle (service : Service) (regs : Registers) (bus : Bus κ δ) {bytes : List UInt8}
    (hworks : (carryOut bus.console [.write bytes, .flush]).1 = .ok ()) :
    Prints regs bus bytes
      (settle service .proceed (regs.set Reg.link regs.pc) (bus.emit bytes)) := by
  rw [Bus.emit_eq, hworks, settle]
  exact
    { signal := rfl
      output := fun view => (view.carryOut_write hworks).1
      input := fun view => (view.carryOut_write hworks).2
      cond := rfl
      pc := rfl
      general := fun r => regs.get_set _ r _
      bus := rfl }

variable (regs : Registers) (bus : Bus κ δ)

/-- A call of a service that writes the text at the address in `R0`. -/
theorem prints_call {vector : UInt8} {service : Service} {text : Memory → Word → List UInt8}
    (hvector : ofVector vector = some service)
    (hwrites : ∀ (regs : Registers) (bus : Bus κ δ), service.perform regs bus =
      settle service .proceed regs (bus.emit (text bus.memory (regs.get Reg.r0))))
    (hworks : ∀ bytes, (carryOut bus.console [.write bytes, .flush]).1 = .ok ()) :
    Prints regs bus (text bus.memory (regs.get Reg.r0)) (call vector regs bus) := by
  -- the link register is not the one that tells where the text is
  have hr0 : (regs.set Reg.link regs.pc).get Reg.r0 = regs.get Reg.r0 := regs.get_set ..
  simp only [call, hvector, hwrites, hr0]
  exact prints_settle service regs bus (hworks _)

/-- **The string services**, on a console whose writes work. Let `n` be the length of the longest
run without a zero that begins at the address in `R0`, around the ceiling if need be; without a
zero anywhere the run goes once around. `PUTS` writes the less significant byte of each word of the
run, and `PUTSP` that byte and then the other one unless it is zero. Nothing else changes but the
link register.

A string without a zero byte that is packed two bytes to a word and ended by a zero word is thus
written as it is, wherever it lies, as long as there is room for it and the zero behind it. -/
theorem string_output
    (hworks : ∀ bytes, (carryOut bus.console [.write bytes, .flush]).1 = .ok ()) :
    let m := bus.memory
    let a := regs.get Reg.r0
    (∃ n, IsGreatest {n | m.ZeroFree a n} n ∧ (n = 65536 ↔ ∀ x, m.get x ≠ 0) ∧
      Prints regs bus
        ((List.range n).map fun k => lowByte (m.get (a + UInt16.ofNat k))) (call 0x22 regs bus) ∧
      Prints regs bus
        ((List.range n).flatMap fun k =>
          let w := m.get (a + UInt16.ofNat k)
          if highByte w = 0 then [lowByte w] else [lowByte w, highByte w])
        (call 0x24 regs bus)) ∧
    ∀ s : List UInt8, (∀ b ∈ s, b ≠ 0) → s.length ≤ 131070 →
      m.readSlice a ((packPairs s).length + 1) = packPairs s ++ [0] →
        Prints regs bus s (call 0x24 regs bus) := by
  intro m a
  have hputs : Prints regs bus (stringBytes m a) (call 0x22 regs bus) :=
    prints_call regs bus rfl (fun _ _ => rfl) hworks
  have hputsp : Prints regs bus (packedBytes m a) (call 0x24 regs bus) :=
    prints_call regs bus rfl (fun _ _ => rfl) hworks
  constructor
  · have hgreatest := zeroFreeFrom_greatest m a
    refine ⟨_, hgreatest, eq_addressCount_iff hgreatest, ?_, ?_⟩
    · rwa [stringBytes, stringWords, Memory.readSlice, List.map_map] at hputs
    · rwa [packedBytes, stringWords, Memory.readSlice, List.flatMap_map] at hputsp
  · intro s hs hlength hstored
    have hroom : (packPairs s).length < 65536 := by
      rw [length_packPairs]
      omega
    rwa [packedBytes, stringWords_of_readSlice (packPairs_ne_zero hs) hroom hstored,
      flatMap_packPairs hs] at hputsp

/-- Three bytes, of which the last one lies in the keyboard status. No key is asked for. -/
theorem string_output_keyboard :
    let bus : Bus BufferConsole Device :=
      (Bus.ofConsole (.ofInput [0x78]) .silent).mapMemory
        (·.writeSlice 0xFDFF [0x6261, 0x0063, 0x0000])
    let regs := (Registers.start 0x3001).set Reg.r0 0xFDFF
    let effect := call 0x24 regs bus
    effect.signal = .ok .proceed ∧ effect.bus.console.output.toList = [0x61, 0x62, 0x63] ∧
      effect.bus.console.input = [0x78] ∧ effect.bus.memory = bus.memory ∧
      effect.regs.get Reg.link = 0x3001 := by
  intro bus regs effect
  -- all that matters of the bus is what is stored and what the console holds
  have hstored : bus.memory.readSlice 0xFDFF 3 = [0x6261, 0x0063, 0x0000] :=
    Memory.readSlice_writeSlice _ _ _ (by decide)
  have hconsole : bus.console = .ofInput [0x78] := rfl
  clear_value bus
  have hprints : Prints regs bus [0x61, 0x62, 0x63] effect :=
    (string_output regs bus fun _ => rfl).2 [0x61, 0x62, 0x63] (by simp) (by decide) hstored
  have houtput := hprints.output .buffer
  have hinput := hprints.input .buffer
  rw [Console.View.output_buffer, Console.View.output_buffer, hconsole] at houtput
  rw [Console.View.input_buffer, Console.View.input_buffer, hconsole] at hinput
  refine ⟨hprints.signal, houtput, hinput, ?_, hprints.general Reg.link⟩
  rw [hprints.bus]

end Service

end LC3
