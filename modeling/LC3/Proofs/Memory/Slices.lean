import LC3.Proofs.Memory.Stores
import Mathlib.Data.List.Induction
import Mathlib.Order.Bounds.Basic

/-!
# Slices

A slice may be longer than memory. It then comes around to its own first words and stores over
them, so an address may be met several times and keeps what was stored there last. Loading stops
at the ceiling instead and meets no address twice.

- `Memory.meetings`: the places of a slice that fall on an address.
- `Memory.get_writeSlice_latest`: the latest of them counts, and an address that is not met keeps
  its word. This is an induction on the slice from its end.
- `Memory.slices`: storing, reading back and loading, for slices of any length.
-/

namespace LC3.Memory

/-- The places in a slice of `n` words from `a` on that fall on the address `x`. -/
def meetings (a x : Word) (n : Nat) : Set Nat := {j | j < n ∧ (a.toNat + j) % 65536 = x.toNat}

variable (m : Memory) {a x : Word} {n : Nat}

/-- The address at a place is the sum, around the ceiling. -/
theorem toNat_add_ofNat (a : Word) (j : Nat) :
    (a + UInt16.ofNat j).toNat = (a.toNat + j) % 65536 := by
  rw [UInt16.toNat_add, UInt16.toNat_ofNat', Nat.add_mod_mod]

/-- One more word meets one more address. -/
theorem mem_meetings_succ {j : Nat} :
    j ∈ meetings a x (n + 1) ↔ j ∈ meetings a x n ∨ j = n ∧ x = a + UInt16.ofNat n := by
  have hplace : x = a + UInt16.ofNat n ↔ (a.toNat + n) % 65536 = x.toNat := by
    rw [← UInt16.toNat_inj, toNat_add_ofNat, eq_comm]
  rw [hplace]
  constructor
  · rintro ⟨hj, hx⟩
    rcases Nat.lt_succ_iff_lt_or_eq.mp hj with hj | rfl
    · exact .inl ⟨hj, hx⟩
    · exact .inr ⟨rfl, hx⟩
  · rintro (⟨hj, hx⟩ | ⟨rfl, hx⟩)
    · exact ⟨Nat.lt_succ_of_lt hj, hx⟩
    · exact ⟨Nat.lt_succ_self j, hx⟩

theorem writeSlice_append (a : Word) (xs ys : List Word) :
    m.writeSlice a (xs ++ ys) = (m.writeSlice a xs).writeSlice (a + UInt16.ofNat xs.length) ys := by
  simp only [← stores_run, run_append, stores_append]

/-- **The last word counts** that a slice stores at an address; an address that the slice does not
meet keeps its word. -/
theorem get_writeSlice_latest (a x : Word) (values : List Word) :
    (∃ j, IsGreatest (meetings a x values.length) j ∧
      values[j]? = some ((m.writeSlice a values).get x)) ∨
    meetings a x values.length = ∅ ∧ (m.writeSlice a values).get x = m.get x := by
  induction values using List.reverseRecOn with
  | nil =>
    right
    refine ⟨Set.eq_empty_of_forall_notMem ?_, rfl⟩
    rintro j ⟨hj, -⟩
    exact Nat.not_lt_zero j hj
  | append_singleton values v ih =>
    have hstore : (m.writeSlice a (values ++ [v])).get x =
        if x = a + UInt16.ofNat values.length then v else (m.writeSlice a values).get x := by
      rw [writeSlice_append, writeSlice, writeSlice, get_set]
    rw [List.length_append, List.length_singleton, hstore]
    by_cases hx : x = a + UInt16.ofNat values.length
    · left
      refine ⟨values.length, ⟨mem_meetings_succ.mpr (.inr ⟨rfl, hx⟩), ?_⟩, ?_⟩
      · rintro j ⟨hj, -⟩
        exact Nat.lt_succ_iff.mp hj
      · rw [if_pos hx, List.getElem?_concat_length]
    · -- the last word is stored elsewhere, so the meetings are the earlier ones
      have hsame : meetings a x (values.length + 1) = meetings a x values.length := by
        ext j
        rw [mem_meetings_succ]
        exact or_iff_left fun h => hx h.2
      rw [hsame, if_neg hx]
      rcases ih with ⟨j, hj, hv⟩ | hkept
      · left
        refine ⟨j, hj, ?_⟩
        rw [List.getElem?_append_left hj.1.1, hv]
      · exact .inr hkept

/-- **Slices** of any length. After a slice is stored, an address holds the last word that met it,
or what it held before if there is none. To read a slice is to read its words one by one, around
the ceiling, so a slice that does not come around to its beginning is read back as it was stored.
Loading is storing what fits below the ceiling, and counts it. -/
theorem slices (m : Memory) (a : Word) (values : List Word) (count : Nat) :
    (∀ x : Word,
      (∃ j, IsGreatest {j | j < values.length ∧ (a.toNat + j) % 65536 = x.toNat} j ∧
        values[j]? = some ((m.writeSlice a values).get x)) ∨
      (∀ j < values.length, (a.toNat + j) % 65536 ≠ x.toNat) ∧
        (m.writeSlice a values).get x = m.get x) ∧
    ((m.readSlice a count).length = count ∧ ∀ i < count,
      (m.readSlice a count)[i]? = some (m.get (UInt16.ofNat ((a.toNat + i) % 65536)))) ∧
    (values.length ≤ 65536 → (m.writeSlice a values).readSlice a values.length = values) ∧
    m.loadAt a values =
      (m.writeSlice a (values.take (min values.length (65536 - a.toNat))),
        min values.length (65536 - a.toNat)) := by
  refine ⟨fun x => ?_, ⟨length_readSlice m a count, fun i hi => ?_⟩,
    readSlice_writeSlice m a values, ?_⟩
  · rcases m.get_writeSlice_latest a x values with hmet | ⟨hnone, hkept⟩
    · exact .inl hmet
    · right
      refine ⟨fun j hj hx => ?_, hkept⟩
      have hmem : j ∈ meetings a x values.length := ⟨hj, hx⟩
      rw [hnone] at hmem
      exact hmem
  · have haddress : a + UInt16.ofNat i = UInt16.ofNat ((a.toNat + i) % 65536) := by
      rw [← toNat_add_ofNat, UInt16.ofNat_toNat]
    rw [readSlice, List.getElem?_map, List.getElem?_range hi, Option.map_some, haddress]
  · have hfitting : min values.length (65536 - a.toNat) = min (room a) values.length :=
      Nat.min_comm ..
    rw [loadAt_eq, hfitting, ← List.take_eq_take_min, Nat.min_comm]

/-- One word more than there are addresses: the last one is stored over the first. Three words
that pass the ceiling are read back, and two of them are loaded. -/
theorem slices_around :
    (zero.writeSlice 0xFFFF (List.replicate 65536 7 ++ [9])).get 0xFFFF = 9 ∧
      (zero.writeSlice 0xFFFE [1, 2, 3]).readSlice 0xFFFE 3 = [1, 2, 3] ∧
      (zero.writeSlice 0xFFFE [1, 2, 3]).get 0x0000 = 3 ∧
      zero.loadAt 0xFFFE [1, 2, 3] = (zero.writeSlice 0xFFFE [1, 2], 2) := by
  obtain ⟨hlong, -⟩ := slices zero 0xFFFF (List.replicate 65536 7 ++ [9]) 0
  obtain ⟨hshort, -, hback, hload⟩ := slices zero 0xFFFE [1, 2, 3] 0
  refine ⟨?_, hback (by decide), ?_, hload⟩
  · have hlen : (List.replicate 65536 (7 : Word) ++ [9]).length = 65537 := by
      rw [List.length_append, List.length_replicate]
      rfl
    rcases hlong 0xFFFF with ⟨j, hj, hv⟩ | ⟨hnone, -⟩
    · have hlast : j = 65536 := by
        refine hj.unique ⟨⟨by rw [hlen]; decide, by decide⟩, ?_⟩
        rintro k ⟨hk, -⟩
        rw [hlen] at hk
        exact Nat.lt_succ_iff.mp hk
      rw [hlast, List.getElem?_append_right (by rw [List.length_replicate]),
        List.length_replicate] at hv
      exact (Option.some.inj hv).symm
    · exact absurd (by decide) (hnone 65536 (by rw [hlen]; decide))
  · rcases hshort 0x0000 with ⟨j, hj, hv⟩ | ⟨hnone, -⟩
    · have hlast : j = 2 := by
        refine hj.unique ⟨⟨by decide, by decide⟩, ?_⟩
        rintro k ⟨hk, -⟩
        exact Nat.lt_succ_iff.mp hk
      rw [hlast] at hv
      exact (Option.some.inj hv).symm
    · exact absurd (by decide) (hnone 2 (by decide))

end LC3.Memory
