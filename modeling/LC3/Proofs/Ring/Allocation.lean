import LC3.Proofs.Ring.Layout
import Mathlib.Data.List.FinRange

/-!
# Descriptors in use

Whether a descriptor is in use is written in its flags word, and nowhere else is a record of it.

- `findFree?_eq_none_iff`, `findFree?_of_lowest`: which descriptor is found.
- `findFree?_eq_none_iff_allocated`, `allocated_succ`: how many are in use.
-/

namespace LC3

namespace Ring

variable {r : Ring} {m n : Memory} {i : Slot}

/-! ## The free descriptor -/

theorem isAllocated_iff : r.isAllocated m i = true ↔ m.get (r.cell i .flags) ≠ 0 := bne_iff_ne

/-- To store the flags of a descriptor is to say of this one alone whether it is in use. -/
theorem isAllocated_setFlags (r : Ring) (m : Memory) (i j : Slot) (v : Word) :
    r.isAllocated (r.setFlags m i v) j = if j = i then v != 0 else r.isAllocated m j := by
  rw [isAllocated_eq, descriptor_setFlags]
  split <;> rfl

/-- No descriptor is found exactly when all of them are in use. -/
theorem findFree?_eq_none_iff : r.findFree? m = none ↔ ∀ i, m.get (r.cell i .flags) ≠ 0 := by
  rw [findFree?, List.find?_eq_none]
  constructor
  · intro h i
    have hi := h i (List.mem_finRange i)
    rw [Bool.not_eq_true', Bool.not_eq_false] at hi
    exact isAllocated_iff.mp hi
  · intro h i _
    rw [Bool.not_eq_true', Bool.not_eq_false]
    exact isAllocated_iff.mpr (h i)

/-- The free descriptor of least index is the one that is found. -/
theorem findFree?_of_lowest (hfree : r.isAllocated m i = false)
    (hbelow : ∀ j < i, r.isAllocated m j = true) : r.findFree? m = some i := by
  rw [findFree?, List.find?_eq_some_iff_getElem]
  refine ⟨by rw [hfree]; rfl, i.val, by simp, by simp, ?_⟩
  intro j hj
  rw [List.getElem_finRange, hbelow _ (Fin.lt_def.mpr hj)]
  rfl

/-- A descriptor that is found is free. -/
theorem isAllocated_of_findFree? (h : r.findFree? m = some i) : r.isAllocated m i = false := by
  have hfree := List.find?_some h
  rwa [Bool.not_eq_true'] at hfree

/-- No descriptor is found exactly when ten are in use. -/
theorem findFree?_eq_none_iff_allocated : r.findFree? m = none ↔ r.allocated m = 10 := by
  have hcount : r.allocated m = 10 ↔ ∀ i ∈ List.finRange ringSize, r.isAllocated m i = true :=
    List.countP_eq_length
  rw [findFree?_eq_none_iff, hcount]
  simp only [isAllocated_iff, List.mem_finRange, true_implies]

theorem Idle.allocated (h : r.Idle m) : r.allocated m = 0 :=
  List.countP_eq_zero.mpr fun j _ => by rw [h.isAllocated j]; exact Bool.false_ne_true

theorem allocated_le (r : Ring) (m : Memory) : r.allocated m ≤ 10 := List.countP_le_length

/-- What is counted for either of two reasons that exclude each other. -/
theorem countP_or {p q : Slot → Bool} (h : ∀ i, p i = true → q i = false) (l : List Slot) :
    l.countP (fun i => p i || q i) = l.countP p + l.countP q := by
  induction l with
  | nil => rfl
  | cons i rest ih =>
    have hi := h i
    rw [List.countP_cons, ih, List.countP_cons, List.countP_cons]
    cases hp : p i with
    | true => simp [hi hp]; omega
    | false => simp; omega

/-- A free descriptor that is taken is one more in use. -/
theorem allocated_succ (h : r.isAllocated m i = false)
    (htaken : ∀ j, r.isAllocated n j = (r.isAllocated m j || j == i)) :
    r.allocated n = r.allocated m + 1 := by
  have hother (j : Slot) (hj : r.isAllocated m j = true) : (j == i) = false := by
    rw [beq_eq_false_iff_ne]
    rintro rfl
    rw [h] at hj
    cases hj
  have hone : (List.finRange ringSize).countP (· == i) = 1 :=
    List.count_finRange i
  rw [allocated, funext htaken, countP_or hother, hone]
  rfl

end Ring

end LC3
