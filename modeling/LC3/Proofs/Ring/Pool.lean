import LC3.Proofs.Ring.Words
import Mathlib.Data.Finset.Card
import Mathlib.Data.Fintype.Basic

/-!
# Taking and releasing descriptors

A descriptor is taken by a search for a free one and a store to its flags, and released by a store
of zero. Nobody keeps a list: what is in use is read off the flags words each time, by one scan for
the next free descriptor and by another one for their number.

- `Ring.inUse`: the descriptors in use; `allocated_eq_card`, `findFree?_eq_some_iff`: what the two
  scans have to do with it.
- `Ring.free`: the free descriptors in ascending order.
- `Ring.Move`, `Ring.act`, `Ring.run`: moves of either kind, and what they yield.
- `inUse_act`, `inUse_run`: what is in use after a move, and after a whole history of moves.
- `run_takes`: descriptors are taken in ascending order until there are none left.
- `Ring.allocation_history`: all of this after any history.
-/

namespace LC3

namespace Ring

variable {r : Ring} {m : Memory} {i : Slot}

/-! ## What is in use -/

/-- The descriptors in use. -/
def inUse (r : Ring) (m : Memory) : Finset Slot := {i | m.get (r.cell i .flags) ≠ 0}

@[simp] theorem mem_inUse : i ∈ r.inUse m ↔ m.get (r.cell i .flags) ≠ 0 := by simp [inUse]

theorem isAllocated_iff_mem : r.isAllocated m i = true ↔ i ∈ r.inUse m :=
  isAllocated_iff.trans mem_inUse.symm

theorem isAllocated_eq_false_iff : r.isAllocated m i = false ↔ i ∉ r.inUse m := by
  rw [← isAllocated_iff_mem, Bool.not_eq_true]

/-- The count of the descriptors in use is their number. -/
theorem allocated_eq_card (r : Ring) (m : Memory) : r.allocated m = (r.inUse m).card := by
  have hlist : ((List.finRange ringSize).filter (r.isAllocated m)).toFinset = r.inUse m := by
    ext i
    simp [isAllocated_iff]
  have hnodup : ((List.finRange ringSize).filter (r.isAllocated m)).Nodup :=
    (List.nodup_finRange ringSize).filter _
  rw [allocated, List.countP_eq_length_filter, ← List.toFinset_card_of_nodup hnodup, hlist]

/-- The search finds the least descriptor that is not in use. -/
theorem findFree?_eq_some_iff :
    r.findFree? m = some i ↔ i ∉ r.inUse m ∧ ∀ j < i, j ∈ r.inUse m := by
  constructor
  · intro h
    refine ⟨isAllocated_eq_false_iff.mp (isAllocated_of_findFree? h), fun j hj => ?_⟩
    rw [findFree?, List.find?_eq_some_iff_getElem] at h
    obtain ⟨-, k, hk, hi, hbelow⟩ := h
    have hk : k = i.val := by
      rw [← hi, List.getElem_finRange]
      rfl
    have hused := hbelow j.val (by rw [hk]; exact hj)
    rw [List.getElem_finRange, Bool.not_not] at hused
    exact isAllocated_iff_mem.mp hused
  · rintro ⟨hfree, hbelow⟩
    exact findFree?_of_lowest (isAllocated_eq_false_iff.mpr hfree)
      fun j hj => isAllocated_iff_mem.mpr (hbelow j hj)

/-- A store of flags takes a descriptor or releases it, and leaves the others. -/
theorem inUse_setFlags (r : Ring) (m : Memory) (i : Slot) (v : Word) :
    r.inUse (r.setFlags m i v) = if v = 0 then (r.inUse m).erase i else insert i (r.inUse m) := by
  ext j
  rw [← isAllocated_iff_mem, isAllocated_setFlags]
  by_cases hj : j = i
  · by_cases hv : v = 0 <;> simp [hj, hv]
  · by_cases hv : v = 0 <;> simp [hj, hv, isAllocated_iff]

/-- The free descriptors in ascending order. -/
def free (r : Ring) (m : Memory) : List Slot :=
  (List.finRange ringSize).filter fun i => m.get (r.cell i .flags) = 0

theorem free_eq (r : Ring) (m : Memory) :
    r.free m = (List.finRange ringSize).filter fun i => !r.isAllocated m i := by
  apply List.filter_congr
  intro i _
  rw [isAllocated, bne, Bool.not_not]
  rfl

/-- The descriptor that is found is the first free one. -/
theorem head?_free (r : Ring) (m : Memory) : (r.free m).head? = r.findFree? m := by
  rw [free_eq, List.head?_filter, findFree?]

theorem nodup_free (r : Ring) (m : Memory) : (r.free m).Nodup :=
  (List.nodup_finRange ringSize).filter _

theorem length_free (r : Ring) (m : Memory) : (r.free m).length + r.allocated m = 10 := by
  have hsplit := List.length_eq_countP_add_countP (r.isAllocated m) (l := List.finRange ringSize)
  simp only [List.length_finRange, Bool.not_eq_true, Bool.decide_eq_false] at hsplit
  rw [free_eq, ← List.countP_eq_length_filter, Nat.add_comm]
  exact hsplit.symm

/-- What is left when the first free descriptor has been taken. -/
theorem free_setFlags {v : Word} (h : r.findFree? m = some i) (hv : v ≠ 0) :
    r.free m = i :: r.free (r.setFlags m i v) := by
  obtain ⟨rest, hrest⟩ : ∃ rest, r.free m = i :: rest := by
    rw [← head?_free] at h
    exact List.head?_eq_some_iff.mp h
  -- a descriptor is free afterwards if it was free before and is another one
  have hafter : r.free (r.setFlags m i v) = (r.free m).filter fun j => j ≠ i := by
    rw [free_eq, free_eq, List.filter_filter]
    apply List.filter_congr
    intro j _
    rw [isAllocated_setFlags]
    by_cases hj : j = i <;> simp [hj, hv]
  have hnodup : i ∉ rest := by
    have hall := r.nodup_free m
    rw [hrest, List.nodup_cons] at hall
    exact hall.1
  rw [hafter, hrest, List.filter_cons_of_neg (by simp), List.filter_eq_self.mpr]
  intro j hj
  simpa using fun heq : j = i => hnodup (heq ▸ hj)

/-! ## Moves -/

/-- What is done with descriptors. -/
inductive Move where
  /-- To take a descriptor, with flags that say so. -/
  | take (flags : { v : Word // v ≠ 0 })
  /-- To release the descriptor of an index. -/
  | release (index : Word)

/-- A move: the descriptor that is taken or released, if there is one, and the memory
afterwards. -/
def act (r : Ring) (m : Memory) : Move → Option Slot × Memory
  | .take flags =>
    match r.findFree? m with
    | none => (none, m)
    | some i => (some i, (r.mark m i.word flags.val).2)
  | .release index => ((slot? index).toOption, (r.mark m index 0).2)

/-- Moves one after the other: what each of them yields, and the memory afterwards. -/
def run (r : Ring) (m : Memory) : List Move → List (Option Slot) × Memory
  | [] => ([], m)
  | move :: rest =>
    let (i, m) := r.act m move
    let (is, m) := r.run m rest
    (i :: is, m)

/-- What is in use once a move has yielded a descriptor, given what was in use before. -/
def Move.settle (used : Finset Slot) : Move × Option Slot → Finset Slot
  | (_, none) => used
  | (.take _, some i) => insert i used
  | (.release _, some i) => used.erase i

theorem act_take_none (h : r.findFree? m = none) (v : { v : Word // v ≠ 0 }) :
    r.act m (.take v) = (none, m) := by
  rw [act, h]

theorem act_take_some (h : r.findFree? m = some i) (v : { v : Word // v ≠ 0 }) :
    r.act m (.take v) = (some i, r.setFlags m i v.val) := by
  simp only [act, h, mark_word]

/-- The descriptor that is taken is the one that is found. -/
theorem fst_act_take (r : Ring) (m : Memory) (v : { v : Word // v ≠ 0 }) :
    (r.act m (.take v)).1 = r.findFree? m := by
  cases hfound : r.findFree? m with
  | none => rw [act_take_none hfound]
  | some i => rw [act_take_some hfound]

theorem act_release_word (r : Ring) (m : Memory) (i : Slot) :
    r.act m (.release i.word) = (some i, r.setFlags m i 0) := by
  rw [act, mark_word, slot?_word]
  rfl

/-- A descriptor that does not exist is not released. -/
theorem act_release_of_le {index : Word} (h : ringSize ≤ index.toNat) :
    r.act m (.release index) = (none, m) := by
  rw [act, mark_of_le r m h, slot?_of_le h]
  rfl

theorem run_cons (r : Ring) (m : Memory) (move : Move) (rest : List Move) :
    r.run m (move :: rest) =
      ((r.act m move).1 :: (r.run (r.act m move).2 rest).1, (r.run (r.act m move).2 rest).2) := rfl

/-- **One move** takes the descriptor that it yields, or releases it, and touches no other. -/
theorem inUse_act (r : Ring) (m : Memory) (move : Move) :
    r.inUse (r.act m move).2 = Move.settle (r.inUse m) (move, (r.act m move).1) := by
  cases move with
  | take v =>
    cases hfound : r.findFree? m with
    | none => rw [act_take_none hfound, Move.settle]
    | some i => rw [act_take_some hfound, Move.settle, inUse_setFlags, if_neg v.property]
  | release index =>
    by_cases hindex : ringSize ≤ index.toNat
    · rw [act_release_of_le hindex, Move.settle]
    · obtain ⟨i, rfl⟩ : ∃ i : Slot, i.word = index :=
        ⟨⟨index.toNat, Nat.not_le.mp hindex⟩, word_of_slot? (dif_pos (Nat.not_le.mp hindex))⟩
      rw [act_release_word, Move.settle, inUse_setFlags, if_pos rfl]

/-- **A history of moves**: in use is what was taken since, or was in use before, and has not been
released again. -/
theorem inUse_run (r : Ring) (m : Memory) (moves : List Move) :
    r.inUse (r.run m moves).2 = (moves.zip (r.run m moves).1).foldl Move.settle (r.inUse m) := by
  induction moves generalizing m with
  | nil => rfl
  | cons move rest ih =>
    rw [run_cons, ih, inUse_act, List.zip_cons_cons, List.foldl_cons]

/-- **Descriptors are taken in ascending order** until there are none left. -/
theorem run_takes (r : Ring) (m : Memory) (marks : List { v : Word // v ≠ 0 }) :
    (r.run m (marks.map .take)).1 = (List.range marks.length).map fun k => (r.free m)[k]? := by
  induction marks generalizing m with
  | nil => rfl
  | cons v rest ih =>
    rw [List.length_cons, List.range_succ_eq_map]
    cases hfound : r.findFree? m with
    | none =>
      have hfree : r.free m = [] := by rw [← List.head?_eq_none_iff, head?_free, hfound]
      simp only [List.map_cons, List.map_map, run_cons, act_take_none hfound, ih, hfree,
        List.getElem?_nil]
      rfl
    | some i =>
      simp only [List.map_cons, List.map_map, run_cons, act_take_some hfound, ih,
        free_setFlags hfound v.property]
      rfl

/-- As many descriptors can be taken as are free. -/
theorem run_takes_all {r : Ring} {m : Memory} {marks : List { v : Word // v ≠ 0 }}
    (h : marks.length = (r.free m).length + 1) :
    (r.run m (marks.map .take)).1 = (r.free m).map some ++ [none] := by
  rw [run_takes, h, List.range_succ, List.map_append]
  congr 1
  · apply List.ext_getElem (by simp)
    intro k hk _
    simp
  · simp

/-- **Allocation of descriptors**, at any base, over any memory and after any history of moves.

In use is what was taken and has not been released, or was in use all along. The search finds the
least descriptor whose flags word is zero, and finds none exactly when ten are in use. To take one
yields a descriptor that was not in use and makes it one more; to release one that is in use makes
it one less. With `k` descriptors free, `k` of them can be taken, in ascending order, and no
more. -/
theorem allocation_history (r : Ring) (m : Memory) (moves : List Move) :
    let yielded := (r.run m moves).1
    let n := (r.run m moves).2
    let free := (List.finRange 10).filter fun i => n.get (r.cell i .flags) = 0
    r.inUse n = (moves.zip yielded).foldl Move.settle (r.inUse m) ∧
    (∀ i, r.findFree? n = some i ↔
      n.get (r.cell i .flags) = 0 ∧ ∀ j < i, n.get (r.cell j .flags) ≠ 0) ∧
    (r.findFree? n = none ↔ r.allocated n = 10) ∧
    (∀ v, (r.act n (.take v)).1 = r.findFree? n) ∧
    (∀ v i, (r.act n (.take v)).1 = some i →
      i ∉ r.inUse n ∧ r.inUse (r.act n (.take v)).2 = insert i (r.inUse n) ∧
        r.allocated (r.act n (.take v)).2 = r.allocated n + 1) ∧
    (∀ i ∈ r.inUse n, r.inUse (r.act n (.release i.word)).2 = (r.inUse n).erase i ∧
      r.allocated (r.act n (.release i.word)).2 + 1 = r.allocated n) ∧
    free.length + r.allocated n = 10 ∧
    ∀ marks : List { v : Word // v ≠ 0 }, marks.length = free.length + 1 →
      (r.run n (marks.map .take)).1 = free.map some ++ [none] := by
  intro yielded n free
  refine ⟨r.inUse_run m moves, fun i => ?_, findFree?_eq_none_iff_allocated, r.fst_act_take n,
    fun v i htaken => ?_, fun i hi => ?_, r.length_free n, fun marks h => run_takes_all h⟩
  · simp only [findFree?_eq_some_iff, mem_inUse, ne_eq, not_not]
  · have hsettled := r.inUse_act n (.take v)
    rw [htaken, Move.settle] at hsettled
    rw [fst_act_take] at htaken
    have hfree : i ∉ r.inUse n := (findFree?_eq_some_iff.mp htaken).1
    refine ⟨hfree, hsettled, ?_⟩
    rw [allocated_eq_card, allocated_eq_card, hsettled, Finset.card_insert_of_notMem hfree]
  · have hsettled := r.inUse_act n (.release i.word)
    rw [act_release_word, Move.settle] at hsettled
    rw [act_release_word]
    refine ⟨hsettled, ?_⟩
    rw [allocated_eq_card, allocated_eq_card, hsettled, Finset.card_erase_add_one hi]

/-- One descriptor of a fresh ring around the ceiling is taken. The others can be taken in turn, and
then there is none; or the first one is released, and none is in use. -/
theorem allocation_history_wrapping :
    let r : Ring := ⟨0xFFF0⟩
    let mark : { v : Word // v ≠ 0 } := ⟨0x8000, by decide⟩
    let n := (r.run (r.init .zero) [.take mark]).2
    (r.run n (List.replicate 10 (.take mark))).1 =
        [some 1, some 2, some 3, some 4, some 5, some 6, some 7, some 8, some 9, none] ∧
      r.allocated (r.act n (.take mark)).2 = r.allocated n + 1 ∧
      r.allocated (r.act n (.release 0)).2 + 1 = r.allocated n := by
  intro r mark
  -- all that matters of the memory is that the ring is idle
  have hidle := r.idle_init .zero
  generalize r.init .zero = m at hidle ⊢
  intro n
  obtain ⟨hused, hfind, -, hfound, htaken, hreleased, -, hall⟩ :=
    r.allocation_history m [.take mark]
  have hnone : r.inUse m = ∅ := by
    rw [← Finset.card_eq_zero, ← allocated_eq_card, hidle.allocated]
  have hyielded : (r.run m [.take mark]).1 = [some 0] := by
    rw [run_cons, fst_act_take, hidle.findFree?, run]
  have hfirst (i : Slot) : ¬ n.get (r.cell i .flags) = 0 ↔ i = 0 := by
    have hn : r.inUse n = _ := hused
    rw [hyielded, hnone] at hn
    rw [← ne_eq, ← mem_inUse, hn]
    simp [Move.settle]
  have hfree : ((List.finRange 10).filter fun i => n.get (r.cell i .flags) = 0) =
      (List.finRange 10).filter fun i => i ≠ 0 :=
    List.filter_congr fun i _ => decide_eq_decide.mpr (not_iff_comm.mp (hfirst i)).symm
  have htakes (marks : List { v : Word // v ≠ 0 }) (h : marks.length = 10) :
      (r.run n (marks.map .take)).1 =
        ((List.finRange 10).filter fun i => i ≠ 0).map some ++ [none] := by
    rw [← hfree]
    refine hall marks (h.trans ?_)
    rw [show ((List.finRange 10).filter fun i => _) = _ from hfree]
    decide
  refine ⟨htakes (List.replicate 10 mark) rfl, (htaken mark 1 ?_).2.2,
    (hreleased 0 (mem_inUse.mpr ((hfirst 0).mpr rfl))).2⟩
  rw [hfound, hfind]
  have hbelow : ∀ j : Slot, j < 1 → j = 0 := by decide
  exact ⟨(not_iff_comm.mp (hfirst 1)).mp (by decide), fun j hj => (hfirst j).mpr (hbelow j hj)⟩

end Ring

end LC3
