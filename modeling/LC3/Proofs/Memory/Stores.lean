import Mathlib.Data.List.Nodup
import LC3.Proofs.Memory.Frame

/-!
# Stores in any order

A list of stores, each with an address and a value, is carried out from the first to the last. If
no address occurs twice, nobody can tell in which order.

- `Memory.stores`: stores carried out one after the other.
- `Memory.run`: a run of words as a list of stores (`stores_run`).
- `get_stores`, `get_stores_other`: what stores make of one word.
- `Memory.stores_perm`: stores to distinct addresses in another order.
-/

namespace LC3

namespace Memory

/-- The memory after stores, each of them an address and a value. -/
def stores (m : Memory) (xs : List (Word × Word)) : Memory := xs.foldl (fun m x => m.set x.1 x.2) m

/-- The stores that put `values` one after the other from `address` on. -/
def run (address : Word) : List Word → List (Word × Word)
  | [] => []
  | value :: rest => (address, value) :: run (address + 1) rest

variable (m : Memory)

@[simp] theorem stores_cons (x : Word × Word) (rest : List (Word × Word)) :
    m.stores (x :: rest) = (m.set x.1 x.2).stores rest := rfl

theorem stores_append (xs ys : List (Word × Word)) :
    m.stores (xs ++ ys) = (m.stores xs).stores ys := List.foldl_append

theorem stores_run (a : Word) (values : List Word) :
    m.stores (run a values) = m.writeSlice a values := by
  induction values generalizing m a with
  | nil => rfl
  | cons value rest ih => exact ih (m.set a value) (a + 1)

theorem run_append (a : Word) (xs ys : List Word) :
    run a (xs ++ ys) = run a xs ++ run (a + UInt16.ofNat xs.length) ys := by
  induction xs generalizing a with
  | nil => simp [run]
  | cons x rest ih => rw [List.cons_append, run, ih, add_one_add_ofNat, run, List.length_cons,
      List.cons_append]

/-- The addresses of a run, one after the other. -/
theorem map_fst_run (a : Word) (values : List Word) :
    (run a values).map Prod.fst = (List.range values.length).map fun k => a + UInt16.ofNat k := by
  induction values generalizing a with
  | nil => rfl
  | cons value rest ih =>
    have hnext : (fun k => a + 1 + UInt16.ofNat k) = (fun k => a + UInt16.ofNat k) ∘ Nat.succ :=
      funext fun k => add_one_add_ofNat a k
    rw [run, List.map_cons, ih, List.length_cons, List.range_succ_eq_map, List.map_cons,
      List.map_map, hnext]
    simp

variable {m} {n : Memory} {a : Word} {xs ys : List (Word × Word)}

/-- The last store to a word counts. -/
theorem get_stores (m : Memory) (xs : List (Word × Word)) (a : Word) :
    (m.stores xs).get a = xs.foldl (fun w x => if a = x.1 then x.2 else w) (m.get a) := by
  induction xs generalizing m with
  | nil => rfl
  | cons x rest ih => rw [stores_cons, ih, get_set, List.foldl_cons]

/-- What stores make of a word depends on that word alone. -/
theorem get_stores_congr (h : n.get a = m.get a) : (n.stores xs).get a = (m.stores xs).get a := by
  rw [get_stores, get_stores, h]

/-- Stores leave every word that none of them names. -/
theorem get_stores_other (h : ∀ x ∈ xs, x.1 ≠ a) : (m.stores xs).get a = m.get a := by
  induction xs generalizing m with
  | nil => rfl
  | cons x rest ih =>
    rw [List.forall_mem_cons] at h
    rw [stores_cons, ih h.2, get_set_other h.1.symm]

/-- Stores to different addresses commute. -/
theorem set_comm {b : Word} (h : a ≠ b) (v w : Word) :
    (m.set a v).set b w = (m.set b w).set a v := by
  apply ext_get
  intro x
  by_cases ha : x = a
  · subst ha
    rw [get_set_other h, get_set_self, get_set_self]
  · simp only [get_set, if_neg ha]

/-- A store commutes with stores to other addresses. -/
theorem stores_set (h : ∀ x ∈ xs, x.1 ≠ a) (v : Word) :
    (m.set a v).stores xs = (m.stores xs).set a v := by
  induction xs generalizing m with
  | nil => rfl
  | cons x rest ih =>
    rw [List.forall_mem_cons] at h
    rw [stores_cons, stores_cons, set_comm h.1.symm, ih h.2]

/-- **Stores in any order**: it makes no difference if no address occurs twice. -/
theorem stores_perm (h : xs.Perm ys) (hxs : (xs.map Prod.fst).Nodup) :
    m.stores xs = m.stores ys := by
  induction h generalizing m with
  | nil => rfl
  | cons x _ ih =>
    rw [List.map_cons, List.nodup_cons] at hxs
    exact ih hxs.2
  | swap x y rest =>
    -- the two stores that change places have different addresses
    have hne : y.1 ≠ x.1 := by
      rw [List.map_cons, List.map_cons, List.nodup_cons] at hxs
      intro heq
      exact hxs.1 (heq ▸ List.mem_cons_self)
    rw [stores_cons, stores_cons, stores_cons, stores_cons, set_comm hne]
  | trans hfirst _ ih₁ ih₂ =>
    have hmiddle : (List.map Prod.fst _).Nodup := (hfirst.map Prod.fst).nodup_iff.mp hxs
    exact (ih₁ hxs).trans (ih₂ hmiddle)

end Memory

end LC3
