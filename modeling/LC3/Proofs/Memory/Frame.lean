import LC3.Memory

/-!
# What a store leaves alone

Almost every statement about a device is of the form "these words are as they were". This
module says it once for the memory.

- `distance a x`: how far one address lies behind another, around the ceiling. A run of words
  from `a` on is the set of addresses at a small distance from `a`, wherever `a` lies.
- `Memory.SameOn S m n`: two memories agree on the addresses of `S`. The frame of an
  operation is `SameOn` of everything it may not touch.
- `get_writeSlice_inside`, `get_writeSlice_outside`: a run of stores, word by word.
- `loadAt_eq`: loading is a run of stores of what fits below the ceiling.
-/

namespace LC3

/-! ## Distances -/

/-- How many words `x` lies behind `a`, counted upwards and around the ceiling. -/
def distance (a x : Word) : Nat := (x - a).toNat

theorem distance_lt (a x : Word) : distance a x < 65536 := (x - a).toNat_lt

@[simp] theorem distance_self (a : Word) : distance a a = 0 := by
  simp [distance]

/-- An address computed from `a` lies behind it by what was added. -/
@[simp] theorem distance_add (a w : Word) : distance a (a + w) = w.toNat := by
  rw [distance, UInt16.add_comm, UInt16.add_sub_cancel]

theorem distance_add_ofNat (a : Word) {n : Nat} (h : n < 65536) :
    distance a (a + UInt16.ofNat n) = n := by
  rw [distance_add]
  exact Nat.mod_eq_of_lt h

/-- The distance from a fixed address tells addresses apart. -/
theorem distance_inj {a x y : Word} : distance a x = distance a y ↔ x = y := by
  constructor
  · intro h
    have hsub : x - a = y - a := UInt16.toNat_inj.mp h
    calc x = x - a + a := (UInt16.sub_add_cancel x a).symm
      _ = y - a + a := by rw [hsub]
      _ = y := UInt16.sub_add_cancel y a
  · rintro rfl
    rfl

/-- Every address is where its distance says. -/
theorem add_distance (a x : Word) : a + UInt16.ofNat (distance a x) = x := by
  apply distance_inj.mp
  exact distance_add_ofNat a (distance_lt a x)

/-- One word further on, every other address is one word nearer. -/
theorem distance_succ {a x : Word} (h : x ≠ a) : distance a x = distance (a + 1) x + 1 := by
  have hne : x.toNat ≠ a.toNat := fun e => h (UInt16.toNat_inj.mp e)
  have hx := x.toNat_lt
  have ha := a.toNat_lt
  simp only [distance, UInt16.toNat_sub, UInt16.toNat_add, UInt16.toNat_one]
  omega

/-- Distances from one address follow from those from another. -/
theorem distance_eq (c a x : Word) :
    distance a x = (65536 + distance c x - distance c a) % 65536 := by
  have hx := x.toNat_lt
  have ha := a.toNat_lt
  have hc := c.toNat_lt
  simp only [distance, UInt16.toNat_sub]
  omega

theorem distance_succ_self (a : Word) : distance (a + 1) a = 65535 := by
  have ha := a.toNat_lt
  simp only [distance, UInt16.toNat_sub, UInt16.toNat_add, UInt16.toNat_one]
  omega

namespace Memory

/-! ## Runs of words -/

@[simp] theorem set_get_self (m : Memory) (a : Word) : m.set a (m.get a) = m := by
  apply ext_get
  intro x
  rw [get_set]
  split
  · next h => rw [h]
  · rfl

@[simp] theorem set_set (m : Memory) (a v w : Word) : (m.set a v).set a w = m.set a w := by
  apply ext_get
  intro x
  simp only [get_set]
  split <;> rfl

/-- A run of stores does not reach an address behind it. -/
theorem get_writeSlice_outside {m : Memory} {a x : Word} {values : List Word}
    (h : values.length ≤ distance a x) : (m.writeSlice a values).get x = m.get x := by
  induction values generalizing m a with
  | nil => rfl
  | cons value rest ih =>
    -- only the start of a run is at distance 0
    have hx : x ≠ a := by
      rintro rfl
      simp at h
    rw [List.length_cons, distance_succ hx] at h
    show ((m.set a value).writeSlice (a + 1) rest).get x = m.get x
    rw [ih (by omega), get_set_other hx]

/-- A run of stores that does not overlap itself leaves each of its values. -/
theorem get_writeSlice_inside {m : Memory} {a x : Word} {values : List Word}
    (hlen : values.length ≤ 65536) (h : distance a x < values.length) :
    (m.writeSlice a values).get x = values[distance a x] := by
  induction values generalizing m a with
  | nil => simp at h
  | cons value rest ih =>
    rw [List.length_cons] at hlen
    show ((m.set a value).writeSlice (a + 1) rest).get x = _
    by_cases hx : x = a
    · subst hx
      -- the rest of the run would have to go all around to come back here
      have hend : rest.length ≤ distance (x + 1) x := by
        rw [distance_succ_self]
        omega
      rw [get_writeSlice_outside hend]
      simp
    · have hd := distance_succ hx
      have hrest : distance (a + 1) x < rest.length := by
        rw [List.length_cons] at h
        omega
      rw [ih (by omega) hrest]
      simp [hd]

theorem add_one_add_ofNat (a : Word) (i : Nat) :
    a + 1 + UInt16.ofNat i = a + UInt16.ofNat (i + 1) := by
  rw [UInt16.add_assoc, UInt16.ofNat_add, UInt16.add_comm 1]
  rfl

theorem readSlice_succ (m : Memory) (a : Word) (n : Nat) :
    m.readSlice a (n + 1) = m.get a :: m.readSlice (a + 1) n := by
  rw [readSlice, List.range_succ_eq_map, List.map_cons, List.map_map]
  congr 1
  · simp
  · apply List.map_congr_left
    intro i _
    show m.get (a + UInt16.ofNat (i + 1)) = m.get (a + 1 + UInt16.ofNat i)
    rw [add_one_add_ofNat]

theorem length_readSlice (m : Memory) (a : Word) (n : Nat) :
    (m.readSlice a n).length = n := by
  simp [readSlice]

/-- What was stored as a run is read back as a run. -/
theorem readSlice_writeSlice (m : Memory) (a : Word) (values : List Word)
    (hlen : values.length ≤ 65536) :
    (m.writeSlice a values).readSlice a values.length = values := by
  apply List.ext_getElem (length_readSlice ..)
  intro i h₁ h₂
  have hi : distance a (a + UInt16.ofNat i) = i := distance_add_ofNat a (by omega)
  have hget := get_writeSlice_inside (m := m) hlen (by rwa [hi])
  simp only [readSlice, List.getElem_map, List.getElem_range, hget, hi]

/-- To store a run where it was read changes nothing. -/
theorem writeSlice_readSlice (m : Memory) (a : Word) (n : Nat) :
    m.writeSlice a (m.readSlice a n) = m := by
  induction n generalizing a with
  | zero => rfl
  | succ n ih => rw [readSlice_succ, writeSlice, set_get_self, ih]

/-! ## Runs below the ceiling -/

/-- A run that ends at the ceiling is a run of stores of what fits below it. -/
theorem placeFrom_eq_writeSlice (m : Memory) (start : Nat) (values : List Word) :
    m.placeFrom start values =
      m.writeSlice (UInt16.ofNat start) (values.take (addressCount - start)) := by
  induction values generalizing m start with
  | nil => simp [placeFrom, writeSlice]
  | cons value rest ih =>
    rw [placeFrom]
    split
    · next h =>
      have hroom : addressCount - start = addressCount - (start + 1) + 1 := by omega
      have hnext : UInt16.ofNat (start + 1) = UInt16.ofNat start + 1 := UInt16.ofNat_add ..
      rw [ih, hroom, List.take_succ_cons, writeSlice, hnext]
    · next h =>
      have hroom : addressCount - start = 0 := by omega
      rw [hroom, List.take_zero, writeSlice]

theorem loadAt_eq (m : Memory) (origin : Word) (values : List Word) :
    m.loadAt origin values =
      (m.writeSlice origin (values.take (room origin)), min values.length (room origin)) := by
  rw [loadAt, placeFrom_eq_writeSlice, UInt16.ofNat_toNat]
  rfl

/-! ## Frames -/

/-- The two memories hold the same word at every address of `S`. -/
def SameOn (S : Word → Prop) (m n : Memory) : Prop :=
  ∀ a, S a → n.get a = m.get a

namespace SameOn

variable {S T : Word → Prop} {m n k : Memory}

theorem refl (S : Word → Prop) (m : Memory) : SameOn S m m := fun _ _ => rfl

theorem trans (h₁ : SameOn S m n) (h₂ : SameOn S n k) : SameOn S m k :=
  fun a ha => (h₂ a ha).trans (h₁ a ha)

/-- Agreement on more is agreement on less. -/
theorem mono (h : SameOn S m n) (hle : ∀ a, T a → S a) : SameOn T m n :=
  fun a ha => h a (hle a ha)

/-- A store outside `S`. -/
theorem set {a : Word} (h : ¬ S a) (v : Word) : SameOn S m (m.set a v) := by
  intro x hx
  apply get_set_other
  rintro rfl
  exact h hx

/-- A run of stores outside `S`. -/
theorem writeSlice {a : Word} {values : List Word}
    (h : ∀ x, S x → values.length ≤ distance a x) : SameOn S m (m.writeSlice a values) :=
  fun x hx => get_writeSlice_outside (h x hx)

/-- A run of words within `S` reads the same. -/
theorem readSlice_eq {a : Word} {count : Nat} (h : SameOn S m n)
    (hrun : ∀ i < count, S (a + UInt16.ofNat i)) : n.readSlice a count = m.readSlice a count := by
  apply List.map_congr_left
  intro i hi
  exact h _ (hrun i (List.mem_range.mp hi))

end SameOn

end Memory

end LC3
