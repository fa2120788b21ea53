import Mathlib.Data.Bool.Count
import LC3.Proofs.Block.Service

/-!
# What the block device counts

The device counts the kicks and, in four more counters, what came of the announcements that they
found. A fault is noticed in two places and a request is answered in three, but whatever stands
in memory an announcement is counted in one place.

- `Ending`, `BlockStats.count`: what may come of an announcement, and the counter of each.
- `BlockDevice.stats_serve`, `BlockDevice.service_kick`: an announcement is counted once.
- `Ring.found`: what a kick finds, in the memory that it finds.
- `BlockDevice.Accounts`: a device that has counted what its kicks found. Events are of this kind
  (`accounts_service`), one after the other (`Accounts.trans`).
-/

namespace LC3

/-- What may come of an announcement. -/
inductive Ending where
  /-- The request was filled. -/
  | filled
  /-- The request was taken. -/
  | taken
  /-- The request was for something unknown. -/
  | refused
  /-- There was no descriptor in use. -/
  | faulty
  deriving DecidableEq, Repr

namespace BlockStats

/-- The counters after one more announcement has come to an end. -/
def count (s : BlockStats) : Ending → BlockStats
  | .filled => { s with reads := s.reads + 1 }
  | .taken => { s with writes := s.writes + 1 }
  | .refused => { s with unsupported := s.unsupported + 1 }
  | .faulty => { s with faults := s.faults + 1 }

/-- The counters after one more kick. -/
def kicked (s : BlockStats) : BlockStats := { s with kicks := s.kicks + 1 }

/-- The number of announcements that have come to an end. -/
def endings (s : BlockStats) : Nat := s.reads + s.writes + s.unsupported + s.faults

theorem kicks_count (s : BlockStats) (e : Ending) : (s.count e).kicks = s.kicks := by
  cases e <;> rfl

theorem endings_count (s : BlockStats) (e : Ending) : (s.count e).endings = s.endings + 1 := by
  cases e <;> simp only [count, endings] <;> omega

end BlockStats

/-- What an event finds in the memory `m`, if it is a kick: whether a request is announced. -/
def Ring.found (r : Ring) (m : Memory) (flags : Word) : Option Bool :=
  if flags.toNat % 2 = 1 then some ((r.avail m).flags.toNat % 2 = 1) else none

/-! ## Bits -/

/-- A word is even if bit 0 is clear. -/
theorem and_one_eq_zero {w : Word} : w &&& 1 = 0 ↔ w.toNat % 2 = 0 := by
  rw [← UInt16.toNat_inj, UInt16.toNat_and, UInt16.toNat_one, Nat.and_one_is_mod]
  rfl

theorem and_one_ne_zero {w : Word} : w &&& 1 ≠ 0 ↔ w.toNat % 2 = 1 := by
  rw [Ne, and_one_eq_zero]
  omega

namespace BlockDevice

variable (d : BlockDevice) (m : Memory)

/-! ## One event -/

/-- **Every announcement has one ending**, and that is all that serving it counts. -/
theorem stats_serve (index : Word) :
    ∃ e, (d.serve m index).device.stats = d.stats.count e := by
  rw [serve]
  split
  · exact ⟨.faulty, rfl⟩
  · next i _ =>
    split
    · rw [(d.serveAllocated_eq m i).2]
      split
      · exact ⟨.filled, rfl⟩
      · exact ⟨.taken, rfl⟩
      · exact ⟨.refused, rfl⟩
    · exact ⟨.faulty, rfl⟩

/-- A kick is serviced. It counts itself, and if it finds an announcement the ending of that. -/
theorem service_kick {flags : Word} (h : flags.toNat % 2 = 1) :
    let announced := (d.ring.avail m).flags.toNat % 2 = 1
    (d.service m flags).outcome = .serviced ∧
      (announced → ∃ e, (d.service m flags).device.stats = d.stats.kicked.count e) ∧
      (¬ announced → (d.service m flags).device.stats = d.stats.kicked) := by
  intro announced
  have hkick := and_one_ne_zero.mpr h
  by_cases hset : announced
  · obtain ⟨-, hdevice, hserviced⟩ := d.service_announced m hkick (and_one_ne_zero.mpr hset)
    refine ⟨hserviced, fun _ => ?_, fun hclear => absurd hset hclear⟩
    rw [hdevice]
    exact stats_serve _ _ _
  · have hclear : (d.ring.avail m).flags.toNat % 2 = 0 := Nat.mod_two_not_eq_one.mp hset
    obtain ⟨-, hdevice, hserviced⟩ := d.service_idle m hkick (and_one_eq_zero.mpr hclear)
    refine ⟨hserviced, fun h => absurd h hset, fun _ => ?_⟩
    rw [hdevice]
    rfl

/-- An event that is no kick changes nothing. -/
theorem service_of_even {flags : Word} (h : flags.toNat % 2 = 0) :
    (d.service m flags).memory = m ∧ (d.service m flags).device = d ∧
      (d.service m flags).outcome = .ignored :=
  d.service_ignored m (and_one_eq_zero.mpr h)

/-! ## Any number of events -/

/-- The device `d'` is the device `d` after kicks that found `founds`. -/
structure Accounts (d : BlockDevice) (founds : List Bool) (d' : BlockDevice) : Prop where
  /-- The device never moves. -/
  ring : d'.ring = d.ring
  /-- Every kick was counted. -/
  kicks : d'.stats.kicks = d.stats.kicks + founds.length
  /-- Every announcement was counted. -/
  endings : d'.stats.endings = d.stats.endings + founds.count true

namespace Accounts

theorem refl (d : BlockDevice) : d.Accounts [] d := ⟨rfl, rfl, rfl⟩

theorem trans {d d' d'' : BlockDevice} {founds founds' : List Bool}
    (h₁ : d.Accounts founds d') (h₂ : d'.Accounts founds' d'') :
    d.Accounts (founds ++ founds') d'' where
  ring := h₂.ring.trans h₁.ring
  kicks := by rw [h₂.kicks, h₁.kicks, List.length_append, Nat.add_assoc]
  endings := by rw [h₂.endings, h₁.endings, List.count_append, Nat.add_assoc]

/-- A device that started from nothing has counted every kick a second time, unless the kick
found no announcement. -/
theorem kicks_eq {d d' : BlockDevice} {founds : List Bool} (h : d.Accounts founds d')
    (hfresh : d.stats = {}) :
    d'.stats.kicks = founds.length ∧
      d'.stats.kicks = d'.stats.reads + d'.stats.writes + d'.stats.unsupported +
        d'.stats.faults + founds.count false := by
  have hkicks : d'.stats.kicks = founds.length := by
    rw [h.kicks, hfresh, Nat.zero_add]
  have hendings : d'.stats.endings = founds.count true := by
    rw [h.endings, hfresh]
    exact Nat.zero_add _
  refine ⟨hkicks, ?_⟩
  calc d'.stats.kicks = founds.count true + founds.count false := by
        rw [hkicks, List.count_true_add_count_false]
    _ = d'.stats.endings + founds.count false := by rw [hendings]

end Accounts

/-- **The accounts of an event**: whatever is in memory, a kick is counted once, and what it finds
is counted once. -/
theorem accounts_service (flags : Word) :
    d.Accounts (d.ring.found m flags).toList (d.service m flags).device := by
  have hring := (d.service_device m flags).1
  by_cases hodd : flags.toNat % 2 = 1
  · obtain ⟨-, hset, hclear⟩ := d.service_kick m hodd
    by_cases hannounced : (d.ring.avail m).flags.toNat % 2 = 1
    · obtain ⟨e, hstats⟩ := hset hannounced
      rw [Ring.found, if_pos hodd, decide_eq_true hannounced]
      exact ⟨hring, by rw [hstats, BlockStats.kicks_count]; rfl,
        by rw [hstats, BlockStats.endings_count]; rfl⟩
    · have hstats := hclear hannounced
      rw [Ring.found, if_pos hodd, decide_eq_false hannounced]
      exact ⟨hring, by rw [hstats]; rfl, by rw [hstats]; rfl⟩
  · rw [Ring.found, if_neg hodd, (d.service_of_even m (Nat.mod_two_not_eq_one.mp hodd)).2.1]
    exact .refl d

end BlockDevice

end LC3
