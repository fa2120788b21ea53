import Mathlib.Data.List.Nodup
import LC3.Proofs.Bus.Delivery

/-!
# Routing of events

Each entry of the interrupt window has one owner: the device that was attached for it last. A store
into the window runs the owner once and nobody else, and a store elsewhere runs nobody.

- `Bus.deviceAt?`: the device that owns an entry.
- `deviceAt?_attach`, `deviceAt?_write`: what an attachment and a store make of it.
- `Bus.Act`: attachments and accesses. No two devices ever own the same entry (`nodup_acts`).
- `Bus.latest?`: the device attached last for an entry, as the events delivered to it since have
  left it. This is the owner of the entry after any number of acts (`deviceAt?_acts`).
- `Bus.routing`: who runs, on what, and what is left.
-/

namespace LC3

/-- What is put in the place of an element that is not looked for is not found if it is not looked
for either. -/
theorem find?_set_of_not {α : Type} {p : α → Bool} {l : List α} {k : Nat} {x y : α}
    (hx : l[k]? = some x) (hpx : p x = false) (hpy : p y = false) :
    (l.set k y).find? p = l.find? p := by
  induction l generalizing k with
  | nil => cases hx
  | cons z rest ih =>
    cases k with
    | zero =>
      obtain rfl : z = x := Option.some.inj hx
      simp only [List.set_cons_zero, List.find?_cons, hpx, hpy]
    | succ k =>
      simp only [List.set_cons_succ, List.find?_cons, ih hx]

/-- Where `f` tells the elements of a list apart, to put one in the place of another is to look for
that one everywhere. -/
theorem set_eq_map {α β : Type} [DecidableEq β] {f : α → β} {l : List α} {k : Nat} {x : α}
    (hnodup : (l.map f).Nodup) (hx : l[k]? = some x) (y : α) :
    l.set k y = l.map fun z => if f z = f x then y else z := by
  obtain ⟨hplace, rfl⟩ := List.getElem?_eq_some_iff.mp hx
  apply List.ext_getElem (by simp)
  intro i hi hi'
  rw [List.length_set] at hi
  have hinj : f l[i] = f l[k] ↔ i = k := by
    have hi' : i < (l.map f).length := by rwa [List.length_map]
    have hk' : k < (l.map f).length := by rwa [List.length_map]
    rw [← List.getElem_map f (h := hi'), ← List.getElem_map f (h := hk')]
    exact hnodup.getElem_inj_iff
  rw [List.getElem_set, List.getElem_map]
  by_cases hik : k = i
  · rw [if_pos hik, if_pos (hinj.mpr hik.symm)]
  · rw [if_neg hik, if_neg fun h => hik (hinj.mp h).symm]

namespace Bus

variable {κ δ : Type} [Handler δ]

/-- The device that owns an entry. -/
def deviceAt? (b : Bus κ δ) (e : Word) : Option δ := b.devices.find? (Handler.vector · == e)

theorem inInterruptWindow_iff {a : Word} :
    inInterruptWindow a = true ↔ 0x0100 ≤ a ∧ a ≤ 0x01FF := by
  simp only [inInterruptWindow, Bool.and_eq_true, decide_eq_true_eq]

/-! ## Attachments -/

theorem deviceAt?_attach (b : Bus κ δ) (d : δ) (e : Word) :
    (b.attach d).deviceAt? e = if Handler.vector d = e then some d else b.deviceAt? e := by
  show (b.devices.filter (Handler.vector · != Handler.vector d) ++ [d]).find? _ = _
  rw [List.find?_append, List.find?_filter]
  by_cases h : Handler.vector d = e
  · subst h
    have hnone : b.devices.find? (fun x => decide ((Handler.vector x != Handler.vector d) = true ∧
        (Handler.vector x == Handler.vector d) = true)) = none := by
      rw [List.find?_eq_none]
      simp
    rw [hnone, if_pos rfl]
    simp
  · have hsame : (fun x : δ => decide ((Handler.vector x != Handler.vector d) = true ∧
        (Handler.vector x == e) = true)) = (Handler.vector · == e) := by
      funext x
      by_cases hx : Handler.vector x = e
      · subst hx
        simp [Ne.symm h]
      · simp [hx]
    rw [hsame, if_neg h]
    simp [h, deviceAt?]

/-- An attachment leaves the devices of other entries in their places and as they are. -/
theorem others_attach (b : Bus κ δ) (d : δ) :
    (b.attach d).devices.filter (Handler.vector · != Handler.vector d) =
      b.devices.filter (Handler.vector · != Handler.vector d) := by
  show (b.devices.filter _ ++ [d]).filter _ = _
  rw [List.filter_append, List.filter_filter]
  simp

theorem nodup_attach {b : Bus κ δ} (h : (b.devices.map Handler.vector).Nodup) (d : δ) :
    ((b.attach d).devices.map Handler.vector).Nodup := by
  show ((b.devices.filter _ ++ [d]).map Handler.vector).Nodup
  rw [List.map_append, List.nodup_append]
  refine ⟨(List.filter_sublist.map Handler.vector).nodup h, by simp, ?_⟩
  -- whoever owned the entry has been removed
  rintro _ hx _ hy heq
  obtain ⟨x, hkept, rfl⟩ := List.mem_map.mp hx
  rw [List.map_singleton, List.mem_singleton] at hy
  have hne := (List.mem_filter.mp hkept).2
  rw [heq, hy] at hne
  simp at hne

/-! ## Stores -/

theorem deviceAt?_of_answering? {b : Bus κ δ} {a : Word} {k : Nat} (h : b.answering? a = some k) :
    b.deviceAt? a = b.devices[k]? := by
  obtain ⟨-, hfind⟩ := Option.ite_none_right_eq_some.mp h
  rw [deviceAt?, List.find?_eq_bind_findIdx?_getElem?, hfind]
  rfl

/-- In the interrupt window the owner of an entry is the device that answers there. -/
theorem deviceAt?_of_window {b : Bus κ δ} {a : Word} (h : inInterruptWindow a = true) :
    b.deviceAt? a = (b.answering? a).bind (b.devices[·]?) := by
  rw [deviceAt?, List.find?_eq_bind_findIdx?_getElem?, answering?, if_pos h]

/-- A store to an entry that nobody owns is noted as unclaimed. -/
theorem write_unowned {b : Bus κ δ} {a : Word} (hwindow : inInterruptWindow a = true)
    (h : ∀ d ∈ b.devices, Handler.vector d ≠ a) (v : Word) :
    (b.write a v).memory = b.memory.set a v ∧ (b.write a v).devices = b.devices ∧
      (b.write a v).dispatched = b.dispatched ∧
      (b.write a v).lastDispatch = some .unclaimed := by
  have howner : owner? a (b.mapMemory (·.set a v)).devices = none := by
    apply owner?_of_unclaimed
    exact List.any_eq_false.mpr fun d hd => by simpa using h d hd
  rw [write, if_pos hwindow]
  simp only [dispatch, report, howner]
  exact ⟨rfl, rfl, rfl, trivial⟩

/-- Where no two devices have one entry, every device answers at its own. -/
theorem answering?_of_nodup {b : Bus κ δ} (h : (b.devices.map Handler.vector).Nodup) {k : Nat}
    {d : δ} (hd : b.devices[k]? = some d) (hwindow : inInterruptWindow (Handler.vector d) = true) :
    b.answering? (Handler.vector d) = some k := by
  obtain ⟨hplace, rfl⟩ := List.getElem?_eq_some_iff.mp hd
  rw [answering?, if_pos hwindow, List.findIdx?_eq_some_iff_getElem]
  refine ⟨hplace, beq_iff_eq.mpr rfl, ?_⟩
  intro j hj hsame
  have hk : k < (b.devices.map Handler.vector).length := by rwa [List.length_map]
  have hj' : j < (b.devices.map Handler.vector).length := Nat.lt_trans hj hk
  have hboth : (b.devices.map Handler.vector)[j] = (b.devices.map Handler.vector)[k] := by
    rw [List.getElem_map, List.getElem_map]
    exact beq_iff_eq.mp hsame
  rw [h.getElem_inj_iff] at hboth
  omega

section Constant

variable (hconstant : ∀ (d : δ) (m : Memory) (flags : Word),
  Handler.vector (Handler.handle d m flags).device = Handler.vector d)
include hconstant

/-- A store does not change who owns which entry. -/
theorem vectors_write (b : Bus κ δ) (a v : Word) :
    (b.write a v).devices.map Handler.vector = b.devices.map Handler.vector := by
  cases h : b.answering? a with
  | none => rw [(write_unanswered h v).devices]
  | some k =>
    obtain ⟨d, hd⟩ := exists_of_answering? h
    obtain ⟨hplace, rfl⟩ := List.getElem?_eq_some_iff.mp hd
    rw [(write_answered h hd v).2.1, List.map_set, hconstant, ← List.map_set,
      List.set_getElem_self]

/-- A store into the interrupt window is one event for the owner of the entry, and for nobody
else. -/
theorem deviceAt?_write (b : Bus κ δ) (a v e : Word) :
    (b.write a v).deviceAt? e =
      if inInterruptWindow a = true ∧ a = e then
        (b.deviceAt? e).map fun d => (Handler.handle d (b.memory.set a v) v).device
      else b.deviceAt? e := by
  cases h : b.answering? a with
  | none =>
    have hkept : (b.write a v).deviceAt? e = b.deviceAt? e := by
      rw [deviceAt?, deviceAt?, (write_unanswered h v).devices]
    split
    · next hentry =>
      obtain ⟨hwindow, rfl⟩ := hentry
      rw [hkept, deviceAt?_of_window hwindow, h]
      rfl
    · exact hkept
  | some k =>
    obtain ⟨d, hd⟩ := exists_of_answering? h
    have hplace : k < b.devices.length := (List.getElem?_eq_some_iff.mp hd).1
    obtain ⟨hwindow, hfind⟩ := Option.ite_none_right_eq_some.mp h
    have hdevices := (write_answered h hd v).2.1
    have hvector : Handler.vector d = a := by
      obtain ⟨_, howns, -⟩ := List.findIdx?_eq_some_iff_getElem.mp hfind
      rw [(List.getElem?_eq_some_iff.mp hd).2] at howns
      exact beq_iff_eq.mp howns
    by_cases he : a = e
    · subst he
      have hanswers := (answering?_congr (vectors_write hconstant b a v) a).trans h
      rw [if_pos ⟨hwindow, rfl⟩, deviceAt?_of_answering? hanswers, deviceAt?_of_answering? h, hd,
        hdevices, List.getElem?_set_self hplace]
      rfl
    · rw [if_neg fun hentry => he hentry.2, deviceAt?, hdevices]
      have hne : (Handler.vector d == e) = false := beq_false_of_ne (hvector ▸ he)
      exact find?_set_of_not hd hne (by rw [hconstant]; exact hne)

end Constant

/-! ## Attachments and accesses -/

/-- What happens to a bus. -/
inductive Act (δ : Type) where
  /-- A device is attached. -/
  | attach (d : δ)
  /-- There is an access. -/
  | access (x : Access)

variable [Console κ]

/-- The bus after an act. -/
def act (b : Bus κ δ) : Act δ → Bus κ δ
  | .attach d => b.attach d
  | .access x => b.access x

/-- The bus after acts, one after the other. -/
def acts (b : Bus κ δ) (xs : List (Act δ)) : Bus κ δ := xs.foldl act b

/-- What an act makes of `known`, the device attached last for the entry `e`: another device takes
its place, or an event is delivered to it. -/
def next? (b : Bus κ δ) (e : Word) (known : Option δ) : Act δ → Option δ
  | .attach d => if Handler.vector d = e then some d else known
  | .access (.write a v) =>
    if inInterruptWindow a = true ∧ a = e then
      known.map fun d => (Handler.handle d (b.memory.set a v) v).device
    else known
  | .access _ => known

/-- The device attached last for the entry `e` in the course of acts, as the events delivered to it
since have left it. Before them it was `known`. -/
def latest? (b : Bus κ δ) (e : Word) (known : Option δ) : List (Act δ) → Option δ
  | [] => known
  | x :: rest => (b.act x).latest? e (b.next? e known x) rest

section Constant

variable (hconstant : ∀ (d : δ) (m : Memory) (flags : Word),
  Handler.vector (Handler.handle d m flags).device = Handler.vector d)
include hconstant

/-- **An act** leaves every entry to the device attached for it last. -/
theorem deviceAt?_act (b : Bus κ δ) (x : Act δ) (e : Word) :
    (b.act x).deviceAt? e = b.next? e (b.deviceAt? e) x := by
  match x with
  | .attach d => exact b.deviceAt?_attach d e
  | .access (.read a) =>
    show (b.read a).2.deviceAt? e = b.deviceAt? e
    rw [deviceAt?, (b.onlyPolled_read a).devices]
    rfl
  | .access (.write a v) => exact deviceAt?_write hconstant b a v e
  | .access (.change f) => rfl

/-- An act leaves no two devices with one entry. -/
theorem nodup_act {b : Bus κ δ} (h : (b.devices.map Handler.vector).Nodup) (x : Act δ) :
    ((b.act x).devices.map Handler.vector).Nodup := by
  match x with
  | .attach d => exact nodup_attach h d
  | .access (.read a) =>
    show ((b.read a).2.devices.map Handler.vector).Nodup
    rwa [(b.onlyPolled_read a).devices]
  | .access (.write a v) =>
    show ((b.write a v).devices.map Handler.vector).Nodup
    rwa [vectors_write hconstant]
  | .access (.change f) => exact h

/-- **Acts**, one after the other, leave every entry to the device attached for it last. -/
theorem deviceAt?_acts (b : Bus κ δ) (xs : List (Act δ)) (e : Word) :
    (b.acts xs).deviceAt? e = b.latest? e (b.deviceAt? e) xs := by
  induction xs generalizing b with
  | nil => rfl
  | cons x rest ih =>
    show ((b.act x).acts rest).deviceAt? e = _
    rw [ih, deviceAt?_act hconstant, latest?]

theorem nodup_acts {b : Bus κ δ} (h : (b.devices.map Handler.vector).Nodup) (xs : List (Act δ)) :
    ((b.acts xs).devices.map Handler.vector).Nodup := by
  induction xs generalizing b with
  | nil => exact h
  | cons x rest ih => exact ih (nodup_act hconstant h x)

/-- **Routing**: devices of any behaviour are attached to a bare bus, as long as none of them ever
changes its entry, and there are accesses in between. Then no two devices have the same entry, and
the one that has it is the one attached for it last, as the events delivered to it since have left
it. An attachment takes the place of the device of that entry, and the others stay in their places
as they are. A store outside the interrupt window is a store to the memory and nothing else, whoever
claims the address. So is a store to an entry without a device, which is noted as unclaimed. A store
to the entry of a device runs that device once, on the word and the memory with the word stored, and
no other; its answer is counted and noted, and the memory is what it leaves, with the completion
code at the entry just if it has serviced the event. -/
theorem routing (b : Bus κ δ) (hbare : b.devices = []) (xs : List (Act δ)) :
    let b' := b.acts xs
    (b'.devices.map Handler.vector).Nodup ∧
      (∀ e, b'.devices.find? (Handler.vector · == e) = b.latest? e none xs) ∧
      (∀ d, let attached := b'.attach d
        attached.devices.filter (Handler.vector · != Handler.vector d) =
            b'.devices.filter (Handler.vector · != Handler.vector d) ∧
          attached.memory = b'.memory ∧ attached.dispatched = b'.dispatched ∧
          attached.lastDispatch = b'.lastDispatch) ∧
      ∀ a v, let after := b'.write a v
        (¬ (0x0100 ≤ a ∧ a ≤ 0x01FF) → after = b'.mapMemory (·.set a v)) ∧
        (0x0100 ≤ a → a ≤ 0x01FF → (∀ d ∈ b'.devices, Handler.vector d ≠ a) →
          after.memory = b'.memory.set a v ∧ after.devices = b'.devices ∧
            after.dispatched = b'.dispatched ∧ after.lastDispatch = some .unclaimed) ∧
        (0x0100 ≤ a → a ≤ 0x01FF → ∀ d ∈ b'.devices, Handler.vector d = a →
          let reply := Handler.handle d (b'.memory.set a v) v
          after.devices =
              b'.devices.map (fun x => if Handler.vector x = a then reply.device else x) ∧
            after.dispatched = b'.dispatched + 1 ∧
            after.lastDispatch = some (.handled reply.outcome) ∧
            after.memory =
              if reply.outcome = .serviced then reply.memory.set a 0x0002 else reply.memory) := by
  intro b'
  have hnodup : (b'.devices.map Handler.vector).Nodup :=
    nodup_acts hconstant (by rw [hbare]; exact List.nodup_nil) xs
  refine ⟨hnodup, fun e => ?_, fun d => ⟨b'.others_attach d, rfl, rfl, rfl⟩, ?_⟩
  · have hnone : b.deviceAt? e = none := by rw [deviceAt?, hbare, List.find?_nil]
    rw [← hnone]
    exact deviceAt?_acts hconstant b xs e
  intro a v after
  refine ⟨fun hout => ?_, fun hlow hhigh hnone => ?_, fun hlow hhigh d hd hvector => ?_⟩
  · exact b'.write_of_outside (Bool.eq_false_iff.mpr (mt inInterruptWindow_iff.mp hout)) v
  · exact write_unowned (inInterruptWindow_iff.mpr ⟨hlow, hhigh⟩) hnone v
  · subst hvector
    intro reply
    obtain ⟨k, hplace, rfl⟩ := List.getElem_of_mem hd
    have hd := List.getElem?_eq_getElem hplace
    have hanswers := answering?_of_nodup hnodup hd (inInterruptWindow_iff.mpr ⟨hlow, hhigh⟩)
    obtain ⟨hmemory, hdevices, -, hdispatched, hlast⟩ := write_answered hanswers hd v
    refine ⟨hdevices.trans (set_eq_map hnodup hd _), hdispatched, hlast, hmemory.trans ?_⟩
    rw [show Handler.handle b'.devices[k] (b'.memory.set _ v) v = reply from rfl]
    cases reply.outcome <;> rfl

end Constant

/-- The devices of a machine keep their entries. -/
theorem vector_handle (d : Device) (m : Memory) (flags : Word) :
    Handler.vector (Handler.handle d m flags).device = Handler.vector d := by
  cases d with
  | block d => exact (d.service_device m flags).2
  | probe p => rfl

/-- A probe takes the place of another one at the entry 0x0150, behind a block device, and ignores
an event. -/
theorem routing_replaced :
    let bare : Bus BufferConsole Device := .ofConsole (.ofInput []) .silent
    let second : Device := .probe ⟨0x0150, 0x5000⟩
    let b := bare.acts [.attach (.probe ⟨0x0150, 0x4000⟩), .access (.write 0x0150 3),
      .attach (.block .standard), .attach second]
    let after := b.write 0x0150 4
    b.devices.find? (Handler.vector · == 0x0150) = some second ∧
      after.dispatched = b.dispatched + 1 ∧ after.lastDispatch = some (.handled .ignored) ∧
      after.memory = (b.memory.set 0x0150 4).set 0x5000 4 := by
  intro bare
  have hbare : bare.devices = [] := rfl
  clear_value bare
  intro second b after
  obtain ⟨-, hlatest, -, hwrite⟩ := routing vector_handle bare hbare
    [.attach (.probe ⟨0x0150, 0x4000⟩), .access (.write 0x0150 3), .attach (.block .standard),
      .attach second]
  have hfound : b.devices.find? (Handler.vector · == 0x0150) = some second := hlatest 0x0150
  obtain ⟨-, -, hclaimed⟩ := hwrite 0x0150 4
  obtain ⟨-, hdispatched, hlast, hmemory⟩ := hclaimed (by decide) (by decide) second
    (List.mem_of_find?_eq_some hfound) rfl
  exact ⟨hfound, hdispatched, hlast, hmemory⟩

end Bus

end LC3
