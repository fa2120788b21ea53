import LC3.Proofs.Block.Count
import LC3.Proofs.Block.Exchange
import LC3.Proofs.Memory.Stores

/-!
# The effect of a request

A descriptor may name any buffer. As long as the buffer stays clear of the header of the ring, a
request changes the header and the buffer independently of each other, and what it leaves can be
told word by word.

- `Ring.Clear`: the buffer at an address stays clear of the header.
- `get_fill`, `get_clear`: the words of a buffer after its request was filled or taken.
- `header_fill`: what a filled request leaves in the header.
- `BlockDevice.request_effect`: what a kick makes of an announced request, whatever it asks for.
-/

namespace LC3

namespace Ring

/-- The words of the buffer at `a` lie outside the header. -/
def Clear (r : Ring) (a : Word) : Prop := ∀ k < 32, ¬ r.InHeader (a + UInt16.ofNat k)

instance (r : Ring) (a : Word) : Decidable (r.Clear a) := Nat.decidableBallLT ..

variable {r : Ring} {m n : Memory} {a : Word}

/-- The words of the header lie at a distance from a buffer that stays clear of them. -/
theorem Clear.le_distance (h : r.Clear a) {x : Word} (hx : r.InHeader x) : 32 ≤ distance a x := by
  by_contra hnear
  have hout := h (distance a x) (Nat.lt_of_not_le hnear)
  rw [add_distance] at hout
  exact hout hx

/-- A buffer of the ring lies behind the header. -/
theorem clear_buffer (r : Ring) (i : Slot) : r.Clear (r.buffer i.word) := by
  intro k hk
  have hword : (UInt16.ofNat k).toNat < 32 := by
    rw [UInt16.toNat_ofNat']
    omega
  exact (buffer_add_within hword).2

/-- To mark a request as consumed does not touch the header. -/
theorem Clear.sameOn_clear (h : r.Clear a) (m : Memory) :
    m.SameOn r.InHeader (Request.clear m a) := by
  apply Memory.SameOn.set
  intro hin
  have hfar := h.le_distance hin
  rw [distance_self] at hfar
  omega

/-- A request reads the same in memories that agree behind the header. -/
theorem Clear.request_congr (h : r.Clear a) (hs : m.SameOn (fun x => ¬ r.InHeader x) n) :
    Request.load n a = Request.load m a :=
  Request.load_congr hs (by simpa using h 0 (by decide)) (h 1 (by decide)) (h 2 (by decide))

end Ring

namespace Request

/-- The payload begins three words behind the request. -/
theorem distance_payload (a : Word) {k : Nat} (h : k < 32) :
    distance (payload a) (a + UInt16.ofNat k) = (65533 + k) % 65536 := by
  have hstart : distance a (payload a) = 3 := distance_add a 3
  have hword : distance a (a + UInt16.ofNat k) = k := distance_add_ofNat a (by omega)
  rw [distance_eq a, hstart, hword]
  congr 1
  omega

theorem payload_add (a : Word) (k : Nat) :
    payload a + UInt16.ofNat k = a + UInt16.ofNat (3 + k) := by
  rw [payload, UInt16.add_assoc, UInt16.ofNat_add]
  rfl

/-- To mark a request as consumed is to clear the first word of its buffer. -/
theorem get_clear (m : Memory) (a : Word) {k : Nat} (h : k < 32) :
    (clear m a).get (a + UInt16.ofNat k) = if k = 0 then 0 else m.get (a + UInt16.ofNat k) := by
  have hiff : a + UInt16.ofNat k = a ↔ k = 0 := by
    rw [← distance_inj (a := a), distance_add_ofNat a (by omega), distance_self]
  simp only [clear, Memory.get_set, hiff]

/-- The payload does not contain the word that marks a request as consumed. -/
theorem payload_clear (m : Memory) (a : Word) {count : Nat} (h : count ≤ maxPayload) :
    (clear m a).readSlice (payload a) count = m.readSlice (payload a) count := by
  have hlen : count ≤ 29 := h
  apply Memory.SameOn.readSlice_eq (S := (· ≠ a)) (.set (fun hne => hne rfl) 0)
  intro k hk heq
  have hword : distance (payload a) (payload a + UInt16.ofNat k) = k :=
    distance_add_ofNat _ (by omega)
  have hfirst : distance (payload a) a = 65533 := by
    simpa using distance_payload a (k := 0) (by decide)
  rw [heq, hfirst] at hword
  omega

end Request

namespace BlockDevice

variable {d : BlockDevice} {m : Memory} {i : Slot} {a : Word} {q : Request} {count : Nat}

/-! ## Requests that are filled -/

/-- **The buffer of a filled request**: the first word is cleared, the payload is filled as far as
the request is served, and the rest is kept. -/
theorem get_fill (h : d.ring.Clear a) (hcount : count ≤ maxPayload) {k : Nat} (hk : k < 32) :
    (d.fill m i a q count).memory.get (a + UInt16.ofNat k) =
      if 3 ≤ k ∧ k < 3 + count then content q.position (k - 3)
      else if k = 0 then 0 else m.get (a + UInt16.ofNat k) := by
  have hlen : count ≤ 29 := hcount
  have hdist := Request.distance_payload a hk
  -- the answer goes to the header
  have hanswer := Ring.sameOn_answered d.ring ((Request.clear m a).writeSlice (Request.payload a)
    (contents q.position count)) i ⟨flagSet, i.word⟩ flagSet
  have hkept : (d.fill m i a q count).memory.get (a + UInt16.ofNat k) =
      ((Request.clear m a).writeSlice (Request.payload a) (contents q.position count)).get
        (a + UInt16.ofNat k) := hanswer _ (h k hk)
  rw [hkept]
  by_cases hpayload : 3 ≤ k ∧ k < 3 + count
  · have hplace : (65533 + k) % 65536 = k - 3 := by omega
    rw [if_pos hpayload, Memory.get_writeSlice_inside (by simp only [length_contents]; omega)
      (by rw [hdist, length_contents]; omega)]
    simp only [hdist, hplace, contents, List.getElem_map, List.getElem_range]
  · rw [if_neg hpayload, Memory.get_writeSlice_outside (by rw [hdist, length_contents]; omega)]
    exact Request.get_clear m a hk

/-- **The header after a filled request**: the descriptor is answered and in use again, and nothing
is announced that was not. -/
theorem header_fill (h : d.ring.Clear a) (hcount : count ≤ maxPayload) :
    let m' := (d.fill m i a q count).memory
    d.ring.avail m' = d.ring.avail m ∧ d.ring.used m' = ⟨flagSet, i.word⟩ ∧
      (d.ring.descriptor m' i).flags = flagSet := by
  intro m'
  have hlen : count ≤ 29 := hcount
  have hbuffer : m.SameOn d.ring.InHeader ((Request.clear m a).writeSlice (Request.payload a)
      (contents q.position count)) := by
    refine (h.sameOn_clear m).trans (.writeSlice fun x hx => ?_)
    have hfar := h.le_distance hx
    have hnear := distance_lt a x
    have hstart : distance a (Request.payload a) = 3 := distance_add a 3
    rw [length_contents, distance_eq a, hstart]
    omega
  refine ⟨?_, d.answered_fill m i a q count⟩
  show d.ring.avail (d.ring.setFlags (d.ring.setUsed _ _) i flagSet) = _
  rw [Ring.avail_setFlags, Ring.avail_setUsed]
  exact Ring.avail_congr hbuffer d.ring.inHeader_availFlags d.ring.inHeader_availIdx

/-! ## Whatever is asked for -/

/-- What the device does before it looks at a request, part by part. -/
theorem header_freed (r : Ring) (m : Memory) (i : Slot) :
    let freed := r.setFlags (r.setAvail m ⟨0, i.word⟩) i 0
    r.avail freed = ⟨0, i.word⟩ ∧ r.used freed = r.used m ∧ (r.descriptor freed i).flags = 0 := by
  intro freed
  refine ⟨?_, ?_, ?_⟩
  · rw [Ring.avail_setFlags, Ring.avail_setAvail]
  · rw [Ring.used_setFlags, Ring.used_setAvail]
  · rw [Ring.descriptor_setFlags, if_pos rfl]

section Kick

variable {flags : Word} (hodd : flags.toNat % 2 = 1)
  (hannounced : (d.ring.avail m).flags.toNat % 2 = 1) (hidx : (d.ring.avail m).idx = i.word)
  (hflags : (d.ring.descriptor m i).flags ≠ 0)
  (hclear : d.ring.Clear (d.ring.descriptor m i).addr)
include hodd hannounced hidx hflags hclear

/-- Up to the request itself, a kick takes back the announcement and frees the descriptor, and
then the request is found as it was announced. -/
theorem service_request :
    let rung := { d with stats.kicks := d.stats.kicks + 1 }
    let freed := d.ring.setFlags (d.ring.setAvail m ⟨0, i.word⟩) i 0
    let a := (d.ring.descriptor m i).addr
    let q := Request.load m a
    let count := servedLength q (d.ring.descriptor m i).len
    let served := match q.op with
      | .read => rung.fill freed i a q count
      | .write => rung.take freed a q count
      | .other code =>
        { device := { rung with stats.unsupported := rung.stats.unsupported + 1 }
          memory := freed
          events := [.unsupportedOperation code] }
    (d.service m flags).memory = served.memory ∧ (d.service m flags).device = served.device ∧
      (d.service m flags).outcome = .serviced := by
  intro rung freed a q count served
  have hdescriptor : rung.ring.descriptor (d.ring.setAvail m ⟨0, i.word⟩) i =
      d.ring.descriptor m i := Ring.descriptor_setAvail ..
  have hq : rung.requestAt (d.ring.setAvail m ⟨0, i.word⟩) i = q := by
    rw [requestAt, hdescriptor]
    exact hclear.request_congr (sameOn_freed d.ring m i _)
  have hserved := rung.serveAllocated_eq (d.ring.setAvail m ⟨0, i.word⟩) i
  simp only [hq, hdescriptor] at hserved
  obtain ⟨hmemory, hdevice, houtcome⟩ := d.service_allocated m (and_one_ne_zero.mpr hodd)
    (and_one_ne_zero.mpr hannounced) hidx hflags
  exact ⟨hmemory.trans hserved.1, hdevice.trans hserved.2, houtcome⟩

/-- **A request to read** is filled and answered. -/
theorem read_effect (hop : (Request.load m (d.ring.descriptor m i).addr).op = .read) :
    let a := (d.ring.descriptor m i).addr
    let q := Request.load m a
    let n := servedLength q (d.ring.descriptor m i).len
    let reply := d.service m flags
    d.ring.avail reply.memory = ⟨0, i.word⟩ ∧ d.ring.used reply.memory = ⟨flagSet, i.word⟩ ∧
      (d.ring.descriptor reply.memory i).flags = flagSet ∧
      reply.device.lastWrite = d.lastWrite ∧
      ∀ k < 32, reply.memory.get (a + UInt16.ofNat k) =
        if 3 ≤ k ∧ k < 3 + n then content q.position (k - 3)
        else if k = 0 then 0 else m.get (a + UInt16.ofNat k) := by
  intro a q n reply
  obtain ⟨hmemory, hdevice, -⟩ := service_request hodd hannounced hidx hflags hclear
  simp only [hop] at hmemory hdevice
  obtain ⟨havail, -, -⟩ := header_freed d.ring m i
  have hfreed := sameOn_freed d.ring m i ⟨0, i.word⟩
  have hn : n ≤ maxPayload := servedLength_le_maxPayload ..
  -- counting the kick has not moved the ring
  obtain ⟨havail', hused', hflags'⟩ :=
    header_fill (d := { d with stats.kicks := d.stats.kicks + 1 }) (i := i) (q := q)
      (m := d.ring.setFlags (d.ring.setAvail m ⟨0, i.word⟩) i 0) hclear hn
  refine ⟨?_, ?_, ?_, ?_, ?_⟩
  · rw [hmemory]
    exact havail'.trans havail
  · rw [hmemory]
    exact hused'
  · rw [hmemory]
    exact hflags'
  · rw [hdevice]
    rfl
  · intro k hk
    rw [hmemory, ← hfreed _ (hclear k hk)]
    exact get_fill hclear hn hk

/-- **A request to write** is recorded. -/
theorem write_effect (hop : (Request.load m (d.ring.descriptor m i).addr).op = .write) :
    let a := (d.ring.descriptor m i).addr
    let q := Request.load m a
    let n := servedLength q (d.ring.descriptor m i).len
    let reply := d.service m flags
    d.ring.avail reply.memory = ⟨0, i.word⟩ ∧ d.ring.used reply.memory = d.ring.used m ∧
      (d.ring.descriptor reply.memory i).flags = 0 ∧
      reply.device.lastWrite = some ⟨q.position, m.readSlice (Request.payload a) n⟩ ∧
      ∀ k < 32, reply.memory.get (a + UInt16.ofNat k) =
        if k = 0 then 0 else m.get (a + UInt16.ofNat k) := by
  intro a q n reply
  obtain ⟨hmemory, hdevice, -⟩ := service_request hodd hannounced hidx hflags hclear
  simp only [hop] at hmemory hdevice
  obtain ⟨havail, hused, hfree⟩ := header_freed d.ring m i
  have hfreed := sameOn_freed d.ring m i ⟨0, i.word⟩
  have hheader := hclear.sameOn_clear (d.ring.setFlags (d.ring.setAvail m ⟨0, i.word⟩) i 0)
  have hn : n ≤ maxPayload := servedLength_le_maxPayload ..
  refine ⟨?_, ?_, ?_, ?_, ?_⟩
  · rw [hmemory]
    have hkept := Ring.avail_congr hheader d.ring.inHeader_availFlags d.ring.inHeader_availIdx
    exact hkept.trans havail
  · rw [hmemory]
    have hkept := Ring.used_congr hheader d.ring.inHeader_usedFlags d.ring.inHeader_usedIdx
    exact hkept.trans hused
  · rw [hmemory]
    have hkept := Ring.descriptor_congr hheader (d.ring.inHeader_cell i)
    exact (congrArg Descriptor.flags hkept).trans hfree
  · have hpayload : (d.ring.setFlags (d.ring.setAvail m ⟨0, i.word⟩) i 0).readSlice
        (Request.payload a) n = m.readSlice (Request.payload a) n := by
      refine hfreed.readSlice_eq fun k hk => ?_
      have hk29 : k < 29 := Nat.lt_of_lt_of_le hk hn
      rw [Request.payload_add]
      exact hclear (3 + k) (by omega)
    rw [hdevice, ← hpayload, ← Request.payload_clear _ a hn]
    rfl
  · intro k hk
    rw [hmemory, ← hfreed _ (hclear k hk)]
    exact Request.get_clear _ a hk

/-- **Any other request** is left as it is. -/
theorem other_effect {code : Word}
    (hop : (Request.load m (d.ring.descriptor m i).addr).op = .other code) :
    let a := (d.ring.descriptor m i).addr
    let reply := d.service m flags
    d.ring.avail reply.memory = ⟨0, i.word⟩ ∧ d.ring.used reply.memory = d.ring.used m ∧
      (d.ring.descriptor reply.memory i).flags = 0 ∧ reply.device.lastWrite = d.lastWrite ∧
      ∀ k < 32, reply.memory.get (a + UInt16.ofNat k) = m.get (a + UInt16.ofNat k) := by
  intro a reply
  obtain ⟨hmemory, hdevice, -⟩ := service_request hodd hannounced hidx hflags hclear
  simp only [hop] at hmemory hdevice
  obtain ⟨havail, hused, hfree⟩ := header_freed d.ring m i
  have hfreed := sameOn_freed d.ring m i ⟨0, i.word⟩
  rw [hmemory, hdevice]
  exact ⟨havail, hused, hfree, rfl, fun k hk => hfreed _ (hclear k hk)⟩

end Kick

/-- **The effect of a request**: an odd word is stored at the entry of a device, and the descriptor
that is announced then is in use and has a buffer clear of the header. The announcement is taken
back. A request to read is filled as far as it is served, answered, and its descriptor is in use;
a request to write is recorded as far as it is served; any other request is left as it is. Unless
there is an answer the descriptor is free. -/
theorem request_effect (d : BlockDevice) (m : Memory) {flags : Word}
    (hodd : flags.toNat % 2 = 1) (hannounced : (d.ring.avail m).flags.toNat % 2 = 1) {i : Slot}
    (hidx : (d.ring.avail m).idx = i.word) (hflags : (d.ring.descriptor m i).flags ≠ 0)
    (hclear : ∀ k < 32, ¬ d.ring.InHeader ((d.ring.descriptor m i).addr + UInt16.ofNat k)) :
    let a := (d.ring.descriptor m i).addr
    let q := Request.load m a
    let n := min (min q.length.toNat 29) ((d.ring.descriptor m i).len.toNat - 3)
    let reply := d.service m flags
    let m' := reply.memory
    reply.outcome = .serviced ∧ d.ring.avail m' = ⟨0, i.word⟩ ∧
      (m.get a = 1 →
        (∀ k < n,
          m'.get (a + UInt16.ofNat (3 + k)) = UInt16.ofInt (0x30 + q.position.toInt + k)) ∧
        m'.get a = 0 ∧
        (∀ k < 32, k ≠ 0 → k < 3 ∨ 3 + n ≤ k →
          m'.get (a + UInt16.ofNat k) = m.get (a + UInt16.ofNat k)) ∧
        d.ring.used m' = ⟨1, i.word⟩ ∧ (d.ring.descriptor m' i).flags = 1 ∧
        reply.device.lastWrite = d.lastWrite) ∧
      (m.get a = 2 →
        reply.device.lastWrite = some ⟨q.position, m.readSlice (a + 3) n⟩ ∧
        m'.get a = 0 ∧
        (∀ k < 32, k ≠ 0 → m'.get (a + UInt16.ofNat k) = m.get (a + UInt16.ofNat k)) ∧
        d.ring.used m' = d.ring.used m ∧ (d.ring.descriptor m' i).flags = 0) ∧
      (m.get a ≠ 1 → m.get a ≠ 2 →
        (∀ k < 32, m'.get (a + UInt16.ofNat k) = m.get (a + UInt16.ofNat k)) ∧
        d.ring.used m' = d.ring.used m ∧ reply.device.lastWrite = d.lastWrite ∧
        (d.ring.descriptor m' i).flags = 0) := by
  intro a q n reply m'
  have hread (hone : m.get a = 1) : q.op = .read := by
    rw [show q.op = .ofWord (m.get a) from rfl, hone]
    rfl
  have hwrite (htwo : m.get a = 2) : q.op = .write := by
    rw [show q.op = .ofWord (m.get a) from rfl, htwo]
    rfl
  have hother (hone : m.get a ≠ 1) (htwo : m.get a ≠ 2) : q.op = .other (m.get a) := by
    rw [show q.op = .ofWord (m.get a) from rfl, Operation.ofWord, if_neg hone, if_neg htwo]
  have hfirst : a = a + UInt16.ofNat 0 := (UInt16.add_zero a).symm
  refine ⟨(d.service_kick m hodd).1, ?_, ?_, ?_, ?_⟩
  · -- whatever is asked for, the announcement is gone
    by_cases hone : m.get a = 1
    · exact (read_effect hodd hannounced hidx hflags hclear (hread hone)).1
    by_cases htwo : m.get a = 2
    · exact (write_effect hodd hannounced hidx hflags hclear (hwrite htwo)).1
    · exact (other_effect hodd hannounced hidx hflags hclear (hother hone htwo)).1
  · intro hone
    obtain ⟨-, hused, hset, hlast, hbuffer⟩ :=
      read_effect hodd hannounced hidx hflags hclear (hread hone)
    have hn : n ≤ 29 := Nat.le_trans (Nat.min_le_left ..) (Nat.min_le_right ..)
    rw [show servedLength (Request.load m (d.ring.descriptor m i).addr)
      (d.ring.descriptor m i).len = n from rfl] at hbuffer
    refine ⟨?_, ?_, ?_, hused, hset, hlast⟩
    · intro k hk
      rw [hbuffer (3 + k) (by omega), if_pos ⟨Nat.le_add_right .., Nat.add_lt_add_left hk 3⟩,
        Nat.add_sub_cancel_left, content_eq_ofInt]
    · rw [hfirst, hbuffer 0 (by decide), if_neg (by omega), if_pos rfl]
    · intro k hk hne hrest
      rw [hbuffer k hk, if_neg (by omega), if_neg hne]
  · intro htwo
    obtain ⟨-, hused, hfree, hlast, hbuffer⟩ :=
      write_effect hodd hannounced hidx hflags hclear (hwrite htwo)
    refine ⟨hlast, ?_, ?_, hused, hfree⟩
    · rw [hfirst, hbuffer 0 (by decide), if_pos rfl]
    · intro k hk hne
      rw [hbuffer k hk, if_neg hne]
  · intro hone htwo
    obtain ⟨-, hused, hfree, hlast, hbuffer⟩ :=
      other_effect hodd hannounced hidx hflags hclear (hother hone htwo)
    exact ⟨hbuffer, hused, hlast, hfree⟩

/-- A request to read 200 words from position -5, in a buffer of ten words that wraps at the
ceiling: seven words are served. -/
theorem request_effect_wrapping :
    ∃ m : Memory, standard.ring.avail m = ⟨1, 3⟩ ∧
      standard.ring.descriptor m 3 = ⟨0xFFFA, 10, 7, 0⟩ ∧
      Request.load m 0xFFFA = ⟨.read, -5, 200⟩ ∧
      let reply := standard.service m 5
      reply.outcome = .serviced ∧ standard.ring.used reply.memory = ⟨1, 3⟩ ∧
        reply.memory.get 0x0003 = 0x31 ∧ reply.memory.get 0x0004 = m.get 0x0004 ∧
        reply.memory.get 0xFFFA = 0 := by
  obtain ⟨m, hm⟩ : ∃ m, m = Memory.zero.stores [(0x8028, 1), (0x8029, 3), (0x800C, 0xFFFA),
    (0x800D, 10), (0x800E, 7), (0xFFFA, 1), (0xFFFB, 0xFFFB), (0xFFFC, 200)] := ⟨_, rfl⟩
  have hannounced : standard.ring.avail m = ⟨1, 3⟩ := by
    simp only [Ring.avail, hm, Memory.get_stores, Memory.get_zero]
    decide
  have hdescriptor : standard.ring.descriptor m 3 = ⟨0xFFFA, 10, 7, 0⟩ := by
    simp only [Ring.descriptor, hm, Memory.get_stores, Memory.get_zero]
    decide
  have hrequest : Request.load m 0xFFFA = ⟨.read, -5, 200⟩ := by
    simp only [Request.load, hm, Memory.get_stores, Memory.get_zero]
    decide
  have hop : m.get 0xFFFA = 1 := by
    simp only [hm, Memory.get_stores, Memory.get_zero]
    decide
  have hbuffer : ∀ k < 32, ¬ standard.ring.InHeader (0xFFFA + UInt16.ofNat k) := by
    decide +kernel
  have h := request_effect standard m (i := 3) (by decide : (5 : Word).toNat % 2 = 1)
    (by rw [hannounced]; decide) (by rw [hannounced]; decide) (by rw [hdescriptor]; decide)
    (by rw [hdescriptor]; exact hbuffer)
  simp only [hdescriptor, hrequest] at h
  obtain ⟨houtcome, -, hread, -⟩ := h
  obtain ⟨hpayload, hcleared, hkept, hused, -⟩ := hread hop
  have hlast := hpayload 6 (by decide)
  have hbehind := hkept 10 (by decide) (by decide) (by decide)
  rw [show (0xFFFA + UInt16.ofNat (3 + 6) : Word) = 0x0003 by decide] at hlast
  rw [show (0xFFFA + UInt16.ofNat 10 : Word) = 0x0004 by decide] at hbehind
  refine ⟨m, hannounced, hdescriptor, hrequest, houtcome, hused, ?_, hbehind, hcleared⟩
  rw [hlast]
  decide

end BlockDevice

end LC3
