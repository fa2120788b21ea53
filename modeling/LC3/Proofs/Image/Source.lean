import LC3.Image

/-!
# Images out of bytes

A source may deliver its bytes in portions of any sizes, and it may break at some place. As long
as it does not break, nothing of this can be told from the words that are read.

- `ByteSource.SoundTo`, `ByteSource.Ahead`: a source that does not break before a place, and the
  bytes that it delivers next.
- `ByteSource.StopsAt`: a source that ends at a place, or breaks there.
- `ByteSource.nextWord_of_ahead`, `ByteSource.nextWord_of_stop`: the next word is made of the next
  two bytes, and with fewer bytes there is none.
- `Image.readWords_of_ahead`, `Image.read_of_ahead`: so the words of an image are read in order.
-/

namespace LC3

theorem Memory.length_bigEndian (words : List Word) :
    (bigEndian words).length = 2 * words.length := by
  induction words with
  | nil => rfl
  | cons w rest ih =>
    show (bigEndian rest).length + 1 + 1 = _
    rw [ih, List.length_cons]
    omega

namespace ByteSource

/-- The source does not break as long as fewer than `n` bytes were delivered. -/
def SoundTo (s : ByteSource) (n : Nat) : Prop :=
  ∀ place cause, s.breaks = some (place, cause) → n ≤ place

/-- The bytes that the source delivers next, whatever comes behind them. -/
def Ahead (s : ByteSource) (bytes : List UInt8) : Prop :=
  ∀ i (h : i < bytes.length), s.byteAt (s.position + i) = some bytes[i]

/-- The source after `n` more bytes. -/
def skip (s : ByteSource) (n : Nat) : ByteSource := { s with position := s.position + n }

variable {s : ByteSource}

theorem skip_skip (m n : Nat) : (s.skip m).skip n = s.skip (m + n) := by
  simp only [skip, Nat.add_assoc]

theorem SoundTo.mono {m n : Nat} (h : s.SoundTo n) (hle : m ≤ n) : s.SoundTo m :=
  fun place cause hbreaks => Nat.le_trans hle (h place cause hbreaks)

/-- Before it breaks, a source answers every call. -/
theorem deliver_of_sound (h : s.SoundTo (s.position + 1)) (count : Nat) :
    s.deliver count =
      let bytes := slice s.byteAt s.position (s.allowance count)
      (.ok bytes, s.skip bytes.length) := by
  rw [deliver]
  split
  · next place cause hbreaks =>
    have hplace := h place cause hbreaks
    rw [if_neg (by omega)]
    rfl
  · rfl

/-- A call is not allowed more than it asks for, and something as long as it asks for any. -/
theorem allowance_bounds (h : s.SoundTo (s.position + 1)) {count : Nat} (hcount : 1 ≤ count) :
    1 ≤ s.allowance count ∧ s.allowance count ≤ count := by
  rw [allowance]
  split
  · omega
  · next place cause hbreaks =>
    have hplace := h place cause hbreaks
    omega

/-- The source goes no further than `place`: it ends there, or it breaks there. -/
def StopsAt (s : ByteSource) (place : Nat) : Except IoError Unit → Prop
  | .ok () => s.byteAt place = none ∧ s.SoundTo (place + 1)
  | .error cause => s.breaks = some (place, cause)

theorem StopsAt.soundTo {place : Nat} {outcome : Except IoError Unit}
    (h : s.StopsAt place outcome) : s.SoundTo place := by
  cases outcome with
  | ok done => exact h.2.mono (Nat.le_succ place)
  | error cause =>
    intro place' cause' hbreaks
    cases h.symm.trans hbreaks
    exact Nat.le_refl place

theorem deliver_of_stop {outcome : Except IoError Unit} (h : s.StopsAt s.position outcome)
    (count : Nat) : s.deliver count = (outcome.map fun _ => [], s) := by
  cases outcome with
  | ok done =>
    have hslice : slice s.byteAt s.position (s.allowance count) = [] := by
      cases s.allowance count with
      | zero => rfl
      | succ n => rw [slice, h.1]
    rw [deliver_of_sound h.2]
    simp only [hslice]
    rfl
  | error cause =>
    have hbreaks : s.breaks = some (s.position, cause) := h
    simp only [deliver, hbreaks, Nat.le_refl, if_true]
    rfl

theorem deliver_one (h : s.SoundTo (s.position + 1)) {byte : UInt8}
    (hbyte : s.byteAt s.position = some byte) : s.deliver 1 = (.ok [byte], s.skip 1) := by
  have hone : s.allowance 1 = 1 := by
    have := allowance_bounds h (Nat.le_refl 1)
    omega
  have hslice : slice s.byteAt s.position (s.allowance 1) = [byte] := by
    rw [hone, slice, hbyte]
    rfl
  rw [deliver_of_sound h]
  simp only [hslice]
  rfl

/-- **A word** is made of the next two bytes, whether they come with one call or with two. -/
theorem nextWord_of_ahead {high low : UInt8} (h : s.SoundTo (s.position + 2))
    (hahead : s.Ahead [high, low]) :
    s.nextWord = (.ok (some (LC3.ofBytes high low)), s.skip 2) := by
  have hhigh : s.byteAt s.position = some high := hahead 0 (by simp)
  have hlow : s.byteAt (s.position + 1) = some low := hahead 1 (by simp)
  have hsound : s.SoundTo (s.position + 1) := h.mono (Nat.le_succ _)
  have hbounds : 1 ≤ s.allowance 2 ∧ s.allowance 2 ≤ 2 := allowance_bounds hsound (by decide)
  have hcall := deliver_of_sound hsound 2
  obtain hone | htwo : s.allowance 2 = 1 ∨ s.allowance 2 = 2 := by omega
  · have hslice : slice s.byteAt s.position (s.allowance 2) = [high] := by
      rw [hone, slice, hhigh]
      rfl
    simp only [hslice] at hcall
    have hrest : (s.skip 1).deliver 1 = (.ok [low], (s.skip 1).skip 1) :=
      deliver_one (s := s.skip 1) h hlow
    simp only [nextWord, hcall, List.length_singleton, hrest]
    rfl
  · have hslice : slice s.byteAt s.position (s.allowance 2) = [high, low] := by
      rw [htwo, slice, hhigh]
      simp only [slice, hlow]
    simp only [hslice] at hcall
    simp only [nextWord, hcall]
    rfl

/-- **The end of the words**: with fewer than two bytes left there is no further word. A byte that
is left is taken anyway. -/
theorem nextWord_of_stop {tail : List UInt8} {outcome : Except IoError Unit}
    (hahead : s.Ahead tail) (hshort : tail.length < 2)
    (hstop : s.StopsAt (s.position + tail.length) outcome) :
    s.nextWord = (outcome.map fun _ => none, s.skip tail.length) := by
  match tail, hshort with
  | [], _ =>
    rw [nextWord, deliver_of_stop hstop]
    cases outcome <;> rfl
  | [byte], _ =>
    have hbyte : s.byteAt s.position = some byte := hahead 0 (by simp)
    have hsound : s.SoundTo (s.position + 1) := hstop.soundTo
    have hbounds : 1 ≤ s.allowance 2 ∧ s.allowance 2 ≤ 2 := allowance_bounds hsound (by decide)
    -- a source that ends has no second byte, and one that breaks does not deliver it
    have hslice : slice s.byteAt s.position (s.allowance 2) = [byte] := by
      obtain hone | htwo : s.allowance 2 = 1 ∨ s.allowance 2 = 2 := by omega
      · rw [hone, slice, hbyte]
        rfl
      · cases outcome with
        | ok done =>
          have hend : s.byteAt (s.position + 1) = none := hstop.1
          rw [htwo, slice, hbyte]
          simp only [slice, hend]
        | error cause =>
          have hbreaks : s.breaks = some (s.position + 1, cause) := hstop
          simp only [allowance, hbreaks] at htwo
          omega
    have hcall := deliver_of_sound hsound 2
    simp only [hslice] at hcall
    have hrest : (s.skip 1).deliver 1 = (outcome.map fun _ => [], s.skip 1) :=
      deliver_of_stop (s := s.skip 1) hstop 1
    simp only [nextWord, hcall, List.length_singleton, hrest]
    cases outcome <;> rfl

/-- What lies behind the first bytes. -/
theorem Ahead.skip {front back : List UInt8} (h : s.Ahead (front ++ back)) :
    s.Ahead front ∧ (s.skip front.length).Ahead back := by
  constructor
  · intro i hi
    rw [h i (by rw [List.length_append]; omega), List.getElem_append_left hi]
  · intro i hi
    show s.byteAt (s.position + front.length + i) = _
    rw [Nat.add_assoc, h (front.length + i) (by rw [List.length_append]; omega)]
    simp

end ByteSource

namespace Image

open ByteSource

variable {s : ByteSource}

/-- **Words**: as many words as the source holds at least are read in order. -/
theorem readWords_of_ahead {words : List Word} (taken : Array Word) (limit : Nat)
    (h : s.SoundTo (s.position + 2 * words.length)) (hahead : s.Ahead (Memory.bigEndian words)) :
    readWords s taken (words.length + limit) =
      readWords (s.skip (2 * words.length)) (taken ++ words.toArray) limit := by
  induction words generalizing s taken with
  | nil => simp [ByteSource.skip]
  | cons w rest ih =>
    rw [List.length_cons] at h
    have hsplit : Memory.bigEndian (w :: rest) = [highByte w, lowByte w] ++ Memory.bigEndian rest :=
      rfl
    rw [hsplit] at hahead
    obtain ⟨hword, hrest⟩ := hahead.skip
    have hnext := nextWord_of_ahead (h.mono (by omega)) hword
    rw [ofBytes_highByte_lowByte] at hnext
    have hlimit : (w :: rest).length + limit = rest.length + limit + 1 := by
      rw [List.length_cons]
      omega
    have hskip : (s.skip 2).skip (2 * rest.length) = s.skip (2 * (w :: rest).length) := by
      rw [skip_skip, List.length_cons]
      congr 1
      omega
    have htaken : taken.push w ++ rest.toArray = taken ++ (w :: rest).toArray := by simp
    rw [hlimit, readWords, hnext]
    show readWords (s.skip 2) (taken.push w) (rest.length + limit) = _
    rw [ih (s := s.skip 2) _ (h.mono (by simp only [ByteSource.skip]; omega)) hrest, hskip, htaken]

/-- **Images**: an origin, then words up to the ceiling at most, then what is found behind them.
That is a further word only if the words before it fill the memory. -/
theorem read_of_ahead {s' : ByteSource} {origin : Word} {words : List Word}
    {next : Except IoError (Option Word)}
    (h : s.SoundTo (s.position + 2 * (words.length + 1)))
    (hahead : s.Ahead (Memory.bigEndian (origin :: words)))
    (hroom : words.length ≤ Memory.room origin)
    (hnext : (s.skip (2 * (words.length + 1))).nextWord = (next, s'))
    (hfull : ∀ w, next = .ok (some w) → words.length = Memory.room origin) :
    read s = ((next.mapError .unread).map fun w => ⟨origin, words, w.isSome⟩, s') := by
  have hsplit : Memory.bigEndian (origin :: words) =
      [highByte origin, lowByte origin] ++ Memory.bigEndian words := rfl
  rw [hsplit] at hahead
  obtain ⟨horigin, hwords⟩ := hahead.skip
  have hfirst := nextWord_of_ahead (h.mono (by omega)) horigin
  rw [ofBytes_highByte_lowByte] at hfirst
  obtain ⟨limit, hlimit⟩ := Nat.exists_eq_add_of_le hroom
  have hbehind : (s.skip 2).skip (2 * words.length) = s.skip (2 * (words.length + 1)) := by
    rw [skip_skip]
    congr 1
    omega
  have hread := readWords_of_ahead (s := s.skip 2) #[] limit
    (h.mono (by simp only [ByteSource.skip]; omega)) hwords
  rw [hbehind, ← hlimit, Array.empty_append] at hread
  have hsize : words.toArray.size = words.length := rfl
  simp only [read, hfirst, hread]
  -- either the words fill the memory, and one more is looked for, or something stops them before
  cases limit with
  | zero =>
    have hlast : (words.length == Memory.room origin) = true := by simp [hlimit]
    simp only [readWords, hsize, hlast, readsOn, if_true, hnext]
    cases next <;> rfl
  | succ limit =>
    have hlast : (words.length == Memory.room origin) = false := by simp [hlimit]
    simp only [readWords, hnext]
    match next, hfull with
    | .error cause, _ => rfl
    | .ok none, _ => simp only [hsize, hlast, readsOn]; rfl
    | .ok (some w), hfull =>
      have := hfull w rfl
      omega

end Image

end LC3
