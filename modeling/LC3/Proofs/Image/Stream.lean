import Mathlib.Data.ENat.Lattice
import LC3.Proofs.Image.Source

/-!
# Images out of streams

How much of a stream belongs to an image is known once its first word is: the words up to the
ceiling, and one more to find out whether it goes on. What comes behind is never asked for, so it
makes no difference whether the stream ends there, goes on forever or breaks.

- `Image.wordsOf`, `Image.parse`: the words and the image in a byte string, without a source.
- `Image.needed`: how many bytes it takes to know an image.
- `Image.read_of_stop`, `Image.read_of_plenty`: what is read from a source that stops before so
  many bytes, and from one that does not.
- `ByteStream`, `ByteStream.source`: bytes with or without an end, and a source that delivers them.
-/

namespace LC3

namespace Image

open ByteSource

/-! ## Images in byte strings -/

/-- The words in a byte string. An odd byte at the end belongs to no word. -/
def wordsOf : List UInt8 → List Word
  | high :: low :: rest => ofBytes high low :: wordsOf rest
  | _ => []

/-- The image in a byte string. -/
def parse (bytes : List UInt8) : Except LoadError Image :=
  match wordsOf bytes with
  | [] => .error .missingOrigin
  | origin :: words =>
    .ok ⟨origin, words.take (Memory.room origin), decide (Memory.room origin < words.length)⟩

/-- How many bytes it takes to know the image that begins with `bytes`: an origin, the words up to
the ceiling and one more word. -/
def needed : List UInt8 → Nat
  | high :: low :: _ => 4 + 2 * Memory.room (ofBytes high low)
  | _ => 2

theorem two_le_needed : ∀ bytes : List UInt8, 2 ≤ needed bytes
  | [] | [_] => Nat.le_refl 2
  | high :: low :: _ => by
    rw [needed]
    omega

theorem needed_take {bytes : List UInt8} {n : Nat} (h : 2 ≤ n) :
    needed (bytes.take n) = needed bytes := by
  obtain ⟨k, rfl⟩ := Nat.exists_eq_add_of_le' h
  match bytes with
  | [] | [_] | _ :: _ :: _ => simp [needed]

theorem length_wordsOf : ∀ bytes : List UInt8, (wordsOf bytes).length = bytes.length / 2
  | [] => rfl
  | [_] => by simp [wordsOf]
  | high :: low :: rest => by
    have ih := length_wordsOf rest
    simp only [wordsOf, List.length_cons, ih]
    omega

/-- A byte string is made of its words and at most one more byte. -/
theorem exists_tail : ∀ bytes : List UInt8,
    ∃ tail : List UInt8, tail.length < 2 ∧ bytes = Memory.bigEndian (wordsOf bytes) ++ tail
  | [] => ⟨[], by simp, rfl⟩
  | [byte] => ⟨[byte], by simp, rfl⟩
  | high :: low :: rest => by
    obtain ⟨tail, htail, hrest⟩ := exists_tail rest
    refine ⟨tail, htail, ?_⟩
    show high :: low :: rest =
      highByte (ofBytes high low) :: lowByte (ofBytes high low) ::
        (Memory.bigEndian (wordsOf rest) ++ tail)
    rw [highByte_ofBytes, lowByte_ofBytes, ← hrest]

theorem wordsOf_bigEndian (words : List Word) : wordsOf (Memory.bigEndian words) = words := by
  induction words with
  | nil => rfl
  | cons w rest ih =>
    show ofBytes (highByte w) (lowByte w) :: wordsOf (Memory.bigEndian rest) = w :: rest
    rw [ofBytes_highByte_lowByte, ih]

theorem wordsOf_take : ∀ (bytes : List UInt8) (n : Nat),
    wordsOf (bytes.take (2 * n)) = (wordsOf bytes).take n
  | _, 0 => by simp [wordsOf]
  | [], n + 1 => by simp [wordsOf]
  | [byte], n + 1 => by simp [wordsOf, Nat.mul_add]
  | high :: low :: rest, n + 1 => by
    have ih := wordsOf_take rest n
    have htwice : 2 * (n + 1) = 2 * n + 1 + 1 := by omega
    rw [htwice, List.take_succ_cons, List.take_succ_cons, wordsOf, ih, wordsOf,
      List.take_succ_cons]

theorem getElem?_wordsOf : ∀ (bytes : List UInt8) {i : Nat} (h : 2 * i + 1 < bytes.length),
    (wordsOf bytes)[i]? = some (ofBytes bytes[2 * i] bytes[2 * i + 1])
  | high :: low :: rest, 0, _ => rfl
  | high :: low :: rest, i + 1, h => by
    have hrest : 2 * i + 1 < rest.length := by
      simp only [List.length_cons] at h
      omega
    have ih := getElem?_wordsOf rest hrest
    rw [wordsOf, List.getElem?_cons_succ, ih]
    simp [Nat.mul_add]

/-- Behind an origin stand the words of the image. -/
theorem parse_cons (high low : UInt8) (rest : List UInt8) :
    parse (high :: low :: rest) =
      .ok ⟨ofBytes high low, (wordsOf rest).take (Memory.room (ofBytes high low)),
        decide (Memory.room (ofBytes high low) < rest.length / 2)⟩ := by
  rw [← length_wordsOf]
  rfl

/-- Behind the bytes that it takes to know an image, more bytes change nothing. -/
theorem parse_take (bytes : List UInt8) : parse (bytes.take (needed bytes)) = parse bytes := by
  match bytes with
  | [] | [_] => rfl
  | high :: low :: rest =>
    have hneeded : needed (high :: low :: rest) =
        2 * (Memory.room (ofBytes high low) + 1) + 1 + 1 := by
      rw [needed]
      omega
    rw [hneeded, List.take_succ_cons, List.take_succ_cons, parse, wordsOf, wordsOf_take, parse,
      wordsOf]
    simp only [List.take_take, List.length_take]
    congr 2
    · congr 1
      omega
    · rw [decide_eq_decide]
      omega

/-! ## Images in sources -/

variable {s : ByteSource}

/-- **Sources that stop early**: an image is read from a source that ends, and none from a source
that breaks. All that there is gets taken. -/
theorem read_of_stop {bytes : List UInt8} {outcome : Except IoError Unit} (hahead : s.Ahead bytes)
    (hstop : s.StopsAt (s.position + bytes.length) outcome) (hshort : bytes.length < needed bytes) :
    read s = ((outcome.mapError .unread).bind fun _ => parse bytes, s.skip bytes.length) := by
  obtain ⟨tail, htail, hbytes⟩ := exists_tail bytes
  cases hwords : wordsOf bytes with
  | nil =>
    -- not even the origin is there
    rw [hwords] at hbytes
    obtain rfl : bytes = tail := hbytes
    rw [read, nextWord_of_stop hahead htail hstop, parse, hwords]
    cases outcome <;> rfl
  | cons origin words =>
    rw [hwords] at hbytes
    have hlength : 2 * (words.length + 1) + tail.length = bytes.length := by
      rw [hbytes, List.length_append, Memory.length_bigEndian, List.length_cons]
    have hroom : words.length ≤ Memory.room origin := by
      obtain _ | ⟨high, _ | ⟨low, rest⟩⟩ := bytes
      · cases hwords
      · cases hwords
      · cases hwords
        rw [needed, List.length_cons, List.length_cons] at hshort
        rw [List.length_cons, List.length_cons] at hlength
        omega
    rw [hbytes] at hahead
    obtain ⟨hfront, hback⟩ := hahead.skip
    rw [Memory.length_bigEndian, List.length_cons] at hback
    have hposition : s.position + 2 * (words.length + 1) + tail.length =
        s.position + bytes.length := by omega
    have hbehind := nextWord_of_stop (s := s.skip (2 * (words.length + 1))) hback htail (by
      show s.StopsAt (s.position + 2 * (words.length + 1) + tail.length) outcome
      rwa [hposition])
    rw [skip_skip, hlength] at hbehind
    rw [read_of_ahead (hstop.soundTo.mono (by omega)) hfront hroom hbehind, parse, hwords]
    · have hnone : ¬ Memory.room origin < words.length := by omega
      cases outcome with
      | ok done =>
        simp only [List.take_of_length_le hroom, decide_eq_false hnone]
        rfl
      | error cause => rfl
    · intro w hw
      cases outcome <;> cases hw

/-- **Sources that go on**: when the bytes are there that it takes to know an image, no more than
these are taken, whatever would come behind them. -/
theorem read_of_plenty {bytes : List UInt8} (hahead : s.Ahead bytes)
    (hsound : s.SoundTo (s.position + bytes.length)) (hlength : bytes.length = needed bytes) :
    read s = (parse bytes, s.skip bytes.length) := by
  match bytes, hlength with
  | high :: low :: rest, hlength =>
    generalize horigin : ofBytes high low = origin
    have hrest : rest.length = 2 * (Memory.room origin + 1) := by
      rw [needed, List.length_cons, List.length_cons, horigin] at hlength
      omega
    have hwords : (wordsOf rest).length = Memory.room origin + 1 := by
      rw [length_wordsOf]
      omega
    -- the last word is the one above the ceiling
    obtain ⟨words, last, hsplit⟩ : ∃ words last, wordsOf rest = words ++ [last] :=
      ⟨_, _, (List.dropLast_concat_getLast (List.ne_nil_of_length_eq_add_one hwords)).symm⟩
    have hroom : words.length = Memory.room origin := by
      rw [hsplit, List.length_append, List.length_singleton] at hwords
      omega
    obtain ⟨tail, -, hbytes⟩ := exists_tail (high :: low :: rest)
    have hall : high :: low :: rest =
        Memory.bigEndian (origin :: words) ++ ([highByte last, lowByte last] ++ tail) := by
      rw [hbytes, wordsOf, horigin, hsplit]
      simp [Memory.bigEndian]
    rw [hall] at hahead
    obtain ⟨hfront, hback⟩ := hahead.skip
    rw [Memory.length_bigEndian, List.length_cons] at hback
    have htaken : 2 * (words.length + 1) + 2 = (high :: low :: rest).length := by
      rw [List.length_cons, List.length_cons]
      omega
    have hlast := nextWord_of_ahead (s := s.skip (2 * (words.length + 1)))
      (hsound.mono (by rw [← htaken, ← Nat.add_assoc]; exact Nat.le_refl _)) hback.skip.1
    rw [skip_skip, htaken] at hlast
    rw [read_of_ahead (hsound.mono (by omega)) hfront (Nat.le_of_eq hroom) hlast
      (fun _ _ => hroom), parse, wordsOf, horigin, hsplit]
    simp [hroom, Except.map, Except.mapError]

end Image

/-! ## Streams -/

/-- Bytes that are delivered one after the other: so many, or without an end. -/
inductive ByteStream where
  | finite (bytes : List UInt8)
  | endless (byteAt : Nat → UInt8)

namespace ByteStream

/-- The byte at each place. -/
def byteAt : ByteStream → Nat → Option UInt8
  | finite bytes, i => bytes[i]?
  | endless f, i => some (f i)

/-- The number of bytes. -/
def length : ByteStream → ℕ∞
  | finite bytes => bytes.length
  | endless _ => ⊤

/-- The first `n` bytes, or all when there are not so many. -/
def take : ByteStream → Nat → List UInt8
  | finite bytes, n => bytes.take n
  | endless f, n => (List.range n).map f

/-- A source that delivers the bytes in portions of any sizes and breaks where it is said to. -/
def source (b : ByteStream) (portion : Nat → Nat) (breaks : Option (Nat × IoError)) :
    ByteSource :=
  ⟨b.byteAt, portion, breaks, 0⟩

/-- How many bytes it takes to know the image that the stream begins with. -/
def needed (b : ByteStream) : Nat := Image.needed (b.take 2)

theorem length_take (b : ByteStream) (n : Nat) : ((b.take n).length : ℕ∞) = min b.length n := by
  cases b with
  | finite bytes =>
    rw [take, List.length_take, Nat.min_comm]
    exact Nat.mono_cast.map_min
  | endless f => simp [take, length]

theorem length_take_le (b : ByteStream) (n : Nat) : (b.take n).length ≤ n := by
  have hle : ((b.take n).length : ℕ∞) ≤ n := by
    rw [length_take]
    exact min_le_right _ _
  exact_mod_cast hle

theorem take_take (b : ByteStream) {k n : Nat} (h : k ≤ n) : (b.take n).take k = b.take k := by
  cases b with
  | finite bytes => simp [take, List.take_take, Nat.min_eq_left h]
  | endless f => simp [take, ← List.map_take, List.take_range, Nat.min_eq_left h]

theorem getElem?_take (b : ByteStream) {i n : Nat} (h : i < n) : (b.take n)[i]? = b.byteAt i := by
  cases b with
  | finite bytes => simp [take, byteAt, h]
  | endless f => simp [take, byteAt, h]

theorem needed_take (b : ByteStream) {n : Nat} (h : 2 ≤ n) :
    Image.needed (b.take n) = b.needed := by
  rw [needed, ← b.take_take h, Image.needed_take (Nat.le_refl 2)]

/-- The bytes that it takes to know an image tell how many these are. -/
theorem needed_take_needed (b : ByteStream) : Image.needed (b.take b.needed) = b.needed :=
  b.needed_take (Image.two_le_needed _)

theorem length_take_of_le {b : ByteStream} {n : Nat} (h : (n : ℕ∞) ≤ b.length) :
    (b.take n).length = n := by
  have hlength := b.length_take n
  rw [min_eq_right h] at hlength
  exact_mod_cast hlength

variable (b : ByteStream) (portion : Nat → Nat) (breaks : Option (Nat × IoError))

theorem ahead_take (n : Nat) : (b.source portion breaks).Ahead (b.take n) := by
  intro i hi
  have hn : i < n := Nat.lt_of_lt_of_le hi (b.length_take_le n)
  show b.byteAt (0 + i) = _
  rw [Nat.zero_add, ← b.getElem?_take hn]
  exact List.getElem?_eq_getElem hi

/-- A stream with fewer than `n` bytes ends behind them. -/
theorem stopsAt_of_short {n : Nat} (h : (b.take n).length < n) :
    (b.source portion none).StopsAt (b.take n).length (.ok ()) := by
  constructor
  · show b.byteAt _ = none
    rw [← b.getElem?_take h]
    exact List.getElem?_eq_none (Nat.le_refl _)
  · rintro place cause ⟨⟩

/-- **Streams**: an image is read from the bytes that it takes, or from all bytes if there are
not so many, and these bytes are taken. -/
theorem read_source :
    Image.read (b.source portion none) =
      (Image.parse (b.take b.needed), (b.source portion none).skip (b.take b.needed).length) := by
  have hahead := b.ahead_take portion none b.needed
  have hneeded := b.needed_take_needed
  by_cases hshort : (b.take b.needed).length < b.needed
  · have hstop := b.stopsAt_of_short portion hshort
    rw [← Nat.zero_add (b.take b.needed).length] at hstop
    exact Image.read_of_stop hahead hstop (by rwa [hneeded])
  · have hle := b.length_take_le b.needed
    refine Image.read_of_plenty hahead ?_ (by omega)
    rintro place cause ⟨⟩

/-- A stream that breaks before the bytes are there holds no image. -/
theorem read_source_of_break {place : Nat} {cause : IoError} (hplace : (place : ℕ∞) ≤ b.length)
    (hearly : place < b.needed) :
    (Image.read (b.source portion (some (place, cause)))).1 = .error (.unread cause) := by
  have hlength := length_take_of_le hplace
  have hshort : (b.take place).length < Image.needed (b.take place) := by
    rw [hlength]
    by_cases htwo : 2 ≤ place
    · rwa [b.needed_take htwo]
    · have := Image.two_le_needed (b.take place)
      omega
  have hstop : (b.source portion (some (place, cause))).StopsAt (0 + (b.take place).length)
      (.error cause) := by
    show some (place, cause) = some (0 + (b.take place).length, cause)
    rw [hlength, Nat.zero_add]
  rw [Image.read_of_stop (b.ahead_take portion _ place) hstop hshort]
  rfl

/-- A stream that breaks behind the bytes is read as if it did not. -/
theorem read_source_of_late {place : Nat} (cause : IoError) (hplace : (place : ℕ∞) ≤ b.length)
    (hlate : b.needed ≤ place) :
    Image.read (b.source portion (some (place, cause))) =
      (Image.parse (b.take b.needed),
        (b.source portion (some (place, cause))).skip (b.take b.needed).length) := by
  have hneeded := b.needed_take_needed
  have hlength : (b.take b.needed).length = b.needed :=
    length_take_of_le (le_trans (by exact_mod_cast hlate) hplace)
  refine Image.read_of_plenty (b.ahead_take portion _ _) ?_ (by omega)
  rintro place' cause' ⟨⟩
  show 0 + _ ≤ place
  omega

/-! ### Byte strings -/

/-- A byte string is a stream that does not break. -/
theorem ofBytes_eq_source (bytes : List UInt8) :
    ByteSource.ofBytes bytes = (finite bytes).source (fun _ => bytes.length) none := by
  have hbytes : (fun i => bytes.toArray[i]?) = (finite bytes).byteAt := by
    funext i
    simp [byteAt]
  rw [source, ← hbytes]
  rfl

theorem read_finite (bytes : List UInt8) :
    (Image.read ((finite bytes).source portion none)).1 = Image.parse bytes := by
  rw [read_source, take, needed, take, Image.needed_take (Nat.le_refl 2), Image.parse_take]

theorem read_ofBytes (bytes : List UInt8) :
    (Image.read (.ofBytes bytes)).1 = Image.parse bytes := by
  rw [ofBytes_eq_source, read_finite]

end ByteStream

end LC3
