import LC3.Monitor
import LC3.Proofs.Image.Stream
import LC3.Proofs.Memory.Frame

/-!
# Loading

What loading an image leaves in memory, for every byte string and for every way in which bytes can
arrive. An image is stored only after it was read, so a source that breaks leaves no trace.

- `Memory.load_of_read`, `Memory.load_of_unread`: loading, by what is read from the source.
- `Memory.loadBytes_exact`: the outcome for a byte string, word by word.
- `Memory.load_stream`: the outcome for a stream does not depend on how its bytes are portioned,
  nor on whether it breaks behind the bytes that are taken.
- `Monitor.loadFile_snd`, `Monitor.loadFile_of_open`: what a machine makes of an image file.
-/

namespace LC3

namespace Memory

variable (m : Memory) {s s' : ByteSource}

theorem load_of_read {image : Image} (h : Image.read s = (.ok image, s')) :
    m.load s = ⟨.ok (image.store m).2, (image.store m).1, s', image.events⟩ := by
  rw [load, h]

theorem load_of_unread {cause : LoadError} (h : (Image.read s).1 = .error cause) :
    (m.load s).result = .error cause ∧ (m.load s).memory = m ∧ (m.load s).events = [] := by
  cases hread : Image.read s with
  | mk result s' =>
    rw [hread] at h
    obtain rfl : result = .error cause := h
    rw [load, hread]
    exact ⟨rfl, rfl, rfl⟩

/-- What loading leaves depends on what is read and on nothing else of the source. -/
theorem load_congr {t : ByteSource} (h : (Image.read t).1 = (Image.read s).1) :
    (m.load t).result = (m.load s).result ∧ (m.load t).memory = (m.load s).memory ∧
      (m.load t).events = (m.load s).events := by
  cases hs : (Image.read s).1 with
  | error cause =>
    obtain ⟨hresult, hmemory, hevents⟩ := load_of_unread m hs
    obtain ⟨hresult', hmemory', hevents'⟩ := load_of_unread m (h.trans hs)
    exact ⟨hresult'.trans hresult.symm, hmemory'.trans hmemory.symm, hevents'.trans hevents.symm⟩
  | ok image =>
    have hloads : ∀ r : ByteSource, (Image.read r).1 = .ok image →
        m.load r = ⟨.ok (image.store m).2, (image.store m).1, (Image.read r).2, image.events⟩ :=
      fun r hr => load_of_read m (Prod.ext hr rfl)
    rw [hloads s hs, hloads t (h.trans hs)]
    exact ⟨rfl, rfl, rfl⟩

theorem load_source : (m.load s).source = (Image.read s).2 := by
  rw [load]
  split <;> simp [*]

/-! ## Byte strings -/

theorem loadBytes_short {bytes : List UInt8} (h : bytes.length < 2) :
    (m.loadBytes bytes).result = .error .missingOrigin ∧ (m.loadBytes bytes).memory = m := by
  have hparse : Image.parse bytes = .error .missingOrigin := by
    match bytes, h with
    | [], _ | [_], _ => rfl
  obtain ⟨hresult, hmemory, -⟩ := load_of_unread m ((ByteStream.read_ofBytes bytes).trans hparse)
  exact ⟨hresult, hmemory⟩

/-- A byte string with an origin is loaded as far as there are addresses. -/
theorem loadBytes_cons (high low : UInt8) (rest : List UInt8) :
    let origin := ofBytes high low
    let words := (Image.wordsOf rest).take (room origin)
    (m.loadBytes (high :: low :: rest)).result =
      .ok ⟨origin, min (rest.length / 2) (room origin), decide (room origin < rest.length / 2)⟩ ∧
    (m.loadBytes (high :: low :: rest)).memory = m.writeSlice origin words := by
  intro origin words
  cases hread : Image.read (.ofBytes (high :: low :: rest)) with
  | mk result s' =>
    have hparse := ByteStream.read_ofBytes (high :: low :: rest)
    rw [hread, Image.parse_cons] at hparse
    obtain rfl : result = _ := hparse
    have hcount : min words.length (room origin) = min (rest.length / 2) (room origin) := by
      simp only [words, List.length_take, Image.length_wordsOf]
      omega
    have hwords : words.take (room origin) = words := by
      simp only [words, List.take_take, Nat.min_self]
    rw [loadBytes, load_of_read m hread, Image.store, loadAt_eq]
    show Except.ok (Loaded.mk origin (min words.length (room origin)) _) = _ ∧
      m.writeSlice origin (words.take (room origin)) = _
    rw [hcount, hwords]
    exact ⟨rfl, rfl⟩

section Words

variable {m} {origin : Word} {words : List Word}

/-- A run of stores that stays below the ceiling puts each word where its number says. -/
theorem get_writeSlice_below (hroom : words.length ≤ room origin) {i : Nat}
    (hi : i < words.length) :
    (m.writeSlice origin words).get (UInt16.ofNat (origin.toNat + i)) = words[i] := by
  have hlength : words.length ≤ 65536 := Nat.le_trans hroom (Nat.sub_le _ _)
  have haddress : UInt16.ofNat (origin.toNat + i) = origin + UInt16.ofNat i := by
    rw [UInt16.ofNat_add, UInt16.ofNat_toNat]
  have hdistance : distance origin (origin + UInt16.ofNat i) = i :=
    distance_add_ofNat origin (by omega)
  rw [haddress, get_writeSlice_inside hlength (by rwa [hdistance])]
  simp only [hdistance]

/-- Such a run does not come around to the lowest addresses. -/
theorem get_writeSlice_beside (hroom : words.length ≤ room origin) {a : Word}
    (ha : ∀ i < words.length, a.toNat ≠ origin.toNat + i) :
    (m.writeSlice origin words).get a = m.get a := by
  apply get_writeSlice_outside
  have hlt := a.toNat_lt
  have hout : a.toNat < origin.toNat ∨ origin.toNat + words.length ≤ a.toNat := by
    by_contra hin
    exact ha (a.toNat - origin.toNat) (by omega) (by omega)
  have hceiling : words.length ≤ 65536 - origin.toNat := hroom
  rw [distance, UInt16.toNat_sub]
  omega

end Words

/-- **Byte strings**: without an origin nothing is loaded. Otherwise the words behind the origin are
stored one after the other as far as there are addresses, and everything else stays as it was. An
odd byte at the end is no word, and only a word that does not fit makes the image a truncated
one. -/
theorem loadBytes_exact (m : Memory) (bytes : List UInt8) :
    let loading : Loading := m.loadBytes bytes
    (bytes.length < 2 → loading.result = .error .missingOrigin ∧ loading.memory = m) ∧
    ∀ _ : 2 ≤ bytes.length,
      let origin := 256 * bytes[0].toNat + bytes[1].toNat
      let held := (bytes.length - 2) / 2
      loading.result =
        .ok ⟨UInt16.ofNat origin, min held (65536 - origin), decide (65536 - origin < held)⟩ ∧
      (∀ i, ∀ _ : i < min held (65536 - origin),
        (loading.memory.get (UInt16.ofNat (origin + i))).toNat =
          256 * bytes[2 * i + 2].toNat + bytes[2 * i + 3].toNat) ∧
      ∀ a : Word, (∀ i < min held (65536 - origin), a.toNat ≠ origin + i) →
        loading.memory.get a = m.get a := by
  refine ⟨m.loadBytes_short, ?_⟩
  intro htwo
  match bytes, htwo with
  | high :: low :: rest, _ =>
    intro origin held
    obtain ⟨hresult, hmemory⟩ := m.loadBytes_cons high low rest
    have horigin : origin = (ofBytes high low).toNat := (toNat_ofBytes high low).symm
    have hheld : held = rest.length / 2 := by simp [held]
    have hlength : ((Image.wordsOf rest).take (room (ofBytes high low))).length =
        min held (65536 - origin) := by
      rw [List.length_take, Image.length_wordsOf, hheld, horigin, Nat.min_comm]
      rfl
    have hroom : ((Image.wordsOf rest).take (room (ofBytes high low))).length ≤
        room (ofBytes high low) := by
      rw [List.length_take]
      exact Nat.min_le_left _ _
    refine ⟨?_, ?_, ?_⟩
    · rw [hresult, hheld, horigin, UInt16.ofNat_toNat]
      rfl
    · intro i hi
      have hin : 2 * i + 1 < rest.length := by omega
      obtain ⟨_, hword⟩ := List.getElem?_eq_some_iff.mp (Image.getElem?_wordsOf rest hin)
      rw [hmemory, horigin, get_writeSlice_below hroom (by rwa [hlength]), List.getElem_take, hword,
        toNat_ofBytes]
      rfl
    · intro a ha
      rw [hmemory]
      apply get_writeSlice_beside hroom
      rwa [hlength, ← horigin]

/-- An image of three words and an odd byte, where two words are left below the ceiling. -/
theorem loadBytes_exact_ceiling :
    let loading := zero.loadBytes [0xFF, 0xFE, 0x12, 0x34, 0x56, 0x78, 0x9A, 0xBC, 0xDE]
    loading.result = .ok ⟨0xFFFE, 2, true⟩ ∧ loading.memory.get 0xFFFF = 0x5678 ∧
      loading.memory.get 0x0000 = 0 ∧
      (zero.loadBytes [0xFF]).result = .error .missingOrigin := by
  intro loading
  obtain ⟨-, hloaded⟩ :=
    loadBytes_exact zero [0xFF, 0xFE, 0x12, 0x34, 0x56, 0x78, 0x9A, 0xBC, 0xDE]
  obtain ⟨hresult, hstored, hkept⟩ := hloaded (by decide)
  refine ⟨hresult, ?_, ?_, ?_⟩
  · apply UInt16.toNat_inj.mp
    exact hstored 1 (by decide)
  · exact (hkept 0 (by decide)).trans (get_zero 0)
  · exact ((loadBytes_exact zero [0xFF]).1 (by decide)).1

/-! ## Streams -/

/-- **Streams**: loading comes to the same as loading the bytes that it takes to know the image, in
whatever portions they arrive and whatever follows, and no other bytes are taken. A stream that
breaks before these bytes are there leaves memory as it was, and to break later makes no
difference. -/
theorem load_stream (m : Memory) (b : ByteStream) (portion : Nat → Nat) :
    let loading := m.load (b.source portion none)
    let whole := m.loadBytes (b.take b.needed)
    (loading.result = whole.result ∧ loading.memory = whole.memory ∧
      loading.events = whole.events) ∧
    (loading.source.position : ℕ∞) = min b.length b.needed ∧
    ∀ (place : Nat) (cause : IoError), (place : ℕ∞) ≤ b.length →
      let broken := m.load (b.source portion (some (place, cause)))
      (place < b.needed →
        broken.result = .error (.unread cause) ∧ broken.memory = m ∧ broken.events = []) ∧
      (b.needed ≤ place →
        broken.result = loading.result ∧ broken.memory = loading.memory ∧
          broken.events = loading.events ∧
          broken.source.position = loading.source.position) := by
  intro loading whole
  have hread := b.read_source portion
  have hsame : (Image.read (b.source portion none)).1 =
      (Image.read (.ofBytes (b.take b.needed))).1 := by
    rw [hread, ByteStream.read_ofBytes]
  have hposition : loading.source.position = (b.take b.needed).length := by
    show (m.load _).source.position = _
    rw [load_source, hread]
    exact Nat.zero_add _
  refine ⟨load_congr m hsame, ?_, ?_⟩
  · rw [hposition, ByteStream.length_take]
  intro place cause hplace
  constructor
  · intro hearly
    exact load_of_unread m (b.read_source_of_break portion hplace hearly)
  · intro hlate
    have hbroken := b.read_source_of_late portion cause hplace hlate
    obtain ⟨hresult, hmemory, hevents⟩ :=
      load_congr m (s := b.source portion none) (t := b.source portion (some (place, cause)))
        (by rw [hread, hbroken])
    refine ⟨hresult, hmemory, hevents, ?_⟩
    show (m.load _).source.position = _
    rw [load_source, hbroken, hposition]
    exact Nat.zero_add _

/-- An endless stream of the byte `0x30` fills the memory from `0x3030` on, one byte at a time. When
it breaks behind its fifth byte nothing is loaded, and when it breaks behind the word above the
ceiling nothing changes. -/
theorem load_stream_endless :
    let b : ByteStream := .endless fun _ => 0x30
    let early := zero.load (b.source (fun _ => 1) (some (5, .broken "disk")))
    (zero.load (b.source (fun _ => 1) none)).source.position = 4 + 2 * (65536 - 0x3030) ∧
      early.result = .error (.unread (.broken "disk")) ∧ early.memory = zero ∧
      (zero.load (b.source (fun _ => 1) (some (106404, .broken "disk")))).memory =
        (zero.load (b.source (fun _ => 1) none)).memory := by
  intro b early
  obtain ⟨-, hposition, hbreak⟩ := load_stream zero b fun _ => 1
  have hneeded : b.needed = 106404 := by decide
  obtain ⟨hearly, -⟩ := hbreak 5 (.broken "disk") le_top
  obtain ⟨hresult, hmemory, -⟩ := hearly (by rw [hneeded]; decide)
  obtain ⟨-, hlate⟩ := hbreak 106404 (.broken "disk") le_top
  obtain ⟨-, hsame, -⟩ := hlate (Nat.le_of_eq hneeded)
  have hlength : min b.length (b.needed : ℕ∞) = b.needed := min_eq_right le_top
  rw [hlength] at hposition
  exact ⟨(Nat.cast_inj.mp hposition).trans hneeded, hresult, hmemory, hsame⟩

end Memory

/-! ## Machines -/

namespace Monitor

variable {κ : Type} (v : Monitor κ) (files : FileTree) (name : String)

/-- A file is loaded into memory. Nothing else changes but what is reported. -/
theorem loadFile_snd : ∃ memory journal,
    (v.loadFile files name).2 = { v with bus := { v.bus with memory, journal } } := by
  unfold loadFile
  -- a file may be missing, or its image may not load
  split
  · exact ⟨v.bus.memory, v.bus.journal, rfl⟩
  · split
    · next heq =>
      obtain rfl := congrArg Prod.snd heq
      exact ⟨_, _, rfl⟩
    · next heq =>
      obtain rfl := congrArg Prod.snd heq
      exact ⟨_, _, rfl⟩

/-- To load a file is to load its bytes. -/
theorem loadFile_of_open {bytes : List UInt8} (h : files.open? name = .ok (.file bytes)) :
    (v.loadFile files name).1 = (v.bus.memory.loadBytes bytes).result ∧
      (v.loadFile files name).2.bus.memory = (v.bus.memory.loadBytes bytes).memory := by
  unfold loadFile
  rw [h]
  dsimp only [Node.source]
  split
  · next heq =>
    obtain rfl := congrArg Prod.snd heq
    exact ⟨(congrArg Prod.fst heq).symm, rfl⟩
  · next heq =>
    obtain rfl := congrArg Prod.snd heq
    exact ⟨(congrArg Prod.fst heq).symm, rfl⟩

end Monitor

end LC3
