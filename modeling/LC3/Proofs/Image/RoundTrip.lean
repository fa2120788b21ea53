import LC3.Proofs.Image.Stream
import LC3.Proofs.Memory.Frame

/-!
# The image of a memory

A memory is saved as an image that begins at address zero and has a word for every address. It
fills the memory that it is loaded into up to the last word, and the look beyond the ceiling finds
the end of the image.

- `Memory.read_image`: the image is read as all the words of the memory.
- `Memory.load_image`: loaded into any memory, it leaves the memory that was saved.
-/

namespace LC3

namespace Memory

variable (m m₀ : Memory)

theorem length_words : m.words.toList.length = room 0 := Vector.length_toList

/-- A memory that is filled with the words of another one is the other one. -/
theorem writeSlice_words : m₀.writeSlice 0 m.words.toList = m := by
  apply ext_get
  intro a
  have hlength : m.words.toList.length = 65536 := m.length_words
  have hdistance : distance 0 a = a.toNat := by simp [distance]
  rw [get_writeSlice_inside (Nat.le_of_eq hlength) (by rw [hlength]; exact distance_lt 0 a)]
  simp [hdistance, get]

/-- An image with all the words of a memory leaves that memory. -/
theorem store_words (truncated : Bool) :
    Image.store ⟨0, m.words.toList, truncated⟩ m₀ = (m, ⟨0, 65536, truncated⟩) := by
  have hall : m.words.toList.take (room 0) = m.words.toList :=
    List.take_of_length_le (Nat.le_of_eq m.length_words)
  simp only [Image.store, loadAt_eq, hall, writeSlice_words, length_words]
  rfl

/-- The image of a memory is read as all its words, however it is portioned. -/
theorem read_image (portion : Nat → Nat) :
    (Image.read { ByteSource.ofBytes m.image with portion }).1 =
      .ok ⟨0, m.words.toList, false⟩ := by
  have hsource : { ByteSource.ofBytes m.image with portion } =
      (ByteStream.finite m.image).source portion none := by
    rw [ByteStream.ofBytes_eq_source]
    rfl
  have hall : m.words.toList.take (room 0) = m.words.toList :=
    List.take_of_length_le (Nat.le_of_eq m.length_words)
  have hfits : ¬ room 0 < m.words.toList.length := Nat.not_lt_of_le (Nat.le_of_eq m.length_words)
  rw [hsource, ByteStream.read_finite, Image.parse, image, Image.wordsOf_bigEndian]
  simp only [hall, decide_eq_false hfits]

/-- **Images are read back**: whatever a memory held before, loading the image of `m` fills it
with the words of `m`, at once or in portions of any sizes. -/
theorem load_image :
    ((m₀.loadBytes m.image).result = .ok ⟨0, 65536, false⟩ ∧ (m₀.loadBytes m.image).memory = m) ∧
      ∀ portion : Nat → Nat,
        let loading := m₀.load { ByteSource.ofBytes m.image with portion }
        loading.result = .ok ⟨0, 65536, false⟩ ∧ loading.memory = m := by
  have hload : ∀ s : ByteSource, (Image.read s).1 = .ok ⟨0, m.words.toList, false⟩ →
      (m₀.load s).result = .ok ⟨0, 65536, false⟩ ∧ (m₀.load s).memory = m := by
    intro s hread
    rw [load]
    split
    · next heq =>
      rw [heq] at hread
      cases hread
    · next heq =>
      rw [heq] at hread
      cases hread
      simp only [store_words, and_self]
  exact ⟨hload _ (m.read_image _), fun portion => hload _ (m.read_image portion)⟩

end Memory

end LC3
