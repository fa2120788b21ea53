import LC3.Proofs.Config.Environment
import Mathlib.Data.Nat.Digits.Defs
import Mathlib.Tactic.IntervalCases

/-!
# How values of variables are written

A number is written in decimal, or in hexadecimal behind `0x`, with any number of leading zeros and
perhaps a plus sign in front of its digits. A truth value is one of eight words. Anything else is
reported and changes nothing.

- `Config.Denotes`: digits and the number that they denote. Reading them one by one finds it
  (`denotes_iff_readDigits`).
- `Config.Numeral`: the grammar of numbers, as a relation between texts and what they denote;
  `readBare_eq_some_iff`: what is read as a number is what the grammar says.
- `readStart_eq_some_iff`, `readPollLimit_eq_some_iff`: a number is taken if it fits, and it is
  never cut down to size.
- `Config.override_grammar`: the values that each variable takes, and what they set.
-/

namespace LC3.Config

open Function (update)

/-! ## The grammar -/

/-- The digits of a base, letters in either case. -/
def IsDigit (base : Nat) (c : Char) (d : Nat) : Prop :=
  d < base ∧ (c = d.digitChar ∨ c = d.digitChar.toUpper)

/-- One or more digits, the most significant one first, and the number that they denote. -/
def Denotes (base : Nat) (cs : List Char) (n : Nat) : Prop :=
  ∃ ds : List Nat, ds ≠ [] ∧ List.Forall₂ (IsDigit base) cs ds ∧ Nat.ofDigits base ds.reverse = n

/-- Digits that a plus sign may precede. -/
inductive Unsigned (base : Nat) : List Char → Nat → Prop
  /-- Digits alone. -/
  | plain {cs : List Char} {n : Nat} (h : Denotes base cs n) : Unsigned base cs n
  /-- Digits behind a plus sign. -/
  | plus {cs : List Char} {n : Nat} (h : Denotes base cs n) : Unsigned base ('+' :: cs) n

/-- A number as it may be written. -/
inductive Numeral : List Char → Nat → Prop
  /-- In decimal. -/
  | decimal {cs : List Char} {n : Nat} (h : Unsigned 10 cs n) : Numeral cs n
  /-- In hexadecimal. -/
  | hexadecimal {mark : Char} {cs : List Char} {n : Nat} (hmark : mark = 'x' ∨ mark = 'X')
      (h : Unsigned 16 cs n) : Numeral ('0' :: mark :: cs) n

/-! ## Digits -/

/-- A digit is read as its value in the bases that have it. -/
theorem digit?_digitChar {base d : Nat} {c : Char} (hd : d < 16)
    (hc : c = d.digitChar ∨ c = d.digitChar.toUpper) :
    digit? base c = if d < base then some d else none := by
  rcases hc with rfl | rfl <;> interval_cases d <;> rfl

/-- Every other character is a digit in no base. -/
theorem digit?_cases (c : Char) :
    (∃ d < 16, c = d.digitChar ∨ c = d.digitChar.toUpper) ∨ ∀ base, digit? base c = none := by
  have hchar : Char.ofNat c.toNat = c := Char.ofNat_toNat c
  by_cases hdigit : c.isDigit
  · obtain ⟨hlow, hhigh⟩ : 48 ≤ c.toNat ∧ c.toNat ≤ 57 := Char.isDigit_iff_toNat.mp hdigit
    have hall : ∀ n ≤ 57, 48 ≤ n → Char.ofNat n = (n - 48).digitChar := by decide
    exact .inl ⟨c.toNat - 48, by omega, .inl (hchar.symm.trans (hall _ hhigh hlow))⟩
  by_cases hlower : 'a' ≤ c ∧ c ≤ 'f'
  · obtain ⟨hlow, hhigh⟩ : 97 ≤ c.toNat ∧ c.toNat ≤ 102 := hlower
    have hall : ∀ n ≤ 102, 97 ≤ n → Char.ofNat n = (n - 87).digitChar := by decide
    exact .inl ⟨c.toNat - 87, by omega, .inl (hchar.symm.trans (hall _ hhigh hlow))⟩
  by_cases hupper : 'A' ≤ c ∧ c ≤ 'F'
  · obtain ⟨hlow, hhigh⟩ : 65 ≤ c.toNat ∧ c.toNat ≤ 70 := hupper
    have hall : ∀ n ≤ 70, 65 ≤ n → Char.ofNat n = (n - 55).digitChar.toUpper := by decide
    exact .inl ⟨c.toNat - 55, by omega, .inr (hchar.symm.trans (hall _ hhigh hlow))⟩
  · right
    intro base
    simp only [digit?, if_neg hdigit, if_neg hlower, if_neg hupper, if_neg (Nat.lt_irrefl base)]

/-- Characters are read as the digits that they are. -/
theorem digit?_eq_some_iff {base d : Nat} {c : Char} (hbase : base ≤ 16) :
    digit? base c = some d ↔ IsDigit base c d := by
  constructor
  · intro h
    rcases digit?_cases c with ⟨v, hv, hc⟩ | hnone
    · rw [digit?_digitChar hv hc] at h
      split at h
      · next hlt =>
        obtain rfl := Option.some.inj h
        exact ⟨hlt, hc⟩
      · cases h
    · rw [hnone] at h
      cases h
  · rintro ⟨hd, hc⟩
    rw [digit?_digitChar (Nat.lt_of_lt_of_le hd hbase) hc, if_pos hd]

/-- A number is a digit more significant than all behind it. -/
theorem ofDigits_taken (base taken d : Nat) (ds : List Nat) :
    Nat.ofDigits base ((d :: ds).reverse ++ [taken]) =
      Nat.ofDigits base (ds.reverse ++ [taken * base + d]) := by
  have hpair : Nat.ofDigits base [d, taken] = Nat.ofDigits base [taken * base + d] := by
    simp [Nat.ofDigits_cons, Nat.mul_comm, Nat.add_comm]
  rw [List.reverse_cons, List.append_assoc, List.singleton_append, Nat.ofDigits_append, hpair,
    Nat.ofDigits_append]

/-- Digits are read behind the number `taken` as digits behind one digit more. -/
theorem readDigits_eq_some_iff {base taken n : Nat} {cs : List Char} (hbase : base ≤ 16) :
    readDigits base taken cs = some n ↔ ∃ ds : List Nat, List.Forall₂ (IsDigit base) cs ds ∧
      Nat.ofDigits base (ds.reverse ++ [taken]) = n := by
  induction cs generalizing taken with
  | nil =>
    rw [readDigits, Option.some.injEq]
    constructor
    · intro hn
      exact ⟨[], .nil, Nat.ofDigits_singleton.trans hn⟩
    · rintro ⟨ds, hds, hn⟩
      cases hds
      exact Nat.ofDigits_singleton.symm.trans hn
  | cons c rest ih =>
    rw [readDigits]
    constructor
    · intro h
      cases hc : digit? base c with
      | none =>
        rw [hc] at h
        cases h
      | some d =>
        rw [hc] at h
        obtain ⟨ds, hds, hn⟩ := ih.mp h
        exact ⟨d :: ds, .cons ((digit?_eq_some_iff hbase).mp hc) hds,
          (ofDigits_taken base taken d ds).trans hn⟩
    · rintro ⟨ds, hds, hn⟩
      cases hds with
      | cons hc hds =>
        rw [(digit?_eq_some_iff hbase).mpr hc]
        exact ih.mpr ⟨_, hds, (ofDigits_taken ..).symm.trans hn⟩

/-- **Digits** denote what is found by reading them, if there is one at least. -/
theorem denotes_iff_readDigits {base n : Nat} {cs : List Char} (hbase : base ≤ 16) :
    Denotes base cs n ↔ cs ≠ [] ∧ readDigits base 0 cs = some n := by
  have hzero (ds : List Nat) : Nat.ofDigits base (ds.reverse ++ [0]) =
      Nat.ofDigits base ds.reverse := by
    simp [Nat.ofDigits_append]
  rw [readDigits_eq_some_iff hbase]
  constructor
  · rintro ⟨ds, hne, hds, hn⟩
    refine ⟨?_, ds, hds, (hzero ds).trans hn⟩
    rintro rfl
    cases hds
    exact hne rfl
  · rintro ⟨hne, ds, hds, hn⟩
    refine ⟨ds, ?_, hds, (hzero ds).symm.trans hn⟩
    rintro rfl
    cases hds
    exact hne rfl

/-- There is no number without a digit. -/
theorem not_denotes_nil {base n : Nat} (hbase : base ≤ 16) : ¬ Denotes base [] n :=
  fun h => ((denotes_iff_readDigits hbase).mp h).1 rfl

/-! ## Numbers -/

/-- A sign in front of digits does not count. -/
theorem readUnsigned_eq_some_iff {base n : Nat} {cs : List Char} (hbase : base ≤ 16) :
    readUnsigned base cs = some n ↔ Unsigned base cs n := by
  have hsign (cs : List Char) : ¬ Denotes base ('+' :: cs) n := by
    intro h
    obtain ⟨-, h⟩ := (denotes_iff_readDigits hbase).mp h
    rcases digit?_cases '+' with ⟨d, hd, hc⟩ | hnone
    · revert hc
      interval_cases d <;> decide
    · rw [readDigits, hnone] at h
      cases h
  unfold readUnsigned
  split
  · next c rest =>
    constructor
    · intro h
      exact .plus ((denotes_iff_readDigits hbase).mpr ⟨List.cons_ne_nil c rest, h⟩)
    · rintro (h | h)
      · exact absurd h (hsign _)
      · exact ((denotes_iff_readDigits hbase).mp h).2
  · refine iff_of_false nofun ?_
    rintro (h | h)
    · exact hsign _ h
    · exact not_denotes_nil hbase h
  · refine iff_of_false nofun ?_
    rintro ⟨h⟩
    exact not_denotes_nil hbase h
  · next hmore hone hempty =>
    constructor
    · intro h
      exact .plain ((denotes_iff_readDigits hbase).mpr ⟨hempty, h⟩)
    · rintro (h | h)
      · exact ((denotes_iff_readDigits hbase).mp h).2
      · next rest =>
        cases rest with
        | nil => exact absurd rfl hone
        | cons c rest => exact absurd rfl (hmore c rest)

/-- A mark is no decimal digit. -/
theorem readUnsigned_marked {mark : Char} (hmark : mark = 'x' ∨ mark = 'X') (cs : List Char) :
    readUnsigned 10 ('0' :: mark :: cs) = none := by
  rcases hmark with rfl | rfl <;> rfl

/-- **Numbers** are read as the grammar says. -/
theorem readBare_eq_some_iff {cs : List Char} {n : Nat} :
    readBare cs = some n ↔ Numeral cs n := by
  have hmarked {mark : Char} {rest : List Char} (hmark : mark = 'x' ∨ mark = 'X') :
      readUnsigned 16 rest = some n ↔ Numeral ('0' :: mark :: rest) n := by
    rw [readUnsigned_eq_some_iff (Nat.le_refl 16)]
    constructor
    · exact .hexadecimal hmark
    · rintro (h | ⟨-, h⟩)
      · rw [← readUnsigned_eq_some_iff (by decide), readUnsigned_marked hmark] at h
        cases h
      · exact h
  unfold readBare
  split
  · exact hmarked (.inl rfl)
  · exact hmarked (.inr rfl)
  · next hlower hupper =>
    rw [readUnsigned_eq_some_iff (by decide)]
    constructor
    · exact .decimal
    · rintro (h | ⟨rfl | rfl, h⟩)
      · exact h
      · exact absurd rfl (hlower _)
      · exact absurd rfl (hupper _)

/-- A number is taken if it is below a bound of at most 64 bits. -/
theorem readBelow_eq_some_iff {bound n : Nat} {text : String} (hbound : bound ≤ UInt64.size) :
    readBelow bound text = some n ↔ Numeral (Text.trim text.toList) n ∧ n < bound := by
  simp only [readBelow, readNumber, Option.filter_eq_some_iff, readBare_eq_some_iff,
    decide_eq_true_eq]
  constructor
  · rintro ⟨⟨h, -⟩, hn⟩
    exact ⟨h, hn⟩
  · rintro ⟨h, hn⟩
    exact ⟨⟨h, Nat.lt_of_lt_of_le hn hbound⟩, hn⟩

/-- A number that is not below the bound is none. -/
theorem readBelow_ne_none_iff {bound : Nat} {text : String} (hbound : bound ≤ UInt64.size) :
    readBelow bound text ≠ none ↔ ∃ n < bound, Numeral (Text.trim text.toList) n := by
  rw [Option.ne_none_iff_exists']
  constructor
  · rintro ⟨n, hn⟩
    obtain ⟨h, hlt⟩ := (readBelow_eq_some_iff hbound).mp hn
    exact ⟨n, hlt, h⟩
  · rintro ⟨n, hlt, h⟩
    exact ⟨n, (readBelow_eq_some_iff hbound).mpr ⟨h, hlt⟩⟩

/-- A number below the size of a type of words is taken as the word of that number. -/
theorem map_readBelow_eq_some_iff {α : Type} {bound : Nat} {ofNat : Nat → α} {toNat : α → Nat}
    (hbound : bound ≤ UInt64.size) (hlt : ∀ w, toNat w < bound) (hword : ∀ w, ofNat (toNat w) = w)
    (hnumber : ∀ n < bound, toNat (ofNat n) = n) {text : String} {w : α} :
    (readBelow bound text).map ofNat = some w ↔ Numeral (Text.trim text.toList) (toNat w) := by
  rw [Option.map_eq_some_iff]
  constructor
  · rintro ⟨n, hn, rfl⟩
    obtain ⟨h, hlt⟩ := (readBelow_eq_some_iff hbound).mp hn
    rwa [hnumber n hlt]
  · intro h
    exact ⟨toNat w, (readBelow_eq_some_iff hbound).mpr ⟨h, hlt w⟩, hword w⟩

theorem readStart_eq_some_iff {text : String} {w : Word} :
    readStart text = some w ↔ Numeral (Text.trim text.toList) w.toNat :=
  map_readBelow_eq_some_iff (by decide) UInt16.toNat_lt (fun _ => UInt16.ofNat_toNat)
    fun _ => UInt16.toNat_ofNat_of_lt'

theorem readStart_ne_none_iff {text : String} :
    readStart text ≠ none ↔ ∃ n < 2 ^ 16, Numeral (Text.trim text.toList) n := by
  rw [readStart, ne_eq, Option.map_eq_none_iff]
  exact readBelow_ne_none_iff (by decide)

theorem readPollLimit_eq_some_iff {text : String} {limit : UInt32} :
    readPollLimit text = some limit ↔ Numeral (Text.trim text.toList) limit.toNat :=
  map_readBelow_eq_some_iff (by decide) UInt32.toNat_lt (fun _ => UInt32.ofNat_toNat)
    fun _ => UInt32.toNat_ofNat_of_lt'

theorem readPollLimit_ne_none_iff {text : String} :
    readPollLimit text ≠ none ↔ ∃ n < 2 ^ 32, Numeral (Text.trim text.toList) n := by
  rw [readPollLimit, ne_eq, Option.map_eq_none_iff]
  exact readBelow_ne_none_iff (by decide)

/-! ## Truth values -/

/-- A word has one truth value at most. -/
theorem readBool_eq_some_iff {text : String} {b : Bool} :
    readBool text = some b ↔
      String.ofList ((Text.trim text.toList).map Char.toLower) ∈
        if b then ["1", "true", "yes", "on"] else ["0", "false", "no", "off"] := by
  have happart : ∀ word ∈ falseWords, word ∉ trueWords := by decide
  unfold readBool
  generalize String.ofList ((Text.trim text.toList).map Char.toLower) = word
  show (if word ∈ trueWords then some true else if word ∈ falseWords then some false else none) =
    some b ↔ word ∈ if b then trueWords else falseWords
  by_cases htrue : word ∈ trueWords
  · have hfalse : word ∉ falseWords := fun h => happart word h htrue
    cases b <;> simp [htrue, hfalse]
  · cases b <;> simp [htrue]

/-- Every other word has none. -/
theorem readBool_ne_none_iff {text : String} :
    readBool text ≠ none ↔
      let word := String.ofList ((Text.trim text.toList).map Char.toLower)
      word ∈ ["1", "true", "yes", "on"] ∨ word ∈ ["0", "false", "no", "off"] := by
  rw [Option.ne_none_iff_exists', Bool.exists_bool, readBool_eq_some_iff, readBool_eq_some_iff,
    or_comm]
  rfl

/-! ## Variables -/

/-- **The values of variables.** A variable for a number takes a value exactly if, without the
blanks around it, it is written like a number that fits, and the setting is then that number. The
variable for the log takes the eight words in any case. A value that is not taken is reported, and
the configuration is what it would be without it; without any variable it stays as it is. -/
theorem override_grammar (c : Config) (env : Environment) (text : String) :
    let cs := Text.trim text.toList
    let word := String.ofList (cs.map Char.toLower)
    let given (name : String) := c.override (update env name (some text))
    let without (name : String) := c.override (update env name none)
    let Taken (name : String) : Prop := .overrideIgnored name text ∉ (given name).2
    ((Taken startVariable ↔ ∃ n < 2 ^ 16, Numeral cs n) ∧
      ∀ w : Word, Numeral cs w.toNat →
        (given startVariable).1 = { (without startVariable).1 with pcStart := some w }) ∧
    ((Taken pollLimitVariable ↔ ∃ n < 2 ^ 32, Numeral cs n) ∧
      ∀ limit : UInt32, Numeral cs limit.toNat →
        (given pollLimitVariable).1 =
          { (without pollLimitVariable).1 with replayPollLimit := some limit }) ∧
    ((Taken traceVariable ↔
        word ∈ ["1", "true", "yes", "on"] ∨ word ∈ ["0", "false", "no", "off"]) ∧
      (word ∈ ["1", "true", "yes", "on"] →
        (given traceVariable).1 = { (without traceVariable).1 with trace := some true }) ∧
      (word ∈ ["0", "false", "no", "off"] →
        (given traceVariable).1 = { (without traceVariable).1 with trace := some false })) ∧
    (∀ name, ¬ Taken name → (given name).1 = (without name).1) ∧
    (c.override fun _ => none).1 = c := by
  intro cs word given without Taken
  have htaken (name : String) : Taken name ↔ ¬ Refused name text := by
    show ¬ _ ↔ _
    rw [ignored_mem_override, Function.update_self, and_iff_right rfl]
  have htrace {b : Bool} (h : word ∈ if b then ["1", "true", "yes", "on"] else
      ["0", "false", "no", "off"]) :
      (given traceVariable).1 = { (without traceVariable).1 with trace := some b } := by
    simp only [given, without, override_fst, ofEnvironment_trace, Option.bind_some,
      readBool_eq_some_iff.mpr h]
    rfl
  refine ⟨⟨?_, fun w h => ?_⟩, ⟨?_, fun limit h => ?_⟩, ⟨?_, fun h => ?_, fun h => ?_⟩,
    fun name h => ?_, ?_⟩
  · rw [htaken, refused_start_iff]
    exact readStart_ne_none_iff
  · simp only [given, without, override_fst, ofEnvironment_start, Option.bind_some,
      readStart_eq_some_iff.mpr h]
    rfl
  · rw [htaken, refused_pollLimit_iff]
    exact readPollLimit_ne_none_iff
  · simp only [given, without, override_fst, ofEnvironment_pollLimit, Option.bind_some,
      readPollLimit_eq_some_iff.mpr h]
    rfl
  · rw [htaken, refused_trace_iff]
    exact readBool_ne_none_iff
  · exact htrace (b := true) h
  · exact htrace (b := false) h
  · have hrefused : Refused name text := by
      by_contra hnot
      exact h ((htaken name).mpr hnot)
    simp only [given, without, override_fst, ofEnvironment_of_refused env hrefused]
  · rw [override_fst]
    exact c.merge_empty

/-- A number in an odd spelling, one that does not fit, and a word for true. -/
theorem override_grammar_spellings :
    let c : Config := { pcStart := some 1, trace := some false }
    let alone (name text : String) : Environment := update (fun _ => none) name (some text)
    (Numeral (Text.trim " 0X+00fF\n".toList) 255 ∧
      (c.override (alone startVariable " 0X+00fF\n")).1 = { c with pcStart := some 255 }) ∧
    (Numeral (Text.trim "65536".toList) 65536 ∧
      .overrideIgnored startVariable "65536" ∈ (c.override (alone startVariable "65536")).2 ∧
      (c.override (alone startVariable "65536")).1 = c) ∧
    (c.override (alone traceVariable "\tYes")).1 = { c with trace := some true } := by
  intro c alone
  have hodd : Numeral (Text.trim " 0X+00fF\n".toList) 255 := readBare_eq_some_iff.mp (by decide)
  have hbeyond : Numeral (Text.trim "65536".toList) 65536 := readBare_eq_some_iff.mp (by decide)
  obtain ⟨⟨-, hstart⟩, -, -, -, hkept⟩ := override_grammar c (fun _ => none) " 0X+00fF\n"
  obtain ⟨⟨htaken, -⟩, -, -, hignored, -⟩ := override_grammar c (fun _ => none) "65536"
  obtain ⟨-, -, ⟨-, htrue, -⟩, -⟩ := override_grammar c (fun _ => none) "\tYes"
  have hplain (name : String) : (c.override (update (fun _ => none) name none)).1 = c := by
    rw [Function.update_eq_self, hkept]
  have hrefused : ¬ .overrideIgnored startVariable "65536" ∉
      (c.override (alone startVariable "65536")).2 := by
    intro h
    obtain ⟨n, hn, h⟩ := htaken.mp h
    -- digits denote one number only
    have hread := (readBare_eq_some_iff.mpr hbeyond).symm.trans (readBare_eq_some_iff.mpr h)
    rw [← Option.some.inj hread] at hn
    exact absurd hn (by decide)
  refine ⟨⟨hodd, (hstart 255 hodd).trans ?_⟩, ⟨hbeyond, not_not.mp hrefused, ?_⟩,
    (htrue (by decide)).trans ?_⟩
  · simp only [hplain]
  · exact (hignored _ hrefused).trans (hplain _)
  · simp only [hplain]

end LC3.Config
