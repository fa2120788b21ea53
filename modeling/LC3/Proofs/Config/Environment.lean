import LC3.Config.Override
import Mathlib.Logic.Function.Basic

/-!
# The environment as a layer

Four variables give one setting each. What they give together is one layer over the configuration,
and a value that makes no sense gives what no value gives.

- `Config.ofEnvironment`: the layer.
- `override_fst`: to override a configuration is to lay the environment over it.
- `Config.Refused`: the values that make no sense. They are those that are reported as ignored
  (`ignored_mem_override`), and they set nothing (`ofEnvironment_of_refused`).
-/

namespace LC3.Config

open Function (update update_self update_of_ne)

/-- The settings of an environment. -/
def ofEnvironment (env : Environment) : Config where
  pcStart := (env startVariable).bind readStart
  trace := (env traceVariable).bind readBool
  memorySync := env syncVariable
  replayPollLimit := (env pollLimitVariable).bind readPollLimit

/-- A variable and a value of it that makes no sense. -/
inductive Refused : String → String → Prop
  /-- No address. -/
  | start {text : String} (h : readStart text = none) : Refused startVariable text
  /-- No truth value. -/
  | trace {text : String} (h : readBool text = none) : Refused traceVariable text
  /-- No number of requests. -/
  | pollLimit {text : String} (h : readPollLimit text = none) : Refused pollLimitVariable text

theorem refused_iff {name text : String} : Refused name text ↔
    name = startVariable ∧ readStart text = none ∨ name = traceVariable ∧ readBool text = none ∨
      name = pollLimitVariable ∧ readPollLimit text = none := by
  constructor
  · rintro (h | h | h)
    · exact .inl ⟨rfl, h⟩
    · exact .inr (.inl ⟨rfl, h⟩)
    · exact .inr (.inr ⟨rfl, h⟩)
  · rintro (⟨rfl, h⟩ | ⟨rfl, h⟩ | ⟨rfl, h⟩)
    · exact .start h
    · exact .trace h
    · exact .pollLimit h

theorem refused_start_iff {text : String} : Refused startVariable text ↔ readStart text = none := by
  simp [refused_iff, startVariable, traceVariable, pollLimitVariable]

theorem refused_trace_iff {text : String} : Refused traceVariable text ↔ readBool text = none := by
  simp [refused_iff, startVariable, traceVariable, pollLimitVariable]

theorem refused_pollLimit_iff {text : String} :
    Refused pollLimitVariable text ↔ readPollLimit text = none := by
  simp [refused_iff, startVariable, traceVariable, pollLimitVariable]

/-! ## One variable -/

section Variable

variable {α : Type} {name : String} {read : String → Option α} {layer : α → Config}
  {report : α → List Event}

/-- A variable sets what its value stands for, if it has one that stands for something. -/
theorem readSetting_fst (value : Option String) :
    (value.elim unset (readSetting name read layer report)).1 =
      (value.bind read).elim empty layer := by
  cases value with
  | none => rfl
  | some text =>
    rw [Option.elim_some, Option.bind_some, readSetting]
    cases read text <;> rfl

/-- Only a value that stands for nothing is reported as ignored. -/
theorem ignored_mem_readSetting {value : Option String} {other text : String}
    (hreport : ∀ a, .overrideIgnored other text ∉ report a) :
    .overrideIgnored other text ∈ (value.elim unset (readSetting name read layer report)).2 ↔
      other = name ∧ value = some text ∧ read text = none := by
  cases value with
  | none => simp [unset]
  | some given =>
    rw [Option.elim_some, readSetting]
    cases hread : read given with
    | none =>
      simp only [List.mem_singleton, Event.overrideIgnored.injEq, Option.some.injEq]
      constructor
      · rintro ⟨rfl, rfl⟩
        exact ⟨rfl, rfl, hread⟩
      · rintro ⟨rfl, rfl, -⟩
        exact ⟨rfl, rfl⟩
    | some a =>
      refine iff_of_false (hreport a) ?_
      rintro ⟨-, h, hnone⟩
      rw [← Option.some.inj h, hread] at hnone
      cases hnone

end Variable

/-! ## All variables -/

variable (c : Config) {env : Environment} {name text : String}

/-- **Overriding** a configuration lays the settings of the environment over it. -/
theorem override_fst (env : Environment) : (c.override env).1 = c.merge (ofEnvironment env) := by
  have hsync : ((env syncVariable).elim unset syncSetting).1 =
      { memorySync := env syncVariable } := by
    cases env syncVariable <;> rfl
  simp only [override, settings, List.foldl_cons, List.foldl_nil, startSetting, traceSetting,
    pollLimitSetting, readSetting_fst, hsync, ofEnvironment]
  cases (env startVariable).bind readStart <;> cases (env traceVariable).bind readBool <;>
    cases (env pollLimitVariable).bind readPollLimit <;>
    simp [merge, empty]

/-- **What is reported** as ignored is what makes no sense. -/
theorem ignored_mem_override :
    .overrideIgnored name text ∈ (c.override env).2 ↔
      env name = some text ∧ Refused name text := by
  have hsync : .overrideIgnored name text ∉ ((env syncVariable).elim unset syncSetting).2 := by
    cases env syncVariable <;> simp [unset, syncSetting]
  have hmem : .overrideIgnored name text ∈ (c.override env).2 ↔
      name = startVariable ∧ env startVariable = some text ∧ readStart text = none ∨
      name = traceVariable ∧ env traceVariable = some text ∧ readBool text = none ∨
      name = pollLimitVariable ∧ env pollLimitVariable = some text ∧
        readPollLimit text = none := by
    simp only [override, settings, List.flatMap_cons, List.flatMap_nil, List.mem_append,
      List.not_mem_nil, or_false, startSetting, traceSetting, pollLimitSetting, hsync, false_or]
    rw [ignored_mem_readSetting (by simp), ignored_mem_readSetting (by simp),
      ignored_mem_readSetting (by simp)]
  rw [hmem]
  constructor
  · rintro (⟨rfl, h, hread⟩ | ⟨rfl, h, hread⟩ | ⟨rfl, h, hread⟩)
    · exact ⟨h, .start hread⟩
    · exact ⟨h, .trace hread⟩
    · exact ⟨h, .pollLimit hread⟩
  · rintro ⟨h, hread | hread | hread⟩
    · exact .inl ⟨rfl, h, hread⟩
    · exact .inr (.inl ⟨rfl, h, hread⟩)
    · exact .inr (.inr ⟨rfl, h, hread⟩)

/-! ## A variable among others -/

variable (env) (value : Option String)

theorem ofEnvironment_start : ofEnvironment (update env startVariable value) =
    { ofEnvironment env with pcStart := value.bind readStart } := by
  unfold ofEnvironment
  rw [update_self, update_of_ne (by decide), update_of_ne (by decide), update_of_ne (by decide)]

theorem ofEnvironment_trace : ofEnvironment (update env traceVariable value) =
    { ofEnvironment env with trace := value.bind readBool } := by
  unfold ofEnvironment
  rw [update_self, update_of_ne (by decide), update_of_ne (by decide), update_of_ne (by decide)]

theorem ofEnvironment_pollLimit : ofEnvironment (update env pollLimitVariable value) =
    { ofEnvironment env with replayPollLimit := value.bind readPollLimit } := by
  unfold ofEnvironment
  rw [update_self, update_of_ne (by decide), update_of_ne (by decide), update_of_ne (by decide)]

/-- A value that makes no sense sets what no value sets. -/
theorem ofEnvironment_of_refused (h : Refused name text) :
    ofEnvironment (update env name (some text)) = ofEnvironment (update env name none) := by
  cases h with
  | start h => simp only [ofEnvironment_start, Option.bind_some, h, Option.bind_none]
  | trace h => simp only [ofEnvironment_trace, Option.bind_some, h, Option.bind_none]
  | pollLimit h => simp only [ofEnvironment_pollLimit, Option.bind_some, h, Option.bind_none]

end LC3.Config
