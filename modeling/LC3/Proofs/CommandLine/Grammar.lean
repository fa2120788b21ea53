import LC3.CommandLine
import Mathlib.Data.List.Induction
import Mathlib.Tactic.SplitIfs

/-!
# The grammar of the command line

An argument list is a list of items: the option `--sync-memory` takes the argument behind it along,
and any other argument stands for itself. A run needs one image, and besides it the list may hold
any number of items that set something, in any order. The first item that has no place in a run
decides the answer.

- `Command.items`: the items of an argument list. They account for every argument
  (`arguments_items`), and only the last one can lack its value (`items_missingValue`).
- `Item.Plain`, `Offends`: the items of a run, and the items that decide the answer.
- `Meaning`: the grammar, as a relation between items and answers.
- `judge`: what items ask for, one by one; `parseFrom_eq`: arguments ask for what their items ask
  for.
- `offends_or_plain`: there is no third kind of item; `inPlace_append`: how far a run goes.
- `meaning_judge`, `judge_of_meaning`: the recursion answers as the relation says, and the relation
  leaves no other answer.
- `Command.parse_grammar`: the answer to an argument list is the meaning of its items.
-/

namespace LC3

namespace Command

/-! ## Items -/

/-- What an argument list consists of. -/
inductive Item where
  /-- The option that names a file for the memory, with the argument behind it. -/
  | sync (value : String)
  /-- Any other argument. -/
  | word (text : String)
  deriving DecidableEq

/-- The items of an argument list, from left to right. The argument behind `--sync-memory` belongs
to it, whatever it is. -/
def items : List String → List Item
  | [] => []
  | [text] => [.word text]
  | text :: value :: rest =>
    if text = "--sync-memory" then .sync value :: items rest
    else .word text :: items (value :: rest)

/-- A word that begins like an option. -/
abbrev IsOption (text : String) : Prop := text.toList.head? = some '-'

/-- The options that exist. -/
def options : List String := ["--help", "-h", "--sample-config", "--trace", "--sync-memory"]

theorem mem_options {text : String} : text ∈ options ↔ text = "--help" ∨ text = "-h" ∨
    text = "--sample-config" ∨ text = "--trace" ∨ text = "--sync-memory" := by
  simp only [options, List.mem_cons, List.not_mem_nil, or_false]

theorem isOption_of_mem : ∀ text ∈ options, IsOption text := by decide

namespace Item

/-- The arguments that an item consists of. -/
def arguments : Item → List String
  | sync value => ["--sync-memory", value]
  | word text => [text]

/-- The image that an item names. -/
def image? : Item → Option String
  | sync _ => none
  | word text => if IsOption text then none else some text

/-- The file that an item names for the memory. -/
def value? : Item → Option String
  | sync value => some value
  | word _ => none

/-- The items that a run consists of. -/
inductive Plain : Item → Prop
  /-- The option that turns the log on. -/
  | trace : Plain (word "--trace")
  /-- The option that names a file for the memory. -/
  | sync (value : String) : Plain (sync value)
  /-- An image. -/
  | image {text : String} (h : ¬ IsOption text) : Plain (word text)

end Item

/-- Every argument belongs to one item. -/
theorem arguments_items (args : List String) : (items args).flatMap Item.arguments = args := by
  induction args using items.induct with
  | case1 => rfl
  | case2 text => rfl
  | case3 value rest ih =>
    rw [items, if_pos rfl, List.flatMap_cons, ih]
    rfl
  | case4 text value rest hne ih =>
    rw [items, if_neg hne, List.flatMap_cons, ih]
    rfl

/-- Only the last argument can be an option that lacks its value. -/
theorem items_missingValue {args : List String} {pre post : List Item}
    (h : items args = pre ++ .word "--sync-memory" :: post) : post = [] := by
  induction args using items.induct generalizing pre with
  | case1 => simp [items] at h
  | case2 text =>
    rw [items, List.singleton_eq_append_iff] at h
    rcases h with ⟨-, h⟩ | ⟨-, h⟩
    · exact (List.cons.inj h).2
    · cases h
  | case3 value rest ih =>
    rw [items, if_pos rfl] at h
    cases pre with
    | nil => cases h
    | cons it pre => exact ih (List.cons.inj h).2
  | case4 text value rest hne ih =>
    rw [items, if_neg hne] at h
    cases pre with
    | nil =>
      cases h
      exact absurd rfl hne
    | cons it pre => exact ih (List.cons.inj h).2

/-! ## Meanings -/

/-- The images that items name. -/
def images (l : List Item) : List String := l.filterMap Item.image?

/-- The files that items name for the memory. -/
def values (l : List Item) : List String := l.filterMap Item.value?

/-- An item that has no place in a run behind the items `seen`, and the answer to it. -/
inductive Offends (seen : List Item) : Item → Except UsageError Command → Prop
  /-- To ask for an explanation. -/
  | help {text : String} (h : text = "--help" ∨ text = "-h") : Offends seen (.word text) (.ok .help)
  /-- To ask for a configuration file. -/
  | sampleConfig : Offends seen (.word "--sample-config") (.ok .sampleConfig)
  /-- To name no file for the memory. -/
  | missingValue : Offends seen (.word "--sync-memory") (.error (.missingValue "--sync-memory"))
  /-- To give an option that does not exist. -/
  | unknownOption {text : String} (h : IsOption text)
      (hunknown : text ∉ options) : Offends seen (.word text) (.error (.unknownOption text))
  /-- To name a second image. -/
  | extraImage {text : String} (h : ¬ IsOption text) (hseen : images seen ≠ []) :
      Offends seen (.word text) (.error (.extraImage text))

/-- The items of a run, as far as it goes. -/
structure InPlace (l : List Item) : Prop where
  plain : ∀ it ∈ l, it.Plain
  one : (images l).length ≤ 1

/-- What a list of items asks for. -/
inductive Meaning (l : List Item) : Except UsageError Command → Prop
  /-- To run the only image, with the log if it is turned on anywhere, and with the file that is
  named last. -/
  | run {o : RunOptions} (hplain : ∀ it ∈ l, it.Plain) (himage : images l = [o.image])
      (htrace : o.trace = true ↔ .word "--trace" ∈ l)
      (hsync : o.syncMemory = (values l).getLast?) : Meaning l (.ok (.run o))
  /-- What the first item asks for that has no place in a run. -/
  | offence {pre post : List Item} {it : Item} {answer : Except UsageError Command}
      (hl : l = pre ++ it :: post) (hpre : InPlace pre) (h : Offends pre it answer) :
      Meaning l answer
  /-- Nothing, for lack of an image. -/
  | missingImage (hplain : ∀ it ∈ l, it.Plain) (himage : images l = []) :
      Meaning l (.error .missingImage)

/-! ## One item after the other -/

/-- The answer to an item, if it has no place in a run; `second` tells whether there has been an
image. -/
def Item.offence? (second : Bool) : Item → Option (Except UsageError Command)
  | sync _ => none
  | word text =>
    if text = "--help" ∨ text = "-h" then some (.ok .help)
    else if text = "--sample-config" then some (.ok .sampleConfig)
    else if text = "--trace" then none
    else if text = "--sync-memory" then some (.error (.missingValue text))
    else if IsOption text then some (.error (.unknownOption text))
    else if second then some (.error (.extraImage text))
    else none

/-- What has been said with one more item. -/
def Gathered.add (g : Gathered) (it : Item) : Gathered where
  image := it.image?.or g.image
  trace := g.trace || it == .word "--trace"
  syncMemory := it.value?.or g.syncMemory

theorem Gathered.add_sync (g : Gathered) (value : String) :
    g.add (.sync value) = { g with syncMemory := some value } := by
  simp [Gathered.add, Item.image?, Item.value?]

theorem Gathered.add_trace (g : Gathered) :
    g.add (.word "--trace") = { g with trace := true } := by
  have himage : (Item.word "--trace").image? = none := rfl
  simp [Gathered.add, himage, Item.value?]

theorem Gathered.add_image (g : Gathered) {text : String} (h : ¬ IsOption text) :
    g.add (.word text) = { g with image := some text } := by
  have hne : text ≠ "--trace" := by
    rintro rfl
    exact h (by decide)
  simp [Gathered.add, Item.image?, Item.value?, h, hne]

/-- What items ask for, given what has been said. -/
def judge (g : Gathered) : List Item → Except UsageError Command
  | [] =>
    match g.image with
    | none => .error .missingImage
    | some image => .ok (.run ⟨image, g.trace, g.syncMemory⟩)
  | it :: rest =>
    match it.offence? g.image.isSome with
    | some answer => answer
    | none => judge (g.add it) rest

/-- A word is judged by itself, then the rest is read. -/
theorem parseFrom_word (g : Gathered) {text : String} (rest : List String)
    (h : text ≠ "--sync-memory") :
    parseFrom g (text :: rest) =
      match (Item.word text).offence? g.image.isSome with
      | some answer => answer
      | none => parseFrom (g.add (.word text)) rest := by
  rw [parseFrom]
  · unfold Item.offence?
    simp only [if_neg h]
    split_ifs with h₁ h₂ h₃ h₄ h₅
    · rfl
    · rfl
    · simp only [h₃, Gathered.add_trace]
    · rfl
    · rfl
    · simp only [Gathered.add_image g h₄]
  · exact fun h' _ => h h'
  · exact fun _ _ h' _ => h h'

/-- **Arguments ask for what their items ask for.** -/
theorem parseFrom_eq (g : Gathered) (args : List String) :
    parseFrom g args = judge g (items args) := by
  induction args using items.induct generalizing g with
  | case1 => rfl
  | case2 text =>
    by_cases h : text = "--sync-memory"
    · subst h
      rfl
    · rw [parseFrom_word g [] h]
      rfl
  | case3 value rest ih =>
    rw [items, if_pos rfl]
    rw [parseFrom, ih, ← g.add_sync]
    rfl
  | case4 text value rest hne ih =>
    rw [parseFrom_word g _ hne, items, if_neg hne]
    simp only [judge, ih]

/-! ## What has been said, and what may follow -/

/-- What items have said. -/
def gathered (l : List Item) : Gathered where
  image := (images l).getLast?
  trace := l.contains (.word "--trace")
  syncMemory := (values l).getLast?

/-- What has been said is said item by item. -/
theorem gathered_append (l : List Item) (it : Item) :
    gathered (l ++ [it]) = (gathered l).add it := by
  cases h₁ : it.image? <;> cases h₂ : it.value? <;>
    simp [gathered, Gathered.add, images, values, h₁, h₂, Bool.beq_eq_decide_eq, eq_comm]

theorem isSome_image_gathered {l : List Item} :
    (gathered l).image.isSome = true ↔ images l ≠ [] := by
  simp [gathered]

/-- A word that is no option that exists. -/
theorem offence?_of_not_mem {text : String} (h : text ∉ options) (second : Bool) :
    (Item.word text).offence? second =
      if IsOption text then some (.error (.unknownOption text))
      else if second then some (.error (.extraImage text))
      else none := by
  simp only [mem_options, not_or] at h
  obtain ⟨h₁, h₂, h₃, h₄, h₅⟩ := h
  simp only [Item.offence?, h₁, h₂, h₃, h₄, h₅, or_false, if_false]

/-- Behind any items, the next one offends or is one more item of a run. -/
theorem offends_or_plain (seen : List Item) (it : Item) :
    (∃ answer, Offends seen it answer) ∨ it.Plain ∧ (images seen ≠ [] → it.image? = none) := by
  cases it with
  | sync value => exact .inr ⟨.sync value, fun _ => rfl⟩
  | word text =>
    by_cases hmem : text ∈ options
    · rcases mem_options.1 hmem with rfl | rfl | rfl | rfl | rfl
      · exact .inl ⟨_, .help (.inl rfl)⟩
      · exact .inl ⟨_, .help (.inr rfl)⟩
      · exact .inl ⟨_, .sampleConfig⟩
      · exact .inr ⟨.trace, fun _ => rfl⟩
      · exact .inl ⟨_, .missingValue⟩
    by_cases hoption : IsOption text
    · exact .inl ⟨_, .unknownOption hoption hmem⟩
    by_cases hseen : images seen = []
    · exact .inr ⟨.image hoption, fun h => absurd hseen h⟩
    · exact .inl ⟨_, .extraImage hoption hseen⟩

theorem offence?_of_offends {seen : List Item} {it : Item} {answer : Except UsageError Command}
    (h : Offends seen it answer) : it.offence? (gathered seen).image.isSome = some answer := by
  cases h with
  | help h => exact if_pos h
  | sampleConfig => rfl
  | missingValue => rfl
  | unknownOption h hunknown => rw [offence?_of_not_mem hunknown, if_pos h]
  | extraImage h hseen =>
    rw [offence?_of_not_mem (fun hmem => h (isOption_of_mem _ hmem)), if_neg h,
      if_pos (isSome_image_gathered.2 hseen)]

theorem offence?_of_plain {seen : List Item} {it : Item} (hplain : it.Plain)
    (hsecond : images seen ≠ [] → it.image? = none) :
    it.offence? (gathered seen).image.isSome = none := by
  cases hplain with
  | trace => rfl
  | sync value => rfl
  | image h =>
    rw [offence?_of_not_mem (fun hmem => h (isOption_of_mem _ hmem)), if_neg h, if_neg]
    intro hseen
    have himage := hsecond (isSome_image_gathered.1 hseen)
    rw [Item.image?, if_neg h] at himage
    cases himage

/-- The answers to single items are the answers to offences. -/
theorem offence?_eq_some_iff {seen : List Item} {it : Item} {answer : Except UsageError Command} :
    it.offence? (gathered seen).image.isSome = some answer ↔ Offends seen it answer := by
  refine ⟨fun h => ?_, offence?_of_offends⟩
  rcases offends_or_plain seen it with ⟨answer', h'⟩ | ⟨hplain, hsecond⟩
  · rw [offence?_of_offends h'] at h
    exact Option.some.inj h ▸ h'
  · rw [offence?_of_plain hplain hsecond] at h
    cases h

/-- The items without an answer of their own are those of a run. -/
theorem offence?_eq_none_iff {seen : List Item} {it : Item} :
    it.offence? (gathered seen).image.isSome = none ↔
      it.Plain ∧ (images seen ≠ [] → it.image? = none) := by
  refine ⟨fun h => ?_, fun h => offence?_of_plain h.1 h.2⟩
  rcases offends_or_plain seen it with ⟨answer, h'⟩ | h'
  · rw [offence?_of_offends h'] at h
    cases h
  · exact h'

theorem inPlace_nil : InPlace [] where
  plain := fun _ h => nomatch h
  one := Nat.zero_le 1

/-- Items stay in place until one has an answer of its own. -/
theorem inPlace_append {l : List Item} {it : Item} :
    InPlace (l ++ [it]) ↔ InPlace l ∧ it.offence? (gathered l).image.isSome = none := by
  have hlen : (images (l ++ [it])).length = (images l).length + it.image?.toList.length := by
    cases h : it.image? <;> simp [images, h]
  rw [offence?_eq_none_iff]
  constructor
  · rintro ⟨hplain, hone⟩
    refine ⟨⟨fun it' h => hplain it' (List.mem_append_left _ h), by omega⟩,
      hplain it (by simp), fun hne => ?_⟩
    have := List.length_pos_iff.2 hne
    have hzero : it.image?.toList.length = 0 := by omega
    simpa using hzero
  · rintro ⟨⟨hplain, hone⟩, hit, hsecond⟩
    refine ⟨List.forall_mem_append.2 ⟨hplain, by simpa using hit⟩, ?_⟩
    by_cases hne : images l = []
    · cases h : it.image? <;> simp [hlen, hne, h]
    · simpa [hlen, hsecond hne] using hone

/-! ## Between the recursion and the relation -/

/-- The items that are in place are passed over. -/
theorem judge_append {l : List Item} (post : List Item) (h : InPlace l) :
    judge {} (l ++ post) = judge (gathered l) post := by
  induction l using List.reverseRecOn generalizing post with
  | nil => rfl
  | append_singleton l it ih =>
    obtain ⟨hl, hit⟩ := inPlace_append.1 h
    rw [List.append_assoc, ih _ hl, gathered_append, List.singleton_append, judge, hit]

/-- The recursion answers as the relation says. -/
theorem meaning_judge {seen : List Item} (l : List Item) (h : InPlace seen) :
    Meaning (seen ++ l) (judge (gathered seen) l) := by
  induction l generalizing seen with
  | nil =>
    rw [List.append_nil]
    have hone := h.one
    rcases himage : images seen with - | ⟨image, - | ⟨other, others⟩⟩
    · simp only [judge, gathered, himage, List.getLast?_nil]
      exact .missingImage h.plain himage
    · simp only [judge, gathered, himage, List.getLast?_singleton]
      exact .run h.plain himage List.contains_iff_mem rfl
    · simp [himage] at hone
  | cons it rest ih =>
    unfold judge
    cases hit : it.offence? (gathered seen).image.isSome with
    | some answer => exact .offence rfl h (offence?_eq_some_iff.1 hit)
    | none =>
      have := ih (inPlace_append.2 ⟨h, hit⟩)
      rwa [← List.append_cons, gathered_append] at this

/-- The relation leaves no other answer than the one of the recursion. -/
theorem judge_of_meaning {l : List Item} {answer : Except UsageError Command}
    (h : Meaning l answer) : judge {} l = answer := by
  cases h with
  | @run o hplain himage htrace hsync =>
    have htrace' : l.contains (.word "--trace") = o.trace :=
      Bool.eq_iff_iff.2 (List.contains_iff_mem.trans htrace.symm)
    rw [← List.append_nil l, judge_append [] ⟨hplain, by simp [himage]⟩]
    simp only [judge, gathered, himage, List.getLast?_singleton, htrace', ← hsync]
  | offence hl hpre h =>
    rw [hl, judge_append _ hpre, judge, offence?_eq_some_iff.2 h]
  | missingImage hplain himage =>
    rw [← List.append_nil l, judge_append [] ⟨hplain, by simp [himage]⟩]
    simp only [judge, gathered, himage, List.getLast?_nil]

/-- **The command line has a grammar.** Every argument belongs to one item of the list, and only
the last item can be the option that lacks its value. The arguments ask for a run exactly if all
items are those of a run and one of them is an image: that image is run, with the log if it is
turned on anywhere, and with the file that is named last. In all cases the answer is the meaning of
the items, which is the first offence if there is any. -/
theorem parse_grammar (args : List String) :
    (items args).flatMap Item.arguments = args ∧
    (∀ pre post, items args = pre ++ .word "--sync-memory" :: post → post = []) ∧
    (∀ o : RunOptions, parse args = .ok (.run o) ↔
      (∀ it ∈ items args, it.Plain) ∧ images (items args) = [o.image] ∧
      (o.trace = true ↔ .word "--trace" ∈ items args) ∧
      o.syncMemory = (values (items args)).getLast?) ∧
    (∀ answer, parse args = answer ↔ Meaning (items args) answer) := by
  have hmeaning : ∀ answer, parse args = answer ↔ Meaning (items args) answer := by
    intro answer
    rw [parse, parseFrom_eq]
    constructor
    · rintro rfl
      exact meaning_judge (items args) inPlace_nil
    · exact judge_of_meaning
  refine ⟨arguments_items args, fun _ _ => items_missingValue, fun o => ?_, hmeaning⟩
  rw [hmeaning]
  constructor
  · intro h
    cases h with
    | run hplain himage htrace hsync => exact ⟨hplain, himage, htrace, hsync⟩
    | offence _ _ h => cases h
  · rintro ⟨hplain, himage, htrace, hsync⟩
    exact .run hplain himage htrace hsync

/-- An option that is taken for a file name, and the same option where no file name is due. -/
theorem parse_grammar_swallowed :
    parse ["--sync-memory", "--help", "a.obj", "--trace"] =
      .ok (.run ⟨"a.obj", true, some "--help"⟩) ∧
    parse ["b.obj", "--sync-memory", "--trace", "--help", "--frob"] = .ok .help := by
  refine ⟨((parse_grammar _).2.2.1 _).2 ⟨?_, rfl, by decide, rfl⟩,
    ((parse_grammar _).2.2.2 _).2 ?_⟩
  · have hitems : items ["--sync-memory", "--help", "a.obj", "--trace"] =
        [.sync "--help", .word "a.obj", .word "--trace"] := rfl
    rw [hitems]
    simp only [List.forall_mem_cons]
    exact ⟨.sync "--help", .image (by decide), .trace, nofun⟩
  · have hpre : InPlace [.word "b.obj", .sync "--trace"] := by
      refine ⟨?_, by decide⟩
      simp only [List.forall_mem_cons]
      exact ⟨.image (by decide), .sync "--trace", nofun⟩
    have hitems : items ["b.obj", "--sync-memory", "--trace", "--help", "--frob"] =
        [.word "b.obj", .sync "--trace"] ++ .word "--help" :: [.word "--frob"] := rfl
    exact .offence hitems hpre (.help (.inl rfl))

end Command

end LC3
