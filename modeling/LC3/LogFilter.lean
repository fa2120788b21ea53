import LC3.Event
import LC3.Text.Blank

/-!
# Filters of the log

A filter is a list of directives between commas. A directive gives a level to the part of the
program that it names, or to all of it if it names none. The log knows no parts, so only
directives that reach the whole program count.

- `LogFilter.directives`: what a filter says.
- `LogFilter.level`: the least urgent level that is shown.
-/

namespace LC3.LogFilter

/-- What a filter says of a part of the program. -/
structure Directive where
  /-- The beginning of the names of its parts. -/
  target : String
  /-- The least urgent level that is shown. Without one nothing is. -/
  level : Option Level

/-- A text without the blanks around it. -/
def bare (text : String) : String := String.ofList (Text.trim text.toList)

/-- The level of a name in any case, if it is one. There is a name for no level at all. -/
def level? (name : String) : Option (Option Level) :=
  if name.toUpper = "OFF" then some none else (Level.ofName? name.toUpper).map some

/-- What a directive says. A name without a level shows everything, and a level that makes no
sense spoils its directive. -/
def directive? (text : String) : Option Directive :=
  match text.splitOn "=" with
  | [word] => some ((level? word).elim ⟨word, some .trace⟩ (⟨"", ·⟩))
  | [target, name] =>
    if bare name = "" then some ⟨target, some .trace⟩ else (level? (bare name)).map (⟨target, ·⟩)
  | _ => none

/-- The directives of a filter. Behind a slash stands a pattern, which does not count here; with
two of them nothing counts. -/
def directives (filter : String) : List Directive :=
  match filter.splitOn "/" with
  | [text] | [text, _] =>
    (((text.splitOn ",").map bare).filter (· != "")).filterMap directive?
  | _ => []

/-- The name of the whole program. -/
def program : String := "lc3_vmm"

/-- The directive of two that decides: the one with the longer name, or else the later one. -/
def narrower (d d' : Directive) : Directive :=
  if d'.target.length < d.target.length then d else d'

/-- The least urgent level that is shown. A filter that says nothing shows errors. -/
def level (filter : String) : Option Level :=
  match directives filter with
  | [] => some .error
  | ds =>
    match ds.filter (program.startsWith ·.target) with
    | [] => none
    | d :: rest => (rest.foldl narrower d).level

end LC3.LogFilter
