import LC3.Toml.Scalar
import LC3.Toml.Table

/-!
# TOML documents

- `value`: a value of any kind, with arrays and tables nested to a given depth.
- `Document.parse`: the entries of a document.
-/

namespace LC3.Toml

/-- One more than the deepest nesting of arrays and tables between braces, and than the most
parts of a key. -/
def depthLimit : Nat := 80

/-! ## Keys -/

/-- One part of a key. -/
def simpleKey : Reader String := fun cs =>
  match lineString? cs with
  | some result => result
  | none =>
    let name := cs.takeWhile isBare
    if name.isEmpty then .error .malformed
    else .ok (String.ofList name, cs.dropWhile isBare)

/-- The parts of a key between dots, at most `limit` of them, with blanks around each. -/
def keyParts (cs : List Char) : Nat → Except Error (List String × List Char)
  | 0 => .error .tooDeep
  | limit + 1 => do
    let (first, cs) ← simpleKey (skipBlanks cs)
    match skipBlanks cs with
    | '.' :: rest =>
      let (more, cs) ← keyParts rest limit
      return (first :: more, cs)
    | cs => return ([first], cs)

/-- A key: the parts before the last dot, and the last part. -/
structure Key where
  /-- The tables on the way. -/
  path : List String
  /-- The name in the last of them. -/
  name : String

/-- The key in front of a text. -/
def key (cs : List Char) : Except Error (Key × List Char) := do
  let (parts, cs) ← keyParts cs (depthLimit - 1)
  return (⟨parts.dropLast, parts.getLastD ""⟩, cs)

/-- The text behind a character that must be in front. -/
def expect (c : Char) (cs : List Char) : Except Error (List Char) :=
  match after? c cs with
  | some rest => .ok rest
  | none => .error .malformed

/-- A key, an equals sign and a value, given how values are read. -/
def keyValue (item : Reader Value) (cs : List Char) :
    Except Error ((Key × Value) × List Char) := do
  let (k, cs) ← key cs
  let (v, cs) ← item (skipBlanks (← expect '=' cs))
  return ((k, v), cs)

/-! ## Arrays and tables between braces -/

/-- A text without the blanks, line ends and comments in front, where `comment` says whether
it begins inside a comment. A comment must end with its line. -/
def skipLines (comment : Bool) : List Char → Except Error (List Char)
  | [] => if comment then .error .malformed else .ok []
  | '\n' :: rest => skipLines false rest
  | '\r' :: '\n' :: rest => skipLines false rest
  | c :: rest =>
    if comment then if isInline c then skipLines true rest else .error .malformed
    else if isBlank c then skipLines false rest
    else if c == '#' then skipLines true rest
    else if c == '\r' then .error .malformed
    else .ok (c :: rest)

/-- The items of an array up to its closing bracket, at most `limit` of them. A comma may
stand behind the last one. -/
def arrayItems (item : Reader Value) (cs : List Char) :
    Nat → Except Error (List Value × List Char)
  | 0 => .error .malformed
  | limit + 1 => do
    match ← skipLines false cs with
    | ']' :: rest => return ([], rest)
    | cs =>
      let (v, cs) ← item cs
      match ← skipLines false cs with
      | ',' :: rest =>
        let (more, cs) ← arrayItems item rest limit
        return (v :: more, cs)
      | ']' :: rest => return ([v], rest)
      | _ => .error .malformed

/-- The entries of a table between braces up to the closing one, at most `limit` of them,
behind those in `entries`. -/
def inlineEntries (item : Reader Value) (entries : List (String × Value)) (cs : List Char) :
    Nat → Except Error (List (String × Value) × List Char)
  | 0 => .error .malformed
  | limit + 1 => do
    let ((k, v), cs) ← keyValue item cs
    let entries ← assignInline entries k.name v k.path
    match skipBlanks cs with
    | ',' :: rest => inlineEntries item entries rest limit
    | '\x7d' :: rest => return (entries, rest)
    | _ => .error .malformed

/-- A value that is neither an array nor a table. -/
def flatValue : Reader Value := fun cs =>
  match string? cs with
  | some (.ok (text, rest)) => .ok (.string text, rest)
  | some (.error e) => .error e
  | none => scalar cs

/-- A value in which arrays and tables between braces nest to at most `depth`. -/
def value (cs : List Char) (depth : Nat) : Except Error (Value × List Char) :=
  match depth, cs with
  | 0, '[' :: _ => .error .tooDeep
  | 0, '\x7b' :: _ => .error .tooDeep
  | depth + 1, '[' :: rest => do
    let (items, cs) ← arrayItems (value · depth) rest (rest.length + 1)
    return (.array items, cs)
  | depth + 1, '\x7b' :: rest =>
    match skipBlanks rest with
    | '\x7d' :: rest => .ok (.inlineTable false [], rest)
    | cs => do
      let (entries, cs) ← inlineEntries (value · depth) [] cs cs.length
      return (.inlineTable false entries, cs)
  | _, cs => flatValue cs

/-! ## Lines -/

/-- The text behind the end of a line, on which only blanks and a comment may be left. -/
def finishLine (cs : List Char) : Except Error (List Char) :=
  match lineEnd? (skipComment (skipBlanks cs)) with
  | some rest => .ok rest
  | none => .error .malformed

/-- A document that has been read in part: its entries and the table that the latest header
named. -/
structure Document where
  /-- The entries. -/
  entries : Entries
  /-- The path of the table that keys belong to. -/
  table : List String

namespace Document

/-- The document after a header, given what comes behind its opening bracket. -/
def header (d : Document) (cs : List Char) : Except Error (Document × List Char) := do
  let (k, cs) ← key cs
  let cs ← finishLine (← expect ']' cs)
  return (⟨← define d.entries k.path k.name, k.path ++ [k.name]⟩, cs)

/-- The document after a header of an array of tables, given what comes behind its opening
brackets. -/
def arrayHeader (d : Document) (cs : List Char) : Except Error (Document × List Char) := do
  let (k, cs) ← key cs
  let cs ← finishLine (← expect ']' (← expect ']' cs))
  return (⟨← append d.entries k.path k.name, k.path ++ [k.name]⟩, cs)

/-- The document after a key and its value. -/
def entry (d : Document) (cs : List Char) : Except Error (Document × List Char) := do
  let ((k, v), cs) ← keyValue (value · (depthLimit - 1)) cs
  let cs ← finishLine cs
  return ({ d with entries := ← assign d.entries d.table k.path k.name v }, cs)

/-- The document after the line in front of a text. -/
def line (d : Document) (cs : List Char) : Except Error (Document × List Char) :=
  match skipBlanks cs with
  | [] => .ok (d, [])
  | '\n' :: rest => .ok (d, rest)
  | '\r' :: rest => do return (d, ← expect '\n' rest)
  | '#' :: rest => do return (d, ← finishLine ('#' :: rest))
  | '[' :: '[' :: rest => d.arrayHeader rest
  | '[' :: rest => d.header rest
  | cs => d.entry cs

/-- The document after all lines of a text, at most `limit` of them. -/
def lines (d : Document) (cs : List Char) : Nat → Except Error Document
  | 0 => if cs.isEmpty then .ok d else .error .malformed
  | limit + 1 => do
    let (d, cs) ← d.line cs
    if cs.isEmpty then .ok d else d.lines cs limit

/-- The entries of a document. A byte order mark in front does not count. -/
def parse (text : String) : Except Error Entries := do
  let cs := match text.toList with
    | '\ufeff' :: rest => rest
    | cs => cs
  let d ← lines ⟨[], []⟩ cs cs.length
  return d.entries

end Document

end LC3.Toml
