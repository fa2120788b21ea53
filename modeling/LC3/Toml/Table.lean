import LC3.Toml.Value

/-!
# How tables of TOML come together

A document fills tables from several places: headers, headers of arrays of tables, and dotted
keys. What was once closed must not be opened again: a header names each table once, a dotted
key extends no table that has a header, and nothing extends a value.

- `define`: a header.
- `append`: a header of an array of tables.
- `assign`: a key of the table that the latest header named.
- `assignInline`: a key of a table between braces.
-/

namespace LC3.Toml

/-- What to do with a table, which came to be in a given way. -/
abbrev Change := Origin → Entries → Except Error Entries

/-- Change the table that `path` leads to from the given one. Tables that do not exist yet
come to be on the way. A step into an array of tables is one into its last element. -/
def descend (dotted : Bool) (change : Change) (origin : Origin) (entries : Entries) :
    List String → Except Error Entries
  | [] => change origin entries
  | key :: path =>
    match entries.lookup key with
    | none => do
      let fresh := if dotted then .dotted else .implied
      let inner ← descend dotted change fresh [] path
      return entries ++ [(key, .table fresh inner)]
    | some (.value _) => .error (.notTable key)
    | some (.table inside old) =>
      if dotted ∧ inside = .header then .error (.duplicate key)
      else do
        let inner ← descend dotted change inside old path
        return replace key (.table inside inner) entries
    | some (.tables elements) =>
      match elements.getLast? with
      | none => .error (.notTable key)
      | some last => do
        let inner ← descend dotted change .header last path
        return replace key (.tables (elements.dropLast ++ [inner])) entries

/-- The document after the header of a table. -/
def define (document : Entries) (path : List String) (key : String) :
    Except Error Entries :=
  descend false
    (fun _ entries =>
      match entries.lookup key with
      | none => .ok (entries ++ [(key, .table .header [])])
      | some (.table .implied inner) => .ok (replace key (.table .header inner) entries)
      | some _ => .error (.duplicate key))
    .header document path

/-- The document after the header of an array of tables, which begins one more element. -/
def append (document : Entries) (path : List String) (key : String) :
    Except Error Entries :=
  descend false
    (fun _ entries =>
      match entries.lookup key with
      | none => .ok (entries ++ [(key, .tables [[]])])
      | some (.tables elements) => .ok (replace key (.tables (elements ++ [[]])) entries)
      | some _ => .error (.duplicate key))
    .header document path

/-- Put a value under a new key into a table. Behind dots the table must be one that only
dotted keys have named. -/
def insertNew (dotted : Bool) (key : String) (value : Value) : Change := fun origin entries =>
  if dotted ∧ origin ≠ .dotted then .error (.duplicate key)
  else if (entries.lookup key).isSome then .error (.duplicate key)
  else .ok (entries ++ [(key, .value value)])

/-- The document after a key of the table that the header `section` named. -/
def assign (document : Entries) (table path : List String) (key : String) (value : Value) :
    Except Error Entries :=
  descend false
    (fun origin entries =>
      descend true (insertNew (!path.isEmpty) key value) origin entries path)
    .header document table

/-- The entries of a table between braces after one more key. -/
def assignInline (entries : List (String × Value)) (key : String) (value : Value) :
    List String → Except Error (List (String × Value))
  | [] =>
    if (entries.lookup key).isSome then .error (.duplicate key)
    else .ok (entries ++ [(key, value)])
  | step :: path =>
    match entries.lookup step with
    | none => do
      let inner ← assignInline [] key value path
      return entries ++ [(step, .inlineTable true inner)]
    | some (.inlineTable true old) => do
      let inner ← assignInline old key value path
      return replace step (.inlineTable true inner) entries
    | some (.inlineTable false _) => .error (.duplicate step)
    | some _ => .error (.notTable step)

end LC3.Toml
