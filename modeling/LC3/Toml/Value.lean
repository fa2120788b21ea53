/-!
# TOML values

- `Value`: what stands to the right of an equals sign.
- `Item`: what a key of a document leads to: a value, a table or an array of tables.
- `Error`: why a text is not a TOML document.
-/

namespace LC3.Toml

/-- Why a text is not a TOML document. -/
inductive Error where
  /-- The text does not follow the grammar. -/
  | malformed
  /-- A number does not fit. -/
  | outOfRange
  /-- Arrays, inline tables or keys go too deep. -/
  | tooDeep
  /-- A key is defined twice. -/
  | duplicate (key : String)
  /-- A key on the way to another one is not that of a table. -/
  | notTable (key : String)
  deriving DecidableEq, Repr

/-- What reads the front of a text: it gives what that means, and the text behind it. -/
abbrev Reader (α : Type) := List Char → Except Error (α × List Char)

/-- A value. Numbers with a fraction and points in time are kept as they are written. -/
inductive Value where
  /-- A string. -/
  | string (text : String)
  /-- An integer of 64 bits. -/
  | integer (n : Int)
  /-- A number with a fraction or an exponent. -/
  | float (text : String)
  /-- True or false. -/
  | boolean (b : Bool)
  /-- A date, a time, or both. -/
  | dateTime (text : String)
  /-- An array. -/
  | array (items : List Value)
  /-- A table between braces. A table that only dotted keys have named may be extended by
  more of them, as long as the braces are open. -/
  | inlineTable (dotted : Bool) (entries : List (String × Value))

/-- How a table of a document came to be. -/
inductive Origin where
  /-- It has a header of its own, or it is the document. -/
  | header
  /-- It was named on the way to another header. -/
  | implied
  /-- It was named by a dotted key. -/
  | dotted
  deriving DecidableEq, Repr

/-- What a key leads to. -/
inductive Item where
  /-- A value. -/
  | value (v : Value)
  /-- A table. -/
  | table (origin : Origin) (entries : List (String × Item))
  /-- Tables that share a header. -/
  | tables (elements : List (List (String × Item)))

/-- The keys of a table with what they lead to. -/
abbrev Entries := List (String × Item)

/-- The entries with what `key`, which is among them, leads to replaced. -/
def replace {α : Type} (key : String) (new : α) (entries : List (String × α)) :
    List (String × α) :=
  entries.map fun (k, old) => if k = key then (k, new) else (k, old)

end LC3.Toml
