import LC3.Toml.Value

/-!
# Characters and strings of TOML

Strings come in four styles: between double or single quotes, on one line or, with the quotes
tripled, on several. A string is read one character at a time; a `Mode` says what has been met
just before.

- `isInline`, `isBlank`, `isBare`, `isHexDigit`: the character classes.
- `string`: the text of a string, given what comes behind its opening quotes.
-/

namespace LC3.Toml

/-! ## Characters -/

/-- Whether `c` may separate things on a line. -/
def isBlank (c : Char) : Bool := c == ' ' || c == '\t'

/-- Whether `c` may stand in a comment or a string: anything but a control character, and
the tab. -/
def isInline (c : Char) : Bool := c == '\t' || (c.toNat ≥ 0x20 && c.toNat != 0x7F)

/-- Whether `c` may stand in a key without quotes. -/
def isBare (c : Char) : Bool := c.isAlphanum || c == '_' || c == '-'

/-- The value of a hexadecimal digit. -/
def hexDigit? (c : Char) : Option Nat :=
  if c.isDigit then some (c.toNat - 0x30)
  else if 'a' ≤ c ∧ c ≤ 'f' then some (c.toNat - 0x61 + 10)
  else if 'A' ≤ c ∧ c ≤ 'F' then some (c.toNat - 0x41 + 10)
  else none

/-- A text without the blanks in front. -/
def skipBlanks (cs : List Char) : List Char := cs.dropWhile isBlank

/-- The text behind a line end, which may also be the end of the text. -/
def lineEnd? : List Char → Option (List Char)
  | [] => some []
  | '\n' :: rest => some rest
  | '\r' :: '\n' :: rest => some rest
  | _ => none

/-- A text without the comment that may stand in front. -/
def skipComment : List Char → List Char
  | '#' :: rest => rest.dropWhile isInline
  | cs => cs

/-! ## Strings -/

/-- A style of strings. -/
structure Style where
  /-- The character that delimits the string. -/
  quote : Char
  /-- Whether three of them do, and lines may end inside. -/
  multiline : Bool
  /-- Whether a backslash escapes. -/
  escapes : Bool

/-- What has been met in a string just before. -/
inductive Mode where
  /-- Nothing special. -/
  | plain
  /-- So many quotes of a string that ends with three. -/
  | quotes (count : Nat)
  /-- A carriage return, which only a line feed may follow. -/
  | carriage
  /-- A backslash. -/
  | escape
  /-- An escaped number of which so many digits are owed. -/
  | number (owed value : Nat)
  /-- A backslash and blanks, which the end of the line must follow. -/
  | fold
  /-- The same and a carriage return. -/
  | foldCarriage
  /-- A line end after a backslash; blanks and line ends that follow are dropped. -/
  | folded
  /-- The same and a carriage return. -/
  | foldedCarriage

namespace Style

/-- The mode after an ordinary character, and the characters that it adds to the text. -/
def stepPlain (s : Style) (c : Char) : Option (Mode × List Char) :=
  if c == s.quote then some (.quotes 1, [])
  else if s.escapes && c == '\\' then some (.escape, [])
  else if isInline c then some (.plain, [c])
  else if s.multiline && c == '\n' then some (.plain, ['\n'])
  else if s.multiline && c == '\r' then some (.carriage, [])
  else none

/-- The mode after the character behind a backslash, and what it adds. -/
def stepEscape (s : Style) (c : Char) : Option (Mode × List Char) :=
  match c with
  | 'b' => some (.plain, ['\x08'])
  | 't' => some (.plain, ['\t'])
  | 'n' => some (.plain, ['\n'])
  | 'f' => some (.plain, ['\x0c'])
  | 'r' => some (.plain, ['\r'])
  | '\x22' => some (.plain, ['\x22'])
  | '\\' => some (.plain, ['\\'])
  | 'u' => some (.number 4 0, [])
  | 'U' => some (.number 8 0, [])
  | c =>
    if s.multiline && isBlank c then some (.fold, [])
    else if s.multiline && c == '\n' then some (.folded, [])
    else if s.multiline && c == '\r' then some (.foldCarriage, [])
    else none

/-- The mode after a digit of an escaped number, and the character if it was the last one.
The number must be that of a character. -/
def stepNumber (owed value : Nat) (c : Char) : Option (Mode × List Char) :=
  match hexDigit? c with
  | none => none
  | some d =>
    let value := value * 16 + d
    if owed > 1 then some (.number (owed - 1) value, [])
    else if value.isValidChar then some (.plain, [Char.ofNat value])
    else none

/-- The mode after one more character, and the characters that it adds. -/
def step (s : Style) (mode : Mode) (c : Char) : Option (Mode × List Char) :=
  match mode with
  | .plain => s.stepPlain c
  | .quotes count =>
    if c == s.quote then if count < 5 then some (.quotes (count + 1), []) else none
    else (s.stepPlain c).map fun (mode, added) => (mode, List.replicate count s.quote ++ added)
  | .carriage => if c == '\n' then some (.plain, ['\n']) else none
  | .escape => s.stepEscape c
  | .number owed value => stepNumber owed value c
  | .fold =>
    if isBlank c then some (.fold, [])
    else if c == '\n' then some (.folded, [])
    else if c == '\r' then some (.foldCarriage, [])
    else none
  | .folded =>
    if isBlank c || c == '\n' then some (.folded, [])
    else if c == '\r' then some (.foldedCarriage, [])
    else s.stepPlain c
  | .foldCarriage | .foldedCarriage => if c == '\n' then some (.folded, []) else none

/-- Whether the string is complete in a mode, unless one more quote follows, and how many of
the quotes met belong to the text. -/
def closed? (s : Style) : Mode → Option Nat
  | .quotes count =>
    if s.multiline then if 3 ≤ count then some (count - 3) else none
    else if count = 1 then some 0 else none
  | _ => none

/-- Whether character `c` goes on with a string that is complete otherwise. -/
def continues (s : Style) (c : Char) : Bool := s.multiline && c == s.quote

/-- Read on in a mode. `taken` holds the text so far, last character first. -/
def readFrom (s : Style) (mode : Mode) (taken : List Char) : Reader String
  | [] =>
    match s.closed? mode with
    | some extra => .ok (String.ofList (List.replicate extra s.quote ++ taken).reverse, [])
    | none => .error .malformed
  | c :: rest =>
    match s.closed? mode, s.continues c with
    | some extra, false =>
      .ok (String.ofList (List.replicate extra s.quote ++ taken).reverse, c :: rest)
    | _, _ =>
      match s.step mode c with
      | none => .error .malformed
      | some (mode, added) => readFrom s mode (added.reverse ++ taken) rest

end Style

/-- The style of basic strings. -/
def Style.basic (multiline : Bool) : Style := ⟨'\x22', multiline, true⟩

/-- The style of literal strings. -/
def Style.literal (multiline : Bool) : Style := ⟨'\x27', multiline, false⟩

/-- The rest of a string on one line, given what comes behind its opening quote. -/
def Style.line (s : Style) : Reader String := s.readFrom .plain []

/-- The rest of a string on several lines, given what comes behind its opening quotes. A line
end right behind them does not count. -/
def Style.lines (s : Style) : Reader String
  | '\n' :: rest => s.readFrom .plain [] rest
  | '\r' :: '\n' :: rest => s.readFrom .plain [] rest
  | cs => s.readFrom .plain [] cs

/-- A string of any style, if there is one in front. -/
def string? : List Char → Option (Except Error (String × List Char))
  | '\x22' :: '\x22' :: '\x22' :: rest => some ((Style.basic true).lines rest)
  | '\x22' :: rest => some ((Style.basic false).line rest)
  | '\x27' :: '\x27' :: '\x27' :: rest => some ((Style.literal true).lines rest)
  | '\x27' :: rest => some ((Style.literal false).line rest)
  | _ => none

/-- A string on one line, as a key may be, if there is one in front. -/
def lineString? : List Char → Option (Except Error (String × List Char))
  | '\x22' :: rest => some ((Style.basic false).line rest)
  | '\x27' :: rest => some ((Style.literal false).line rest)
  | _ => none

end LC3.Toml
