import LC3.Toml.Text

/-!
# Numbers, dates and words of TOML

A value that begins neither with a quote nor with a bracket is one run of letters, digits and
signs, except that a blank may stand between a date and a time. Each form below is recognised
on the whole run.

- `integer?`, `float?`, `dateTime?`: the forms.
- `scalar`: the value in front of a text.
-/

namespace LC3.Toml

/-- Whether `c` may stand in a number, a date or a word. -/
def isScalar (c : Char) : Bool :=
  c.isAlphanum || c == '_' || c == '-' || c == '+' || c == '.' || c == ':'

/-! ## Digits -/

/-- The digits of a run, in which single underscores may stand between digits. `after` says
whether a digit has just been met. -/
def groupedFrom (isDigit : Char → Bool) (after : Bool) : List Char → Option (List Char)
  | [] => if after then some [] else none
  | c :: rest =>
    if c == '_' then if after then groupedFrom isDigit false rest else none
    else if isDigit c then (groupedFrom isDigit true rest).map (c :: ·)
    else none

/-- The digits of a run of at least one of them. -/
def grouped (isDigit : Char → Bool) (cs : List Char) : Option (List Char) :=
  groupedFrom isDigit false cs

/-- The number that digits of a base stand for. -/
def valueOf (base : Nat) (digits : List Char) : Nat :=
  digits.foldl (fun n c => n * base + (hexDigit? c).getD 0) 0

/-- The digits of a decimal number, which begin with zero only if there is no other. -/
def decimal (cs : List Char) : Option (List Char) :=
  match grouped Char.isDigit cs with
  | some ('0' :: _ :: _) => none
  | digits => digits

/-- Whether a number begins with a minus sign, and the number without its sign. -/
def sign : List Char → Bool × List Char
  | '-' :: rest => (true, rest)
  | '+' :: rest => (false, rest)
  | cs => (false, cs)

/-! ## Integers -/

/-- An integer as a value, if it has 64 bits. -/
def bounded (n : Int) : Except Error Value :=
  if Int64.minValue.toInt ≤ n ∧ n ≤ Int64.maxValue.toInt then .ok (.integer n)
  else .error .outOfRange

/-- An integer of another base than ten. -/
def based (base : Nat) (isDigit : Char → Bool) (cs : List Char) : Except Error Value :=
  match grouped isDigit cs with
  | some digits => bounded (valueOf base digits)
  | none => .error .malformed

/-- Whether `c` is a digit of base two. -/
def isBinary (c : Char) : Bool := c == '0' || c == '1'

/-- Whether `c` is a digit of base eight. -/
def isOctal (c : Char) : Bool := '0' ≤ c && c ≤ '7'

/-- Whether `c` is a digit of base sixteen. -/
def isHexadecimal (c : Char) : Bool := (hexDigit? c).isSome

/-- An integer. -/
def integer? (cs : List Char) : Option (Except Error Value) :=
  match cs with
  | '0' :: 'x' :: rest => some (based 16 isHexadecimal rest)
  | '0' :: 'o' :: rest => some (based 8 isOctal rest)
  | '0' :: 'b' :: rest => some (based 2 isBinary rest)
  | cs =>
    let (negative, magnitude) := sign cs
    (decimal magnitude).map fun digits =>
      let n : Int := valueOf 10 digits
      bounded (if negative then -n else n)

/-! ## Numbers with a fraction or an exponent -/

/-- The least natural number that rounds to infinity in 64 bits. -/
def infinityThreshold : Nat := (1 <<< 1024) - (1 <<< 970)

/-- Whether `m * 10 ^ e` is beyond the finite numbers of 64 bits, rounding to nearest. -/
def overflows (m : Nat) (e : Int) : Bool :=
  let size : Int := (Nat.toDigits 10 m).length + e
  if m = 0 ∨ size < 300 then false
  else if size > 310 then true
  else if 0 ≤ e then infinityThreshold ≤ m * Nat.pow 10 e.toNat
  else infinityThreshold * Nat.pow 10 (-e).toNat ≤ m

/-- The parts of a number: before the point, behind it, and the exponent. -/
structure Parts where
  /-- The digits before the point. -/
  whole : List Char
  /-- The digits behind the point. -/
  fraction : List Char
  /-- The exponent. -/
  exponent : Int

/-- The exponent behind its letter. -/
def exponent? (cs : List Char) : Option Int :=
  let (negative, magnitude) := sign cs
  (grouped Char.isDigit magnitude).map fun digits =>
    let n : Int := valueOf 10 digits
    if negative then -n else n

/-- Whether `c` introduces an exponent. -/
def isExponentMark (c : Char) : Bool := c == 'e' || c == 'E'

/-- The parts of a number that has a fraction or an exponent. -/
def parts? (cs : List Char) : Option Parts :=
  let mantissa := cs.takeWhile (!isExponentMark ·)
  let whole := mantissa.takeWhile (· != '.')
  match decimal whole, mantissa.drop whole.length, cs.drop mantissa.length with
  | some digits, [], _ :: power => (exponent? power).map (⟨digits, [], ·⟩)
  | some digits, _ :: fraction, [] =>
    (grouped Char.isDigit fraction).map (⟨digits, ·, 0⟩)
  | some digits, _ :: fraction, _ :: power =>
    match grouped Char.isDigit fraction, exponent? power with
    | some fraction, some e => some ⟨digits, fraction, e⟩
    | _, _ => none
  | _, _, _ => none

/-- A number with a fraction or an exponent, or one of the words for those that are none. A
number so great that it would be infinite is refused unless it is negative. -/
def float? (cs : List Char) : Option (Except Error Value) :=
  let (negative, magnitude) := sign cs
  let value := Value.float (String.ofList cs)
  if magnitude = ['i', 'n', 'f'] ∨ magnitude = ['n', 'a', 'n'] then some (.ok value)
  else
    (parts? magnitude).map fun p =>
      let m := valueOf 10 (p.whole ++ p.fraction)
      let e := p.exponent - Int.ofNat p.fraction.length
      if !negative && overflows m e then .error .outOfRange else .ok value

/-! ## Dates and times -/

/-- The number in front, of `count` decimal digits, if it lies in the bounds. -/
def fixed? (count low high : Nat) (cs : List Char) : Option (Nat × List Char) :=
  let digits := cs.take count
  let n := valueOf 10 digits
  if digits.length = count ∧ digits.all Char.isDigit ∧ low ≤ n ∧ n ≤ high then
    some (n, cs.drop count)
  else none

/-- The text behind a character, if it is in front. -/
def after? (c : Char) : List Char → Option (List Char)
  | d :: rest => if d = c then some rest else none
  | [] => none

/-- The number of days of a month. -/
def daysOf (year month : Nat) : Nat :=
  if month = 2 then
    if year % 4 = 0 ∧ (year % 100 ≠ 0 ∨ year % 400 = 0) then 29 else 28
  else if month = 4 ∨ month = 6 ∨ month = 9 ∨ month = 11 then 30
  else 31

/-- The text behind a date. -/
def date? (cs : List Char) : Option (List Char) := do
  let (year, cs) ← fixed? 4 0 9999 cs
  let (month, cs) ← fixed? 2 1 12 (← after? '-' cs)
  let (_, cs) ← fixed? 2 1 (daysOf year month) (← after? '-' cs)
  return cs

/-- The text behind a time, whose seconds may have a fraction. -/
def time? (cs : List Char) : Option (List Char) := do
  let (_, cs) ← fixed? 2 0 23 cs
  let (_, cs) ← fixed? 2 0 59 (← after? ':' cs)
  let (_, cs) ← fixed? 2 0 60 (← after? ':' cs)
  match after? '.' cs with
  | none => return cs
  | some fraction =>
    if (fraction.takeWhile Char.isDigit).isEmpty then none
    else return fraction.dropWhile Char.isDigit

/-- Whether the text is the distance of a local time from universal time, or nothing. -/
def isOffset (cs : List Char) : Bool :=
  match cs with
  | [] => true
  | ['Z'] => true
  | ['z'] => true
  | c :: rest =>
    (c == '+' || c == '-') &&
      match fixed? 2 0 23 rest with
      | none => false
      | some (_, rest) =>
        match (after? ':' rest).bind (fixed? 2 0 59) with
        | some (_, []) => true
        | _ => false

/-- Whether the text is a time with or without an offset. -/
def isOffsetTime (cs : List Char) : Bool :=
  match time? cs with
  | some rest => isOffset rest
  | none => false

/-- A date, a time, or a date with a time behind a letter. -/
def dateTime? (cs : List Char) : Option Value :=
  let value := Value.dateTime (String.ofList cs)
  match date? cs with
  | some [] => some value
  | some (c :: rest) => if (c == 'T' || c == 't') && isOffsetTime rest then some value else none
  | none =>
    match time? cs with
    | some [] => some value
    | _ => none

/-! ## Values -/

/-- The value that a run of characters stands for. -/
def scalarOf (run : List Char) : Except Error Value :=
  if run = ['t', 'r', 'u', 'e'] then .ok (.boolean true)
  else if run = ['f', 'a', 'l', 's', 'e'] then .ok (.boolean false)
  else
    match dateTime? run with
    | some value => .ok value
    | none =>
      match float? run with
      | some value => value
      | none =>
        match integer? run with
        | some value => value
        | none => .error .malformed

/-- The value in front of a text. Behind a date comes a time after one blank, if it can. -/
def scalar : Reader Value := fun cs =>
  let run := cs.takeWhile isScalar
  let rest := cs.dropWhile isScalar
  match date? run, rest with
  | some [], ' ' :: more =>
    let time := more.takeWhile isScalar
    if isOffsetTime time then
      .ok (.dateTime (String.ofList (run ++ ' ' :: time)), more.dropWhile isScalar)
    else (scalarOf run).map (·, rest)
  | _, _ => (scalarOf run).map (·, rest)

end LC3.Toml
