import SolutionSweep.Text.Hex
import SolutionSweep.Text.Numeral
import SolutionSweep.Toml.Basic

/-!
# TOML scalars

Strings, numbers and points in time at the start of a text. A reader returns what it has read and
what follows it; what follows may still show that the document is malformed.
-/

namespace SolutionSweep.Toml

/-- Blanks within a line. -/
def isBlank (c : Char) : Bool := c == ' ' || c == '\t'

/-- Blanks and line breaks. -/
def isSpace (c : Char) : Bool := isBlank c || c == '\n'

/-- Control characters, which may stand neither in strings nor in comments; the tab may. -/
def isControl (c : Char) : Bool := (c.toNat < 0x20 || c.toNat == 0x7f) && c != '\t'

/-! ### Strings -/

/-- The character that an escape of one letter stands for. -/
def escape? : Char → Option Char
  | 'b' => some '\x08'
  | 't' => some '\t'
  | 'n' => some '\n'
  | 'f' => some '\x0c'
  | 'r' => some '\r'
  | '"' => some '"'
  | '\\' => some '\\'
  | _ => none

/-- The character that hexadecimal digits denote; surrogates are no characters. -/
def hexChar? (digits : Text) : Option Char :=
  if digits.all isHexDigit ∧ (hexValueOf digits).isValidChar then
    some (Char.ofNat (hexValueOf digits))
  else none

/-- How a string across lines goes on: as it is written; after a backslash and blanks, which only
a line break may follow; or after a backslash at the end of a line, with space to be skipped. -/
inductive Continuation
  | plain
  | wantBreak
  | skipping
  deriving DecidableEq, Repr

/-- Puts a character in front of a string that has been read. -/
def prepend (c : Char) (read : Option (Text × Text)) : Option (Text × Text) :=
  read.map fun (t, rest) => (c :: t, rest)

/-- A string after its opening quote, on one line or, with `block`, across lines. -/
def basicString? (block : Bool) : Continuation → Text → Option (Text × Text)
  | _, [] => none
  | .wantBreak, c :: rest =>
      if isBlank c then basicString? block .wantBreak rest
      else if c = '\n' then basicString? block .skipping rest
      else none
  | mode, c :: rest =>
      if mode = .skipping ∧ isSpace c then basicString? block .skipping rest
      else
        match c, rest with
        | '"', rest =>
            if block then
              match rest with
              | '"' :: '"' :: after => some ([], after)
              | _ => prepend '"' (basicString? block .plain rest)
            else some ([], rest)
        | '\\', 'u' :: a :: b :: c :: d :: after =>
            (hexChar? [a, b, c, d]).bind fun x => prepend x (basicString? block .plain after)
        | '\\', 'U' :: a :: b :: c :: d :: e :: f :: g :: h :: after =>
            (hexChar? [a, b, c, d, e, f, g, h]).bind fun x =>
              prepend x (basicString? block .plain after)
        | '\\', e :: after =>
            if block && isBlank e then basicString? block .wantBreak after
            else if block && e == '\n' then basicString? block .skipping after
            else (escape? e).bind fun x => prepend x (basicString? block .plain after)
        | c, rest =>
            if c = '\\' ∨ (isControl c && !(block && c == '\n')) then none
            else prepend c (basicString? block .plain rest)

/-- Up to two more quotes at the end of a string across lines belong to the string. -/
def extraQuotes (quote : Char) (t rest : Text) : Text × Text :=
  match rest with
  | a :: b :: after =>
      if a = quote then
        if b = quote then (t ++ [quote, quote], after) else (t ++ [quote], b :: after)
      else (t, rest)
  | [a] => if a = quote then (t ++ [quote], []) else (t, rest)
  | [] => (t, [])

/-- The text without a line break in front. -/
def skipBreak : Text → Text
  | '\n' :: rest => rest
  | rest => rest

/-- A string after its opening apostrophes, up to the closing ones. -/
def literalString? (closing : Text) (block : Bool) (t : Text) : Option (Text × Text) :=
  (Text.cut? closing t).bind fun (inside, rest) =>
    if inside.any fun c => isControl c && !(block && c == '\n') then none
    else some (inside, rest)

/-- A string of any of the four kinds, quotes included. -/
def string? (t : Text) : Option (Text × Text) :=
  match t with
  | '"' :: '"' :: '"' :: rest =>
      (basicString? true .plain (skipBreak rest)).map fun (s, after) => extraQuotes '"' s after
  | '"' :: rest => basicString? false .plain rest
  | '\'' :: '\'' :: '\'' :: rest =>
      (literalString? ['\'', '\'', '\''] true (skipBreak rest)).map fun (s, after) =>
        extraQuotes '\'' s after
  | '\'' :: rest => literalString? ['\''] false rest
  | _ => none

/-! ### Numbers -/

/-- Digits of a kind, single low lines between them left out, and what follows. -/
def digitRun (p : Char → Bool) : Text → Text × Text
  | [] => ([], [])
  | '_' :: c :: rest =>
      if p c then
        let (digits, after) := digitRun p rest
        (c :: digits, after)
      else ([], '_' :: c :: rest)
  | c :: rest =>
      if p c then
        let (digits, after) := digitRun p rest
        (c :: digits, after)
      else ([], c :: rest)

/-- Digits of a kind, at least one, the first of which comes first, and what follows. -/
def digitRun? (p : Char → Bool) (t : Text) : Option (Text × Text) :=
  match t with
  | [] => none
  | c :: _ => if p c then some (digitRun p t) else none

/-- The digits of a numeral in a base that is a power of two, and what follows. -/
def basedNumeral? : Text → Option (Nat × Text × Text)
  | '0' :: 'x' :: rest => (digitRun? isHexDigit rest).map (16, ·)
  | '0' :: 'o' :: rest => (digitRun? (fun c => '0' ≤ c && c ≤ '7') rest).map (8, ·)
  | '0' :: 'b' :: rest => (digitRun? (fun c => c == '0' || c == '1') rest).map (2, ·)
  | _ => none

/-- The sign of a numeral, and what follows. -/
def takeSign : Text → Text × Text
  | '+' :: rest => (['+'], rest)
  | '-' :: rest => (['-'], rest)
  | rest => ([], rest)

/-- The fraction of a number with its point, if it has one, and what follows. -/
def fraction (t : Text) : Text × Text :=
  match t with
  | '.' :: rest =>
      match digitRun? Char.isDigit rest with
      | some (digits, after) => ('.' :: digits, after)
      | none => ([], t)
  | _ => ([], t)

/-- The exponent of a number with its letter, if it has one, and what follows. -/
def exponent (t : Text) : Text × Text :=
  match t with
  | c :: rest =>
      if c = 'e' ∨ c = 'E' then
        match digitRun? Char.isDigit (takeSign rest).2 with
        | some (digits, after) => ('e' :: (takeSign rest).1 ++ digits, after)
        | none => ([], t)
      else ([], t)
  | [] => ([], [])

/-- The digits before the point, without leading zeros, and what follows. -/
def wholePart? : Text → Option (Text × Text)
  | '0' :: rest => some (['0'], rest)
  | rest => digitRun? Char.isDigit rest

/-- An integer or a number with a fraction or an exponent. A decimal integer may be too long to be
one. -/
def number? (t : Text) : Option (Toml × Text) :=
  match basedNumeral? t with
  | some (base, digits, rest) =>
      some (.integer (digits.foldl (fun n c => base * n + hexValue c) 0 : Nat), rest)
  | none => do
      let (sign, unsigned) := takeSign t
      let (whole, rest) ← wholePart? unsigned
      let (frac, rest) := fraction rest
      let (exp, rest) := exponent rest
      if frac.isEmpty && exp.isEmpty then
        let n ← (readNumeral whole).toOption
        return (.integer (if sign = ['-'] then -(n : Int) else n), rest)
      else return (.float (sign ++ whole ++ frac ++ exp), rest)

/-- An infinity or no number. -/
def special? (t : Text) : Option (Toml × Text) :=
  ["inf", "nan", "+inf", "-inf", "+nan", "-nan"].findSome? fun word =>
    (Text.after? word.toList t).map fun rest => (.float word.toList, rest)

/-! ### Points in time -/

/-- A number of exactly `width` digits between two bounds, and what follows. -/
def numberField? (width low high : Nat) (t : Text) : Option (Nat × Text) :=
  let digits := t.take width
  if digits.length = width ∧ digits.all Char.isDigit ∧ low ≤ digitsValue digits ∧
      digitsValue digits ≤ high then
    some (digitsValue digits, t.drop width)
  else none

/-- Year, month and day with hyphens in between. -/
def date? (t : Text) : Option ((Nat × Nat × Nat) × Text) := do
  let (year, rest) ← numberField? 4 0 9999 t
  let (month, rest) ← numberField? 2 1 12 (← Text.after? ['-'] rest)
  let (day, rest) ← numberField? 2 1 31 (← Text.after? ['-'] rest)
  return ((year, month, day), rest)

/-- What follows a time of day, whose seconds may have a fraction. -/
def afterTime? (t : Text) : Option Text := do
  let (_, rest) ← numberField? 2 0 23 t
  let (_, rest) ← numberField? 2 0 59 (← Text.after? [':'] rest)
  let (_, rest) ← numberField? 2 0 59 (← Text.after? [':'] rest)
  match rest with
  | '.' :: fraction =>
      if (fraction.takeWhile Char.isDigit).isEmpty then some rest
      else some (fraction.dropWhile Char.isDigit)
  | _ => some rest

/-- What follows an offset from universal time, if there is one. -/
def afterOffset (t : Text) : Text :=
  match t with
  | [] => []
  | c :: rest =>
      if c = 'Z' ∨ c = 'z' then rest
      else if c = '+' ∨ c = '-' then
        match numberField? 2 0 23 rest with
        | some (_, ':' :: minutes) =>
            match numberField? 2 0 59 minutes with
            | some (_, after) => after
            | none => t
        | _ => t
      else t

/-- What follows the time of day after a date, if there is one. -/
def afterDateTime (t : Text) : Text :=
  match t with
  | [] => []
  | c :: rest =>
      if c = 'T' ∨ c = 't' ∨ c = ' ' then
        match afterTime? rest with
        | some after => afterOffset after
        | none => t
      else t

/-- The number of days of a month. -/
def daysInMonth (year month : Nat) : Nat :=
  if month = 2 then
    if year % 4 = 0 ∧ (year % 100 ≠ 0 ∨ year % 400 = 0) then 29 else 28
  else if month = 4 ∨ month = 6 ∨ month = 9 ∨ month = 11 then 30
  else 31

/-- A date with or without a time of day, or a time of day. The date has to exist. -/
def moment? (t : Text) : Option (Toml × Text) :=
  let ended (rest : Text) : Toml × Text := (.moment (t.take (t.length - rest.length)), rest)
  match date? t with
  | some ((year, month, day), rest) =>
      if 1 ≤ year ∧ day ≤ daysInMonth year month then some (ended (afterDateTime rest)) else none
  | none => (afterTime? t).map ended

end SolutionSweep.Toml
