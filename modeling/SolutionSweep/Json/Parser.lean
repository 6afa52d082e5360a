import SolutionSweep.Json.Basic
import SolutionSweep.Text.Hex
import SolutionSweep.Text.Numeral

/-!
# Reading JSON

A value is read from the start of a text; `Json.parse` wants nothing but blanks around it. Besides
the values of the format, `NaN` and the infinities are read. An integer may be too long to be
read, which is an error of its own.

Nesting is read to every depth. This is an idealisation: a reader that recurses on a stack of
limited size gives up on a value that is nested more deeply than the stack allows.
-/

namespace SolutionSweep

/-- Why a text is not read as a JSON value. -/
inductive JsonError
  | malformed
  | longNumeral (e : LongNumeral)
  deriving DecidableEq, Repr

namespace Json

/-- Blanks between the parts of a value. -/
def isBlank (c : Char) : Bool := c == ' ' || c == '\t' || c == '\n' || c == '\r'

/-- What follows leading blanks. -/
def skipBlanks (t : Text) : Text := t.dropWhile isBlank

/-! ### Strings -/

/-- The code point that a one-letter escape stands for. -/
def escape? (c : Char) : Option Nat :=
  match c with
  | '"' => some 0x22
  | '\\' => some 0x5c
  | '/' => some 0x2f
  | 'b' => some 0x08
  | 'f' => some 0x0c
  | 'n' => some 0x0a
  | 'r' => some 0x0d
  | 't' => some 0x09
  | _ => none

/-- The code points up to the closing quote, surrogates apart, and what follows the quote. -/
def stringUnits? : Text → Option (CodePoints × Text)
  | [] => none
  | '"' :: rest => some ([], rest)
  | '\\' :: 'u' :: a :: b :: c :: d :: rest =>
      if [a, b, c, d].all isHexDigit then
        (stringUnits? rest).map fun (s, after) => (hexValueOf [a, b, c, d] :: s, after)
      else none
  | '\\' :: c :: rest =>
      match escape? c with
      | none => none
      | some n => (stringUnits? rest).map fun (s, after) => (n :: s, after)
  | c :: rest =>
      if c = '\\' ∨ c.toNat < 0x20 then none
      else (stringUnits? rest).map fun (s, after) => (c.toNat :: s, after)

/-- A string after its opening quote, and what follows it. -/
def string? (t : Text) : Option (CodePoints × Text) :=
  (stringUnits? t).map fun (s, after) => (joinSurrogates s, after)

/-! ### Numbers -/

/-- The digits of the whole part of a number, without leading zeros, and what follows them. -/
def wholePart? : Text → Option (Text × Text)
  | '0' :: rest => some (['0'], rest)
  | c :: rest =>
      if c.isDigit then some ((c :: rest).takeWhile Char.isDigit, rest.dropWhile Char.isDigit)
      else none
  | [] => none

/-- The digits after a decimal point, if there are any, and what follows them. -/
def fractionPart (t : Text) : Text × Text :=
  match t with
  | '.' :: rest =>
      if (rest.takeWhile Char.isDigit).isEmpty then ([], t)
      else (rest.takeWhile Char.isDigit, rest.dropWhile Char.isDigit)
  | _ => ([], t)

/-- The sign of an exponent, and what follows it. -/
def exponentSign : Text → Bool × Text
  | '-' :: rest => (true, rest)
  | '+' :: rest => (false, rest)
  | rest => (false, rest)

/-- The exponent, if there is one, and what follows it. -/
def exponentPart (t : Text) : Option Int × Text :=
  match t with
  | c :: rest =>
      if c = 'e' ∨ c = 'E' then
        let (negative, digits) := exponentSign rest
        if (digits.takeWhile Char.isDigit).isEmpty then (none, t)
        else
          let n : Int := digitsValue (digits.takeWhile Char.isDigit)
          (some (if negative then -n else n), digits.dropWhile Char.isDigit)
      else (none, t)
  | [] => (none, t)

/-- A number after its sign, and what follows it. -/
def unsigned (negative : Bool) (t : Text) : Except JsonError (Json × Text) :=
  match wholePart? t with
  | none => .error .malformed
  | some (whole, rest) =>
      let (fraction, rest) := fractionPart rest
      let (exponent, rest) := exponentPart rest
      if fraction.isEmpty && exponent.isNone then
        match readNumeral whole with
        | .error e => .error (.longNumeral e)
        | .ok n => .ok (.integer (if negative then -(n : Int) else n), rest)
      else
        .ok (.real (.nearest negative (digitsValue (whole ++ fraction))
          (exponent.getD 0 - fraction.length)), rest)

/-- The words that stand for values. -/
def words : List (Text × Json) := [
  ("null".toList, .null), ("true".toList, .bool true), ("false".toList, .bool false),
  ("NaN".toList, .real .undefined), ("Infinity".toList, .real (.infinite false)),
  ("-Infinity".toList, .real (.infinite true))]

/-- A word or a number, and what follows it. -/
def scalar (t : Text) : Except JsonError (Json × Text) :=
  match words.findSome? fun (word, value) => (Text.after? word t).map (value, ·) with
  | some result => .ok result
  | none =>
      match t with
      | '-' :: rest => unsigned true rest
      | rest => unsigned false rest

/-! ### Values -/

mutual

/-- A value at the start of a text, and what follows it. Each level of nesting takes a
character and two units of fuel. -/
def value : (fuel : Nat) → Text → Except JsonError (Json × Text)
  | 0, _ => .error .malformed
  | fuel + 1, t =>
      match t with
      | '"' :: rest =>
          match string? rest with
          | none => .error .malformed
          | some (s, after) => .ok (.text s, after)
      | '[' :: rest =>
          match skipBlanks rest with
          | ']' :: after => .ok (.array [], after)
          | first =>
              match items fuel first with
              | .error e => .error e
              | .ok (vs, after) => .ok (.array vs, after)
      | '{' :: rest =>
          match skipBlanks rest with
          | '}' :: after => .ok (.object [], after)
          | first =>
              match fields fuel first with
              | .error e => .error e
              | .ok (fs, after) => .ok (.object (lastValues fs), after)
      | _ => scalar t

/-- The remaining values of an array, and what follows its bracket. -/
def items : (fuel : Nat) → Text → Except JsonError (List Json × Text)
  | 0, _ => .error .malformed
  | fuel + 1, t =>
      match value fuel t with
      | .error e => .error e
      | .ok (v, rest) =>
          match skipBlanks rest with
          | ']' :: after => .ok ([v], after)
          | ',' :: more =>
              match items fuel (skipBlanks more) with
              | .error e => .error e
              | .ok (vs, after) => .ok (v :: vs, after)
          | _ => .error .malformed

/-- The remaining fields of an object, and what follows its brace. -/
def fields : (fuel : Nat) → Text → Except JsonError (List (CodePoints × Json) × Text)
  | 0, _ => .error .malformed
  | fuel + 1, t =>
      match t with
      | '"' :: rest =>
          match string? rest with
          | none => .error .malformed
          | some (name, rest) =>
              match skipBlanks rest with
              | ':' :: rest =>
                  match value fuel (skipBlanks rest) with
                  | .error e => .error e
                  | .ok (v, rest) =>
                      match skipBlanks rest with
                      | '}' :: after => .ok ([(name, v)], after)
                      | ',' :: more =>
                          match fields fuel (skipBlanks more) with
                          | .error e => .error e
                          | .ok (fs, after) => .ok ((name, v) :: fs, after)
                      | _ => .error .malformed
              | _ => .error .malformed
      | _ => .error .malformed

end

/-- Reads a text that is a value with blanks around it, however deeply it is nested. -/
def parse (t : Text) : Except JsonError Json :=
  match value (2 * t.length + 2) (skipBlanks t) with
  | .error e => .error e
  | .ok (v, rest) => if (skipBlanks rest).isEmpty then .ok v else .error .malformed

end Json

end SolutionSweep
