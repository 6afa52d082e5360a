import SolutionSweep.Text.Digit

/-!
# Reading numerals

A numeral is read in any mixture of scripts, leading zeros included, as long as it has no more
digits than `maxDigits`.
-/

namespace SolutionSweep

/-- The greatest number of digits that a numeral may have. -/
def maxDigits : Nat := 4300

/-- A numeral with too many digits to be read. -/
structure LongNumeral where
  digits : Nat
  deriving DecidableEq, Repr

/-- What is said about a numeral that is too long. -/
def LongNumeral.message (e : LongNumeral) : Text :=
  "Exceeds the limit (".toList ++ Text.ofNat maxDigits ++
    " digits) for integer string conversion: value has ".toList ++ Text.ofNat e.digits ++
    " digits; use sys.set_int_max_str_digits() to increase the limit".toList

/-- The number that a sequence of digits denotes, most significant digit first. -/
def digitsValue (digits : Text) : Nat :=
  digits.foldl (fun n c => 10 * n + (digitValue? c).getD 0) 0

/-- Reads a numeral that consists of digits alone. -/
def readNumeral (digits : Text) : Except LongNumeral Nat :=
  if maxDigits < digits.length then .error ⟨digits.length⟩ else .ok (digitsValue digits)

/-- White space that may surround a signed numeral. -/
def isNumeralSpace (c : Char) : Bool :=
  if c.toNat < 128 then (0x9 ≤ c.toNat && c.toNat ≤ 0xd) || c == ' ' else isWhite c

/-- The digits of a numeral in which single low lines may separate digits. -/
def separatedDigits? : Text → Option Text
  | [] => none
  | [c] => if isDigit c then some [c] else none
  | c :: '_' :: rest => if isDigit c then (separatedDigits? rest).map (c :: ·) else none
  | c :: rest => if isDigit c then (separatedDigits? rest).map (c :: ·) else none

/-- Reads a numeral with an optional sign, single low lines between digits and white space
around it. -/
def readInteger? (t : Text) : Option Int :=
  let body := Text.trim isNumeralSpace t
  let (negative, digits) :=
    match body with
    | '-' :: rest => (true, rest)
    | '+' :: rest => (false, rest)
    | rest => (false, rest)
  match separatedDigits? digits with
  | none => none
  | some ds =>
      match readNumeral ds with
      | .error _ => none
      | .ok n => some (if negative then -(n : Int) else n)

end SolutionSweep
