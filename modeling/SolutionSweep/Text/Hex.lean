import SolutionSweep.Text.Basic

/-!
# Hexadecimal numerals

Escapes show a code point as a hexadecimal numeral of fixed width in lower case.
-/

namespace SolutionSweep

/-- The hexadecimal digit of a number below sixteen, in lower case. -/
def hexDigit (n : Nat) : Char := Nat.digitChar n

/-- The last `width` hexadecimal digits of a number. -/
def hexPadded : (width n : Nat) → Text
  | 0, _ => []
  | width + 1, n => hexPadded width (n / 16) ++ [hexDigit (n % 16)]

/-- The number that a sequence of hexadecimal digits denotes. -/
def hexValueOf (digits : Text) : Nat := digits.foldl (fun n c => 16 * n + hexValue c) 0

end SolutionSweep
