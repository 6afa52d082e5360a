import SolutionSweep.Text.Digit

/-!
# Double-precision numbers

A double is a sign and a mantissa times a power of two. A decimal numeral denotes the nearest
double; a double is written with the fewest digits that denote it again.

* `Double.nearest`: the double of a decimal numeral, a tie going to the even mantissa;
* `Double.shortest`: the fewest significant digits and the place of the decimal point;
* `Double.render`: the written form, positional from `0.0001` up to sixteen digits before the point.

All arithmetic is exact, on quotients of natural numbers.
-/

namespace SolutionSweep

/-- A double: `mantissa * 2 ^ exponent` with a sign, an infinity, or no number at all. -/
inductive Double
  | finite (negative : Bool) (mantissa : Nat) (exponent : Int)
  | infinite (negative : Bool)
  | undefined
  deriving DecidableEq, Repr

namespace Double

/-- A quotient of natural numbers times an integer power. -/
def scaled (base num : Nat) (e : Int) : Nat × Nat :=
  if 0 ≤ e then (num * Nat.pow base e.toNat, 1) else (num, Nat.pow base (-e).toNat)

/-- The integer nearest to a quotient, a tie going to the even one. -/
def roundQuotient (num den : Nat) : Nat :=
  let q := num / den
  let twice := 2 * (num % den)
  if twice < den ∨ (twice = den ∧ q % 2 = 0) then q else q + 1

/-- The least exponent of a double. -/
def leastExponent : Int := -1074

/-- The least mantissa of a double above the least exponent: two to the power of 52. Every
mantissa is below twice that. -/
def leastMantissa : Nat := 4503599627370496

/-- The exponent of the double nearest to a positive quotient: the mantissa then has 53 bits, or
fewer at the least exponent. -/
def exponentFor (num den : Nat) : Int :=
  let guess : Int := (Nat.log2 num : Int) - Nat.log2 den - 53
  let (n, d) := scaled 2 1 (-guess)
  let exponent := if num * n < 2 * leastMantissa * (den * d) then guess else guess + 1
  max exponent leastExponent

/-- The double nearest to a positive quotient. -/
def ofQuotient (negative : Bool) (num den : Nat) : Double :=
  let exponent := exponentFor num den
  let (n, d) := scaled 2 1 (-exponent)
  let mantissa := roundQuotient (num * n) (den * d)
  let (mantissa, exponent) :=
    if mantissa = 2 * leastMantissa then (leastMantissa, exponent + 1) else (mantissa, exponent)
  if 971 < exponent then .infinite negative else .finite negative mantissa exponent

/-- The double nearest to `digits * 10 ^ exponent`. Exponents far out of range are cut short. -/
def nearest (negative : Bool) (digits : Nat) (exponent : Int) : Double :=
  if digits = 0 then .finite negative 0 0
  else
    let magnitude := (Text.ofNat digits).length + exponent
    if 400 < magnitude then .infinite negative
    else if magnitude < -400 then .finite negative 0 0
    else
      let (num, den) := scaled 10 digits exponent
      ofQuotient negative num den

/-! ### The shortest numeral -/

/-- The positive numbers that are nearest to a double, in units of a quarter of its last bit: from
the first to the second number, ends included if the third component says so. -/
def interval (mantissa : Nat) (exponent : Int) : Nat × Nat × Bool :=
  let below := if mantissa = leastMantissa ∧ leastExponent < exponent then 1 else 2
  (4 * mantissa - below, 4 * mantissa + 2, mantissa % 2 == 0)

/-- The place of the decimal point: the positive number is below ten to this power, and not below
a tenth of that. -/
def pointPlace (num den : Nat) : Int :=
  let guess : Int := (((Nat.log2 num : Int) - Nat.log2 den) * 30103).fdiv 100000
  let reaches (p : Int) : Bool :=
    let (n, d) := scaled 10 1 p
    n * den ≤ num * d
  if reaches (guess + 1) then guess + 2 else if reaches guess then guess + 1 else guess

/-- The numeral of `count` digits that is nearest to a positive double and denotes it, if there
is one: its digits as a number, and the power of ten that they count. -/
def withDigits? (mantissa : Nat) (exponent : Int) (place : Int) (count : Nat) :
    Option (Nat × Int) :=
  let unit := place - count
  -- a numeral `k * 10 ^ unit` in quarters of the last bit of the double is `k * n / d`
  let (tenNum, tenDen) := scaled 10 1 unit
  let (twoNum, twoDen) := scaled 2 4 (-exponent)
  let n := tenNum * twoNum
  let d := tenDen * twoDen
  let (low, high, closed) := interval mantissa exponent
  let denotes (k : Nat) : Bool :=
    if closed then low * d ≤ k * n && k * n ≤ high * d else low * d < k * n && k * n < high * d
  let k := 4 * mantissa * d / n
  let remainder := 4 * mantissa * d % n
  let nearer := if 2 * remainder < n ∨ (2 * remainder = n ∧ k % 2 = 0) then k else k + 1
  let other := if nearer = k then k + 1 else k
  if denotes nearer then some (nearer, unit)
  else if denotes other then some (other, unit)
  else none

/-- The fewest digits that denote a positive double, and the place of the decimal point. -/
def shortest (mantissa : Nat) (exponent : Int) : Text × Int :=
  let (num, den) := scaled 2 mantissa exponent
  let place := pointPlace num den
  match (List.range' 1 17).findSome? (withDigits? mantissa exponent place) with
  | none => (['0'], 0)
  | some (k, unit) =>
      let digits := Text.ofNat k
      (Text.trimEnd (· == '0') digits, unit + digits.length)

/-! ### The written form -/

/-- An exponent with its sign and at least two digits. -/
def exponentText (e : Int) : Text :=
  (if e < 0 then ['e', '-'] else ['e', '+']) ++ Text.ofNatPadded 2 e.natAbs

/-- Digits with the decimal point at a given place: positional unless the point is more than
sixteen places after the first digit or more than three places before it. -/
def layout (digits : Text) (place : Int) : Text :=
  if 16 < place ∨ place < -3 then
    match digits with
    | [] => []
    | [d] => d :: exponentText (place - 1)
    | d :: rest => d :: '.' :: rest ++ exponentText (place - 1)
  else if place ≤ 0 then
    ['0', '.'] ++ List.replicate (-place).toNat '0' ++ digits
  else
    let whole := digits.take place.toNat
    let padded := whole ++ List.replicate (place.toNat - whole.length) '0'
    let fraction := digits.drop place.toNat
    padded ++ '.' :: (if fraction.isEmpty then ['0'] else fraction)

/-- The words for what is no finite number. -/
structure Words where
  infinity : Text
  undefined : Text

/-- The written form of a double. -/
def render (words : Words) : Double → Text
  | .undefined => words.undefined
  | .infinite negative => (if negative then ['-'] else []) ++ words.infinity
  | .finite negative mantissa exponent =>
      (if negative then ['-'] else []) ++
        (if mantissa = 0 then "0.0".toList
         else
           let (digits, place) := shortest mantissa exponent
           layout digits place)

end Double

end SolutionSweep
