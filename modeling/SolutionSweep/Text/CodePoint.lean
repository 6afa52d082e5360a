import SolutionSweep.Text.Basic

/-!
# Code points

Escapes can spell surrogates that stand alone, which are code points and no characters. Where
that can happen, text is a list of code points.

* `CodePoints.ofText`, `CodePoints.toText`: from and to text;
* `CodePoints.le`: the order of a dictionary that sorts by code point;
* `joinSurrogates`: each high surrogate and the low one after it made into one code point.
-/

namespace SolutionSweep

/-- A sequence of code points, in which surrogates may stand alone. -/
abbrev CodePoints := List Nat

/-- The code points of a text. -/
def CodePoints.ofText (t : Text) : CodePoints := t.map Char.toNat

/-- The text of some code points, with a replacement character for each surrogate. -/
def CodePoints.toText (s : CodePoints) : Text :=
  s.map fun n => if n.isValidChar then Char.ofNat n else '\ufffd'

/-- Whether a sequence comes before another one or is the same: the first code points in which
they differ decide, and a beginning comes before what it begins. -/
def CodePoints.le : CodePoints → CodePoints → Bool
  | [], _ => true
  | _ :: _, [] => false
  | a :: as, b :: bs => a < b || (a == b && CodePoints.le as bs)

/-- Whether a number is a surrogate that comes first in a pair. -/
def isHighSurrogate (n : Nat) : Bool := 0xd800 ≤ n && n < 0xdc00

/-- Whether a number is a surrogate that comes second in a pair. -/
def isLowSurrogate (n : Nat) : Bool := 0xdc00 ≤ n && n < 0xe000

/-- Makes one code point of each high surrogate and the low one after it. -/
def joinSurrogates : CodePoints → CodePoints
  | high :: low :: rest =>
      if isHighSurrogate high && isLowSurrogate low then
        (0x10000 + (high - 0xd800) * 0x400 + (low - 0xdc00)) :: joinSurrogates rest
      else high :: joinSurrogates (low :: rest)
  | rest => rest

end SolutionSweep
