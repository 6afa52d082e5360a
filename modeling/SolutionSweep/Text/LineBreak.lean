import SolutionSweep.Text.Basic

/-!
# Line breaks

In a file a line ends with a line feed, a carriage return, or both in this order.
`Text.unifyBreaks` turns each of them into a line feed. On a screen some more characters begin a new
line; `Text.lines` breaks a text at all of them.
-/

namespace SolutionSweep.Text

/-- The text with each line break turned into one line feed. -/
def unifyBreaks : Text → Text
  | [] => []
  | '\r' :: '\n' :: rest => '\n' :: unifyBreaks rest
  | c :: rest => (if c = '\r' then '\n' else c) :: unifyBreaks rest

/-- Whether a carriage return is followed by a line feed somewhere. -/
def hasPairedBreak : Text → Bool
  | [] => false
  | '\r' :: '\n' :: _ => true
  | _ :: rest => hasPairedBreak rest

/-- Whether a character ends a line on a screen. -/
def isLineEnd (c : Char) : Bool :=
  ('\n' ≤ c && c ≤ '\r') || ('\x1c' ≤ c && c ≤ '\x1e') || c = '\u0085' || c = '\u2028' ||
    c = '\u2029'

/-- The lines of a text on a screen, without what ends them. Behind the last end of a line there is
another line only if something stands there. -/
def lines : Text → List Text
  | [] => []
  | '\r' :: '\n' :: rest => [] :: lines rest
  | c :: rest =>
      if isLineEnd c then [] :: lines rest
      else
        match lines rest with
        | [] => [[c]]
        | line :: more => (c :: line) :: more

/-- The byte order mark, which may stand in front of a text. -/
def byteOrderMark : Char := '\ufeff'

/-- The text without a byte order mark in front. -/
def withoutMark : Text → Text
  | [] => []
  | c :: rest => if c = byteOrderMark then rest else c :: rest

end SolutionSweep.Text
