import SolutionSweep.Text.Hex
import SolutionSweep.Text.Printable

/-!
# Quoted text

Messages quote a text that they blame. The quotes are single ones unless the text holds a single
quote and no double one; the quote in use, backslashes and whatever is not printable are escaped.
-/

namespace SolutionSweep.Text

/-- The quote that surrounds a text: a double one only where that saves escapes. -/
def quoteFor (t : Text) : Char := if t.contains '\'' && !t.contains '"' then '"' else '\''

/-- A character as it stands between the given quotes. -/
def quotedChar (quote c : Char) : Text :=
  let n := c.toNat
  if c = quote ∨ c = '\\' then ['\\', c]
  else if c = '\t' then ['\\', 't']
  else if c = '\n' then ['\\', 'n']
  else if c = '\r' then ['\\', 'r']
  else if isPrintable c then [c]
  else if n < 0x100 then '\\' :: 'x' :: hexPadded 2 n
  else if n < 0x10000 then '\\' :: 'u' :: hexPadded 4 n
  else '\\' :: 'U' :: hexPadded 8 n

/-- The text between quotes, with escapes for what cannot be shown as it is. -/
def quoted (t : Text) : Text :=
  let quote := quoteFor t
  quote :: t.flatMap (quotedChar quote) ++ [quote]

end SolutionSweep.Text
