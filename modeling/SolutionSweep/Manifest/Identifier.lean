import SolutionSweep.Text.Case

/-!
# Entry identifiers

Entries of a manifest are known by identifiers of 32 hexadecimal digits in five groups. The same
identifier may be written in either letter case, in braces and with white space around it;
`canonicalId` is the spelling under which it is compared.
-/

namespace SolutionSweep

/-- The canonical spelling of an entry's identifier. -/
abbrev EntryId := Text

/-- Opening and closing braces. -/
def isBrace (c : Char) : Bool := c == '{' || c == '}'

/-- The spelling of an identifier under which it is compared: bare and in upper case. -/
def canonicalId (written : Text) : EntryId :=
  (Text.strip (Text.trim isBrace (Text.strip written))).upper

/-- The number of digits in each group of an identifier. -/
def idGroups : List Nat := [8, 4, 4, 4, 12]

/-- The number of characters of an identifier, hyphens included. -/
def idLength : Nat := 36

/-- Whether a text is five hyphened groups of hexadecimal digits. -/
def isBareId (t : Text) : Bool :=
  ((Text.splitOn '-' t).map List.length == idGroups) && t.all fun c => c == '-' || isHexDigit c

/-- The identifier that a text starts with, as written, and what follows it. -/
def takeId? (t : Text) : Option (Text × Text) :=
  if isBareId (t.take idLength) then some (t.take idLength, t.drop idLength) else none

/-- The identifier in braces that a text starts with, and what follows it. -/
def takeBracedId? (t : Text) : Option (Text × Text) := do
  let (id, rest) ← takeId? (← Text.after? ['{'] t)
  return (id, ← Text.after? ['}'] rest)

end SolutionSweep
