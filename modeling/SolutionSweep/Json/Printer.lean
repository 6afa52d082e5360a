import SolutionSweep.Json.Basic
import SolutionSweep.Text.Hex

/-!
# Writing JSON

Values are written on one line, with a blank after commas and colons and the fields of an object
sorted by name. Strings are written in ASCII: whatever is not printable ASCII becomes an escape,
code points above the basic plane as a pair of surrogates.
-/

namespace SolutionSweep.Json

/-- The escape of a code point of the basic plane. -/
def unitEscape (n : Nat) : Text := '\\' :: 'u' :: hexPadded 4 n

/-- A code point as it stands in a string. -/
def escaped (n : Nat) : Text :=
  if n = 0x22 then ['\\', '"']
  else if n = 0x5c then ['\\', '\\']
  else if n = 0x0a then ['\\', 'n']
  else if n = 0x0d then ['\\', 'r']
  else if n = 0x09 then ['\\', 't']
  else if n = 0x0c then ['\\', 'f']
  else if n = 0x08 then ['\\', 'b']
  else if 0x20 ≤ n ∧ n ≤ 0x7e then [Char.ofNat n]
  else if n < 0x10000 then unitEscape n
  else
    unitEscape (0xd800 + (n - 0x10000) / 0x400) ++ unitEscape (0xdc00 + (n - 0x10000) % 0x400)

/-- A string in double quotes. -/
def renderString (s : CodePoints) : Text := '"' :: s.flatMap escaped ++ ['"']

/-- A field as it stands in an object. -/
def renderField (f : CodePoints × Text) : Text := renderString f.1 ++ ": ".toList ++ f.2

/-- The words of the format for what is no finite number. -/
def doubleWords : Double.Words := ⟨"Infinity".toList, "NaN".toList⟩

mutual

/-- A value on one line. -/
def render : Json → Text
  | .null => "null".toList
  | .bool b => if b then "true".toList else "false".toList
  | .integer n => Text.ofInt n
  | .real x => x.render doubleWords
  | .text s => renderString s
  | .array items => '[' :: Text.join ", ".toList (renderItems items) ++ [']']
  | .object fields =>
      let written := (renderFields fields).mergeSort fun f g => CodePoints.le f.1 g.1
      '{' :: Text.join ", ".toList (written.map renderField) ++ ['}']

/-- The values of an array, each on one line. -/
def renderItems : List Json → List Text
  | [] => []
  | item :: rest => render item :: renderItems rest

/-- The fields of an object, with each value on one line. -/
def renderFields : List (CodePoints × Json) → List (CodePoints × Text)
  | [] => []
  | (name, value) :: rest => (name, render value) :: renderFields rest

end

end SolutionSweep.Json
