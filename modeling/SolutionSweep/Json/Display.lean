import SolutionSweep.Json.Basic
import SolutionSweep.Text.Quoted

/-!
# Showing values in lists of identifiers

Where a list should hold identifiers and holds something else, the value is shown as a text: a
string as it is, a word or a number for a scalar, brackets or braces around the parts of the rest.
Strings inside are quoted.
-/

namespace SolutionSweep.Json

/-- The words for what is no finite number. -/
def displayWords : Double.Words := ⟨"inf".toList, "nan".toList⟩

mutual

/-- A value as it is shown inside another one. -/
def displayPart : Json → Text
  | .null => "None".toList
  | .bool b => if b then "True".toList else "False".toList
  | .integer n => Text.ofInt n
  | .real x => x.render displayWords
  | .text s => (CodePoints.toText s).quoted
  | .array items => '[' :: Text.join ", ".toList (displayItems items) ++ [']']
  | .object fields => '{' :: Text.join ", ".toList (displayFields fields) ++ ['}']

/-- The values of an array as they are shown in it. -/
def displayItems : List Json → List Text
  | [] => []
  | item :: rest => displayPart item :: displayItems rest

/-- The fields of an object as they are shown in it. -/
def displayFields : List (CodePoints × Json) → List Text
  | [] => []
  | (name, value) :: rest =>
      ((CodePoints.toText name).quoted ++ ": ".toList ++ displayPart value) ::
        displayFields rest

end

/-- A value as it is shown on its own. -/
def display : Json → Text
  | .text s => CodePoints.toText s
  | v => displayPart v

end SolutionSweep.Json
