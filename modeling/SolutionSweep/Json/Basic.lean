import SolutionSweep.Number.Double
import SolutionSweep.Table
import SolutionSweep.Text.CodePoint

/-!
# JSON values

The values that the audit log and the reports are made of. Fields of an object have distinct
names and keep the order in which the names first came up.
-/

namespace SolutionSweep

/-- A JSON value. -/
inductive Json
  | null
  | bool (b : Bool)
  | integer (n : Int)
  | real (x : Double)
  | text (s : CodePoints)
  | array (items : List Json)
  | object (fields : List (CodePoints × Json))
  deriving Repr

namespace Json

/-- A text as a value. -/
def ofText (t : Text) : Json := .text (.ofText t)

/-- A text that may be missing as a value. -/
def ofText? : Option Text → Json
  | none => .null
  | some t => ofText t

/-- An object with the given fields. -/
def ofFields (fields : List (String × Json)) : Json :=
  .object (fields.map fun f => (.ofText f.1.toList, f.2))

end Json

end SolutionSweep
