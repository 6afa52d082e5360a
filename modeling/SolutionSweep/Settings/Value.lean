import SolutionSweep.Toml.Basic

/-!
# Values of settings

Settings are texts, truth values, lists and tables; all other values are alike, since none of
them is valid anywhere.
-/

namespace SolutionSweep

/-- A value in a settings file. -/
inductive SettingValue
  | null
  | bool (b : Bool)
  | text (t : Text)
  | list (items : List SettingValue)
  | table (fields : List (Text × SettingValue))
  | other
  deriving Repr

namespace SettingValue

mutual

/-- The setting that a TOML value stands for. -/
def ofToml : Toml → SettingValue
  | .text t => .text t
  | .boolean b => .bool b
  | .array items => .list (ofItems items)
  | .table fields => .table (ofFields fields)
  | _ => .other

/-- The settings that the items of an array stand for. -/
def ofItems : List Toml → List SettingValue
  | [] => []
  | item :: rest => ofToml item :: ofItems rest

/-- The settings that the fields of a table stand for. -/
def ofFields : List (Text × Toml) → List (Text × SettingValue)
  | [] => []
  | (key, value) :: rest => (key, ofToml value) :: ofFields rest

end

end SettingValue

/-- The table of a settings file. -/
abbrev SettingTable := List (Text × SettingValue)

end SolutionSweep
