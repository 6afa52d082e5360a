import SolutionSweep.Settings.Merge
import SolutionSweep.Store
import SolutionSweep.Toml.Parser

/-!
# The settings file

Settings for a manifest may stand in a TOML file beside it. A missing file gives no settings.
-/

namespace SolutionSweep

/-- Why the settings for a manifest cannot be made out. -/
inductive SetupError
  | invalid (e : MergeError)
  | malformedFile
  | denied (e : Denied)
  deriving DecidableEq

/-- What is said when settings cannot be made out. -/
def SetupError.message : SetupError → Text
  | invalid e => e.message
  | malformedFile => "malformed TOML".toList
  | denied e => e.message

namespace Settings

/-- The name of the settings file. -/
def fileName : Text := "sln_prune.toml".toList

/-- The table in the bytes of a settings file. -/
def readBytes (bytes : Bytes) : Except SetupError SettingTable :=
  match (Utf8.decode? bytes).bind Toml.parse? with
  | none => .error .malformedFile
  | some fields => .ok (SettingValue.ofFields fields)

/-- The table in the settings file of a directory. -/
def readFile (s : Store) (directory : Path) : Except SetupError SettingTable :=
  let path := directory.child fileName
  match s.get? path with
  | none => .ok []
  | some .denied => .error (.denied ⟨path, .permission⟩)
  | some (.barred why) => .error (.denied ⟨path, why⟩)
  | some (.contents bytes) => readBytes bytes

/-- The settings for a manifest. -/
def load (s : Store) (manifest : Path) (o : Overrides) : Except SetupError Settings :=
  match s.resolve? manifest with
  | none => .error (.invalid .unresolvable)
  | some resolved =>
      match readFile s resolved.parent with
      | .error e => .error e
      | .ok payload =>
          match merge s.resolution s.cwd (standard s.cwd resolved.parent) payload o with
          | .error e => .error (.invalid e)
          | .ok settings => .ok settings

end Settings

end SolutionSweep
