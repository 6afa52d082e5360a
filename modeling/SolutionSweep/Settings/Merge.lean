import SolutionSweep.Settings.Basic
import SolutionSweep.Settings.Value

/-!
# Merging settings

Each setting comes from the highest layer that gives it: overrides, then the settings file, then
the standard. Every layer that gives a setting is checked, whether or not its value prevails.

* `SettingsError`: what is wrong with a setting;
* `MergeError`: the same, or a directory that cannot be resolved;
* `Settings.merge`: the three layers put together.
-/

namespace SolutionSweep

/-- What is wrong with a section or a field of the settings. -/
inductive SettingsError
  | notTable (sectionName : Text)
  | notList (field : Text)
  | blankItem (field : Text)
  | emptyList (field : Text)
  | notBoolean (field : Text)
  | noDirectory (field : Text)
  deriving DecidableEq, Repr

namespace SettingsError

/-- A field, and what it must be. -/
def about (field : Text) (rule : String) : Text :=
  "Config field '".toList ++ field ++ "' must ".toList ++ rule.toList

/-- What is said about a wrong setting. -/
def message : SettingsError → Text
  | notTable name => "Config section '".toList ++ name ++ "' must be a table.".toList
  | notList field => about field "be a list of strings."
  | blankItem field => about field "contain only non-empty strings."
  | emptyList field => about field "not be empty."
  | notBoolean field => about field "be a boolean."
  | noDirectory field => about field "be a non-empty string."

end SettingsError

/-- Why layers of settings cannot be put together: one of them is wrong, or a path in the result
cannot be resolved. -/
inductive MergeError
  | wrong (e : SettingsError)
  | unresolvable
  deriving DecidableEq, Repr

/-- What is said when settings cannot be put together. -/
def MergeError.message : MergeError → Text
  | wrong e => e.message
  | unresolvable => "embedded null byte".toList

namespace Settings

/-! ### Reading fields -/

/-- The table under a key; a missing one is empty. -/
def sectionOf (payload : SettingTable) (key : Text) : Except SettingsError SettingTable :=
  match payload.lookup key with
  | none => .ok []
  | some (.table fields) => .ok fields
  | some _ => .error (.notTable key)

/-- Texts that are not blank, without white space around them. -/
def textItems (field : Text) : List SettingValue → Except SettingsError (List Text)
  | [] => .ok []
  | .text t :: rest =>
      if Text.isBlank t then .error (.blankItem field)
      else (textItems field rest).map (Text.strip t :: ·)
  | _ :: _ => .error (.blankItem field)

/-- A list of at least one text. -/
def textList (field : Text) : SettingValue → Except SettingsError (List Text)
  | .list items =>
      match textItems field items with
      | .error e => .error e
      | .ok [] => .error (.emptyList field)
      | .ok texts => .ok texts
  | _ => .error (.notList field)

/-- The list under a key of a section, or the one below if the key is missing. -/
def listField (fields : SettingTable) (sectionName key : String) (below : List Text) :
    Except SettingsError (List Text) :=
  match fields.lookup key.toList with
  | none => .ok below
  | some v => textList (sectionName.toList ++ '.' :: key.toList) v

/-- The truth value under a key of a section, or the one below if it is missing or null. -/
def boolField (fields : SettingTable) (sectionName key : String) (below : Bool) :
    Except SettingsError Bool :=
  match fields.lookup key.toList with
  | none => .ok below
  | some .null => .ok below
  | some (.bool b) => .ok b
  | some _ => .error (.notBoolean (sectionName.toList ++ '.' :: key.toList))

/-- The directory under a key of a section, as seen from `home`, or the one below. -/
def directoryField (fields : SettingTable) (sectionName key : String) (home below : Path) :
    Except SettingsError Path :=
  match fields.lookup key.toList with
  | none => .ok below
  | some (.text t) =>
      if Text.isBlank t then .error (.noDirectory (sectionName.toList ++ '.' :: key.toList))
      else .ok (home.join (Path.ofText t))
  | some _ => .error (.noDirectory (sectionName.toList ++ '.' :: key.toList))

/-! ### Layers -/

/-- The settings with those of a settings file on top. -/
def withFile (base : Settings) (payload : SettingTable) : Except SettingsError Settings := do
  let manifest ← sectionOf payload "manifest".toList
  let removal ← sectionOf payload "removal".toList
  let audit ← sectionOf payload "audit".toList
  let extensions ←
    listField manifest "manifest" "project_extensions" base.conventions.extensions
  let versionControlSections ←
    listField manifest "manifest" "version_control_sections"
      base.conventions.versionControlSections
  let pruneFolders ← boolField removal "removal" "prune_empty_folders" base.pruneFolders
  let enabled ← boolField audit "audit" "enabled" base.audit.enabled
  let directory ←
    directoryField audit "audit" "data_dir" base.manifestDirectory base.audit.directory
  return {
    manifestDirectory := base.manifestDirectory
    conventions := ⟨extensions, versionControlSections⟩
    pruneFolders := pruneFolders
    audit := ⟨enabled, directory⟩ }

/-- The project endings that overrides give, or those below. -/
def overriddenExtensions (o : Overrides) (below : List Text) : Except SettingsError (List Text) :=
  match o.extensions with
  | none => .ok below
  | some extensions =>
      textList "overrides.project_extensions".toList (.list (extensions.map .text))

/-- The settings with overrides on top. -/
def withOverrides (s : Settings) (o : Overrides) : Except SettingsError Settings :=
  (overriddenExtensions o s.conventions.extensions).map fun extensions =>
    { manifestDirectory := s.manifestDirectory
      conventions := { s.conventions with extensions := extensions }
      pruneFolders := o.pruneFolders.getD s.pruneFolders
      audit := ⟨o.auditEnabled.getD s.audit.enabled,
        o.auditDirectory.getD s.audit.directory⟩ }

/-- The settings with the directory of the audit log as seen from the working directory. -/
def resolved (how : Resolution) (cwd : Path) (s : Settings) : Except MergeError Settings :=
  match how.resolve? cwd s.audit.directory with
  | none => .error .unresolvable
  | some directory => .ok { s with audit := ⟨s.audit.enabled, directory⟩ }

/-- Puts the three layers together. -/
def merge (how : Resolution) (cwd : Path) (base : Settings) (payload : SettingTable)
    (o : Overrides) : Except MergeError Settings :=
  match (withFile base payload).bind fun s => withOverrides s o with
  | .error e => .error (.wrong e)
  | .ok s => s.resolved how cwd

end Settings

end SolutionSweep
