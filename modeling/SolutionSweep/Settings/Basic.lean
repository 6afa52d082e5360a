import SolutionSweep.Manifest.Conventions
import SolutionSweep.Path

/-!
# Settings

The settings of a run: where the manifest lies, the conventions it follows, whether empty folders
are pruned, and whether and where an audit log is kept.
-/

namespace SolutionSweep

/-- Whether an audit log is kept, and the directory that it is kept in. -/
structure AuditSettings where
  enabled : Bool
  directory : Path
  deriving DecidableEq, Repr

/-- The settings of a run. -/
structure Settings where
  manifestDirectory : Path
  conventions : Conventions
  pruneFolders : Bool
  audit : AuditSettings
  deriving DecidableEq, Repr

/-- Settings that are given for one run and prevail over all others. -/
structure Overrides where
  auditDirectory : Option Path
  pruneFolders : Option Bool
  extensions : Option (List Text)
  auditEnabled : Option Bool
  deriving DecidableEq, Repr

/-- No setting is given. -/
def Overrides.none : Overrides := ⟨.none, .none, .none, .none⟩

/-- The name of the directory for the audit log. -/
def auditDirectoryName : Text := ".sln_prune".toList

/-- The settings for a manifest in a directory when nothing else is said. -/
def Settings.standard (cwd directory : Path) : Settings :=
  let home := Path.resolve cwd directory
  { manifestDirectory := home
    conventions := Conventions.standard
    pruneFolders := true
    audit := ⟨true, home.child auditDirectoryName⟩ }

end SolutionSweep
