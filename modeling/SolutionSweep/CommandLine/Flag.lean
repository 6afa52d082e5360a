import SolutionSweep.Text.Basic

/-!
# Flags

The flags of the command line. A flag stands alone or takes one value; a long one may be cut short
as long as no other flag begins in the same way.
-/

namespace SolutionSweep

/-- A flag of the command line. -/
inductive Flag
  | help
  | yes
  | dryRun
  | json
  | keep
  | dataDir
  | pruneEmptyFolders
  | projectExtension
  | noAudit
  | showConfig
  | auditTail
  | auditSince
  deriving DecidableEq, Repr

namespace Flag

/-- The spellings of the flags, in the order in which messages list them. -/
def spellings : List (Text × Flag) :=
  ([("-h", help), ("--help", help), ("--yes", yes), ("--dry-run", dryRun), ("--json", json),
    ("--keep", keep), ("--data-dir", dataDir), ("--prune-empty-folders", pruneEmptyFolders),
    ("--project-extension", projectExtension), ("--no-audit", noAudit),
    ("--show-config", showConfig), ("--audit-tail", auditTail),
    ("--audit-since", auditSince)] : List (String × Flag)).map fun s => (s.1.toList, s.2)

/-- The spellings of a flag, as messages show them. -/
def label (f : Flag) : Text :=
  Text.join ['/'] ((spellings.filter (·.2 = f)).map (·.1))

/-- Whether a flag takes a value. -/
def takesValue : Flag → Bool
  | keep | dataDir | pruneEmptyFolders | projectExtension | auditTail | auditSince => true
  | help | yes | dryRun | json | noAudit | showConfig => false

end Flag

end SolutionSweep
