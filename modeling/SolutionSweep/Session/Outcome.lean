import SolutionSweep.Audit.Event
import SolutionSweep.Detection
import SolutionSweep.Manifest.Removal

/-!
# Outcomes

What a session has come to: its status, what was found unused, what was taken out, and whether the
manifest was written.

* `Outcome.toJson`: the outcome as a value;
* `Outcome.metadata`: what the audit log may know about it.
-/

namespace SolutionSweep

/-- How a session ends. -/
inductive Status
  | removed
  | dryRun
  | nothingToRemove
  | cancelled
  | failed
  deriving DecidableEq, Repr

/-- The word for a status. -/
def Status.text : Status → Text
  | removed => "removed".toList
  | dryRun => "dry_run".toList
  | nothingToRemove => "nothing_to_remove".toList
  | cancelled => "cancelled".toList
  | failed => "failed".toList

/-- The final state of a session. -/
structure Outcome where
  sessionId : Text
  status : Status
  manifest : Path
  message : Text
  problem : Option DetectionProblem
  unused : List Project
  removed : List RemovedEntry
  prunedFolders : List RemovedEntry
  warnings : List Warning
  text : Option Text
  written : Bool
  descriptorsRead : Nat

namespace Outcome

/-- Whether the manifest and its descriptors were in order. -/
def ok (o : Outcome) : Bool := o.status != .failed

/-- The word for the problem that was met. -/
def errorCode (o : Outcome) : Option Text := o.problem.map (·.code)

/-- What is said about the problem that was met. -/
def cause (o : Outcome) : Option Text := o.problem.map (·.message)

/-! ### As a value -/

/-- An unused project as a value. -/
def projectJson (p : Project) : Json := .ofFields [
  ("id", .ofText p.id), ("name", .ofText p.name), ("relative_path", .ofText p.relativePath),
  ("nested_path", .ofText p.nestedPath)]

/-- A removed entry as a value. -/
def removedJson (e : RemovedEntry) : Json := .ofFields [
  ("id", .ofText e.id), ("name", .ofText e.name), ("relative_path", .ofText e.relativePath),
  ("is_project", .bool e.isProject)]

/-- A warning as a value. -/
def warningJson (w : Warning) : Json := .ofFields [
  ("code", .ofText w.code), ("entry_id", .ofText w.entry), ("message", .ofText w.message)]

/-- The field for the problem that was met. -/
def problemFields (o : Outcome) : List (String × Json) :=
  match o.problem with
  | none => []
  | some p => [("error", .ofFields [
      ("code", .ofText p.code), ("message", .ofText o.message), ("cause", .ofText p.message)])]

/-- An outcome as a value. -/
def toJson (o : Outcome) : Json := .ofFields ([
  ("session_id", .ofText o.sessionId),
  ("ok", .bool o.ok),
  ("status", .ofText o.status.text),
  ("manifest", .ofText o.manifest.render),
  ("message", .ofText o.message),
  ("written", .bool o.written),
  ("descriptors_read", .integer o.descriptorsRead),
  ("unused", .array (o.unused.map projectJson)),
  ("removed", .array (o.removed.map removedJson)),
  ("pruned_folders", .array (o.prunedFolders.map removedJson)),
  ("warnings", .array (o.warnings.map warningJson))] ++ o.problemFields)

/-! ### For the audit log -/

/-- A list of identifiers as a value. -/
def idsJson (ids : List EntryId) : Json := .array (ids.map .ofText)

/-- What there is to say about an outcome, before it is sanitized. -/
def metadata (o : Outcome) : List (CodePoints × MetadataValue) :=
  ([("manifest", Json.ofText o.manifest.name),
    ("status", .ofText o.status.text),
    ("unused_ids", idsJson (o.unused.map (·.id))),
    ("removed_ids", idsJson (o.removed.map (·.id))),
    ("pruned_folder_ids", idsJson (o.prunedFolders.map (·.id))),
    ("warning_count", .integer o.warnings.length),
    ("written", .bool o.written),
    ("descriptors_read", .integer o.descriptorsRead),
    ("cause", .ofText? o.cause)] : List (String × Json)).map fun f =>
      (.ofText f.1.toList, .json f.2)

/-- The audit event of an outcome. -/
def event (o : Outcome) (timestamp : Text) : AuditEvent where
  timestamp := timestamp
  sessionId := o.sessionId
  operation := "remove_unused_projects".toList
  ok := o.ok
  aborted := o.status == .failed || o.status == .cancelled
  errorCode := o.errorCode
  metadata := sanitize o.metadata

/-! ### For people -/

/-- A report of an outcome: the message, the cause of a failure, and the summary of a removal. -/
def report (o : Outcome) : Text :=
  let cause := o.cause.toList.map fun c => "cause: ".toList ++ c
  let summary :=
    if o.status = .removed ∨ o.status = .dryRun then
      [Removal.summary o.removed o.prunedFolders o.warnings]
    else []
  Text.join ['\n'] (o.message :: cause ++ summary) ++ ['\n']

end Outcome

end SolutionSweep
