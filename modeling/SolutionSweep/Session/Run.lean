import SolutionSweep.Audit.Instant
import SolutionSweep.Audit.Log
import SolutionSweep.Session.Outcome
import SolutionSweep.Session.Selection
import SolutionSweep.Settings.File

/-!
# Removal sessions

A session detects the unused projects of a manifest, offers them to a selector, takes the approved
ones out of the manifest text, writes the manifest once and adds an event to the audit log.

* `Session.create`: a session with the settings for its manifest;
* `Session.attempt`: everything up to the point where something would be written;
* `Session.run`: the store after a session, and what the session has come to.
-/

namespace SolutionSweep

/-- A session for one manifest. -/
structure Session where
  manifest : Path
  settings : Settings
  log : Option Path
  id : Text

/-- What a session has come to before it writes: its outcome, and the selection if there was
anything to select. -/
structure Attempt where
  outcome : Outcome
  selection : Option Selection

/-- Why a session comes to no outcome. -/
inductive RunError
  | longNumeral (e : LongNumeral)
  | denied (e : Denied)
  deriving DecidableEq

/-- The store after a session, and what the session has come to. -/
structure RunResult where
  store : Store
  result : Except RunError Attempt

namespace Session

/-- The name of the file that the audit log is kept in. -/
def logName : Text := "audit.jsonl".toList

/-- The identifier of the session of a given number. -/
def numberedId (n : Nat) : Text := "session-".toList ++ Text.ofNatPadded 6 n

/-- Creates a session. Without an identifier it gets the next number, which is then used up. -/
def create (s : Store) (next : Nat) (manifest : Path) (o : Overrides) (id : Option Text) :
    Except SetupError (Session × Nat) :=
  match s.resolve? manifest with
  | none => .error (.invalid .unresolvable)
  | some resolved =>
      (Settings.load s resolved o).map fun settings =>
        let log :=
          if settings.audit.enabled then some (settings.audit.directory.child logName) else none
        match id with
        | some (c :: cs) => (⟨resolved, settings, log, c :: cs⟩, next)
        | _ => (⟨resolved, settings, log, numberedId next⟩, next + 1)

/-! ### Outcomes of a session -/

/-- An outcome in which nothing has been taken out. -/
def outcome (s : Session) (status : Status) (message : Text) (unused : List Project)
    (descriptorsRead : Nat) : Outcome where
  sessionId := s.id
  status := status
  manifest := s.manifest
  message := message
  problem := none
  unused := unused
  removed := []
  prunedFolders := []
  warnings := []
  text := none
  written := false
  descriptorsRead := descriptorsRead

/-- The outcome of a session that met a problem. -/
def failure (s : Session) (p : DetectionProblem) : Outcome :=
  { s.outcome .failed p.headline [] 0 with problem := some p }

/-- An outcome together with a removal. -/
def withRemoval (o : Outcome) (r : Removal) : Outcome :=
  { o with
    removed := r.removed
    prunedFolders := r.prunedFolders
    warnings := r.warnings
    text := some r.text }

/-- How many projects and folders have been, or would be, taken out. -/
def removalMessage (r : Removal) (written : Bool) : Text :=
  let projects := (r.removed.filter (·.isProject)).length
  let folders := r.prunedFolders.length + (r.removed.filter fun e => !e.isProject).length
  (if written then "Removed ".toList else "Would remove ".toList) ++ Text.ofNat projects ++
    " project(s) and ".toList ++ Text.ofNat folders ++ " folder(s).".toList

/-- The outcome of a session that has come to a removal. -/
def conclude (s : Session) (unused : List Project) (descriptorsRead : Nat) (r : Removal)
    (dryRun : Bool) : Outcome :=
  let ending (status : Status) (message : Text) : Outcome :=
    withRemoval (s.outcome status message unused descriptorsRead) r
  if !r.changed then ending .nothingToRemove "Nothing to remove.".toList
  else if dryRun then ending .dryRun (removalMessage r false)
  else { ending .removed (removalMessage r true) with written := true }

/-! ### Running -/

/-- Removes what a selection approves of, as far as the outcome shows it. -/
def carryOut (s : Session) (d : Detection) (selection : Selection) (dryRun : Bool) :
    Except LongNumeral Outcome :=
  let unused := d.reachability.unused
  let descriptorsRead := d.reachability.descriptorsRead
  if !selection.confirmed then
    .ok (s.outcome .cancelled "Removal cancelled.".toList unused descriptorsRead)
  else if selection.approved.isEmpty && !s.settings.pruneFolders then
    .ok (s.outcome .nothingToRemove "No projects approved for removal.".toList unused
      descriptorsRead)
  else
    (Removal.apply s.settings.conventions d.registry.text (selection.approved.map (·.id))
      s.settings.pruneFolders).map fun r => s.conclude unused descriptorsRead r dryRun

/-- Everything up to the point where something would be written. -/
def attempt (s : Session) (store : Store) (select : Selector) (dryRun : Bool) :
    Except RunError Attempt :=
  match Detection.run store s.settings.conventions s.manifest with
  | .error (.problem p) => .ok ⟨s.failure p, none⟩
  | .error (.longNumeral e) => .error (.longNumeral e)
  | .error (.denied e) => .error (.denied e)
  | .ok d =>
      if d.reachability.unused.isEmpty then
        .ok ⟨s.outcome .nothingToRemove "No unused projects found.".toList []
          d.reachability.descriptorsRead, none⟩
      else
        let selection := select (candidatesOf d.reachability.unused)
        match s.carryOut d selection dryRun with
        | .error e => .error (.longNumeral e)
        | .ok o => .ok ⟨o, some selection⟩

/-- Whether a session comes to the point where candidates are offered to a selector. -/
def offersCandidates (s : Session) (store : Store) : Bool :=
  match s.attempt store .decline true with
  | .ok a => a.selection.isSome
  | .error _ => false

/-- The store after the manifest has been written, if the outcome says so. -/
def commit (store : Store) (o : Outcome) : Store :=
  match o.written, o.text with
  | true, some text => store.put o.manifest (.contents (Utf8.encode text))
  | _, _ => store

/-- The store after the outcome has been logged, if a log is kept. -/
def record (s : Session) (store : Store) (now : Instant) (o : Outcome) : Except Denied Store :=
  match s.log with
  | none => .ok store
  | some log => AuditLog.append store log (o.event now.text)

/-- Runs a session. The manifest is written at most once, before the event is logged. -/
def run (s : Session) (store : Store) (now : Instant) (select : Selector) (dryRun : Bool) :
    RunResult :=
  match s.attempt store select dryRun with
  | .error e => ⟨store, .error e⟩
  | .ok a =>
      let written := commit store a.outcome
      match s.record written now a.outcome with
      | .error e => ⟨written, .error (.denied e)⟩
      | .ok logged => ⟨logged, .ok a⟩

end Session

end SolutionSweep
