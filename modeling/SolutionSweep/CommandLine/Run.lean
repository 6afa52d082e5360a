import SolutionSweep.CommandLine.Arguments
import SolutionSweep.Session.Run

/-!
# The command

The command runs one session and reports its outcome, or shows the settings, or shows the end of
the audit log. Without approval on the command line it asks before it removes anything, unless the
report is meant for a program: then it declines.

* `Command.run`: the store after the command, what the command prints and its exit code.
-/

namespace SolutionSweep

/-- What is said about the use of the command, apart from what the command itself prints. -/
inductive UsageNotice
  | help
  | error (e : UsageError)
  deriving DecidableEq, Repr

/-- What a command prints, and its exit code: the dialogue comes before the input is read, and the
report after. -/
structure CommandOutput where
  exitCode : Nat
  dialogue : Text
  report : Text
  notice : Option UsageNotice

/-- All that a command itself prints. -/
def CommandOutput.out (o : CommandOutput) : Text := o.dialogue ++ o.report

/-- Why a command comes to no exit code. A flag without its value is found when the value is
wanted. -/
inductive CommandError
  | noValue (flag : Flag)
  | denied (e : Denied)
  | run (e : RunError)
  | log (e : AuditLogError)
  deriving DecidableEq

/-- The store and the number of the next session after a command, and what it has come to. -/
structure CommandResult where
  store : Store
  next : Nat
  result : Except CommandError CommandOutput

/-- The dialogue of a command; there is none if the command comes to no exit code. -/
def CommandResult.dialogue (r : CommandResult) : Text :=
  match r.result with
  | .ok o => o.dialogue
  | .error _ => []

namespace Command

/-- The name under which the command speaks of itself. -/
def name : Text := "sln-prune".toList

/-- What is said about arguments that cannot be used. -/
def usageMessage (e : UsageError) : Text := name ++ ": error: ".toList ++ e.message ++ ['\n']

/-- A reminder of how the command is used. -/
def help : Text :=
  "usage: ".toList ++ name ++ " manifest [flags]\n\nflags:\n".toList ++
    Flag.spellings.flatMap fun s => "  ".toList ++ s.1 ++ ['\n']

/-- The manifest that the arguments name. -/
def manifestOf (a : Arguments) : Path := Path.ofText (a.manifest.getD [])

/-- The directory that the arguments give for the audit log. -/
def directoryOf (store : Store) (a : Arguments) : Except SetupError (Option Path) :=
  match a.dataDir.bind FlagValue.toOption with
  | none => .ok none
  | some t =>
      match store.resolve? (Path.ofText t) with
      | none => .error (.invalid .unresolvable)
      | some directory => .ok (some directory)

/-- The settings that the arguments give. -/
def overridesOf (store : Store) (a : Arguments) : Except SetupError Overrides :=
  (directoryOf store a).map fun directory =>
    { auditDirectory := directory
      pruneFolders := a.pruneFolders
      extensions := a.extensions
      auditEnabled := if a.noAudit then some false else none }

/-- Creates the session that the arguments name. -/
def createSession (store : Store) (next : Nat) (a : Arguments) :
    Except SetupError (Session × Nat) :=
  match overridesOf store a with
  | .error e => .error e
  | .ok o => Session.create store next (manifestOf a) o none

/-- The settings as a value. -/
def settingsJson (s : Settings) : Json := .ofFields [
  ("manifest_dir", .ofText s.manifestDirectory.render),
  ("manifest", .ofFields [
    ("project_extensions", .array (s.conventions.extensions.map .ofText)),
    ("version_control_sections", .array (s.conventions.versionControlSections.map .ofText))]),
  ("removal", .ofFields [("prune_empty_folders", .bool s.pruneFolders)]),
  ("audit", .ofFields [
    ("enabled", .bool s.audit.enabled),
    ("data_dir", .ofText s.audit.directory.render)])]

/-- A value on a line of its own. -/
def jsonLine (v : Json) : Text := v.render ++ ['\n']

/-! ### Asking -/

/-- The line of a candidate in the list that is shown before the question. -/
def candidateLine (c : Candidate) : Text :=
  let mark := if c.remove then 'x' else ' '
  let folder := if c.project.nestedPath.isEmpty then [] else c.project.nestedPath ++ ['/']
  "  [".toList ++ mark :: "] ".toList ++ folder ++ c.project.name ++ " (".toList ++
    c.project.relativePath ++ [')']

/-- The list of candidates, those to be removed marked. -/
def candidateList (candidates : List Candidate) : Text :=
  let title := "Unused projects (".toList ++ Text.ofNat candidates.length ++ "):".toList
  Text.join ['\n'] (title :: candidates.map candidateLine) ++ ['\n']

/-- The question that is asked before something is removed. -/
def question : Text := "Remove the selected projects? [y/N] ".toList

/-- Whether the first line of the input answers yes. -/
def answersYes (input : Text) : Bool :=
  let answer := (Text.strip (input.takeWhile (· != '\n'))).lower
  answer == "y".toList || answer == "yes".toList

/-- How a removal is confirmed. -/
inductive Approval
  | given
  | asked
  | withheld
  deriving DecidableEq, Repr

/-- How the arguments say that a removal is confirmed. -/
def approvalOf (a : Arguments) : Approval :=
  if a.yes || a.dryRun then .given else if a.json then .withheld else .asked

/-- Whether a removal is confirmed, given the input. -/
def confirms (approval : Approval) (input : Text) : Bool :=
  match approval with
  | .given => true
  | .withheld => false
  | .asked => answersYes input

/-- What is printed before the report. -/
def dialogue (approval : Approval) (selection : Option Selection) : Text :=
  match approval, selection with
  | .asked, some s => candidateList s.candidates ++ question
  | _, _ => []

/-! ### Running -/

/-- The lower bound that the arguments give for the audit log. -/
def lowerBoundOf (a : Arguments) : LowerBound :=
  match a.auditSince with
  | none => .all
  | some (.given t) => .since t
  | some .dropped => .unknown

/-- Shows the end of the audit log of a session. -/
def showLog (store : Store) (session : Session) (a : Arguments) (limit : FlagValue Int) :
    Except CommandError Text :=
  match session.log, limit with
  | none, _ => .ok "Audit log is disabled.\n".toList
  | some _, .dropped => .error (.noValue .auditTail)
  | some log, .given n =>
      match AuditLog.read store log (lowerBoundOf a) n with
      | .error e => .error (.log e)
      | .ok records => .ok (records.flatMap jsonLine)

/-- The report of an outcome, for a program or for people. -/
def reportOf (a : Arguments) (o : Outcome) : Text :=
  if a.json then jsonLine o.toJson else o.report

/-- Whether the session offers candidates while a project to keep is missing its value. -/
def lacksKeep (store : Store) (session : Session) (a : Arguments) : Bool :=
  a.keep.contains .dropped && session.offersCandidates store

/-- Runs a session as the arguments say. -/
def runSession (store : Store) (next : Nat) (now : Instant) (session : Session) (a : Arguments)
    (input : Text) : CommandResult :=
  if lacksKeep store session a then ⟨store, next, .error (.noValue .keep)⟩
  else
    let approval := approvalOf a
    let select :=
      Selector.keeping (a.keep.filterMap FlagValue.toOption) fun _ => confirms approval input
    let r := session.run store now select a.dryRun
    match r.result with
    | .error e => ⟨r.store, next, .error (.run e)⟩
    | .ok attempt =>
        ⟨r.store, next, .ok {
          exitCode := if attempt.outcome.ok then 0 else 1
          dialogue := dialogue approval attempt.selection
          report := reportOf a attempt.outcome
          notice := none }⟩

/-- Does what the arguments say for a session. -/
def withSession (store : Store) (next : Nat) (now : Instant) (session : Session) (a : Arguments)
    (input : Text) : CommandResult :=
  match a.auditTail with
  | some limit =>
      ⟨store, next, match showLog store session a limit with
        | .error e => .error e
        | .ok out => .ok ⟨0, [], out, none⟩⟩
  | none =>
      if a.showConfig then
        ⟨store, next, .ok ⟨0, [], jsonLine (settingsJson session.settings), none⟩⟩
      else runSession store next now session a input

/-- Does what the arguments say. -/
def execute (store : Store) (next : Nat) (now : Instant) (a : Arguments) (input : Text) :
    CommandResult :=
  if a.dataDir = some .dropped then ⟨store, next, .error (.noValue .dataDir)⟩
  else
    match createSession store next a with
    | .error (.denied e) => ⟨store, next, .error (.denied e)⟩
    | .error e =>
        ⟨store, next, .ok ⟨2, [], "Invalid configuration: ".toList ++ e.message ++ ['\n'], none⟩⟩
    | .ok (session, next) => withSession store next now session a input

/-- Runs the command on the arguments of a command line. -/
def run (store : Store) (next : Nat) (now : Instant) (arguments : List Text) (input : Text) :
    CommandResult :=
  match Arguments.parse arguments with
  | .error e => ⟨store, next, .ok ⟨2, [], [], some (.error e)⟩⟩
  | .ok .help => ⟨store, next, .ok ⟨0, [], [], some .help⟩⟩
  | .ok (.arguments a) => execute store next now a input

end Command

end SolutionSweep
