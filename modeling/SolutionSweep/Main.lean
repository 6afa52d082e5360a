import SolutionSweep.CommandLine.Files
import Std.Time.DateTime

/-!
# The program

The outer layer: it reads the files that a command looks at into a store, runs the command, and
writes what has changed back to disk. Where the command has a question, it is shown before the
answer is read.
-/

namespace SolutionSweep

/-- The name of a location on disk. -/
def diskName (location : Path) : String := String.ofList location.render

/-- Prints a text at once. -/
def printText (stream : IO.FS.Stream) (t : Text) : IO Unit := do
  stream.putStr (String.ofList t)
  stream.flush

/-- Whether a location that may not be read lies behind a closed directory. With a slash at its end
the path does not lead to a file, and only a directory can still be closed. -/
def isBehindBarrier (location : Path) : IO Bool := do
  try
    let _ ← IO.FS.readBinFile (diskName location ++ "/")
    return false
  catch e =>
    match e with
    | .permissionDenied .. => return true
    | _ => return false

/-- Reads what is at a location on disk; what is no file is missing, and so is a path that the
system does not take. -/
def readFile? (location : Path) : IO (Option File) := do
  try
    let bytes ← IO.FS.readBinFile (diskName location)
    return some (.contents bytes.toList)
  catch e =>
    match e with
    | .permissionDenied .. =>
        return some (if ← isBehindBarrier location then .barred .permission else .denied)
    | .invalidArgument .. =>
        return if Resolution.bySystem.accepts location then some (.barred .longName) else none
    | _ => return none

/-- Adds files from disk to a store. -/
def loadFiles (store : Store) (files : List Path) : IO Store :=
  files.foldlM (fun store file => do
    match ← readFile? (Store.locate store.cwd file) with
    | some contents => return store.put file contents
    | none => return store) store

/-- The store that a command runs on. -/
def loadStore (cwd : Path) (arguments : List Text) : IO Store := do
  let empty : Store := { Store.empty cwd with resolution := .bySystem }
  match Arguments.parse arguments with
  | .ok (.arguments a) =>
      let store ← loadFiles empty (Command.entryFiles cwd a)
      loadFiles store (Command.furtherFiles store a)
  | _ => return empty

/-- Writes the files that have changed back to disk. -/
def saveChanges (before after : Store) : IO Unit :=
  (before.changesSince after).forM fun (location, file) => do
    match file with
    | .contents bytes =>
        IO.FS.createDirAll (diskName location.parent)
        IO.FS.writeBinFile (diskName location) ⟨bytes.toArray⟩
    | .denied | .barred _ => return

/-- Reads the clock. -/
def readClock : IO Instant := do
  let nanoseconds := (← Std.Time.Timestamp.now).toNanosecondsSinceUnixEpoch.val.toNat
  let seconds := nanoseconds / 1000000000
  let date := Std.Time.PlainDate.ofEpochDay (.ofNat (seconds / 86400))
  return {
    year := date.year.toInt.toNat
    month := date.month.toNat
    day := date.day.toNat
    hour := seconds / 3600 % 24
    minute := seconds / 60 % 60
    second := seconds % 60
    microsecond := nanoseconds / 1000 % 1000000 }

/-- What is said about a command that comes to no exit code. -/
def failureMessage : CommandError → Text
  | .noValue f => "A value is missing for ".toList ++ f.label ++ ['.']
  | .denied e => e.message
  | .run (.denied e) => e.message
  | .run (.longNumeral e) => e.message
  | .log (.denied e) => e.message
  | .log (.longNumeral e) => e.message
  | .log .notText => "Audit log is not valid UTF-8 text.".toList
  | .log .notObject => "Audit log holds a record that is no object.".toList
  | .log .noTimestamp => "A value is missing for ".toList ++ Flag.auditSince.label ++ ['.']

/-- Prints the report of a command, and returns its exit code. -/
def finish (result : Except CommandError CommandOutput) : IO UInt32 := do
  match result with
  | .error e =>
      printText (← IO.getStderr) (failureMessage e ++ ['\n'])
      return 1
  | .ok o =>
      match o.notice with
      | some .help => printText (← IO.getStdout) Command.help
      | some (.error e) => printText (← IO.getStderr) (Command.usageMessage e)
      | none => pure ()
      printText (← IO.getStdout) o.report
      return o.exitCode.toUInt32

/-- Runs a command on the files on disk. Its question is found out by a first run without input,
of which nothing is kept. -/
def runOnDisk (arguments : List Text) : IO UInt32 := do
  let cwd := Path.ofText (← IO.currentDir).toString.toList
  let store ← loadStore cwd arguments
  let now ← readClock
  let dialogue := (Command.run store 1 now arguments []).dialogue
  printText (← IO.getStdout) dialogue
  let input ← if dialogue.isEmpty then pure "" else (← IO.getStdin).getLine
  let r := Command.run store 1 now arguments input.toList
  saveChanges store r.store
  finish r.result

end SolutionSweep

/-- Runs the command on the arguments of the command line. -/
def main (arguments : List String) : IO UInt32 :=
  SolutionSweep.runOnDisk (arguments.map (·.toList))
