import SolutionSweep.Audit.Event
import SolutionSweep.Json.Parser
import SolutionSweep.Store

/-!
# The audit log

The log is a file with one JSON value on each line, to which events are added at the end. Lines
that are not JSON are passed over when it is read. A line is read however deeply its value is
nested; where the stack of the reader is limited, a line beyond the limit stops the reading instead.

* `AuditLog.append`: the store after an event has been added;
* `AuditLog.read`: the last records of the log, those before a lower bound left out.
-/

namespace SolutionSweep

/-- Why the log cannot be read. -/
inductive AuditLogError
  | denied (e : Denied)
  | notText
  | longNumeral (e : LongNumeral)
  | notObject
  | noTimestamp
  deriving DecidableEq

/-- From where on records are wanted: all of them, or those that are not before a timestamp. A bound
may also be asked for without a timestamp; then nothing can be compared with it. -/
inductive LowerBound
  | all
  | since (timestamp : Text)
  | unknown
  deriving DecidableEq, Repr

namespace AuditLog

/-- The line of an event. -/
def line (e : AuditEvent) : Bytes := Utf8.encode (e.toJson.render ++ ['\n'])

/-- Adds an event at the end of a log, which is made if it is missing. -/
def append (s : Store) (log : Path) (e : AuditEvent) : Except Denied Store :=
  match s.get? log with
  | some .denied => .error ⟨log, .permission⟩
  | some (.barred why) => .error ⟨log, why⟩
  | some (.contents bytes) => .ok (s.put log (.contents (bytes ++ line e)))
  | none => .ok (s.put log (.contents (line e)))

/-- The timestamp of a record, if it has one that is a text. -/
def timestamp? : Json → Except AuditLogError (Option CodePoints)
  | .object fields =>
      match fields.lookup (.ofText "timestamp".toList) with
      | some (.text timestamp) => .ok (some timestamp)
      | _ => .ok none
  | _ => .error .notObject

/-- Whether a record is wanted. With a lower bound a record without a timestamp is not. -/
def isWanted (bound : LowerBound) (record : Json) : Except AuditLogError Bool :=
  match bound with
  | .all => .ok true
  | .since t => (timestamp? record).map fun timestamp => timestamp.any (CodePoints.le (.ofText t))
  | .unknown =>
      match timestamp? record with
      | .error e => .error e
      | .ok none => .ok false
      | .ok (some _) => .error .noTimestamp

/-- The record on a line, if there is one that is wanted. -/
def record? (bound : LowerBound) (line : Text) : Except AuditLogError (Option Json) :=
  if Text.isBlank line then .ok none
  else
    match Json.parse (Text.strip line) with
    | .error .malformed => .ok none
    | .error (.longNumeral e) => .error (.longNumeral e)
    | .ok record =>
        (isWanted bound record).map fun wanted => if wanted then some record else none

/-- The wanted records on some lines. -/
def records (bound : LowerBound) : List Text → Except AuditLogError (List Json)
  | [] => .ok []
  | line :: rest =>
      match record? bound line with
      | .error e => .error e
      | .ok record => (records bound rest).map (record.toList ++ ·)

/-- A log is read in pieces of this many bytes, and its records as soon as their lines are
complete. -/
def pieceSize : Nat := 8192

/-- The bytes of a log in front of the piece in which a fault shows. A character that the log leaves
incomplete shows only when all pieces have been read. -/
def bytesBeforeFault (bytes : Bytes) : Bytes :=
  match Utf8.fault? bytes with
  | none => bytes
  | some fault =>
      if fault < bytes.length then bytes.take (fault / pieceSize * pieceSize) else bytes

/-- The complete lines at the start of a text, of which more may follow. A carriage return at the
end may be the first half of a line break, and completes nothing yet. -/
def completeLines (t : Text) : List Text :=
  let settled := if t.getLast? = some '\r' then t.dropLast else t
  (Text.splitOn '\n' (Text.unifyBreaks settled)).dropLast

/-- What is wrong with a log that is not a text: what its complete lines are refused for, or else
that it is no text. -/
def faultOf (bound : LowerBound) (bytes : Bytes) : AuditLogError :=
  match records bound (completeLines (Utf8.decodeStart (bytesBeforeFault bytes))) with
  | .error e => e
  | .ok _ => .notText

/-- The last elements of a list. -/
def lastOf {α : Type} (n : Nat) (xs : List α) : List α := xs.drop (xs.length - n)

/-- The last wanted records of a log, at most `limit` of them. -/
def read (s : Store) (log : Path) (bound : LowerBound) (limit : Int) :
    Except AuditLogError (List Json) :=
  if limit < 1 then .ok []
  else
    match s.get? log with
    | none => .ok []
    | some .denied => .error (.denied ⟨log, .permission⟩)
    | some (.barred why) => .error (.denied ⟨log, why⟩)
    | some (.contents bytes) =>
        match Utf8.decode? bytes with
        | none => .error (faultOf bound bytes)
        | some text =>
            (records bound (Text.splitOn '\n' (Text.unifyBreaks text))).map (lastOf limit.toNat)

end AuditLog

end SolutionSweep
