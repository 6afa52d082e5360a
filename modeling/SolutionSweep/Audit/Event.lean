import SolutionSweep.Json.Display
import SolutionSweep.Json.Printer

/-!
# Audit events

An event records one session. Its metadata holds no free text: apart from a few fields that are
known to be harmless, texts are reduced to their length, lists and objects to their size or the
names of their fields.

* `AuditEvent`: an event, `AuditEvent.toJson` its record in the log;
* `sanitize`: metadata without free text.
-/

namespace SolutionSweep

/-- Named values. -/
abbrev JsonFields := List (CodePoints × Json)

/-- The record of one session. -/
structure AuditEvent where
  timestamp : Text
  sessionId : Text
  operation : Text
  ok : Bool
  aborted : Bool
  errorCode : Option Text
  metadata : JsonFields

/-- An event as a value. -/
def AuditEvent.toJson (e : AuditEvent) : Json := .ofFields [
  ("timestamp", .ofText e.timestamp),
  ("session_id", .ofText e.sessionId),
  ("operation", .ofText e.operation),
  ("ok", .bool e.ok),
  ("aborted", .bool e.aborted),
  ("error_code", .ofText? e.errorCode),
  ("metadata", .object e.metadata)]

/-! ### Metadata -/

/-- What metadata are made of: values, and things of other types, of which the type is known. -/
inductive MetadataValue
  | json (v : Json)
  | foreign (type : Text)

/-- The fields whose texts are kept. -/
def keptTexts : List CodePoints := ["manifest", "status"].map fun s => .ofText s.toList

/-- The fields whose lists are lists of identifiers and are kept. -/
def keptLists : List CodePoints :=
  ["removed_ids", "pruned_folder_ids", "unused_ids"].map fun s => .ofText s.toList

/-- The name of a field that is derived from another one. -/
def derivedName (name : CodePoints) (suffix : String) : CodePoints :=
  name ++ .ofText suffix.toList

/-- The fields that stand for a text, a list, an object or a thing of another type. -/
def reduced (name : CodePoints) : MetadataValue → JsonFields
  | .json (.text s) =>
      [(derivedName name "_present", .bool true), (derivedName name "_length", .integer s.length)]
  | .json (.array items) =>
      [(derivedName name "_type", .ofText "list".toList),
        (derivedName name "_length", .integer items.length)]
  | .json (.object fields) =>
      [(derivedName name "_type", .ofText "dict".toList),
        (derivedName name "_keys",
          .array (((fields.map (·.1)).mergeSort CodePoints.le).map .text))]
  | .json scalar => [(name, scalar)]
  | .foreign type => [(derivedName name "_type", .ofText type)]

/-- The fields that stand for a field of the metadata. -/
def sanitizedField (name : CodePoints) (value : MetadataValue) : JsonFields :=
  match value with
  | .json (.text s) => if name ∈ keptTexts then [(name, .text s)] else reduced name value
  | .json (.array items) =>
      if name ∈ keptLists then [(name, .array (items.map fun v => .ofText v.display))]
      else reduced name value
  | _ => reduced name value

/-- Metadata without free text. Fields are taken in the order of their names, and of several
derived fields with one name the last one counts. -/
def sanitize (metadata : List (CodePoints × MetadataValue)) : JsonFields :=
  lastValues ((metadata.mergeSort fun f g => CodePoints.le f.1 g.1).flatMap fun f =>
    sanitizedField f.1 f.2)

end SolutionSweep
