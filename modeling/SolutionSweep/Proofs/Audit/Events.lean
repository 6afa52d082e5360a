import SolutionSweep.Proofs.Audit.Lines
import SolutionSweep.Proofs.Json.Printer
import SolutionSweep.Proofs.Json.RoundTrip
import Mathlib.Data.List.DropRight

/-!
# Events read back

An event is written on a line of its own, and this line is read as a record that holds what the
event holds. So a log to which events are added has their records behind those it had before.

* `AuditEvent.Recordable`: events that are read back;
* `AuditLog.record?_event`: the record on the line of an event;
* `AuditLog.records_append_event`: the records of a log after an event;
* `AuditLog.appendAll`: a log after several events, `AuditLog.Holds.appendAll`: its records;
* `AuditLog.IsNew.read_appendAll`: what is read of a log that was new.
-/

namespace SolutionSweep

/-! ### Events as values -/

namespace AuditEvent

/-- Events that are read back: their metadata are. -/
def Recordable (e : AuditEvent) : Prop := Json.Recordable (.object e.metadata)

/-- The fields of an event. -/
def fields (e : AuditEvent) : JsonFields := [
  (.ofText "timestamp".toList, .ofText e.timestamp),
  (.ofText "session_id".toList, .ofText e.sessionId),
  (.ofText "operation".toList, .ofText e.operation),
  (.ofText "ok".toList, .bool e.ok),
  (.ofText "aborted".toList, .bool e.aborted),
  (.ofText "error_code".toList, .ofText? e.errorCode),
  (.ofText "metadata".toList, .object e.metadata)]

theorem toJson_eq (e : AuditEvent) : e.toJson = .object e.fields := rfl

theorem names_fields (e : AuditEvent) : e.fields.map (·.1) =
    ["timestamp", "session_id", "operation", "ok", "aborted", "error_code", "metadata"].map
      fun name => .ofText name.toList := rfl

theorem nodup_fields (e : AuditEvent) : (e.fields.map (·.1)).Nodup := by
  rw [names_fields]
  decide

theorem Recordable.toJson {e : AuditEvent} (h : e.Recordable) : Json.Recordable e.toJson := by
  have text (t : Text) : Json.Recordable (.ofText t) := .text (CodePoints.isLegible_ofText t)
  have text? : Json.Recordable (.ofText? e.errorCode) := by
    cases e.errorCode with
    | none => exact .null
    | some t => exact text t
  refine .object e.nodup_fields (fun f mem => ?_) fun f mem => ?_
  · obtain ⟨f, -, rfl⟩ := List.mem_map.1 mem
    exact CodePoints.isLegible_ofText _
  · simp only [List.map_cons, List.map_nil, List.mem_cons, List.not_mem_nil, or_false] at mem
    rcases mem with rfl | rfl | rfl | rfl | rfl | rfl | rfl
    · exact text _
    · exact text _
    · exact text _
    · exact .bool _
    · exact .bool _
    · exact text?
    · exact h

/-- The line of an event begins and ends with a brace. -/
theorem exists_render (e : AuditEvent) : ∃ t, e.toJson.render = '\x7b' :: t ++ ['\x7d'] :=
  ⟨_, Json.render_object e.fields⟩

theorem render_ne_nil (e : AuditEvent) : e.toJson.render ≠ [] := by
  obtain ⟨t, parts⟩ := e.exists_render
  simp [parts]

theorem isLine_render (e : AuditEvent) : IsLine e.toJson.render where
  lineFeed := Json.newline_not_mem_render e.toJson
  carriageReturn mem := absurd (Json.isPlain_render e.toJson _ mem) (by decide)

/-- Whether the timestamp of an event is not below a lower bound, in the order of code points. -/
def isSince (since : Option Text) (e : AuditEvent) : Bool :=
  since.all fun t => CodePoints.le (.ofText t) (.ofText e.timestamp)

end AuditEvent

/-- The lower bound that is given by a timestamp, or by none. -/
def LowerBound.since? : Option Text → LowerBound
  | none => .all
  | some t => .since t

namespace AuditLog

variable {e : AuditEvent} {since : Option Text}

/-! ### The record of an event -/

/-- The line of an event is read as a record with its fields. -/
theorem parse_line (h : e.Recordable) : Json.parse e.toJson.render = .ok e.toJson.sorted :=
  Json.parse_render h.toJson

/-- The record of an event has its timestamp. -/
theorem timestamp?_sorted (e : AuditEvent) :
    timestamp? e.toJson.sorted = .ok (some (.ofText e.timestamp)) := by
  have found : e.fields.lookup (.ofText "timestamp".toList) = some (.ofText e.timestamp) := rfl
  rw [AuditEvent.toJson_eq, Json.sorted_object, timestamp?, Json.lookup_sorted e.nodup_fields, found]
  rfl

theorem isWanted_sorted (since : Option Text) (e : AuditEvent) :
    isWanted (.since? since) e.toJson.sorted = .ok (e.isSince since) := by
  cases since with
  | none => rfl
  | some t =>
    rw [LowerBound.since?, isWanted, timestamp?_sorted]
    rfl

/-- White space in front of the line of an event is stripped, and nothing else. -/
theorem strip_append_render {blanks : Text} (blank : Text.isBlank blanks = true) (e : AuditEvent) :
    Text.strip (blanks ++ e.toJson.render) = e.toJson.render := by
  obtain ⟨t, parts⟩ := e.exists_render
  have bare : Text.strip e.toJson.render = e.toJson.render := by
    rw [Text.strip_eq_self_iff, parts]
    constructor
    · rintro c ⟨⟩
      decide
    · intro c last
      rw [List.getLast?_concat] at last
      obtain rfl := Option.some.inj last
      decide
  have stripped : Text.strip (blanks ++ (e.toJson.render ++ [])) = e.toJson.render :=
    Text.trim_append (List.all_eq_true.1 blank) nofun bare
  rwa [List.append_nil] at stripped

/-- **The line of an event is read as its record**, also behind white space. -/
theorem record?_event (h : e.Recordable) {blanks : Text} (blank : Text.isBlank blanks = true)
    (since : Option Text) : record? (.since? since) (blanks ++ e.toJson.render) =
      .ok (if e.isSince since then some e.toJson.sorted else none) := by
  obtain ⟨t, parts⟩ := e.exists_render
  have filled : ¬ Text.isBlank (blanks ++ e.toJson.render) = true := by
    rw [parts, Text.isBlank, List.all_append, List.cons_append, List.all_cons]
    simp [isWhite]
  rw [record?, if_neg filled, strip_append_render blank, parse_line h]
  simp only
  rw [isWanted_sorted]
  rfl

/-! ### The records of a log -/

variable {s : Store} {log : Path} {text : Text}

/-- **The records of a log after an event**: those of its lines, and the event if it is wanted. -/
theorem records_append_event (h : e.Recordable)
    (blank : Text.isBlank (unfinishedLine text) = true) (since : Option Text) :
    records (.since? since) (lines (text ++ (e.toJson.render ++ ['\n']))) =
      (records (.since? since) (lines text)).map
        (· ++ if e.isSince since then [e.toJson.sorted] else []) := by
  have last := unfinishedLine_append_line e.isLine_render e.render_ne_nil text
  rw [records_lines (by rw [last]; rfl), records_lines blank,
    finishedLines_append_line e.isLine_render e.render_ne_nil, records_append]
  have record : records (.since? since) [unfinishedLine text ++ e.toJson.render] =
      .ok (if e.isSince since then [e.toJson.sorted] else []) := by
    rw [records, record?_event h blank]
    cases e.isSince since <;> rfl
  rw [record]
  rfl

/-- The store after some events have been added to a log. -/
def appendAll (s : Store) (log : Path) (events : List AuditEvent) : Except Denied Store :=
  events.foldlM (fun s e => append s log e) s

/-- **The records of a log after some events**: those of its lines, and the wanted events. -/
theorem Holds.appendAll (holds : Holds s log text)
    (blank : Text.isBlank (unfinishedLine text) = true) {events : List AuditEvent}
    (recordable : ∀ e ∈ events, e.Recordable) :
    ∃ s' text', AuditLog.appendAll s log events = .ok s' ∧ Holds s' log text' ∧
      ∀ since, records (.since? since) (lines text') =
        (records (.since? since) (lines text)).map
          (· ++ (events.filter (·.isSince since)).map fun e => e.toJson.sorted) := by
  induction events generalizing s text with
  | nil =>
    refine ⟨s, text, rfl, holds, fun since => ?_⟩
    cases records (.since? since) (lines text) <;> simp [Except.map]
  | cons e rest ih =>
    obtain ⟨s₁, added, -, holds₁⟩ := holds.append e
    have last := unfinishedLine_append_line e.isLine_render e.render_ne_nil text
    obtain ⟨s', text', run, holds', read⟩ :=
      ih holds₁ (by rw [last]; rfl) fun e' mem => recordable e' (List.mem_cons_of_mem e mem)
    refine ⟨s', text', ?_, holds', fun since => ?_⟩
    · rw [AuditLog.appendAll, List.foldlM_cons, added]
      exact run
    · rw [read since, records_append_event (recordable e List.mem_cons_self) blank]
      cases records (.since? since) (lines text) with
      | error err => rfl
      | ok rs => cases wanted : e.isSince since <;> simp [Except.map, wanted]

/-! ### New logs -/

/-- A log that is missing or empty. -/
def IsNew (s : Store) (log : Path) : Prop := s.get? log = none ∨ s.get? log = some (.contents [])

/-- A new log has no text. -/
theorem IsNew.holds (new : IsNew s log) : Holds s log [] := by
  have bytes : s.bytes log = [] := by rcases new with h | h <;> rw [Store.bytes, h]
  refine ⟨Store.isOpen_iff.2 ?_, by rw [bytes]; rfl⟩
  exact new.imp_right fun empty => ⟨[], empty⟩

theorem lastOf_map {α β : Type} (n : Nat) (f : α → β) (xs : List α) :
    lastOf n (xs.map f) = (xs.rtake n).map f := by
  rw [lastOf, List.rtake, List.length_map, List.map_drop]

/-- **What is read of a new log** to which events have been added: the records of the last wanted
ones. -/
theorem IsNew.read_appendAll (new : IsNew s log) {events : List AuditEvent}
    (recordable : ∀ e ∈ events, e.Recordable) :
    ∃ s', AuditLog.appendAll s log events = .ok s' ∧
      ∀ since (limit : Int), 1 ≤ limit → read s' log (.since? since) limit =
        .ok (((events.filter (·.isSince since)).rtake limit.toNat).map fun e => e.toJson.sorted) := by
  obtain ⟨s', text, run, holds, found⟩ := new.holds.appendAll rfl recordable
  refine ⟨s', run, fun since limit positive => ?_⟩
  have nothing : records (.since? since) (lines []) = .ok [] := records_of_isBlank rfl
  rw [holds.read positive, found since, nothing, ← lastOf_map]
  rfl

/-! ### A sample -/

/-- Metadata with a list, an object with fields out of order, a control character, a quote, a line
separator and a character above the basic plane. -/
def nestedMetadata : JsonFields := [
  (.ofText "status".toList, .ofText "\t\"😀\u2028".toList),
  (.ofText "removed_ids".toList, .array [.integer (-7), .null, .object [
    (.ofText "b".toList, .bool true), (.ofText "a".toList, .array [])]])]

theorem recordable_nestedMetadata : Json.Recordable (.object nestedMetadata) := by
  refine .object (by decide) (by decide) fun f mem => ?_
  rcases List.mem_pair.1 mem with rfl | rfl
  · exact .text (CodePoints.isLegible_ofText _)
  · refine .array fun v mem => ?_
    simp only [List.mem_cons, List.not_mem_nil, or_false] at mem
    rcases mem with rfl | rfl | rfl
    · exact .integer (by decide)
    · exact .null
    · refine .object (by decide) (by decide) fun f mem => ?_
      rcases List.mem_pair.1 mem with rfl | rfl
      · exact .bool true
      · exact .array nofun

/-- An event with these metadata. -/
def nestedEvent (timestamp : String) : AuditEvent where
  timestamp := timestamp.toList
  sessionId := "session-1".toList
  operation := "remove".toList
  ok := true
  aborted := false
  errorCode := none
  metadata := nestedMetadata

end AuditLog

end SolutionSweep
