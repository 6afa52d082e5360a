import SolutionSweep.Audit.Log
import SolutionSweep.Proofs.Manifest.Rendering
import SolutionSweep.Proofs.Store
import SolutionSweep.Proofs.Text.Utf8
import SolutionSweep.Proofs.Traversal

/-!
# The lines of the audit log

A log is a text of lines. The last of them may be unfinished; what is written behind the text goes
on with this line. Each line is read apart from the others, so the records of a log are those of its
lines, one after the other.

* `AuditLog.finishedLines`, `AuditLog.unfinishedLine`: the lines of a text;
* `AuditLog.lines_append_line`: the lines of a text with a line written behind it;
* `AuditLog.Holds`: a log and its text, `AuditLog.Holds.append`: the text after an event;
* `AuditLog.records_eq_mapM`: the records of lines as a traversal, `AuditLog.records_append`;
* `AuditLog.Holds.read`: what is read of a log.
-/

namespace SolutionSweep.AuditLog

/-! ### Lines -/

/-- The lines of a text. Behind the last line break there is one more, which may be empty. -/
def lines (text : Text) : List Text := Text.splitOn '\n' (Text.unifyBreaks text)

theorem lines_ne_nil (text : Text) : lines text ≠ [] := Text.splitOn_ne_nil '\n' _

/-- The lines of a text that a line break ends. -/
def finishedLines (text : Text) : List Text := (lines text).dropLast

/-- What stands behind the last line break of a text. -/
def unfinishedLine (text : Text) : Text := (lines text).getLast (lines_ne_nil text)

theorem lines_eq (text : Text) : lines text = finishedLines text ++ [unfinishedLine text] :=
  (List.dropLast_append_getLast (lines_ne_nil text)).symm

/-- **A line that is written behind a text goes on with its last line.** -/
theorem lines_append_line {r : Text} (line : IsLine r) (filled : r ≠ []) (text : Text) :
    lines (text ++ (r ++ ['\n'])) = finishedLines text ++ [unfinishedLine text ++ r, []] := by
  have whole : (r ++ ['\n']).head? ≠ some '\n' := by
    obtain ⟨c, rest, rfl⟩ := List.exists_cons_of_ne_nil filled
    rintro head
    exact line.lineFeed (by rw [← Option.some.inj head]; exact List.mem_cons_self)
  have ending : Text.unifyBreaks (r ++ ['\n']) = r ++ ['\n'] :=
    Text.unifyBreaks_append line.carriageReturn ['\n']
  rw [lines, Text.unifyBreaks_append_of_head whole, ending, ← List.append_assoc,
    Text.splitOn_append, Text.splitOn_append_of_not_mem (lines_eq text) line.lineFeed]
  simp [Text.splitOn]

theorem finishedLines_append_line {r : Text} (line : IsLine r) (filled : r ≠ []) (text : Text) :
    finishedLines (text ++ (r ++ ['\n'])) = finishedLines text ++ [unfinishedLine text ++ r] := by
  rw [finishedLines, lines_append_line line filled]
  simp

theorem unfinishedLine_append_line {r : Text} (line : IsLine r) (filled : r ≠ []) (text : Text) :
    unfinishedLine (text ++ (r ++ ['\n'])) = [] := by
  simp [unfinishedLine, lines_append_line line filled]

/-! ### Logs -/

variable {s : Store} {log : Path} {text : Text}

/-- A log that may be opened, and the text that its bytes spell. A missing log has no text. -/
structure Holds (s : Store) (log : Path) (text : Text) : Prop where
  appendable : s.isOpen log = true
  decoded : Utf8.decode? (s.bytes log) = some text

/-- A line is added at the end of a log that may be opened. -/
theorem append_eq_ok (appendable : s.isOpen log = true) (e : AuditEvent) :
    append s log e = .ok (s.put log (.contents (s.bytes log ++ line e))) := by
  unfold append Store.bytes
  rcases Store.isOpen_iff.1 appendable with found | ⟨bytes, found⟩ <;>
    simp only [found, List.nil_append]

/-- Nothing is added to a log that may not be opened. -/
theorem isOpen_of_append {s' : Store} {e : AuditEvent} (added : append s log e = .ok s') :
    s.isOpen log = true := by
  unfold append at added
  rw [Store.isOpen_iff]
  match found : s.get? log with
  | none => exact .inl rfl
  | some (.contents bytes) => exact .inr ⟨bytes, rfl⟩
  | some .denied | some (.barred why) =>
    rw [found] at added
    cases added

/-- **What an event adds**: a line behind the bytes and behind the text of the log. -/
theorem Holds.append (holds : Holds s log text) (e : AuditEvent) :
    ∃ s', AuditLog.append s log e = .ok s' ∧ s'.bytes log = s.bytes log ++ line e ∧
      Holds s' log (text ++ (e.toJson.render ++ ['\n'])) := by
  refine ⟨_, append_eq_ok holds.appendable e, ?_, ?_, ?_⟩
  · rw [Store.bytes, Store.get?_put]
  · exact Store.isOpen_of_contents (Store.get?_put ..)
  · rw [Store.bytes, Store.get?_put]
    exact Utf8.decode?_append_encode holds.decoded _

/-! ### Records -/

variable {bound : LowerBound}

/-- Each line is read apart from the others. -/
theorem records_eq_mapM (bound : LowerBound) (ls : List Text) :
    records bound ls = (ls.mapM (record? bound)).map (·.flatMap Option.toList) := by
  induction ls with
  | nil => rfl
  | cons l rest ih =>
    rw [records, List.mapM_cons]
    cases record? bound l with
    | error e => rfl
    | ok r =>
      simp only
      rw [ih]
      cases rest.mapM (record? bound) <;> rfl

/-- Lines have records if each of them is read without an error. -/
theorem exists_records_iff {ls : List Text} :
    (∃ rs, records bound ls = .ok rs) ↔ ∀ l ∈ ls, ∃ r, record? bound l = .ok r := by
  rw [records_eq_mapM, exists_map_eq_ok_iff, exists_mapM_iff]

/-- A record stands on one of the lines. -/
theorem exists_of_mem_records {ls : List Text} {rs : List Json} (ok : records bound ls = .ok rs)
    {r : Json} (mem : r ∈ rs) : ∃ l ∈ ls, record? bound l = .ok (some r) := by
  rw [records_eq_mapM] at ok
  cases each : ls.mapM (record? bound) with
  | error e =>
    rw [each] at ok
    cases ok
  | ok found =>
    rw [each] at ok
    obtain rfl := Except.ok.inj ok
    obtain ⟨r', mem', here⟩ := List.mem_flatMap.1 mem
    obtain ⟨l, hl, read⟩ := exists_of_mem_mapM each mem'
    exact ⟨l, hl, Option.mem_toList.1 here ▸ read⟩

/-- The records of the first lines come first. -/
theorem records_append (bound : LowerBound) (front back : List Text) :
    records bound (front ++ back) =
      (records bound front).bind fun rs => (records bound back).map (rs ++ ·) := by
  induction front with
  | nil =>
    cases back_ok : records bound back <;> simp [records, back_ok, Except.bind, Except.map]
  | cons l rest ih =>
    rw [List.cons_append, records, records, ih]
    cases record? bound l with
    | error e => rfl
    | ok r =>
      cases records bound rest with
      | error e => rfl
      | ok rs =>
        cases records bound back with
        | error e => rfl
        | ok rs' => simp [Except.map, Except.bind]

/-- Lines without records can be left out at the end. -/
theorem records_append_of_nil {back : List Text} (empty : records bound back = .ok [])
    (front : List Text) : records bound (front ++ back) = records bound front := by
  rw [records_append, empty]
  cases records bound front <;> simp [Except.map, Except.bind]

theorem record?_of_isBlank {l : Text} (blank : Text.isBlank l = true) :
    record? bound l = .ok none := by
  rw [record?, if_pos blank]

theorem records_of_isBlank {l : Text} (blank : Text.isBlank l = true) :
    records bound [l] = .ok [] := by
  rw [records, record?_of_isBlank blank]
  rfl

/-- A last line that is blank has no record. -/
theorem records_lines (blank : Text.isBlank (unfinishedLine text) = true) :
    records bound (lines text) = records bound (finishedLines text) := by
  rw [lines_eq, records_append_of_nil (records_of_isBlank blank)]

/-- **What is read of a log**: the last records of its lines. -/
theorem Holds.read (holds : Holds s log text) {limit : Int} (positive : 1 ≤ limit)
    (bound : LowerBound) :
    AuditLog.read s log bound limit = (records bound (lines text)).map (lastOf limit.toNat) := by
  rw [AuditLog.read, if_neg (by omega)]
  have decoded := holds.decoded
  unfold Store.bytes at decoded
  rcases Store.isOpen_iff.1 holds.appendable with found | ⟨bytes, found⟩
  · rw [found] at decoded ⊢
    obtain rfl : [] = text := Option.some.inj decoded
    rw [show lines [] = [[]] from rfl, records_of_isBlank rfl]
    simp [Except.map, lastOf]
  · rw [found] at decoded ⊢
    simp only at decoded ⊢
    rw [decoded]
    rfl

end SolutionSweep.AuditLog
