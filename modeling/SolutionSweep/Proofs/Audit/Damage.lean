import SolutionSweep.Proofs.Audit.Events
import SolutionSweep.Proofs.Json.Fragment

/-!
# Damaged logs

A log may hold lines that are no records, and its last line may be unfinished. An event that is
added to it is read back behind a blank last line, but is lost behind an unfinished one, with which
it makes up a line that is no record. Lines that are not JSON are passed over, but a value that is
no object stops the reader as soon as there is a lower bound, and a long numeral stops it in any
case. All of this is about a reader that follows every nesting; one with a limited stack is also
stopped by a line that is nested too deeply.

* `AuditLog.IsHarmless`: lines that are passed over, or hold an object;
* `AuditLog.endsWith_iff`: when an event is read back behind a blank last line;
* `AuditLog.record?_joined`: an event behind an unfinished line is no record;
* `AuditLog.read_damaged`: what is read of a log to which an event has been added.
-/

namespace SolutionSweep

/-! ### The line of an event -/

/-- The names of the fields of an event, in their order. -/
theorem AuditEvent.sorted_names (e : AuditEvent) :
    (e.fields.map (·.1)).mergeSort CodePoints.le = ["aborted", "error_code", "metadata", "ok",
      "operation", "session_id", "timestamp"].map fun name => .ofText name.toList := by
  refine (CodePoints.sorted_eq_of_perm ?_).trans (List.mergeSort_of_pairwise ?_)
  · rw [names_fields]
    decide
  · decide

/-- The first name on the line of an event begins with a letter. -/
theorem AuditEvent.exists_render_eq (e : AuditEvent) :
    ∃ w, e.toJson.render = '\x7b' :: '"' :: 'a' :: w := by
  have names := (Json.map_fst_sortFields e.fields).trans e.sorted_names
  rw [toJson_eq, Json.render_object]
  cases fields : Json.sortFields e.fields with
  | nil =>
    rw [fields] at names
    cases names
  | cons f fs =>
    rw [fields] at names
    have first : f.1 = .ofText "aborted".toList := (List.cons.inj names).1
    rw [List.map_cons, first]
    cases fs with
    | nil => exact ⟨_, rfl⟩
    | cons g fs => exact ⟨_, rfl⟩

theorem AuditEvent.Recordable.isObject {e : AuditEvent} (h : e.Recordable) {w : Text}
    (parts : e.toJson.render = '\x7b' :: '"' :: 'a' :: w) : Json.IsObject ('a' :: w) where
  letter := ⟨'a', w, rfl, by decide⟩
  whole fuel v rest enough read := by
    rw [← parts] at enough read
    have back := Json.readsBack h.toJson fuel [] enough .nil
    rw [List.append_nil, read] at back
    exact (Prod.mk.inj (Except.ok.inj back)).2

namespace AuditLog

variable {s : Store} {log : Path} {text : Text} {e : AuditEvent}

/-! ### Finished lines -/

/-- A line that is passed over, or holds an object. -/
def IsHarmless (l : Text) : Prop :=
  Text.isBlank l = true ∨ Json.parse (Text.strip l) = .error .malformed ∨
    ∃ fields, Json.parse (Text.strip l) = .ok (.object fields)

/-- A harmless line is read without an error. Its record, if it has one, is an object. -/
theorem IsHarmless.exists_record {l : Text} (h : IsHarmless l) (since : Option Text) :
    ∃ r, record? (.since? since) l = .ok r ∧ ∀ v, r = some v → ∃ fields, v = .object fields := by
  by_cases blank : Text.isBlank l = true
  · exact ⟨none, record?_of_isBlank blank, nofun⟩
  rcases h with h | h | ⟨fields, h⟩
  · exact absurd h blank
  · exact ⟨none, by rw [record?, if_neg blank, h], nofun⟩
  · have wanted : ∃ b, isWanted (.since? since) (.object fields) = .ok b := by
      cases since with
      | none => exact ⟨true, rfl⟩
      | some t =>
        simp only [LowerBound.since?, isWanted, timestamp?]
        split <;> exact ⟨_, rfl⟩
    obtain ⟨b, wanted⟩ := wanted
    refine ⟨if b then some (.object fields) else none, ?_, fun v eq => ⟨fields, ?_⟩⟩
    · rw [record?, if_neg blank, h]
      simp only
      rw [wanted]
      rfl
    · cases b <;> cases eq
      rfl

/-- With a lower bound, a line that is read without an error is harmless. -/
theorem isHarmless_of_record? {l t : Text} {r : Option Json}
    (ok : record? (.since t) l = .ok r) : IsHarmless l := by
  by_cases blank : Text.isBlank l = true
  · exact .inl blank
  rw [record?, if_neg blank] at ok
  split at ok
  · rename_i malformed
    exact .inr (.inl malformed)
  · cases ok
  · rename_i v parsed
    -- Only an object is asked for its timestamp without an error.
    cases v with
    | object fields => exact .inr (.inr ⟨fields, parsed⟩)
    | null | bool _ | integer _ | real _ | text _ | array _ => cases ok

/-- Harmless lines are read without an error, and their records are objects. -/
theorem exists_records_of_isHarmless {ls : List Text} (harmless : ∀ l ∈ ls, IsHarmless l)
    (since : Option Text) : ∃ rs, records (.since? since) ls = .ok rs ∧
      ∀ r ∈ rs, ∃ fields, r = .object fields := by
  obtain ⟨rs, ok⟩ := exists_records_iff.2 fun l mem =>
    let ⟨r, read, _⟩ := (harmless l mem).exists_record since
    ⟨r, read⟩
  refine ⟨rs, ok, fun v mem => ?_⟩
  obtain ⟨l, hl, read⟩ := exists_of_mem_records ok mem
  obtain ⟨r, read', object⟩ := (harmless l hl).exists_record since
  exact object v (Except.ok.inj (read'.symm.trans read))

/-! ### Behind a blank line -/

/-- What is read are objects, the last of which holds what an event holds. -/
def EndsWith (e : AuditEvent) (result : Except AuditLogError (List Json)) : Prop :=
  ∃ rs last, result = .ok (rs ++ [last]) ∧
    (∀ r ∈ rs ++ [last], ∃ fields, r = .object fields) ∧ Json.Alike e.toJson last

theorem lastOf_concat {α : Type} {n : Nat} (positive : 1 ≤ n) (xs : List α) (x : α) :
    lastOf n (xs ++ [x]) = lastOf (n - 1) xs ++ [x] := by
  obtain ⟨m, rfl⟩ : ∃ m, n = m + 1 := ⟨n - 1, by omega⟩
  exact List.rtake_concat_succ xs m x

/-- What is read of a log behind whose blank last line an event has been written that is wanted. -/
theorem Holds.read_append (holds : Holds s log (text ++ (e.toJson.render ++ ['\n'])))
    (recordable : e.Recordable) (blank : Text.isBlank (unfinishedLine text) = true)
    {since : Option Text} (wanted : e.isSince since = true) {limit : Int} (positive : 1 ≤ limit) :
    AuditLog.read s log (.since? since) limit =
      (records (.since? since) (finishedLines text)).map
        fun rs => lastOf (limit.toNat - 1) rs ++ [e.toJson.sorted] := by
  rw [holds.read positive, records_append_event recordable blank, records_lines blank, wanted]
  cases records (.since? since) (finishedLines text) with
  | error err => rfl
  | ok rs => exact congrArg Except.ok (lastOf_concat (by omega) rs _)

/-- **An event behind a blank line is read back** if the finished lines are harmless. With a lower
bound no other line is read without an error. -/
theorem endsWith_iff (holds : Holds s log (text ++ (e.toJson.render ++ ['\n'])))
    (recordable : e.Recordable) (blank : Text.isBlank (unfinishedLine text) = true) {t : Text}
    (wanted : e.isSince (some t) = true) {limit : Int} (positive : 1 ≤ limit) :
    (EndsWith e (AuditLog.read s log (.since t) limit) ∧
      EndsWith e (AuditLog.read s log .all limit)) ↔
        ∀ l ∈ finishedLines text, IsHarmless l := by
  constructor
  · rintro ⟨⟨rs, last, read, -⟩, -⟩ l mem
    have split := holds.read_append recordable blank wanted positive
    have ok := exists_map_eq_ok_iff.1 ⟨_, split.symm.trans read⟩
    obtain ⟨r, line⟩ := exists_records_iff.1 ok l mem
    exact isHarmless_of_record? line
  · intro harmless
    have ends {since : Option Text} (wanted : e.isSince since = true) :
        EndsWith e (AuditLog.read s log (.since? since) limit) := by
      obtain ⟨rs, ok, objects⟩ := exists_records_of_isHarmless harmless since
      rw [holds.read_append recordable blank wanted positive, ok]
      refine ⟨_, _, rfl, fun r mem => ?_, Json.alike_sorted recordable.toJson⟩
      rcases List.mem_append.1 mem with mem | mem
      · exact objects r (List.mem_of_mem_drop mem)
      · rw [List.mem_singleton.1 mem, AuditEvent.toJson_eq, Json.sorted_object]
        exact ⟨_, rfl⟩
    have all : e.isSince none = true := rfl
    exact ⟨ends wanted, ends all⟩

/-! ### Behind an unfinished line -/

theorem skipWhite_ne_nil {u : Text} (filled : Text.isBlank u = false) :
    Text.skipWhite u ≠ [] := fun nothing =>
  absurd (Text.isBlank_iff_skipWhite_eq_nil.2 nothing) (by simp [filled])

/-- The line of an event is stripped in front only, if something stands in front of it. -/
theorem strip_append_of_not_isBlank {u : Text} (filled : Text.isBlank u = false)
    (e : AuditEvent) : Text.strip (u ++ e.toJson.render) = Text.skipWhite u ++ e.toJson.render := by
  obtain ⟨t, parts⟩ := e.exists_render
  have front : (u ++ e.toJson.render).dropWhile isWhite =
      Text.skipWhite u ++ e.toJson.render := by
    rw [List.dropWhile_append, if_neg]
    · rfl
    · exact fun nothing => skipWhite_ne_nil filled (List.isEmpty_iff.1 nothing)
  rw [Text.strip, Text.trim, front, parts, ← List.append_assoc, List.reverse_append]
  rw [List.reverse_singleton, List.singleton_append,
    List.dropWhile_cons_of_neg (by decide), List.reverse_cons, List.reverse_reverse]

/-- The blanks between the parts of a value are white space. -/
theorem skipBlanks_skipWhite_ne_nil {u : Text} (filled : Text.isBlank u = false) :
    Json.skipBlanks (Text.skipWhite u) ≠ [] := by
  obtain ⟨c, v, parts⟩ := List.exists_cons_of_ne_nil (skipWhite_ne_nil filled)
  have solid : isWhite c = false := by
    have first := List.head?_dropWhile_not isWhite u
    rwa [← Text.skipWhite, parts] at first
  have unskipped : Json.isBlank c = false := by
    refine Bool.eq_false_iff.2 fun blank => ?_
    simp only [Json.isBlank, Bool.or_eq_true, beq_iff_eq] at blank
    rcases blank with ((rfl | rfl) | rfl) | rfl <;> cases solid
  rw [parts, Json.skipBlanks_cons unskipped]
  exact List.cons_ne_nil c v

/-- **An event behind an unfinished line is no record.** At most the line is refused for a numeral
that is too long. -/
theorem record?_joined (recordable : e.Recordable) {u : Text} (filled : Text.isBlank u = false) :
    (∀ bound, record? bound (u ++ e.toJson.render) = .ok none) ∨
      ∃ n, ∀ bound, record? bound (u ++ e.toJson.render) = .error (.longNumeral n) := by
  obtain ⟨w, parts⟩ := e.exists_render_eq
  have line : ¬ Text.isBlank (u ++ e.toJson.render) = true := by
    rw [Text.isBlank, List.all_append, ← Text.isBlank, filled]
    simp
  have broken (v : Json) : Json.parse (Text.strip (u ++ e.toJson.render)) ≠ .ok v := by
    rw [strip_append_of_not_isBlank filled, parts]
    exact Json.parse_append_ne_ok (recordable.isObject parts) (skipBlanks_skipWhite_ne_nil filled) v
  cases read : Json.parse (Text.strip (u ++ e.toJson.render)) with
  | ok v => exact absurd read (broken v)
  | error err =>
    cases err with
    | malformed => exact .inl fun bound => by rw [record?, if_neg line, read]
    | longNumeral n => exact .inr ⟨n, fun bound => by rw [record?, if_neg line, read]⟩

/-- What is read of a log behind whose unfinished last line an event has been written: the records
of the finished lines, unless the last line is refused. -/
theorem Holds.read_append_of_filled (holds : Holds s log (text ++ (e.toJson.render ++ ['\n'])))
    (recordable : e.Recordable) (filled : Text.isBlank (unfinishedLine text) = false) :
    (∀ bound (limit : Int), 1 ≤ limit → AuditLog.read s log bound limit =
      (records bound (finishedLines text)).map (lastOf limit.toNat)) ∨
    ∃ n, ∀ bound (limit : Int), 1 ≤ limit → AuditLog.read s log bound limit =
      (records bound (finishedLines text)).bind fun _ => .error (.longNumeral n) := by
  have split (bound : LowerBound) : records bound (lines (text ++ (e.toJson.render ++ ['\n']))) =
      (records bound (finishedLines text)).bind fun rs =>
        (records bound [unfinishedLine text ++ e.toJson.render]).map (rs ++ ·) := by
    have last := unfinishedLine_append_line e.isLine_render e.render_ne_nil text
    rw [records_lines (by rw [last]; rfl), finishedLines_append_line e.isLine_render e.render_ne_nil,
      records_append]
  refine (record?_joined recordable filled).imp (fun none bound limit positive => ?_) ?_
  · rw [holds.read positive, split, records, none bound]
    cases records bound (finishedLines text) <;> simp [records, Except.map, Except.bind]
  · rintro ⟨n, refused⟩
    refine ⟨n, fun bound limit positive => ?_⟩
    rw [holds.read positive, split, records, refused bound]
    cases records bound (finishedLines text) <;> rfl

/-- **What is read of a damaged log** to which an event has been added. Behind a blank last line the
event is read as the last record, and nothing but objects, exactly if the finished lines are
harmless. Behind an unfinished line the event is lost: at most the records of the finished lines are
read. -/
theorem read_damaged {bytes : Bytes} (found : s.get? log = some (.contents bytes))
    (decoded : Utf8.decode? bytes = some text) (recordable : e.Recordable) :
    ∃ s', append s log e = .ok s' ∧
      (Text.isBlank (unfinishedLine text) = true →
        ∀ t (limit : Int), e.isSince (some t) = true → 1 ≤ limit →
          ((EndsWith e (read s' log (.since t) limit) ∧ EndsWith e (read s' log .all limit)) ↔
            ∀ l ∈ finishedLines text, IsHarmless l)) ∧
      (Text.isBlank (unfinishedLine text) = false →
        (∀ bound (limit : Int), 1 ≤ limit → read s' log bound limit =
          (records bound (finishedLines text)).map (lastOf limit.toNat)) ∨
        ∃ n, ∀ bound (limit : Int), 1 ≤ limit → read s' log bound limit =
          (records bound (finishedLines text)).bind fun _ => .error (.longNumeral n)) := by
  have holds : Holds s log text := by
    refine ⟨Store.isOpen_of_contents found, ?_⟩
    rw [Store.bytes, found]
    exact decoded
  obtain ⟨s', added, -, after⟩ := holds.append e
  exact ⟨s', added, fun blank t limit wanted positive =>
    endsWith_iff after recordable blank wanted positive, after.read_append_of_filled recordable⟩

/-- A store with a log. -/
def logStore (text : String) : Store where
  cwd := .ofText ['/']
  files := [(.ofText "/a.jsonl".toList, .contents (Utf8.encode text.toList))]

/-- The log in this store. -/
def sampleLog : Path := .ofText "a.jsonl".toList

theorem get?_logStore (text : String) :
    (logStore text).get? sampleLog = some (.contents (Utf8.encode text.toList)) := rfl

/-- A log with a line that is not JSON, an object without a timestamp, and a blank last line. -/
theorem read_damaged_harmlessLog :
    (logStore "not json\n{}\n ").get? sampleLog =
        some (.contents (Utf8.encode "not json\n{}\n ".toList)) ∧
      Utf8.decode? (Utf8.encode "not json\n{}\n ".toList) = some "not json\n{}\n ".toList ∧
      (nestedEvent "2").Recordable ∧
      ∃ s', append (logStore "not json\n{}\n ") sampleLog (nestedEvent "2") = .ok s' ∧
        EndsWith (nestedEvent "2") (read s' sampleLog (.since ['2']) 1) ∧
        EndsWith (nestedEvent "2") (read s' sampleLog .all 1) := by
  refine ⟨get?_logStore _, Utf8.decode?_encode _, recordable_nestedMetadata, ?_⟩
  obtain ⟨s', added, blank, -⟩ := read_damaged (get?_logStore "not json\n{}\n ")
    (Utf8.decode?_encode _) (e := nestedEvent "2") recordable_nestedMetadata
  refine ⟨s', added, (blank (by decide) ['2'] 1 (by decide) (by decide)).2 fun l mem => ?_⟩
  have finished : finishedLines "not json\n{}\n ".toList = ["not json".toList, "{}".toList] := by
    decide
  rw [finished] at mem
  rcases List.mem_pair.1 mem with rfl | rfl
  · exact .inr (.inl rfl)
  · exact .inr (.inr ⟨[], rfl⟩)

theorem holds_logStore (text : String) : Holds (logStore text) sampleLog text.toList := by
  refine ⟨Store.isOpen_of_contents (get?_logStore text), ?_⟩
  rw [Store.bytes, get?_logStore]
  exact Utf8.decode?_encode _

/-- Logs behind which an event is not read back: in the first one a line is no object, in the second
one the last line is unfinished. -/
theorem read_damaged_brokenLogs :
    (nestedEvent "2").isSince (some ['2']) = true ∧
      (∃ s', append (logStore "[]\n") sampleLog (nestedEvent "2") = .ok s' ∧
        read s' sampleLog (.since ['2']) 1 = .error .notObject) ∧
      ∃ s', append (logStore "x") sampleLog (nestedEvent "2") = .ok s' ∧
        ¬ EndsWith (nestedEvent "2") (read s' sampleLog .all 1) := by
  have wanted : (nestedEvent "2").isSince (some ['2']) = true := by decide
  refine ⟨wanted, ?_, ?_⟩
  · obtain ⟨s', added, -, after⟩ := (holds_logStore "[]\n").append (nestedEvent "2")
    exact ⟨s', added,
      after.read_append recordable_nestedMetadata (by decide) wanted (by decide)⟩
  · obtain ⟨s', added, -, after⟩ := (holds_logStore "x").append (nestedEvent "2")
    refine ⟨s', added, ?_⟩
    rintro ⟨rs, last, read, -⟩
    rcases after.read_append_of_filled recordable_nestedMetadata (by decide) with lost | ⟨n, refused⟩
    · rw [lost .all 1 (by decide)] at read
      have empty := Except.ok.inj (read.symm.trans rfl : Except.ok (rs ++ [last]) = .ok [])
      simp at empty
    · rw [refused .all 1 (by decide)] at read
      cases read

end AuditLog

end SolutionSweep
