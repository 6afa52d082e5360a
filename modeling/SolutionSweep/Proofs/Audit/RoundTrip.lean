import SolutionSweep.Proofs.Audit.Events

/-!
# Reading back what has been logged

* `AuditLog.read_logged`: of the events that are added to a new log, the last wanted ones are read
  back with the fields they had, and each of them has added one line.
-/

namespace SolutionSweep.AuditLog

/-- An event that is added to a log leaves the bytes before it as they are and adds one line. -/
theorem exists_line_of_append {s s' : Store} {log : Path} {e : AuditEvent}
    (added : append s log e = .ok s') :
    ∃ l, IsLine l ∧ s'.bytes log = s.bytes log ++ Utf8.encode (l ++ ['\n']) := by
  rw [append_eq_ok (isOpen_of_append added)] at added
  obtain rfl := Except.ok.inj added
  refine ⟨e.toJson.render, e.isLine_render, ?_⟩
  rw [Store.bytes, Store.get?_put]
  rfl

/-- **What is logged is read back.** Of the events that are added to a missing or empty log, the last
ones that are not below a lower bound are read, in order and as many as are asked for, each with the
fields it had; each of them has added one line behind what was there. -/
theorem read_logged {s : Store} {log : Path} (new : IsNew s log) {events : List AuditEvent}
    (recordable : ∀ e ∈ events, e.Recordable) :
    ∃ s', appendAll s log events = .ok s' ∧
      (∀ since (limit : Int), 1 ≤ limit → ∃ rs, read s' log (.since? since) limit = .ok rs ∧
        List.Forall₂ (fun e r => Json.Alike e.toJson r)
          ((events.filter (·.isSince since)).rtake limit.toNat) rs) ∧
      (∀ bound (limit : Int), limit < 1 → read s' log bound limit = .ok []) ∧
      ∀ s₁ e s₂, append s₁ log e = .ok s₂ →
        ∃ l, IsLine l ∧ s₂.bytes log = s₁.bytes log ++ Utf8.encode (l ++ ['\n']) := by
  obtain ⟨s', run, found⟩ := new.read_appendAll recordable
  refine ⟨s', run, fun since limit positive => ⟨_, found since limit positive, ?_⟩,
    fun bound limit none_asked => ?_, fun s₁ e s₂ added => exists_line_of_append added⟩
  · rw [List.forall₂_map_right_iff, List.forall₂_same]
    intro e mem
    have logged : e ∈ events := List.mem_of_mem_filter (List.mem_of_mem_drop mem)
    exact Json.alike_sorted (recordable e logged).toJson
  · rw [read, if_pos none_asked]

/-- Three events in a store without files. -/
theorem read_logged_nestedEvents :
    IsNew (.empty (.ofText ['/'])) (.ofText "a.jsonl".toList) ∧
      (∀ e ∈ [nestedEvent "3", nestedEvent "1", nestedEvent "2"], e.Recordable) ∧
      ∃ s' rs, appendAll (.empty (.ofText ['/'])) (.ofText "a.jsonl".toList)
          [nestedEvent "3", nestedEvent "1", nestedEvent "2"] = .ok s' ∧
        read s' (.ofText "a.jsonl".toList) (.since? (some ['2'])) 2 = .ok rs ∧
        List.Forall₂ (fun e r => Json.Alike e.toJson r) [nestedEvent "3", nestedEvent "2"] rs := by
  have new : IsNew (.empty (.ofText ['/'])) (.ofText "a.jsonl".toList) := .inl (by decide)
  have recordable : ∀ e ∈ [nestedEvent "3", nestedEvent "1", nestedEvent "2"], e.Recordable := by
    intro e mem
    simp only [List.mem_cons, List.not_mem_nil, or_false] at mem
    rcases mem with rfl | rfl | rfl <;> exact recordable_nestedMetadata
  obtain ⟨s', run, found, -⟩ := read_logged new recordable
  obtain ⟨rs, read, alike⟩ := found (some ['2']) 2 (by decide)
  exact ⟨new, recordable, s', rs, run, read, alike⟩

end SolutionSweep.AuditLog
