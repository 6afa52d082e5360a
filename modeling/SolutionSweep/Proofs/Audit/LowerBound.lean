import SolutionSweep.Proofs.Audit.Calendar
import SolutionSweep.Proofs.Audit.Events

/-!
# The lower bound of the audit log as an instant

The timestamps of the log are compared as texts. A bound that is written with milliseconds cuts the
log off at its instant. A bound that is written to the second cuts it off behind its second: the
events of that second are left out, although they are not earlier.

* `AuditLog.read_since_instant`: which events are read, for bounds of both kinds.
-/

namespace SolutionSweep.AuditLog

variable {s : Store} {log : Path}

/-- Events that are logged together with what is known about them: if this decides which of them are
above a bound, it decides which of them are read. -/
theorem IsNew.read_filter {α : Type} (new : IsNew s log) {logged : List (α × AuditEvent)}
    (recordable : ∀ p ∈ logged, p.2.Recordable) :
    ∃ s', AuditLog.appendAll s log (logged.map (·.2)) = .ok s' ∧
      ∀ t (keep : α → Bool), (∀ p ∈ logged, p.2.isSince (some t) = keep p.1) →
        ∀ limit : Int, 1 ≤ limit → logged.length ≤ limit →
          ∃ rs, AuditLog.read s' log (.since t) limit = .ok rs ∧
            List.Forall₂ (fun p r => Json.Alike p.2.toJson r) (logged.filter (keep ·.1)) rs := by
  have events : ∀ e ∈ logged.map (·.2), e.Recordable := List.forall_mem_map.2 recordable
  obtain ⟨s', run, found⟩ := new.read_appendAll events
  refine ⟨s', run, fun t keep known limit positive enough => ⟨_, found (some t) limit positive, ?_⟩⟩
  have kept : (logged.map (·.2)).filter (·.isSince (some t)) =
      (logged.filter (keep ·.1)).map (·.2) := by
    rw [List.filter_map]
    exact congrArg _ (List.filter_congr known)
  have few : ((logged.filter (keep ·.1)).map (·.2)).length ≤ limit.toNat := by
    have shorter := List.length_filter_le (fun p => keep p.1) logged
    rw [List.length_map]
    omega
  rw [kept, List.rtake, Nat.sub_eq_zero_of_le few, List.drop_zero, List.map_map,
    List.forall₂_map_right_iff, List.forall₂_same]
  exact fun p mem => Json.alike_sorted (recordable p (List.mem_of_mem_filter mem)).toJson

/-- **The lower bound of a log of clock readings.** With a bound that is written with milliseconds,
exactly the events are read whose instants, in milliseconds, are not earlier. With a bound that is
written to the second, exactly the events of later seconds are read; these are the events that are not
earlier if none falls in the second of the bound. -/
theorem read_since_instant (new : IsNew s log) {logged : List (Instant × AuditEvent)}
    (clocked : ∀ p ∈ logged, p.1.Valid ∧ p.2.timestamp = p.1.text ∧ p.2.Recordable) :
    ∃ s', appendAll s log (logged.map (·.2)) = .ok s' ∧
      ∀ bound : Instant, bound.Valid → ∀ limit : Int, 1 ≤ limit → logged.length ≤ limit →
        (∃ rs, read s' log (.since bound.text) limit = .ok rs ∧
          List.Forall₂ (fun p r => Json.Alike p.2.toJson r)
            (logged.filter fun p => bound.milliseconds ≤ p.1.milliseconds) rs) ∧
        ∃ rs, read s' log (.since bound.secondText) limit = .ok rs ∧
          List.Forall₂ (fun p r => Json.Alike p.2.toJson r)
            (logged.filter fun p => bound.seconds < p.1.seconds) rs ∧
          ((∀ p ∈ logged, p.1.seconds ≠ bound.seconds) →
            List.Forall₂ (fun p r => Json.Alike p.2.toJson r)
              (logged.filter fun p => 1000 * bound.seconds ≤ p.1.milliseconds) rs) := by
  obtain ⟨s', run, found⟩ := new.read_filter fun p mem => (clocked p mem).2.2
  refine ⟨s', run, fun bound valid limit positive enough => ⟨?_, ?_⟩⟩
  · refine found bound.text (fun i => bound.milliseconds ≤ i.milliseconds) (fun p mem => ?_) limit
      positive enough
    obtain ⟨valid', timestamp, -⟩ := clocked p mem
    rw [AuditEvent.isSince, Option.all_some, timestamp, Bool.eq_iff_iff, decide_eq_true_iff,
      Instant.le_text_iff valid valid']
  · have above (p : Instant × AuditEvent) (mem : p ∈ logged) :
        p.2.isSince (some bound.secondText) = decide (bound.seconds < p.1.seconds) := by
      obtain ⟨valid', timestamp, -⟩ := clocked p mem
      rw [AuditEvent.isSince, Option.all_some, timestamp, Bool.eq_iff_iff, decide_eq_true_iff,
        Instant.le_secondText_iff valid valid']
    obtain ⟨rs, read, alike⟩ := found bound.secondText (fun i => bound.seconds < i.seconds) above
      limit positive enough
    refine ⟨rs, read, alike, fun apart => ?_⟩
    -- Outside of the second of the bound both conditions compare seconds.
    have same : (logged.filter fun p => 1000 * bound.seconds ≤ p.1.milliseconds) =
        logged.filter fun p => bound.seconds < p.1.seconds := by
      refine List.filter_congr fun p mem => ?_
      have other := apart p mem
      have fraction : p.1.microsecond / 1000 < 1000 := by
        have := (clocked p mem).1.microsecond
        omega
      rw [Instant.milliseconds, decide_eq_decide]
      omega
    rw [same]
    exact alike

/-! ### Events at the end of a month -/

/-- The last second of a February, and an instant in it. -/
def lastInstant : Instant := ⟨2026, 2, 28, 23, 59, 59, 678900⟩

/-- The first instant of the March after it. -/
def firstInstant : Instant := ⟨2026, 3, 1, 0, 0, 0, 0⟩

theorem valid_lastInstant : lastInstant.Valid := by
  constructor <;> decide

theorem valid_firstInstant : firstInstant.Valid := by
  constructor <;> decide

/-- An event at an instant. -/
def clockedEvent (i : Instant) : Instant × AuditEvent :=
  (i, { nestedEvent "" with timestamp := i.text })

/-- Both events are read from the instant of the first one on, but only the second one is read from
its second on. -/
theorem read_since_instant_endOfMonth :
    IsNew (.empty (.ofText ['/'])) (.ofText "a.jsonl".toList) ∧
      (∀ p ∈ [clockedEvent lastInstant, clockedEvent firstInstant],
        p.1.Valid ∧ p.2.timestamp = p.1.text ∧ p.2.Recordable) ∧ lastInstant.Valid ∧
      ∃ s', appendAll (.empty (.ofText ['/'])) (.ofText "a.jsonl".toList)
          ([clockedEvent lastInstant, clockedEvent firstInstant].map (·.2)) = .ok s' ∧
        (∃ rs, read s' (.ofText "a.jsonl".toList) (.since "2026-02-28T23:59:59.678Z".toList) 2 =
            .ok rs ∧
          List.Forall₂ (fun p r => Json.Alike p.2.toJson r)
            [clockedEvent lastInstant, clockedEvent firstInstant] rs) ∧
        ∃ rs, read s' (.ofText "a.jsonl".toList) (.since "2026-02-28T23:59:59Z".toList) 2 = .ok rs ∧
          List.Forall₂ (fun p r => Json.Alike p.2.toJson r) [clockedEvent firstInstant] rs := by
  have new : IsNew (.empty (.ofText ['/'])) (.ofText "a.jsonl".toList) := .inl (by decide)
  have clocked : ∀ p ∈ [clockedEvent lastInstant, clockedEvent firstInstant],
      p.1.Valid ∧ p.2.timestamp = p.1.text ∧ p.2.Recordable := by
    intro p mem
    rcases List.mem_pair.1 mem with rfl | rfl
    · exact ⟨valid_lastInstant, rfl, recordable_nestedMetadata⟩
    · exact ⟨valid_firstInstant, rfl, recordable_nestedMetadata⟩
  obtain ⟨s', run, found⟩ := read_since_instant new clocked
  obtain ⟨⟨rs, read, kept⟩, rs', read', later, -⟩ :=
    found lastInstant valid_lastInstant 2 (by decide) (by decide)
  have le : lastInstant.milliseconds ≤ firstInstant.milliseconds :=
    (Instant.le_text_iff valid_lastInstant valid_firstInstant).1 (by decide)
  have lt : lastInstant.seconds < firstInstant.seconds :=
    (Instant.le_secondText_iff valid_lastInstant valid_firstInstant).1 (by decide)
  refine ⟨new, clocked, valid_lastInstant, s', run, ⟨rs, read, ?_⟩, rs', read', ?_⟩
  · simpa [clockedEvent, le] using kept
  · simpa [clockedEvent, lt] using later

/-- An event that is not earlier than a second, and is not read from this second on. -/
theorem read_since_instant_sameSecond :
    1000 * lastInstant.seconds ≤ lastInstant.milliseconds ∧
      lastInstant.secondText = "2026-02-28T23:59:59Z".toList ∧
      ∃ s', appendAll (.empty (.ofText ['/'])) (.ofText "a.jsonl".toList)
          [(clockedEvent lastInstant).2] = .ok s' ∧
        read s' (.ofText "a.jsonl".toList) (.since "2026-02-28T23:59:59Z".toList) 1 = .ok [] := by
  have new : IsNew (.empty (.ofText ['/'])) (.ofText "a.jsonl".toList) := .inl (by decide)
  have recordable : ∀ e ∈ [(clockedEvent lastInstant).2], e.Recordable := by
    intro e mem
    rw [List.mem_singleton.1 mem]
    exact recordable_nestedMetadata
  obtain ⟨s', run, found⟩ := new.read_appendAll recordable
  exact ⟨Nat.le_add_right _ _, by decide, s', run,
    found (some "2026-02-28T23:59:59Z".toList) 1 (by decide)⟩

end SolutionSweep.AuditLog
