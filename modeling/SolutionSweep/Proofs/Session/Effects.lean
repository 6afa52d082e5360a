import SolutionSweep.Proofs.Audit.Lines
import SolutionSweep.Proofs.Json.Printer
import SolutionSweep.Session.Run

/-!
# What a session changes

A session changes two files at most. The manifest is written exactly if the outcome says so, with
the text that the outcome shows, and one line is added to the log.

* `Session.Coherent`: what an outcome says about itself, for each way in which a session ends;
* `Session.AttemptEnding`: the ways in which a session goes before it writes;
* `Outcome.Rehearses`: the outcome of a dry run compared with that of the run that writes;
* `Session.Effects`: the store after a session compared with the store before;
* `Session.effects_run`: every session has these effects, or none at all.
-/

namespace SolutionSweep

/-! ### Outcomes -/

/-- An outcome of a session. It is written exactly if its status is `removed`; then it has a text.
If the session met a problem, it shows nothing that has been found or taken out. -/
structure Session.Coherent (s : Session) (o : Outcome) : Prop where
  manifest : o.manifest = s.manifest
  written_iff : o.written = true ↔ o.status = .removed
  text : o.status = .removed → ∃ text, o.text = some text
  failed : o.status = .failed →
    o.unused = [] ∧ o.removed = [] ∧ o.prunedFolders = [] ∧ o.text = none

/-- A dry run shows what the other run does, and differs only where that one writes. -/
structure Outcome.Rehearses (dry real : Outcome) : Prop where
  text : dry.text = real.text
  removed : dry.removed = real.removed
  prunedFolders : dry.prunedFolders = real.prunedFolders
  warnings : dry.warnings = real.warnings
  status_iff : dry.status = .dryRun ↔ real.status = .removed
  same : real.status ≠ .removed → dry = real

/-- An outcome that is no dry run and writes nothing is rehearsed by itself. -/
theorem Outcome.Rehearses.refl {o : Outcome} (not_dry : o.status ≠ .dryRun)
    (not_removed : o.status ≠ .removed) : o.Rehearses o where
  text := rfl
  removed := rfl
  prunedFolders := rfl
  warnings := rfl
  status_iff := by simp [not_dry, not_removed]
  same _ := rfl

namespace Session

variable {s : Session} {store : Store} {select : Selector} {dryRun : Bool} {a : Attempt}

theorem coherent_outcome {status : Status} (message : Text) (unused : List Project)
    (descriptorsRead : Nat) (not_removed : status ≠ .removed) (not_failed : status ≠ .failed) :
    s.Coherent (s.outcome status message unused descriptorsRead) where
  manifest := rfl
  written_iff := by simp [outcome, not_removed]
  text h := absurd h not_removed
  failed h := absurd h not_failed

theorem coherent_failure (p : DetectionProblem) : s.Coherent (s.failure p) where
  manifest := rfl
  written_iff := by simp [failure, outcome]
  text h := by simp [failure, outcome] at h
  failed _ := ⟨rfl, rfl, rfl, rfl⟩

theorem coherent_conclude (unused : List Project) (descriptorsRead : Nat) (r : Removal)
    (dryRun : Bool) : s.Coherent (s.conclude unused descriptorsRead r dryRun) := by
  constructor <;> cases changed : r.changed <;> cases dryRun <;>
    simp [conclude, changed, withRemoval, outcome]

theorem conclude_dryRun (unused : List Project) (descriptorsRead : Nat) (r : Removal) :
    (s.conclude unused descriptorsRead r true).status ≠ .removed := by
  cases changed : r.changed <;> simp [conclude, changed, withRemoval, outcome]

theorem rehearses_conclude (unused : List Project) (descriptorsRead : Nat) (r : Removal) :
    (s.conclude unused descriptorsRead r true).Rehearses
      (s.conclude unused descriptorsRead r false) := by
  constructor <;> cases changed : r.changed <;> simp [conclude, changed, withRemoval, outcome]

/-- An outcome of the session that nothing has come of: nothing has been taken out, so nothing is
written or left for a run that writes. -/
structure Idle (s : Session) (o : Outcome) : Prop where
  coherent : s.Coherent o
  not_removed : o.status ≠ .removed
  not_dry : o.status ≠ .dryRun
  removed : o.removed = []
  prunedFolders : o.prunedFolders = []

theorem idle_outcome {status : Status} (message : Text) (unused : List Project)
    (descriptorsRead : Nat) (quiet : status = .cancelled ∨ status = .nothingToRemove) :
    s.Idle (s.outcome status message unused descriptorsRead) := by
  obtain rfl | rfl := quiet <;>
    exact ⟨coherent_outcome message unused descriptorsRead (by decide) (by decide),
      by simp [outcome], by simp [outcome], rfl, rfl⟩

theorem idle_failure (p : DetectionProblem) : s.Idle (s.failure p) where
  coherent := coherent_failure p
  not_removed := by simp [failure, outcome]
  not_dry := by simp [failure, outcome]
  removed := rfl
  prunedFolders := rfl

/-- What a session attempts: it comes to no outcome, it ends without a removal, or a removal is
concluded. Only the conclusion depends on whether the run is dry. -/
theorem attempt_cases (s : Session) (store : Store) (select : Selector) :
    (∃ e, ∀ dryRun, s.attempt store select dryRun = .error e) ∨
    (∃ a, s.Idle a.outcome ∧ ∀ dryRun, s.attempt store select dryRun = .ok a) ∨
    ∃ d r, Detection.run store s.settings.conventions s.manifest = .ok d ∧
      Removal.apply s.settings.conventions d.registry.text
        ((select (candidatesOf d.reachability.unused)).approved.map (·.id))
        s.settings.pruneFolders = .ok r ∧
      ∀ dryRun, s.attempt store select dryRun =
        .ok ⟨s.conclude d.reachability.unused d.reachability.descriptorsRead r dryRun,
          some (select (candidatesOf d.reachability.unused))⟩ := by
  unfold attempt
  match detected : Detection.run store s.settings.conventions s.manifest with
  | .error (.problem p) => exact .inr (.inl ⟨_, idle_failure p, fun _ => rfl⟩)
  | .error (.longNumeral e) => exact .inl ⟨.longNumeral e, fun _ => rfl⟩
  | .error (.denied e) => exact .inl ⟨.denied e, fun _ => rfl⟩
  | .ok d =>
    simp only
    split
    · exact .inr (.inl ⟨_, idle_outcome _ _ _ (.inr rfl), fun _ => rfl⟩)
    simp only [carryOut]
    split
    · exact .inr (.inl ⟨_, idle_outcome _ _ _ (.inl rfl), fun _ => rfl⟩)
    split
    · exact .inr (.inl ⟨_, idle_outcome _ _ _ (.inr rfl), fun _ => rfl⟩)
    cases applied : Removal.apply s.settings.conventions d.registry.text
      ((select (candidatesOf d.reachability.unused)).approved.map (·.id))
      s.settings.pruneFolders with
    | error e => exact .inl ⟨.longNumeral e, fun _ => rfl⟩
    | ok r => exact .inr (.inr ⟨d, r, rfl, applied, fun _ => rfl⟩)

/-- What an outcome shows as taken out, a removal of the approved projects takes out. -/
theorem taken_of_attempt (attempted : s.attempt store select dryRun = .ok a) :
    a.outcome.removed = [] ∧ a.outcome.prunedFolders = [] ∨
    ∃ d r, Detection.run store s.settings.conventions s.manifest = .ok d ∧
      Removal.apply s.settings.conventions d.registry.text
        ((select (candidatesOf d.reachability.unused)).approved.map (·.id))
        s.settings.pruneFolders = .ok r ∧
      a.outcome.removed = r.removed ∧ a.outcome.prunedFolders = r.prunedFolders := by
  obtain ⟨e, eq⟩ | ⟨a', idle, eq⟩ | ⟨d, r, detected, applied, eq⟩ := attempt_cases s store select
  · rw [eq] at attempted
    cases attempted
  · rw [eq] at attempted
    cases attempted
    exact .inl ⟨idle.removed, idle.prunedFolders⟩
  · rw [eq] at attempted
    cases attempted
    refine .inr ⟨d, r, detected, applied, ?_⟩
    cases changed : r.changed <;> cases dryRun <;> simp [conclude, changed, withRemoval, outcome]

theorem coherent_attempt (h : s.attempt store select dryRun = .ok a) : s.Coherent a.outcome := by
  obtain ⟨e, eq⟩ | ⟨a', idle, eq⟩ | ⟨d, r, -, -, eq⟩ := attempt_cases s store select
  · rw [eq] at h
    cases h
  · rw [eq] at h
    cases h
    exact idle.coherent
  · rw [eq] at h
    cases h
    exact coherent_conclude _ _ r dryRun

/-- The outcome of what is carried out shows no problem, and something is removed only if that has
been confirmed. -/
theorem status_carryOut {d : Detection} {selection : Selection} {o : Outcome}
    (h : s.carryOut d selection dryRun = .ok o) :
    o.status ≠ .failed ∧ (o.status = .removed → selection.confirmed = true) := by
  unfold carryOut at h
  cases confirmed : selection.confirmed with
  | false =>
    rw [confirmed] at h
    cases h
    exact ⟨nofun, nofun⟩
  | true =>
    refine ⟨fun failed => ?_, fun _ => rfl⟩
    simp only [confirmed, Bool.not_true, Bool.false_eq_true, if_false] at h
    split at h
    · cases h
      cases failed
    cases applied : Removal.apply s.settings.conventions d.registry.text
      (selection.approved.map (·.id)) s.settings.pruneFolders with
    | error e =>
      rw [applied] at h
      cases h
    | ok r =>
      rw [applied] at h
      cases h
      cases changed : r.changed <;> cases dryRun <;>
        simp [conclude, changed, withRemoval, outcome] at failed

/-- The ways in which a session goes before it writes: it ends where the detection ends, or without
an unused project, or a selection is carried out. -/
inductive AttemptEnding (s : Session) (store : Store) (select : Selector) (dryRun : Bool) :
    Except RunError Attempt → Prop
  | problem {p : DetectionProblem} :
      Detection.run store s.settings.conventions s.manifest = .error (.problem p) →
      AttemptEnding s store select dryRun (.ok ⟨s.failure p, none⟩)
  | numeral {n : LongNumeral} :
      Detection.run store s.settings.conventions s.manifest = .error (.longNumeral n) →
      AttemptEnding s store select dryRun (.error (.longNumeral n))
  | refused {d : Denied} :
      Detection.run store s.settings.conventions s.manifest = .error (.denied d) →
      AttemptEnding s store select dryRun (.error (.denied d))
  | settled {d : Detection} : Detection.run store s.settings.conventions s.manifest = .ok d →
      d.reachability.unused = [] →
      AttemptEnding s store select dryRun (.ok ⟨s.outcome .nothingToRemove
        "No unused projects found.".toList [] d.reachability.descriptorsRead, none⟩)
  | stopped {d : Detection} {n : LongNumeral} :
      Detection.run store s.settings.conventions s.manifest = .ok d →
      s.carryOut d (select (candidatesOf d.reachability.unused)) dryRun = .error n →
      AttemptEnding s store select dryRun (.error (.longNumeral n))
  | carried {d : Detection} {o : Outcome} :
      Detection.run store s.settings.conventions s.manifest = .ok d →
      s.carryOut d (select (candidatesOf d.reachability.unused)) dryRun = .ok o →
      AttemptEnding s store select dryRun
        (.ok ⟨o, some (select (candidatesOf d.reachability.unused))⟩)

theorem ending_attempt (s : Session) (store : Store) (select : Selector) (dryRun : Bool) :
    AttemptEnding s store select dryRun (s.attempt store select dryRun) := by
  unfold attempt
  match detected : Detection.run store s.settings.conventions s.manifest with
  | .error (.problem p) => exact .problem detected
  | .error (.longNumeral n) => exact .numeral detected
  | .error (.denied d) => exact .refused detected
  | .ok d =>
    dsimp only
    split
    · rename_i empty
      exact .settled detected (List.isEmpty_iff.1 empty)
    cases carried : s.carryOut d (select (candidatesOf d.reachability.unused)) dryRun with
    | error n => exact .stopped detected carried
    | ok o => exact .carried detected carried

/-- What is carried out stops only at a numeral that the removal meets. -/
theorem carryOut_eq_error {d : Detection} {selection : Selection} {n : LongNumeral}
    (h : s.carryOut d selection dryRun = .error n) :
    Removal.apply s.settings.conventions d.registry.text (selection.approved.map (·.id))
      s.settings.pruneFolders = .error n := by
  unfold carryOut at h
  dsimp only at h
  split at h
  · cases h
  split at h
  · cases h
  cases applied : Removal.apply s.settings.conventions d.registry.text
    (selection.approved.map (·.id)) s.settings.pruneFolders with
  | error n' =>
    rw [applied] at h
    cases h
    rfl
  | ok r =>
    rw [applied] at h
    cases h

/-- What a session attempts has nothing to do with its log. -/
theorem attempt_withLog (s : Session) (log : Option Path) :
    ({ s with log := log } : Session).attempt = s.attempt := rfl

/-- A session fails at a problem that the detection meets. -/
theorem attempt_failed (h : s.attempt store select dryRun = .ok a)
    (failed : a.outcome.status = .failed) :
    ∃ p, Detection.run store s.settings.conventions s.manifest = .error (.problem p) ∧
      a = ⟨s.failure p, none⟩ := by
  have ending := ending_attempt s store select dryRun
  rw [h] at ending
  cases ending with
  | problem problem => exact ⟨_, problem, rfl⟩
  | settled => cases failed
  | carried _ carried => exact absurd failed (status_carryOut carried).1

/-- A session comes to `removed` only if that has been confirmed. -/
theorem attempt_removed (h : s.attempt store select dryRun = .ok a)
    (removed : a.outcome.status = .removed) :
    ∃ candidates, (select candidates).confirmed = true := by
  have ending := ending_attempt s store select dryRun
  rw [h] at ending
  cases ending with
  | problem | settled => cases removed
  | carried _ carried => exact ⟨_, (status_carryOut carried).2 removed⟩

/-- Whether a session comes to an outcome does not depend on whether the run is dry. -/
theorem exists_attempt_dry (h : s.attempt store select dryRun = .ok a) (dry : Bool) :
    ∃ b, s.attempt store select dry = .ok b := by
  obtain ⟨e, eq⟩ | ⟨a', -, eq⟩ | ⟨d, r, -, -, eq⟩ := attempt_cases s store select
  · rw [eq] at h
    cases h
  · exact ⟨a', eq dry⟩
  · exact ⟨_, eq dry⟩

/-- A dry run never comes to `removed`, and shows what the run that writes comes to. -/
theorem rehearses_attempt (h : s.attempt store select true = .ok a) :
    a.outcome.status ≠ .removed ∧
      ∃ b, s.attempt store select false = .ok b ∧ b.selection = a.selection ∧
        a.outcome.Rehearses b.outcome := by
  obtain ⟨e, eq⟩ | ⟨a', idle, eq⟩ | ⟨d, r, -, -, eq⟩ := attempt_cases s store select
  · rw [eq] at h
    cases h
  · rw [eq] at h
    cases h
    exact ⟨idle.not_removed, a, eq false, rfl, .refl idle.not_dry idle.not_removed⟩
  · rw [eq] at h
    cases h
    exact ⟨conclude_dryRun _ _ r, _, eq false, rfl, rehearses_conclude _ _ r⟩

/-! ### Stores -/

/-- The log, if one is kept, lies apart from the manifest and is open. -/
structure KeepsLog (s : Session) (store : Store) : Prop where
  apart : ∀ log, s.log = some log →
    Store.locate store.cwd log ≠ Store.locate store.cwd s.manifest
  appendable : ∀ log, s.log = some log → store.isOpen log = true

instance (s : Session) (store : Store) : Decidable (s.KeepsLog store) :=
  decidable_of_iff (∀ log ∈ s.log, Store.locate store.cwd log ≠ Store.locate store.cwd s.manifest ∧
      store.isOpen log = true)
    ⟨fun h => ⟨fun log kept => (h log kept).1, fun log kept => (h log kept).2⟩,
      fun h log kept => ⟨h.apart log kept, h.appendable log kept⟩⟩

/-- What a session has changed in the store that it has left, given its outcome and the time of its
event. -/
structure Effects (s : Session) (before after : Store) (now : Instant) (o : Outcome) : Prop where
  cwd : after.cwd = before.cwd
  elsewhere : ∀ location, location ≠ Store.locate before.cwd s.manifest →
    (∀ log, s.log = some log → location ≠ Store.locate before.cwd log) →
      after.files.lookup location = before.files.lookup location
  log : ∀ log, s.log = some log → '\n' ∉ (o.event now.text).toJson.render ∧
    after.get? log = some (.contents
      (before.bytes log ++ Utf8.encode ((o.event now.text).toJson.render ++ ['\n'])))
  manifest_written : o.status = .removed → ∃ text, o.text = some text ∧
    after.get? s.manifest = some (.contents (Utf8.encode text))
  manifest_kept : o.status ≠ .removed → after.get? s.manifest = before.get? s.manifest

/-- The manifest after an outcome has been written. -/
theorem commit_removed (store : Store) {o : Outcome} (coherent : s.Coherent o)
    (removed : o.status = .removed) :
    ∃ text, o.text = some text ∧
      commit store o = store.put s.manifest (.contents (Utf8.encode text)) := by
  obtain ⟨text, eq⟩ := coherent.text removed
  refine ⟨text, eq, ?_⟩
  rw [commit, coherent.written_iff.2 removed, eq, coherent.manifest]

/-- Other outcomes are not written. -/
theorem commit_kept {o : Outcome} (coherent : s.Coherent o) (kept : o.status ≠ .removed) :
    commit store o = store := by
  have unwritten : o.written = false := by
    simpa using fun written => kept (coherent.written_iff.1 written)
  rw [commit, unwritten]

theorem cwd_commit (store : Store) (o : Outcome) : (commit store o).cwd = store.cwd := by
  unfold commit
  split <;> rfl

/-- Writing the manifest leaves every other file as it is. -/
theorem lookup_commit {o : Outcome} (coherent : s.Coherent o) {location : Path}
    (other : location ≠ Store.locate store.cwd s.manifest) :
    (commit store o).files.lookup location = store.files.lookup location := by
  by_cases removed : o.status = .removed
  · obtain ⟨text, -, written⟩ := commit_removed store coherent removed
    rw [written, Store.lookup_put, if_neg other]
  · rw [commit_kept coherent removed]

/-- An outcome that is written and logged has the effects of a session. -/
theorem record_commit {o : Outcome} (coherent : s.Coherent o) (keeps : s.KeepsLog store)
    (now : Instant) :
    ∃ after, s.record (commit store o) now o = .ok after ∧ s.Effects store after now o := by
  have manifest_written (removed : o.status = .removed) : ∃ text, o.text = some text ∧
      (commit store o).get? s.manifest = some (.contents (Utf8.encode text)) := by
    obtain ⟨text, eq, written⟩ := commit_removed store coherent removed
    exact ⟨text, eq, by rw [written, Store.get?_put]⟩
  cases kept : s.log with
  | none =>
    refine ⟨commit store o, by rw [record, kept], ?_⟩
    constructor
    case cwd => exact cwd_commit store o
    case elsewhere => exact fun location other _ => lookup_commit coherent other
    case log => exact fun log eq => absurd (kept.symm.trans eq) (by simp)
    case manifest_written => exact manifest_written
    case manifest_kept => exact fun unwritten => by rw [commit_kept coherent unwritten]
  | some log =>
    have apart := keeps.apart log kept
    -- The log is found as it was before the manifest was written.
    have before : (commit store o).get? log = store.get? log := by
      rw [Store.get?, cwd_commit, lookup_commit coherent apart, Store.get?]
    have elsewhere : Store.locate (commit store o).cwd s.manifest ≠
        Store.locate (commit store o).cwd log := by
      rw [cwd_commit]
      exact apart.symm
    have opened : (commit store o).isOpen log = true := by
      rw [Store.isOpen, before]
      exact keeps.appendable log kept
    have appended := AuditLog.append_eq_ok opened (o.event now.text)
    refine ⟨_, by rw [record, kept]; exact appended, ?_⟩
    constructor
    case cwd => exact cwd_commit store o
    case elsewhere =>
      intro location other away
      rw [Store.lookup_put, cwd_commit, if_neg (away log kept), lookup_commit coherent other]
    case log =>
      intro log' eq
      obtain rfl : log = log' := by simpa [kept] using eq
      refine ⟨Json.newline_not_mem_render _, ?_⟩
      rw [Store.get?_put, Store.bytes, before, ← Store.bytes, AuditLog.line]
    case manifest_written =>
      intro removed
      obtain ⟨text, eq, written⟩ := manifest_written removed
      exact ⟨text, eq, by rw [Store.get?_put_of_ne _ elsewhere, written]⟩
    case manifest_kept =>
      intro unwritten
      rw [Store.get?_put_of_ne _ elsewhere, commit_kept coherent unwritten]

/-- A session that comes to an outcome has the effects of it. -/
theorem run_eq_ok (keeps : s.KeepsLog store) (now : Instant)
    (attempted : s.attempt store select dryRun = .ok a) :
    (s.run store now select dryRun).result = .ok a ∧
      s.Effects store (s.run store now select dryRun).store now a.outcome := by
  obtain ⟨after, recorded, effects⟩ := record_commit (coherent_attempt attempted) keeps now
  have eq : s.run store now select dryRun = ⟨after, .ok a⟩ := by
    simp only [run, attempted, recorded]
  rw [eq]
  exact ⟨rfl, effects⟩

/-- A session that comes to no outcome changes nothing. -/
theorem run_eq_error (now : Instant) {e : RunError}
    (attempted : s.attempt store select dryRun = .error e) :
    s.run store now select dryRun = ⟨store, .error e⟩ := by
  simp only [run, attempted]

/-- Writing the manifest closes no file. -/
theorem isOpen_commit {path : Path} (opened : store.isOpen path = true) (o : Outcome) :
    (commit store o).isOpen path = true := by
  unfold commit
  split
  · by_cases same : Store.locate store.cwd path = Store.locate store.cwd o.manifest
    · rw [Store.isOpen, Store.get?, Store.lookup_put, Store.cwd_put, if_pos same]
    · rw [Store.isOpen, Store.get?_put_of_ne _ same]
      exact opened
  · exact opened

/-- A session that comes to an outcome is logged, wherever its log lies, if that is open. -/
theorem result_run (appendable : ∀ log, s.log = some log → store.isOpen log = true)
    (now : Instant) (attempted : s.attempt store select dryRun = .ok a) :
    (s.run store now select dryRun).result = .ok a := by
  have recorded : ∃ after, s.record (commit store a.outcome) now a.outcome = .ok after := by
    unfold record
    cases kept : s.log with
    | none => exact ⟨_, rfl⟩
    | some log => exact ⟨_, AuditLog.append_eq_ok (isOpen_commit (appendable log kept) _) _⟩
  obtain ⟨after, recorded⟩ := recorded
  simp only [run, attempted, recorded]

/-- Logging leaves a file as it is that the log lies apart from. -/
theorem get?_record {now : Instant} {o : Outcome} {after : Store} {path : Path}
    (apart : ∀ log, s.log = some log → Store.locate store.cwd log ≠ Store.locate store.cwd path)
    (recorded : s.record store now o = .ok after) : after.get? path = store.get? path := by
  unfold record at recorded
  match kept : s.log with
  | none =>
    rw [kept] at recorded
    cases recorded
    rfl
  | some log =>
    simp only [kept] at recorded
    rw [AuditLog.append_eq_ok (AuditLog.isOpen_of_append recorded)] at recorded
    cases recorded
    exact Store.get?_put_of_ne _ (apart log kept).symm

/-- A session that changes a file other than its log comes to `removed`, also if it cannot be
logged. -/
theorem removed_of_changed {now : Instant} {path : Path}
    (apart : ∀ log, s.log = some log → Store.locate store.cwd log ≠ Store.locate store.cwd path)
    (changed : (s.run store now select dryRun).store.get? path ≠ store.get? path) :
    ∃ a, s.attempt store select dryRun = .ok a ∧ a.outcome.status = .removed := by
  cases attempted : s.attempt store select dryRun with
  | error e =>
    rw [run_eq_error now attempted] at changed
    exact absurd rfl changed
  | ok a =>
    refine ⟨a, rfl, ?_⟩
    by_contra kept
    refine changed ?_
    simp only [run, attempted, commit_kept (coherent_attempt attempted) kept]
    cases recorded : s.record store now a.outcome with
    | error e => rfl
    | ok logged => exact get?_record apart recorded

/-- **A session writes once.** A session that fails changes no file. Otherwise no file but the
manifest and the log has changed, the log has one more line, and the manifest has the text of the
outcome if the status is `removed` and is as it was if not. A dry run does not come to `removed`,
and shows what the run that writes comes to; what that run writes is the text that the dry run
shows. -/
theorem effects_run (keeps : s.KeepsLog store) (now : Instant) (select : Selector)
    (dryRun : Bool) :
    (∀ e, (s.run store now select dryRun).result = .error e →
      (s.run store now select dryRun).store = store) ∧
    ∀ a, (s.run store now select dryRun).result = .ok a →
      s.Coherent a.outcome ∧
      s.Effects store (s.run store now select dryRun).store now a.outcome ∧
      (dryRun = true → a.outcome.status ≠ .removed ∧
        ∃ b, (s.run store now select false).result = .ok b ∧ a.outcome.Rehearses b.outcome ∧
          s.Effects store (s.run store now select false).store now b.outcome) := by
  cases attempted : s.attempt store select dryRun with
  | error e =>
    rw [run_eq_error now attempted]
    exact ⟨fun _ _ => rfl, fun _ eq => nomatch eq⟩
  | ok a =>
    obtain ⟨result, effects⟩ := run_eq_ok keeps now attempted
    refine ⟨fun e eq => (by rw [result] at eq; cases eq), fun a' eq => ?_⟩
    obtain rfl : a = a' := by simpa [result] using eq
    refine ⟨coherent_attempt attempted, effects, fun dry => ?_⟩
    subst dry
    obtain ⟨not_removed, b, real, -, rehearses⟩ := rehearses_attempt attempted
    exact ⟨not_removed, b, (run_eq_ok keeps now real).1, rehearses, (run_eq_ok keeps now real).2⟩

end Session

end SolutionSweep
