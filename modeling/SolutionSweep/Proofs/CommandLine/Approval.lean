import SolutionSweep.CommandLine.Run
import SolutionSweep.Proofs.Session.Keeping

/-!
# What the command does without approval

A command shows something, or it runs a session. Only the latter changes files, and only a session
whose removal has been approved of, on the command line or by an answer, changes the manifest.

* `Command.Course`: the ways in which a command goes, with the store that it leaves and its exit
  code;
* `Command.Approved`: what the arguments and the input say if a removal has been approved of;
* `Command.changes_only_approved`: the manifest changes with approval only, and what the exit codes
  mean.
-/

namespace SolutionSweep.Command

variable {store : Store} {next : Nat} {now : Instant} {a : Arguments} {input : Text}

/-! ### The ways in which a command goes -/

/-- What setting up the session comes to that the arguments name. It comes to nothing if the flag
for the directory of the log is missing its value. -/
def Creates (store : Store) (next : Nat) (a : Arguments)
    (result : Except SetupError (Session × Nat)) : Prop :=
  a.dataDir ≠ some .dropped ∧ createSession store next a = result

/-- Only the log or the settings are to be shown. -/
def ShowsOnly (a : Arguments) : Prop := a.auditTail ≠ none ∨ a.showConfig = true

/-- How the arguments and the input decide about candidates. -/
def selectorOf (a : Arguments) (input : Text) : Selector :=
  Selector.keeping (a.keep.filterMap FlagValue.toOption) fun _ => confirms (approvalOf a) input

/-- The run of a session as the arguments say. -/
def sessionRun (store : Store) (now : Instant) (session : Session) (a : Arguments) (input : Text) :
    RunResult :=
  session.run store now (selectorOf a input) a.dryRun

/-- The ways in which a command goes: the store that it leaves, and its exit code if it comes to
one. -/
inductive Course (store : Store) (next : Nat) (now : Instant) (a : Arguments) (input : Text) :
    Store → Except CommandError Nat → Prop
  | noDirectory : a.dataDir = some .dropped →
      Course store next now a input store (.error (.noValue .dataDir))
  | closed {e : Denied} : Creates store next a (.error (.denied e)) →
      Course store next now a input store (.error (.denied e))
  | invalid {e : SetupError} : Creates store next a (.error e) → (∀ d, e ≠ .denied d) →
      Course store next now a input store (.ok 2)
  | shown {session : Session} {n : Nat} : Creates store next a (.ok (session, n)) →
      ShowsOnly a → Course store next now a input store (.ok 0)
  | unshown {session : Session} {n : Nat} {e : CommandError} :
      Creates store next a (.ok (session, n)) → ShowsOnly a →
      Course store next now a input store (.error e)
  | noKeep {session : Session} {n : Nat} : Creates store next a (.ok (session, n)) →
      ¬ ShowsOnly a → lacksKeep store session a = true →
      Course store next now a input store (.error (.noValue .keep))
  | broken {session : Session} {n : Nat} {e : RunError} :
      Creates store next a (.ok (session, n)) → ¬ ShowsOnly a →
      (sessionRun store now session a input).result = .error e →
      Course store next now a input (sessionRun store now session a input).store (.error (.run e))
  | ended {session : Session} {n : Nat} {attempt : Attempt} :
      Creates store next a (.ok (session, n)) → ¬ ShowsOnly a →
      (sessionRun store now session a input).result = .ok attempt →
      Course store next now a input (sessionRun store now session a input).store
        (.ok (if attempt.outcome.ok then 0 else 1))

/-- Setting up a session comes to one result. -/
theorem Creates.unique {r r' : Except SetupError (Session × Nat)} (h : Creates store next a r)
    (h' : Creates store next a r') : r = r' :=
  h.2.symm.trans h'.2

theorem not_showsOnly_iff : ¬ ShowsOnly a ↔ a.auditTail = none ∧ a.showConfig = false := by
  simp [ShowsOnly, not_or]

/-- The ways in which a session is run. -/
theorem course_runSession {session : Session} {n : Nat}
    (created : Creates store next a (.ok (session, n))) (runs : ¬ ShowsOnly a) :
    Course store next now a input (runSession store n now session a input).store
      ((runSession store n now session a input).result.map (·.exitCode)) := by
  unfold runSession
  split
  · rename_i lacks
    exact .noKeep created runs lacks
  · cases result : (sessionRun store now session a input).result with
    | error e =>
      have broken : Course store next now a input _ _ := .broken created runs result
      unfold sessionRun selectorOf at result broken
      simp only [result]
      exact broken
    | ok attempt =>
      have ended : Course store next now a input _ _ := .ended created runs result
      unfold sessionRun selectorOf at result ended
      simp only [result]
      exact ended

/-- **A command goes in one of these ways.** -/
theorem course_execute (store : Store) (next : Nat) (now : Instant) (a : Arguments)
    (input : Text) :
    Course store next now a input (execute store next now a input).store
      ((execute store next now a input).result.map (·.exitCode)) := by
  unfold execute
  split
  · rename_i dropped
    exact .noDirectory dropped
  rename_i given
  match created : createSession store next a with
  | .error (.denied e) => exact .closed ⟨given, created⟩
  | .error (.invalid e) => exact .invalid ⟨given, created⟩ nofun
  | .error .malformedFile => exact .invalid ⟨given, created⟩ nofun
  | .ok (session, n) =>
    replace created : Creates store next a (.ok (session, n)) := ⟨given, created⟩
    simp only [withSession]
    split
    · rename_i limit tail
      have shows : ShowsOnly a := .inl (by simp [tail])
      cases showLog store session a limit with
      | error e => exact .unshown created shows
      | ok out => exact .shown created shows
    · rename_i noTail
      split
      · rename_i config
        exact .shown created (.inr config)
      · rename_i noConfig
        exact course_runSession created (not_showsOnly_iff.2 ⟨noTail, by simpa using noConfig⟩)

/-! ### Exit codes -/

/-- The command comes to an exit code. -/
def Exits (r : CommandResult) (code : Nat) : Prop := ∃ out, r.result = .ok out ∧ out.exitCode = code

theorem exits_iff {r : CommandResult} {code : Nat} :
    Exits r code ↔ r.result.map (·.exitCode) = .ok code := by
  unfold Exits
  cases r.result with
  | error e => simp [Except.map]
  | ok out => simp [Except.map]

/-- The session that the arguments name has been run, and has met a problem. -/
def Fails (store : Store) (next : Nat) (now : Instant) (a : Arguments) (input : Text) : Prop :=
  ∃ session n attempt, Creates store next a (.ok (session, n)) ∧ ¬ ShowsOnly a ∧
    (sessionRun store now session a input).result = .ok attempt ∧ attempt.outcome.status = .failed

/-- A session that meets a problem offers no candidates, so no project to keep is missing. -/
theorem lacksKeep_eq_false {session : Session} {attempt : Attempt}
    (ran : (sessionRun store now session a input).result = .ok attempt)
    (failed : attempt.outcome.status = .failed) : lacksKeep store session a = false := by
  obtain ⟨p, problem, -⟩ := Session.attempt_failed (Session.attempt_of_run ran) failed
  simp [lacksKeep, Session.offersCandidates, Session.attempt, problem]

namespace Course

variable {after : Store} {result : Except CommandError Nat}

theorem code_le (h : Course store next now a input after result) {code : Nat}
    (eq : result = .ok code) : code = 0 ∨ code = 1 ∨ code = 2 := by
  cases h with
  | noDirectory | closed | unshown | noKeep | broken => cases eq
  | invalid | shown =>
    cases eq
    simp
  | @ended _ _ attempt =>
    cases eq
    split <;> simp

/-- The exit code for settings that are not valid. -/
theorem eq_two_iff (h : Course store next now a input after result) :
    result = .ok 2 ↔ ∃ e, Creates store next a (.error e) ∧ ∀ d, e ≠ .denied d := by
  constructor
  · intro eq
    cases h with
    | noDirectory | closed | shown | unshown | noKeep | broken => cases eq
    | invalid created other => exact ⟨_, created, other⟩
    | ended =>
      injection eq with eq
      split at eq <;> cases eq
  · rintro ⟨e, created, other⟩
    cases h with
    | noDirectory dropped => exact absurd dropped created.1
    | closed denied =>
      cases created.unique denied
      exact absurd rfl (other _)
    | invalid => rfl
    | shown created' | unshown created' | noKeep created' | broken created' | ended created' =>
      cases created.unique created'

/-- The exit code for a session that meets a problem. -/
theorem eq_one_iff (h : Course store next now a input after result) :
    result = .ok 1 ↔ Fails store next now a input := by
  constructor
  · intro eq
    cases h with
    | noDirectory | closed | invalid | shown | unshown | noKeep | broken => cases eq
    | ended created runs ran =>
      refine ⟨_, _, _, created, runs, ran, ?_⟩
      injection eq with eq
      split at eq
      · cases eq
      · rename_i failed
        simpa [Outcome.ok] using failed
  · rintro ⟨session, n, attempt, created, runs, ran, failed⟩
    cases h with
    | noDirectory dropped => exact absurd dropped created.1
    | closed created' | invalid created' => cases created.unique created'
    | shown _ shows | unshown _ shows => exact absurd shows runs
    | noKeep created' _ lacks =>
      cases created.unique created'
      rw [lacksKeep_eq_false ran failed] at lacks
      cases lacks
    | broken created' _ broken =>
      cases created.unique created'
      rw [ran] at broken
      cases broken
    | ended created' _ ran' =>
      cases created.unique created'
      rw [ran] at ran'
      cases ran'
      simp [Outcome.ok, failed]

/-- Without a session that is run no file changes. -/
theorem eq_of_showsOnly (h : Course store next now a input after result) (shows : ShowsOnly a) :
    after = store := by
  cases h with
  | noDirectory | closed | invalid | shown | unshown | noKeep => rfl
  | broken _ runs | ended _ runs => exact absurd shows runs

/-- Settings that are not valid change no file. -/
theorem eq_of_eq_two (h : Course store next now a input after result) (eq : result = .ok 2) :
    after = store := by
  cases h with
  | noDirectory | closed | invalid | shown | unshown | noKeep => rfl
  | broken => cases eq
  | ended =>
    injection eq with eq
    split at eq <;> cases eq

/-- If all projects to keep are given, a session is run as the arguments say. -/
theorem eq_sessionRun {session : Session} {n : Nat}
    (h : Course store next now a input after result)
    (created : Creates store next a (.ok (session, n))) (runs : ¬ ShowsOnly a)
    (given : lacksKeep store session a = false) :
    after = (sessionRun store now session a input).store := by
  cases h with
  | noDirectory dropped => exact absurd dropped created.1
  | closed created' | invalid created' => cases created.unique created'
  | shown _ shows | unshown _ shows => exact absurd shows runs
  | noKeep created' _ lacks =>
    cases created.unique created'
    rw [given] at lacks
    cases lacks
  | broken created' | ended created' =>
    cases created.unique created'
    rfl

end Course

/-! ### Approval -/

/-- A removal has been approved of: a session is to be run that writes, and it is confirmed by the
arguments, or else by the first line of the input if somebody is asked. -/
structure Approved (a : Arguments) (input : Text) : Prop where
  showConfig : a.showConfig = false
  auditTail : a.auditTail = none
  dryRun : a.dryRun = false
  confirmed : a.yes = true ∨ a.json = false ∧
    (Text.strip (input.takeWhile (· != '\n'))).lower ∈ ["y".toList, "yes".toList]

/-- If the session that the arguments name keeps a log, then apart from the manifest. -/
def LogApart (store : Store) (next : Nat) (a : Arguments) : Prop :=
  ∀ session n, Creates store next a (.ok (session, n)) → ∀ log, session.log = some log →
    Store.locate store.cwd log ≠ Store.locate store.cwd session.manifest

/-- A session is for the manifest that it is created with. -/
theorem manifest_create {manifest : Path} {o : Overrides} {id : Option Text} {session : Session}
    {n : Nat} (h : Session.create store next manifest o id = .ok (session, n)) :
    session.manifest = Path.resolve store.cwd manifest := by
  unfold Session.create at h
  cases found : store.resolve? manifest with
  | none =>
    simp only [found] at h
    cases h
  | some resolved =>
    rw [← Resolution.eq_resolve found]
    cases loaded : Settings.load store resolved o with
    | error e =>
      simp only [found, loaded] at h
      cases h
    | ok settings =>
      simp only [found, loaded, Except.map, Except.ok.injEq] at h
      split at h <;> cases h <;> rfl

/-- The session is for the manifest that the arguments name. -/
theorem Creates.manifest {session : Session} {n : Nat}
    (h : Creates store next a (.ok (session, n))) :
    session.manifest = Path.resolve store.cwd (manifestOf a) := by
  obtain ⟨-, created⟩ := h
  unfold createSession at created
  cases given : overridesOf store a with
  | error e =>
    simp only [given] at created
    cases created
  | ok o =>
    simp only [given] at created
    exact manifest_create created

/-- A run that is not dry is confirmed on the command line, or by an answer. -/
theorem confirms_approvalOf (notDry : a.dryRun = false)
    (confirmed : confirms (approvalOf a) input = true) :
    a.yes = true ∨ a.json = false ∧
      (Text.strip (input.takeWhile (· != '\n'))).lower ∈ ["y".toList, "yes".toList] := by
  cases yes : a.yes with
  | true => exact .inl rfl
  | false =>
    cases json : a.json with
    | true => simp [approvalOf, confirms, yes, notDry, json] at confirmed
    | false =>
      refine .inr ⟨rfl, ?_⟩
      simpa [approvalOf, confirms, answersYes, yes, notDry, json] using confirmed

/-- A session that is run changes the manifest only if its removal has been approved of. -/
theorem approved_of_changed {session : Session} {n : Nat}
    (created : Creates store next a (.ok (session, n))) (runs : ¬ ShowsOnly a)
    (apart : LogApart store next a)
    (changed : (sessionRun store now session a input).store.get? session.manifest ≠
      store.get? session.manifest) : Approved a input := by
  obtain ⟨attempt, attempted, removed⟩ :=
    Session.removed_of_changed (apart session n created) changed
  obtain ⟨candidates, confirmed⟩ := Session.attempt_removed attempted removed
  have notDry : a.dryRun = false := by
    by_contra dry
    rw [Bool.not_eq_false] at dry
    rw [dry] at attempted
    exact (Session.rehearses_attempt attempted).1 removed
  obtain ⟨auditTail, showConfig⟩ := not_showsOnly_iff.1 runs
  exact ⟨showConfig, auditTail, notDry, confirms_approvalOf notDry confirmed⟩

/-- A command changes the manifest only if the removal has been approved of. -/
theorem Course.approved {after : Store} {result : Except CommandError Nat}
    (h : Course store next now a input after result) (apart : LogApart store next a)
    (changed : after.get? (Path.resolve store.cwd (manifestOf a)) ≠
      store.get? (Path.resolve store.cwd (manifestOf a))) : Approved a input := by
  cases h with
  | noDirectory | closed | invalid | shown | unshown | noKeep => exact absurd rfl changed
  | broken created runs | ended created runs =>
    rw [← created.manifest] at changed
    exact approved_of_changed created runs apart changed

/-- **The manifest changes with approval only.** Let the audit log lie apart from the manifest. If
the command changes the manifest, however it ends, then it is not to show anything else, it is no
dry run, and the removal is confirmed by the arguments or, unless the report is for a program, by
the first line of the input. The exit code is 2 exactly if the settings are not valid, and then no
file has changed; it is 1 exactly if a session has been run and has met a problem, and otherwise 0.
A command that is to show the log or the settings changes no file. -/
theorem changes_only_approved (apart : LogApart store next a) (now : Instant) (input : Text) :
    let r := execute store next now a input
    let manifest := Path.resolve store.cwd (manifestOf a)
    (r.store.get? manifest ≠ store.get? manifest → Approved a input) ∧
    (Exits r 2 ↔ ∃ e, Creates store next a (.error e) ∧ ∀ d, e ≠ .denied d) ∧
    (Exits r 2 → r.store = store) ∧
    (Exits r 1 ↔ Fails store next now a input) ∧
    (∀ code, Exits r code → code = 0 ∨ code = 1 ∨ code = 2) ∧
    (ShowsOnly a → r.store = store) := by
  intro r manifest
  have course : Course store next now a input r.store (r.result.map (·.exitCode)) :=
    course_execute store next now a input
  simp only [exits_iff]
  exact ⟨course.approved apart, course.eq_two_iff, course.eq_of_eq_two, course.eq_one_iff,
    fun code => course.code_le, course.eq_of_showsOnly⟩

/-! ### A removal that is approved of on the command line -/

/-- The arguments that approve of the removal in the sample. -/
def approvingArguments : Arguments :=
  { Arguments.none with
    manifest := some "W.sln".toList
    yes := true }

/-- The session that these arguments name. -/
def approvedSession : Session :=
  Session.sampleSession "W.sln".toList
    (some ⟨.single, ["s".toList, auditDirectoryName, Session.logName]⟩)

theorem creates_approvingArguments :
    Creates Session.orphanStore 1 approvingArguments (.ok (approvedSession, 2)) :=
  ⟨by decide, rfl⟩

/-- Without projects to keep, an approval is one of everything. -/
theorem selectorOf_eq_approveAll (keep : a.keep = []) (given : approvalOf a = .given) :
    selectorOf a input = .approveAll := by
  funext candidates
  simp [selectorOf, Selector.keeping, Selector.approveAll, Selector.keepEach_eq, keep, given,
    confirms]

/-- The command with these arguments leaves the manifest without the project that is not in use. -/
theorem get?_execute_approvingArguments (now : Instant) (input : Text) :
    (execute Session.orphanStore 1 now approvingArguments input).store.get?
      approvedSession.manifest = some (.contents (Utf8.encode Session.orphanRest)) := by
  have keeps : approvedSession.KeepsLog Session.orphanStore := by decide +kernel
  obtain ⟨-, attempt, -, -, -, attempted, removed, shown, -⟩ :=
    Session.exists_removal_orphanSession
  rw [← Session.attempt_withLog _ approvedSession.log] at attempted
  obtain ⟨text, eq, written⟩ := (Session.run_eq_ok keeps now attempted).2.manifest_written removed
  rw [shown] at eq
  cases eq
  rw [(course_execute _ _ now _ input).eq_sessionRun creates_approvingArguments
    (not_showsOnly_iff.2 ⟨rfl, rfl⟩) rfl, sessionRun, selectorOf_eq_approveAll rfl rfl]
  exact written

/-- The command with these arguments changes the manifest, and has been approved to. -/
theorem changes_only_approved_approvingArguments :
    LogApart Session.orphanStore 1 approvingArguments ∧ ∀ now input,
      (execute Session.orphanStore 1 now approvingArguments input).store.get?
          approvedSession.manifest ≠
        Session.orphanStore.get? approvedSession.manifest ∧
      Approved approvingArguments input := by
  have apart : LogApart Session.orphanStore 1 approvingArguments := by
    intro session n created log kept
    cases created.unique creates_approvingArguments
    cases kept
    decide
  refine ⟨apart, fun now input => ?_⟩
  have changed : (execute Session.orphanStore 1 now approvingArguments input).store.get?
      approvedSession.manifest ≠ Session.orphanStore.get? approvedSession.manifest := by
    rw [get?_execute_approvingArguments]
    decide +kernel
  exact ⟨changed, (changes_only_approved apart now input).1 changed⟩

end SolutionSweep.Command
