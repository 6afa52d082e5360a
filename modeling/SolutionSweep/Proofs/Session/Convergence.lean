import SolutionSweep.Proofs.Graph.Restriction
import SolutionSweep.Proofs.Manifest.Remains
import SolutionSweep.Proofs.Path
import SolutionSweep.Proofs.Session.Effects
import SolutionSweep.Proofs.Text.Utf8

/-!
# A second run finds nothing to remove

A session that has removed every unused project leaves a manifest that registers the projects in
use, and their descriptors are as they were. So the same session finds nothing when it is run again:
the manifest is read back, its registry has the other projects, and the references between them are
the same.

* `Detection.run_eq_ok_iff`, `Detection.loadRegistry_eq_ok_iff`: what a detection consists of;
* `Session.Spares`: no descriptor of a project in use is written by the session;
* `Detection.run_after`: detection in the store after the manifest has been written;
* `Session.run_again`: the second run.
-/

namespace SolutionSweep

/-- From a working directory with a root, a resolved path has the location of the path. -/
theorem Store.locate_resolve {cwd : Path} (rooted : cwd.root ≠ .relative) (p : Path) :
    locate cwd (Path.resolve cwd p) = locate cwd p := by
  rw [locate, Path.resolve_resolve rooted, locate]

namespace Detection

variable {store : Store} {c : Conventions} {manifest : Path} {r : Registry} {d : Detection}

theorem loadRegistry_eq_ok_iff : loadRegistry store c manifest = .ok r ↔
    ∃ text, readManifest store (Path.resolve store.cwd manifest) = .ok text ∧
      Registry.parse store.cwd c (Path.resolve store.cwd manifest) text = .ok r := by
  unfold loadRegistry
  dsimp only
  cases read : readManifest store (Path.resolve store.cwd manifest) with
  | error e => simp
  | ok text =>
    match parsed : Registry.parse store.cwd c (Path.resolve store.cwd manifest) text with
    | .error (.nestingCycle e) => simp [parsed]
    | .error (.longNumeral e) => simp [parsed]
    | .ok r' => simp [parsed]

theorem run_eq_ok_iff : run store c manifest = .ok d ↔
    loadRegistry store c manifest = .ok d.registry ∧
      (graphOf store d.registry).reachability = .ok d.reachability := by
  unfold run
  cases loaded : loadRegistry store c manifest with
  | error e => simp
  | ok r =>
    dsimp only
    cases classified : (graphOf store r).reachability with
    | error e =>
      simp only [reduceCtorEq, false_iff, not_and]
      rintro ⟨⟩
      simp [classified]
    | ok reachability =>
      constructor
      · rintro ⟨⟩
        exact ⟨rfl, classified⟩
      · rintro ⟨same, classified'⟩
        obtain rfl := Except.ok.inj same
        rw [classified] at classified'
        cases classified'
        rfl

/-- The registered projects have distinct identifiers. -/
theorem distinct_graphOf (loaded : loadRegistry store c manifest = .ok r) :
    (graphOf store r).Distinct := by
  obtain ⟨text, -, parsed⟩ := loadRegistry_eq_ok_iff.1 loaded
  exact Registry.nodup_projects parsed

/-- A detection from what the registry says and how its projects are classified. -/
theorem exists_run {place : Path} {text : Text} {projects : List Project} {q : Reachability}
    (loaded : (loadRegistry store c manifest).toOption.map
      (fun r => (r.manifest, r.text, r.projects)) = some (place, text, projects))
    (classified : ProjectGraph.reachability
      ⟨store.cwd, place.parent, projects, store.descriptor?⟩ = .ok q) :
    ∃ r, run store c manifest = .ok ⟨r, q⟩ ∧ r.text = text ∧ r.projects = projects := by
  cases loaded' : loadRegistry store c manifest with
  | error e =>
    rw [loaded'] at loaded
    cases loaded
  | ok r =>
    rw [loaded'] at loaded
    obtain ⟨⟩ := loaded
    exact ⟨r, run_eq_ok_iff.2 ⟨loaded', classified⟩, rfl, rfl⟩

/-- **Detection after a removal.** Let all unused projects of a well-formed manifest be taken out
and the text that is left be written, and let the descriptors of the projects in use be as they
were. Then there is a detection again; it finds no unused project and reads as many descriptors. -/
theorem run_after {after : Store} {prune : Bool} {removal : Removal}
    (rooted : store.cwd.root ≠ .relative) (detected : run store c manifest = .ok d)
    (wellFormed : WellFormed d.registry.text)
    (applied : Removal.apply c d.registry.text (d.reachability.unused.map (·.id)) prune =
      .ok removal)
    (cwd : after.cwd = store.cwd)
    (written : after.get? manifest = some (.contents (Utf8.encode removal.text)))
    (kept : ∀ p, (graphOf store d.registry).InUse p → after.get? p.path = store.get? p.path) :
    ∃ d', run after c manifest = .ok d' ∧ d'.reachability.unused = [] ∧
      d'.reachability.descriptorsRead = d.reachability.descriptorsRead := by
  obtain ⟨loaded, classified⟩ := run_eq_ok_iff.1 detected
  obtain ⟨text, -, parsed⟩ := loadRegistry_eq_ok_iff.1 loaded
  obtain ⟨place, same, -⟩ := Registry.exists_traversal parsed
  rw [same] at wellFormed applied
  have distinct := distinct_graphOf loaded
  have unused (p : Project) : p ∈ d.reachability.unused ↔
      p ∈ d.registry.projects ∧ ¬ (graphOf store d.registry).InUse p :=
    ProjectGraph.mem_unused_iff distinct classified
  -- The manifest is read back, and has a registry with the projects in use.
  obtain ⟨r', nested, parsed', place', projects⟩ := Removal.exists_parse_apply wellFormed parsed
    (fun p hp => ((unused p).1 hp).1) applied
  have loaded' : loadRegistry after c manifest = .ok r' := by
    refine loadRegistry_eq_ok_iff.2 ⟨removal.text, ?_, by rw [cwd]; exact parsed'⟩
    have found : after.get? (Path.resolve after.cwd manifest) =
        some (.contents (Utf8.encode removal.text)) := by
      rw [Store.get?, Store.locate_resolve (cwd ▸ rooted), ← Store.get?, written]
    simp only [readManifest, found, Utf8.decode?_encode]
  have restriction : (graphOf store d.registry).Restriction (graphOf after r')
      (·.renested nested) := by
    constructor
    case cwd => exact cwd
    case directory =>
      show r'.manifest.parent = d.registry.manifest.parent
      rw [place', place]
    case projects =>
      refine projects.trans (congrArg (List.map _) (List.filter_congr fun p hp => ?_))
      rw [decide_eq_decide, unused, not_and, not_not]
      exact ⟨fun inUse => inUse hp, fun inUse _ => inUse⟩
    case read =>
      intro p inUse
      show after.descriptor? p.path = store.descriptor? p.path
      rw [Store.descriptor?, kept p inUse, ← Store.descriptor?]
    case id => exact fun _ => rfl
    case relativePath => exact fun _ => rfl
    case path => exact fun _ => rfl
  obtain ⟨reachability, classified', none, count⟩ := restriction.reachability distinct classified
  exact ⟨⟨r', reachability⟩, run_eq_ok_iff.2 ⟨loaded', classified'⟩, none, count⟩

end Detection

namespace Session

variable {s : Session} {store after : Store} {a : Attempt}

/-- No project in use has the manifest or the log for its descriptor. -/
structure Spares (s : Session) (store : Store) (r : Registry) : Prop where
  manifest : ∀ p, (Detection.graphOf store r).InUse p →
    Store.locate store.cwd p.path ≠ Store.locate store.cwd s.manifest
  log : ∀ log, s.log = some log → ∀ p, (Detection.graphOf store r).InUse p →
    Store.locate store.cwd p.path ≠ Store.locate store.cwd log

/-- A session comes to an outcome only by what it attempts. -/
theorem attempt_of_run {now : Instant} {select : Selector} {dryRun : Bool}
    (ran : (s.run store now select dryRun).result = .ok a) :
    s.attempt store select dryRun = .ok a := by
  cases attempted : s.attempt store select dryRun with
  | error e =>
    rw [run_eq_error now attempted] at ran
    cases ran
  | ok b =>
    simp only [run, attempted] at ran
    split at ran
    · cases ran
    · cases ran
      rfl

theorem approved_approveAll (unused : List Project) :
    (Selector.approveAll (candidatesOf unused)).approved = unused := by
  simp [Selector.approveAll, Selection.approved, candidatesOf, List.filter_map, Function.comp_def]

theorem text_conclude (unused : List Project) (descriptorsRead : Nat) (r : Removal)
    (dryRun : Bool) :
    (s.conclude unused descriptorsRead r dryRun).text = some r.text ∧
      (s.conclude unused descriptorsRead r dryRun).descriptorsRead = descriptorsRead := by
  cases changed : r.changed <;> cases dryRun <;> simp [conclude, changed, withRemoval, outcome]

/-- What a run that approves of everything has done if it ends with `removed`. -/
theorem exists_of_removed {now : Instant}
    (ran : (s.run store now .approveAll false).result = .ok a)
    (removed : a.outcome.status = .removed) :
    ∃ d r, Detection.run store s.settings.conventions s.manifest = .ok d ∧
      Removal.apply s.settings.conventions d.registry.text (d.reachability.unused.map (·.id))
        s.settings.pruneFolders = .ok r ∧
      a.outcome.text = some r.text ∧
      a.outcome.descriptorsRead = d.reachability.descriptorsRead := by
  have attempted := attempt_of_run ran
  obtain ⟨e, eq⟩ | ⟨a', idle, eq⟩ | ⟨d, r, detected, applied, eq⟩ :=
    attempt_cases s store .approveAll
  · rw [eq] at attempted
    cases attempted
  · rw [eq] at attempted
    cases attempted
    exact absurd removed idle.not_removed
  · rw [eq] at attempted
    cases attempted
    rw [approved_approveAll] at applied
    exact ⟨d, r, detected, applied, text_conclude _ _ r false⟩

/-- A session that finds no unused project has nothing to remove, whoever selects. -/
theorem attempt_of_unused_eq_nil {d : Detection}
    (detected : Detection.run after s.settings.conventions s.manifest = .ok d)
    (empty : d.reachability.unused = []) (select : Selector) (dryRun : Bool) :
    s.attempt after select dryRun = .ok ⟨s.outcome .nothingToRemove
      "No unused projects found.".toList [] d.reachability.descriptorsRead, none⟩ := by
  simp [attempt, detected, empty]

/-- The log is kept as well in the store that a session leaves. -/
theorem KeepsLog.of_effects {now : Instant} {o : Outcome} (keeps : s.KeepsLog store)
    (effects : s.Effects store after now o) : s.KeepsLog after where
  apart log kept := by
    rw [effects.cwd]
    exact keeps.apart log kept
  appendable log kept := by
    exact Store.isOpen_of_contents (effects.log log kept).2

/-- The descriptors of the projects in use are not touched by a session that spares them. -/
theorem Spares.get?_eq {r : Registry} {now : Instant} {o : Outcome} (spares : s.Spares store r)
    (effects : s.Effects store after now o) {p : Project}
    (inUse : (Detection.graphOf store r).InUse p) : after.get? p.path = store.get? p.path := by
  rw [Store.get?, Store.get?, effects.cwd]
  exact effects.elsewhere _ (spares.manifest p inUse) fun log kept => spares.log log kept p inUse

/-- **A second run finds nothing to remove.** Let a session approve of every removal and end with
`removed`, for a well-formed manifest and without writing a descriptor of a project in use. Then
whatever it does with candidates when it is run again on the resulting store, it comes to nothing to
remove, shows no unused project, leaves the manifest as it is, and reads as many descriptors. The
working directory has a root, as working directories have. -/
theorem run_again {r : Registry} (rooted : store.cwd.root ≠ .relative) (keeps : s.KeepsLog store)
    (loaded : Detection.loadRegistry store s.settings.conventions s.manifest = .ok r)
    (wellFormed : WellFormed r.text) (spares : s.Spares store r) {now : Instant}
    (ran : (s.run store now .approveAll false).result = .ok a)
    (removed : a.outcome.status = .removed) (now' : Instant) (select : Selector)
    (dryRun : Bool) :
    let after := (s.run store now .approveAll false).store
    ∃ b, (s.run after now' select dryRun).result = .ok b ∧
      b.outcome.status = .nothingToRemove ∧ b.outcome.written = false ∧ b.outcome.unused = [] ∧
      b.outcome.descriptorsRead = a.outcome.descriptorsRead ∧
      (s.run after now' select dryRun).store.get? s.manifest = after.get? s.manifest := by
  intro after
  obtain ⟨d, removal, detected, applied, text, count⟩ := exists_of_removed ran removed
  obtain rfl : d.registry = r :=
    Except.ok.inj ((Detection.run_eq_ok_iff.1 detected).1.symm.trans loaded)
  obtain ⟨-, effects⟩ := run_eq_ok keeps now (attempt_of_run ran)
  have written : after.get? s.manifest = some (.contents (Utf8.encode removal.text)) := by
    obtain ⟨text', eq, found⟩ := effects.manifest_written removed
    rw [text] at eq
    cases eq
    exact found
  obtain ⟨d', detected', empty, count'⟩ := Detection.run_after rooted detected wellFormed applied
    effects.cwd written fun p inUse => spares.get?_eq effects inUse
  obtain ⟨result, effects'⟩ := run_eq_ok (keeps.of_effects effects) now'
    (attempt_of_unused_eq_nil detected' empty select dryRun)
  refine ⟨_, result, rfl, rfl, rfl, count'.trans count.symm, ?_⟩
  exact effects'.manifest_kept (by simp [outcome])

/-- A run that approves of everything comes to the removal of all unused projects. -/
theorem attempt_approveAll {d : Detection} {r : Removal}
    (detected : Detection.run store s.settings.conventions s.manifest = .ok d)
    (found : d.reachability.unused ≠ [])
    (applied : Removal.apply s.settings.conventions d.registry.text
      (d.reachability.unused.map (·.id)) s.settings.pruneFolders = .ok r) :
    s.attempt store .approveAll false =
      .ok ⟨s.conclude d.reachability.unused d.reachability.descriptorsRead r false,
        some (Selector.approveAll (candidatesOf d.reachability.unused))⟩ := by
  have approved := approved_approveAll d.reachability.unused
  have confirmed : (Selector.approveAll (candidatesOf d.reachability.unused)).confirmed = true :=
    rfl
  unfold attempt
  rw [detected]
  simp only [carryOut, List.isEmpty_eq_false_iff.2 found, approved, confirmed, applied,
    Bool.not_true, Bool.false_and, Bool.false_eq_true, if_false, Except.map]

/-- A removal that takes anything out ends with `removed`. -/
theorem status_conclude (unused : List Project) (descriptorsRead : Nat) {r : Removal}
    (changed : r.changed = true) :
    (s.conclude unused descriptorsRead r false).status = .removed := by
  simp [conclude, changed, withRemoval, outcome]

/-- A run that approves of everything, from what the registry says and how its projects are
classified: it ends with `removed` if there are unused projects and something is taken out. -/
theorem exists_attempt_removed {place : Path} {text : Text} {projects : List Project}
    {q : Reachability} {removal : Removal}
    (loaded : (Detection.loadRegistry store s.settings.conventions s.manifest).toOption.map
      (fun r => (r.manifest, r.text, r.projects)) = some (place, text, projects))
    (classified : ProjectGraph.reachability
      ⟨store.cwd, place.parent, projects, store.descriptor?⟩ = .ok q)
    (found : q.unused ≠ [])
    (applied : Removal.apply s.settings.conventions text (q.unused.map (·.id))
      s.settings.pruneFolders = .ok removal)
    (changed : removal.changed = true) :
    ∃ r a, Detection.loadRegistry store s.settings.conventions s.manifest = .ok r ∧
      r.text = text ∧ r.projects = projects ∧ s.attempt store .approveAll false = .ok a ∧
      a.outcome.status = .removed ∧ a.outcome.text = some removal.text ∧
      a.outcome.descriptorsRead = q.descriptorsRead := by
  obtain ⟨r, detected, sameText, sameProjects⟩ := Detection.exists_run loaded classified
  rw [← sameText] at applied
  obtain ⟨shown, read⟩ := text_conclude (s := s) q.unused q.descriptorsRead removal false
  exact ⟨r, _, (Detection.run_eq_ok_iff.1 detected).1, sameText, sameProjects,
    attempt_approveAll detected found applied, status_conclude _ _ changed, shown, read⟩

/-- The store that a run without a log leaves when it has written a text. -/
theorem store_run {now : Instant} {select : Selector} {dryRun : Bool} {text : Text}
    (unlogged : s.log = none) (attempted : s.attempt store select dryRun = .ok a)
    (removed : a.outcome.status = .removed) (shown : a.outcome.text = some text) :
    s.run store now select dryRun =
      ⟨store.put s.manifest (.contents (Utf8.encode text)), .ok a⟩ := by
  obtain ⟨text', eq, written⟩ := commit_removed store (coherent_attempt attempted) removed
  rw [shown] at eq
  cases eq
  simp only [run, attempted, record, unlogged, written]

/-! ### A manifest with an unused project -/

/-- The identifier of the project in the directory of the manifest. -/
def rootId : EntryId := "11111111-1111-1111-1111-111111111111".toList

/-- The identifier of the project that is not in use. -/
def orphanId : EntryId := "22222222-2222-2222-2222-222222222222".toList

/-- The lines that register a project. -/
def registrationLines (name path : Text) (id : EntryId) (items : List Text) : List Text :=
  ["Project(\"\x7bFAE04EC0-301F-11D3-BF4B-00C04F79EFBC\x7d\") = \"".toList ++ name ++
      "\", \"".toList ++ path ++ "\", \"\x7b".toList ++ id ++ "\x7d\"".toList] ++
    items ++ ["EndProject".toList]

/-- The manifest with some blocks and nothing in its global part. -/
def blocksSample (blocks : List (List Text)) : Text :=
  Text.join ['\n'] (blocks.flatten ++ ["Global".toList, "EndGlobal".toList])

/-- A store with a manifest, and an empty file. -/
def sampleStore (manifest : Text) (text : Text) (empty : List Text) : Store where
  cwd := ⟨.single, ["s".toList]⟩
  files := [(⟨.single, ["s".toList, manifest]⟩, .contents (Utf8.encode text)),
    (⟨.single, empty⟩, .contents [])]

/-- A session for the manifest in such a store. -/
def sampleSession (manifest : Text) (log : Option Path) : Session where
  manifest := ⟨.single, ["s".toList, manifest]⟩
  settings := Settings.standard ⟨.single, ["s".toList]⟩ ⟨.single, ["s".toList]⟩
  log := log
  id := numberedId 1

/-- The project in the directory of the manifest. -/
def rootProject : Project :=
  ⟨rootId, "A".toList, "A.csproj".toList, ⟨.single, ["s".toList, "A.csproj".toList]⟩, []⟩

/-- The project outside of it. -/
def orphanProject : Project :=
  ⟨orphanId, "B".toList, "../B.csproj".toList, ⟨.single, ["B.csproj".toList]⟩, []⟩

def orphanSample : Text := blocksSample
  [registrationLines "A".toList "A.csproj".toList rootId [],
    registrationLines "B".toList "../B.csproj".toList orphanId []]

def orphanStore : Store := sampleStore "W.sln".toList orphanSample ["s".toList, "A.csproj".toList]

def orphanSession : Session :=
  sampleSession "W.sln".toList (some ⟨.single, ["s".toList, logName]⟩)

theorem wellFormed_orphanSample : WellFormed orphanSample :=
  wellFormed_of_lines (registrationLines "A".toList "A.csproj".toList rootId [] ++
      registrationLines "B".toList "../B.csproj".toList orphanId []) "Global".toList
    ["EndGlobal".toList] (by decide +kernel)

/-- The graph of the sample. -/
def orphanGraph : ProjectGraph :=
  ⟨orphanStore.cwd, orphanSession.manifest.parent, [rootProject, orphanProject],
    orphanStore.descriptor?⟩

/-- The sample without the project that is not in use. -/
def orphanRest : Text := blocksSample [registrationLines "A".toList "A.csproj".toList rootId []]

/-- What is read of the sample, and what a removal leaves of it. -/
theorem evaluated_orphanSample :
    (Detection.loadRegistry orphanStore orphanSession.settings.conventions
      orphanSession.manifest).toOption.map (fun r => (r.manifest, r.text, r.projects)) =
      some (orphanSession.manifest, orphanSample, [rootProject, orphanProject]) ∧
    orphanGraph.read rootProject.path = some [] ∧ orphanGraph.roots = [rootProject] ∧
    orphanGraph.targets rootProject [] = [] ∧
    orphanGraph.unusedGiven [rootId] = [orphanProject] ∧
    Removal.apply .standard orphanSample [orphanId] true = .ok
      { text := orphanRest
        removed := [⟨orphanId, "B".toList, "../B.csproj".toList, true⟩]
        prunedFolders := []
        warnings := [] } := by
  decide +kernel

/-- The reachability of the sample. -/
theorem exists_reachability_orphanGraph : ∃ q,
    orphanGraph.reachability = .ok q ∧ q.descriptorsRead = 1 ∧ q.unused = [orphanProject] := by
  obtain ⟨-, readable, roots, targets, rest, -⟩ := evaluated_orphanSample
  obtain ⟨q, classified, count, unused⟩ :=
    ProjectGraph.exists_reachability (ProjectGraph.traverse_of_root roots readable targets)
  exact ⟨q, classified, count, unused.trans rest⟩

theorem exists_removal_orphanSession : ∃ r a,
    Detection.loadRegistry orphanStore orphanSession.settings.conventions
      orphanSession.manifest = .ok r ∧
    r.text = orphanSample ∧ r.projects = [rootProject, orphanProject] ∧
    orphanSession.attempt orphanStore .approveAll false = .ok a ∧
    a.outcome.status = .removed ∧ a.outcome.text = some orphanRest ∧
    a.outcome.descriptorsRead = 1 := by
  obtain ⟨loaded, -, -, -, -, applied⟩ := evaluated_orphanSample
  obtain ⟨q, classified, count, unused⟩ := exists_reachability_orphanGraph
  obtain ⟨r, a, registry, text, projects, attempted, removed, shown, read⟩ :=
    exists_attempt_removed loaded classified (by rw [unused]; nofun)
      (by rw [unused]; exact applied) rfl
  exact ⟨r, a, registry, text, projects, attempted, removed, shown, read.trans count⟩

theorem exists_attempt_orphanSession : ∃ r a,
    Detection.loadRegistry orphanStore orphanSession.settings.conventions
      orphanSession.manifest = .ok r ∧
    r.text = orphanSample ∧ r.projects = [rootProject, orphanProject] ∧
    orphanSession.attempt orphanStore .approveAll false = .ok a ∧
    a.outcome.status = .removed ∧ a.outcome.descriptorsRead = 1 := by
  obtain ⟨r, a, registry, text, projects, attempted, removed, -, count⟩ :=
    exists_removal_orphanSession
  exact ⟨r, a, registry, text, projects, attempted, removed, count⟩

theorem keepsLog_orphanSession : orphanSession.KeepsLog orphanStore := by decide +kernel

/-- The session for the sample writes the manifest without the project that is not in use. A dry run
shows this text and leaves the manifest as it is. -/
theorem effects_run_orphanSession :
    orphanSession.KeepsLog orphanStore ∧ ∀ now,
      let r := orphanSession.run orphanStore now .approveAll false
      let dry := orphanSession.run orphanStore now .approveAll true
      ∃ a b, r.result = .ok a ∧ a.outcome.status = .removed ∧
        r.store.get? orphanSession.manifest = some (.contents (Utf8.encode orphanRest)) ∧
        orphanSession.Effects orphanStore r.store now a.outcome ∧
        dry.result = .ok b ∧ b.outcome.status = .dryRun ∧ b.outcome.text = some orphanRest ∧
        dry.store.get? orphanSession.manifest = orphanStore.get? orphanSession.manifest := by
  have keeps := keepsLog_orphanSession
  refine ⟨keeps, fun now => ?_⟩
  intro r dry
  obtain ⟨-, a, -, -, -, attempted, removed, shown, -⟩ := exists_removal_orphanSession
  obtain ⟨b, rehearsed⟩ := exists_attempt_dry attempted true
  have ran : r.result = .ok a := (run_eq_ok keeps now attempted).1
  have ranDry : dry.result = .ok b := (run_eq_ok keeps now rehearsed).1
  obtain ⟨-, effects, -⟩ := (effects_run keeps now .approveAll false).2 a ran
  obtain ⟨-, effectsDry, same⟩ := (effects_run keeps now .approveAll true).2 b ranDry
  obtain ⟨kept, a', ran', rehearses, -⟩ := same rfl
  obtain rfl : a = a' := Except.ok.inj (ran.symm.trans ran')
  obtain ⟨text, eq, written⟩ := effects.manifest_written removed
  obtain rfl : orphanRest = text := Option.some.inj (shown.symm.trans eq)
  exact ⟨a, b, ran, removed, written, effects, ranDry, rehearses.status_iff.2 removed,
    rehearses.text.trans shown, effectsDry.manifest_kept kept⟩

/-- The session for the sample removes a project and then finds nothing to remove. -/
theorem run_again_orphanSession :
    orphanStore.cwd.root ≠ .relative ∧ orphanSession.KeepsLog orphanStore ∧
      ∃ r, Detection.loadRegistry orphanStore orphanSession.settings.conventions
          orphanSession.manifest = .ok r ∧
        WellFormed r.text ∧ orphanSession.Spares orphanStore r ∧
        ∀ now now', ∃ a b,
          (orphanSession.run orphanStore now .approveAll false).result = .ok a ∧
            a.outcome.status = .removed ∧
          (orphanSession.run (orphanSession.run orphanStore now .approveAll false).store now'
            .approveAll false).result = .ok b ∧
            b.outcome.status = .nothingToRemove ∧ b.outcome.descriptorsRead = 1 := by
  have rooted : orphanStore.cwd.root ≠ .relative := by decide
  have keeps := keepsLog_orphanSession
  obtain ⟨r, a, loaded, text, projects, attempted, removed, count⟩ := exists_attempt_orphanSession
  have wellFormed : WellFormed r.text := text ▸ wellFormed_orphanSample
  have spares : orphanSession.Spares orphanStore r := by
    have apart : ∀ p ∈ [rootProject, orphanProject],
        Store.locate orphanStore.cwd p.path ≠ Store.locate orphanStore.cwd orphanSession.manifest ∧
        Store.locate orphanStore.cwd p.path ≠
          Store.locate orphanStore.cwd ⟨.single, ["s".toList, logName]⟩ := by
      decide +kernel
    constructor
    case manifest => exact fun p inUse => (apart p (projects ▸ inUse.mem)).1
    case log =>
      rintro _ ⟨⟩ p inUse
      exact (apart p (projects ▸ inUse.mem)).2
  refine ⟨rooted, keeps, r, loaded, wellFormed, spares, fun now now' => ?_⟩
  obtain ⟨ran, -⟩ := run_eq_ok keeps now attempted
  obtain ⟨b, again, nothing, -, -, count', -⟩ :=
    run_again rooted keeps loaded wellFormed spares ran removed now' .approveAll false
  exact ⟨a, b, ran, removed, again, nothing, count'.trans count⟩

/-! ### A manifest that is a descriptor -/

/-- The identifier of the project that is in use as long as the manifest refers to it. -/
def usedId : EntryId := "33333333-3333-3333-3333-333333333333".toList

/-- The project that the manifest describes. -/
def selfProject : Project :=
  ⟨rootId, "M".toList, "m.csproj".toList, ⟨.single, ["s".toList, "m.csproj".toList]⟩, []⟩

/-- The project that the manifest refers to. -/
def usedProject : Project :=
  ⟨usedId, "V".toList, "../v.csproj".toList, ⟨.single, ["v.csproj".toList]⟩, []⟩

/-- The block of the project that the manifest describes. -/
def selfBlock : List Text := registrationLines "M".toList "m.csproj".toList rootId []

/-- The block of the project that the manifest refers to. -/
def usedBlock : List Text := registrationLines "V".toList "../v.csproj".toList usedId []

/-- The block of the project that is not in use, with a reference inside. -/
def referringBlock : List Text :=
  registrationLines "B".toList "../B.csproj".toList orphanId
    ["<ProjectReference Include='../v.csproj'/>".toList]

/-- A manifest that registers itself as a descriptor. The reference to a project stands in the block
of a project that is not in use. -/
def selfSample : Text := blocksSample [selfBlock, referringBlock, usedBlock]

/-- The manifest after this block has been taken out. -/
def selfRest : Text := blocksSample [selfBlock, usedBlock]

def selfStore (text : Text) : Store := sampleStore "m.csproj".toList text ["v.csproj".toList]

def selfSession : Session := sampleSession "m.csproj".toList none

theorem wellFormed_selfSample : WellFormed selfSample :=
  wellFormed_of_lines (selfBlock ++ referringBlock ++ usedBlock) "Global".toList
    ["EndGlobal".toList] (by decide +kernel)

/-- The graph of the projects of such a manifest. -/
def selfGraph (text : Text) (projects : List Project) : ProjectGraph :=
  ⟨(selfStore text).cwd, selfSession.manifest.parent, projects, (selfStore text).descriptor?⟩

/-- The first run takes out the project that is not in use, and the reference with it. -/
theorem exists_attempt_selfSample : ∃ r a,
    Detection.loadRegistry (selfStore selfSample) selfSession.settings.conventions
      selfSession.manifest = .ok r ∧
    r.text = selfSample ∧
    selfSession.attempt (selfStore selfSample) .approveAll false = .ok a ∧
    a.outcome.status = .removed ∧ a.outcome.text = some selfRest := by
  obtain ⟨loaded, readable, readable', roots, targets, targets', rest, applied⟩ :
      (Detection.loadRegistry (selfStore selfSample) selfSession.settings.conventions
        selfSession.manifest).toOption.map (fun r => (r.manifest, r.text, r.projects)) =
        some (selfSession.manifest, selfSample, [selfProject, orphanProject, usedProject]) ∧
      (selfStore selfSample).descriptor? selfProject.path = some selfSample ∧
      (selfStore selfSample).descriptor? usedProject.path = some [] ∧
      (selfGraph selfSample [selfProject, orphanProject, usedProject]).roots = [selfProject] ∧
      (selfGraph selfSample [selfProject, orphanProject, usedProject]).targets selfProject
        selfSample = [usedProject] ∧
      (selfGraph selfSample [selfProject, orphanProject, usedProject]).targets usedProject [] =
        [] ∧
      (selfGraph selfSample [selfProject, orphanProject, usedProject]).unusedGiven
        [rootId, usedId] = [orphanProject] ∧
      Removal.apply .standard selfSample [orphanId] true = .ok
        { text := selfRest
          removed := [⟨orphanId, "B".toList, "../B.csproj".toList, true⟩]
          prunedFolders := []
          warnings := [] } := by
    decide +kernel
  obtain ⟨q, classified, -, unused⟩ := ProjectGraph.exists_reachability
    (ProjectGraph.traverse_of_reference roots readable targets (by simp [selfGraph]) (by decide)
      readable' targets')
  replace unused : q.unused = [orphanProject] := unused.trans rest
  obtain ⟨r, a, registry, text, -, attempted, removed, shown, -⟩ :=
    exists_attempt_removed loaded classified (by rw [unused]; nofun)
      (by rw [unused]; exact applied) rfl
  exact ⟨r, a, registry, text, attempted, removed, shown⟩

/-- The second run takes out the project that the manifest refers to no more. -/
theorem exists_attempt_selfRest : ∃ a,
    selfSession.attempt (selfStore selfRest) .approveAll false = .ok a ∧
      a.outcome.status = .removed := by
  obtain ⟨loaded, readable, roots, targets, rest, applied⟩ :
      (Detection.loadRegistry (selfStore selfRest) selfSession.settings.conventions
        selfSession.manifest).toOption.map (fun r => (r.manifest, r.text, r.projects)) =
        some (selfSession.manifest, selfRest, [selfProject, usedProject]) ∧
      (selfStore selfRest).descriptor? selfProject.path = some selfRest ∧
      (selfGraph selfRest [selfProject, usedProject]).roots = [selfProject] ∧
      (selfGraph selfRest [selfProject, usedProject]).targets selfProject selfRest = [] ∧
      (selfGraph selfRest [selfProject, usedProject]).unusedGiven [rootId] = [usedProject] ∧
      Removal.apply .standard selfRest [usedId] true = .ok
        { text := blocksSample [selfBlock]
          removed := [⟨usedId, "V".toList, "../v.csproj".toList, true⟩]
          prunedFolders := []
          warnings := [] } := by
    decide +kernel
  obtain ⟨q, classified, -, unused⟩ :=
    ProjectGraph.exists_reachability (ProjectGraph.traverse_of_root roots readable targets)
  replace unused : q.unused = [usedProject] := unused.trans rest
  obtain ⟨-, a, -, -, -, attempted, removed, -⟩ :=
    exists_attempt_removed loaded classified (by rw [unused]; nofun)
      (by rw [unused]; exact applied) rfl
  exact ⟨a, attempted, removed⟩

/-- A manifest that is a descriptor in use is not spared: the first run changes the references, and
the second one removes again. -/
theorem run_again_selfSession :
    (selfStore selfSample).cwd.root ≠ .relative ∧ selfSession.log = none ∧
      ∃ r, Detection.loadRegistry (selfStore selfSample) selfSession.settings.conventions
          selfSession.manifest = .ok r ∧
        WellFormed r.text ∧
        ∀ now now', ∃ a b,
          (selfSession.run (selfStore selfSample) now .approveAll false).result = .ok a ∧
            a.outcome.status = .removed ∧
          (selfSession.run (selfSession.run (selfStore selfSample) now .approveAll false).store
            now' .approveAll false).result = .ok b ∧
            b.outcome.status = .removed := by
  obtain ⟨r, a, loaded, text, attempted, removed, shown⟩ := exists_attempt_selfSample
  obtain ⟨b, attempted', removed'⟩ := exists_attempt_selfRest
  have wellFormed : WellFormed r.text := text ▸ wellFormed_selfSample
  have keeps (store : Store) : selfSession.KeepsLog store := ⟨nofun, nofun⟩
  have rewritten : (selfStore selfSample).put selfSession.manifest
      (.contents (Utf8.encode selfRest)) = selfStore selfRest := by
    rfl
  refine ⟨by decide, rfl, r, loaded, wellFormed, fun now now' => ⟨a, b, ?_, removed, ?_, removed'⟩⟩
  · exact (run_eq_ok (keeps _) now attempted).1
  · rw [store_run rfl attempted removed shown, rewritten]
    exact (run_eq_ok (keeps _) now' attempted').1

end Session

end SolutionSweep
