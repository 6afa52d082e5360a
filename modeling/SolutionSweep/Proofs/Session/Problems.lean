import SolutionSweep.Proofs.Manifest.Numerals
import SolutionSweep.Proofs.Session.Convergence

/-!
# Problems are reported

Whatever is wrong with a manifest and with the descriptors that it leads to, a session reports it as
its outcome and changes nothing but its log. Two things are not reported: a numeral of version
control that is too long, and a location that the system refuses to look at. There a session comes
to no outcome at all.

* `Registry.parse_cases`: what the registry of a manifest text comes to;
* `Detection.Defect`: what can be wrong, each with the code that it is reported under;
* `Detection.Barred`: the locations at which a detection is refused;
* `Detection.Ending`, `Detection.ending_run`: the ways in which a detection ends;
* `Session.reports_run`: what a session comes to;
* `Session.reports_run_longSession`: a numeral that stops a session.
-/

namespace SolutionSweep

/-! ### The registry -/

namespace Registry

/-- The lines inside the section of version control, whatever else is written in the manifest. -/
def bookBody (c : Conventions) (lines : List Text) : List Text :=
  (Section.bodyOf (Section.find? (Section.scan lines) c.versionControlSections) lines).map (·.1)

/-- The folders around some project lead into a circle. -/
def NestsInCircle (c : Conventions) (lines : List Text) : Prop :=
  ∃ b ∈ projectBlocks c (Block.scan lines),
    Circles (parentsOf (NestingLine.scan lines (nestingSection? lines)))
      (namesOf (Block.scan lines)) b.id

variable {c : Conventions} {lines : List Text}

/-- The records of version control can be read if the numerals in its section can. -/
theorem exists_versionControlOf_iff :
    (∃ records, versionControlOf c lines = .ok records) ↔ Readable (bookBody c lines) := by
  unfold versionControlOf bookBody
  cases found : Section.find? (Section.scan lines) c.versionControlSections with
  | none => exact ⟨fun _ => ⟨nofun, nofun⟩, fun _ => ⟨none, rfl⟩⟩
  | some s =>
    obtain ⟨inner, base, body, -⟩ := Section.exists_bodyOf_eq (some s) lines
    rw [body, List.zipIdx_map_fst, ← VersionControl.read_isOk_iff body]
    exact exists_map_eq_ok_iff

/-- The numerals inside the section of version control can be read if all can. -/
theorem readable_bookBody (fit : Fit lines) : Readable (bookBody c lines) := by
  obtain ⟨inner, base, body, sub⟩ := Section.exists_bodyOf_eq
    (Section.find? (Section.scan lines) c.versionControlSections) lines
  rw [bookBody, body, List.zipIdx_map_fst]
  exact (fit.of_sublist sub).readable

/-- A block has a name. -/
theorem lookup_namesOf_ne_none {blocks : List Block} {b : Block} (mem : b ∈ blocks) :
    (namesOf blocks).lookup b.id ≠ none := by
  rw [namesOf, lookup_ne_none_iff, mem_map_lastValues, List.map_map]
  exact List.mem_map_of_mem (f := (·.1) ∘ fun b : Block => (b.id, b.name)) mem

/-- There are projects for the blocks unless folders lead into a circle. -/
theorem exists_projects_iff (c : Conventions) (lines : List Text) (cwd directory : Path) :
    (∃ projects, (projectBlocks c (Block.scan lines)).mapM
      (projectOf cwd directory (parentsOf (NestingLine.scan lines (nestingSection? lines)))
        (namesOf (Block.scan lines))) = .ok projects) ↔ ¬ NestsInCircle c lines := by
  rw [exists_mapM_iff, NestsInCircle]
  simp only [not_exists, not_and]
  refine forall₂_congr fun b mem => ?_
  have scanned : b ∈ Block.scan lines :=
    List.mem_of_mem_filter (List.mem_of_find?_eq_some (find?_of_mem_firsts mem))
  rw [← exists_nestedPath_iff (lookup_namesOf_ne_none scanned), projectOf]
  exact exists_map_eq_ok_iff

/-- **What the registry of a manifest text comes to**: it fails at a circle of folders, or else at a
numeral of version control, or there is one. -/
theorem parse_cases (cwd : Path) (c : Conventions) (manifest : Path) (text : Text) :
    (NestsInCircle c (Document.ofText text).lines ∧
      ∃ e, parse cwd c manifest text = .error (.nestingCycle e)) ∨
    (¬ NestsInCircle c (Document.ofText text).lines ∧
      ¬ Readable (bookBody c (Document.ofText text).lines) ∧
      ∃ e, parse cwd c manifest text = .error (.longNumeral e)) ∨
    (¬ NestsInCircle c (Document.ofText text).lines ∧
      Readable (bookBody c (Document.ofText text).lines) ∧
      ∃ r, parse cwd c manifest text = .ok r) := by
  unfold parse
  dsimp only
  generalize (Document.ofText text).lines = lines
  have free := exists_projects_iff c lines cwd manifest.parent
  have readable : (∃ records, versionControlOf c lines = .ok records) ↔ _ :=
    exists_versionControlOf_iff
  cases built : (projectBlocks c (Block.scan lines)).mapM (projectOf cwd manifest.parent
    (parentsOf (NestingLine.scan lines (nestingSection? lines)))
    (namesOf (Block.scan lines))) with
  | error e =>
    rw [built] at free
    refine .inl ⟨?_, e, rfl⟩
    by_contra none
    obtain ⟨-, ⟨⟩⟩ := free.2 none
  | ok projects =>
    rw [built] at free
    replace free := free.1 ⟨projects, rfl⟩
    cases read : versionControlOf c lines with
    | error e =>
      rw [read] at readable
      refine .inr (.inl ⟨free, fun short => ?_, e, rfl⟩)
      obtain ⟨-, ⟨⟩⟩ := readable.2 short
    | ok records =>
      rw [read] at readable
      exact .inr (.inr ⟨free, readable.1 ⟨records, rfl⟩, _, rfl⟩)

end Registry

/-! ### Detection -/

namespace Detection

variable {store : Store} {c : Conventions} {manifest : Path} {r : Registry}

/-- The manifest can be read, and this is its text. -/
def HasText (store : Store) (manifest : Path) (text : Text) : Prop :=
  ∃ bytes, store.get? (Path.resolve store.cwd manifest) = some (.contents bytes) ∧
    Utf8.decode? bytes = some text

/-- What can be wrong with a manifest and the descriptors that it leads to, by the code that it is
reported under: there is no text to be read; the folders around a project lead into a circle; a
project in use has no descriptor that can be read; a project in use refers to itself, perhaps
through others. -/
inductive Defect (store : Store) (c : Conventions) (manifest : Path) : Text → Prop
  | unreadable : store.barrier? (Path.resolve store.cwd manifest) = none →
      (∀ text, ¬ HasText store manifest text) →
      Defect store c manifest "MANIFEST_UNREADABLE".toList
  | nesting {text : Text} : HasText store manifest text →
      Registry.NestsInCircle c (Document.ofText text).lines →
      Defect store c manifest "NESTING_CYCLE".toList
  | incomplete {r : Registry} {p : Project} : loadRegistry store c manifest = .ok r →
      (graphOf store r).InUse p → store.barrier? p.path = none →
      store.descriptor? p.path = none →
      Defect store c manifest "INCOMPLETE_GRAPH".toList
  | circular {r : Registry} {p : Project} : loadRegistry store c manifest = .ok r →
      (graphOf store r).InUse p → Relation.TransGen (graphOf store r).Refers p p →
      Defect store c manifest "REFERENCE_CYCLE".toList

/-- The locations at which a detection is refused: that of the manifest, and those of descriptors
that the walk asks for. -/
inductive Barred (store : Store) (c : Conventions) (manifest : Path) : Denied → Prop
  | manifest {d : Denied} : store.barrier? (Path.resolve store.cwd manifest) = some d →
      Barred store c manifest d
  | descriptor {r : Registry} {p : Project} {d : Denied} : loadRegistry store c manifest = .ok r →
      p ∈ (graphOf store r).traverse.1 → store.barrier? p.path = some d →
      Barred store c manifest d

theorem hasText_iff {text : Text} : HasText store manifest text ↔
    readManifest store (Path.resolve store.cwd manifest) = .ok text := by
  unfold HasText readManifest
  match store.get? (Path.resolve store.cwd manifest) with
  | none => simp
  | some .denied => simp
  | some (.barred why) => simp
  | some (.contents bytes) =>
    cases decoded : Utf8.decode? bytes with
    | none => simp [decoded]
    | some text' => simp [decoded]

/-- A manifest without a text is a problem, unless the system refused to look for it. -/
theorem readManifest_eq_error {e : DetectionError}
    (failed : readManifest store manifest = .error e) :
    (store.barrier? manifest = none ∧ ∃ p, e = .problem (.manifest p)) ∨
      ∃ d, store.barrier? manifest = some d ∧ e = .denied d := by
  unfold readManifest at failed
  unfold Store.barrier?
  match found : store.get? manifest with
  | none =>
    rw [found] at failed
    exact .inl ⟨rfl, _, (Except.error.inj failed).symm⟩
  | some .denied =>
    rw [found] at failed
    exact .inl ⟨rfl, _, (Except.error.inj failed).symm⟩
  | some (.barred why) =>
    rw [found] at failed
    exact .inr ⟨_, rfl, (Except.error.inj failed).symm⟩
  | some (.contents bytes) =>
    rw [found] at failed
    cases decoded : Utf8.decode? bytes with
    | none =>
      simp only [decoded] at failed
      exact .inl ⟨rfl, _, (Except.error.inj failed).symm⟩
    | some text =>
      simp only [decoded] at failed
      cases failed

/-- A manifest has one text. -/
theorem HasText.unique {text text' : Text} (h : HasText store manifest text)
    (h' : HasText store manifest text') : text = text' :=
  Except.ok.inj ((hasText_iff.1 h).symm.trans (hasText_iff.1 h'))

/-- The registry is that of the text. -/
theorem text_of_loadRegistry (loaded : loadRegistry store c manifest = .ok r) :
    HasText store manifest r.text := by
  obtain ⟨text, read, parsed⟩ := loadRegistry_eq_ok_iff.1 loaded
  obtain ⟨-, rfl, -⟩ := Registry.exists_traversal parsed
  exact hasText_iff.2 read

/-- The ways in which drawing up the registry of a manifest in a store ends. -/
inductive RegistryEnding (store : Store) (c : Conventions) (manifest : Path) :
    Except DetectionError Registry → Prop
  | defect {p : DetectionProblem} : Defect store c manifest p.code →
      RegistryEnding store c manifest (.error (.problem p))
  | refused {d : Denied} : store.barrier? (Path.resolve store.cwd manifest) = some d →
      RegistryEnding store c manifest (.error (.denied d))
  | numeral {text : Text} (e : LongNumeral) : HasText store manifest text →
      ¬ Registry.NestsInCircle c (Document.ofText text).lines →
      ¬ Readable (Registry.bookBody c (Document.ofText text).lines) →
      RegistryEnding store c manifest (.error (.longNumeral e))
  | drawn {r : Registry} : HasText store manifest r.text →
      ¬ Registry.NestsInCircle c (Document.ofText r.text).lines →
      Readable (Registry.bookBody c (Document.ofText r.text).lines) →
      RegistryEnding store c manifest (.ok r)

theorem ending_loadRegistry (store : Store) (c : Conventions) (manifest : Path) :
    RegistryEnding store c manifest (loadRegistry store c manifest) := by
  cases read : readManifest store (Path.resolve store.cwd manifest) with
  | error e =>
    have stopped : loadRegistry store c manifest = .error e := by simp [loadRegistry, read]
    rw [stopped]
    rcases readManifest_eq_error read with ⟨clear, p, rfl⟩ | ⟨d, barred, rfl⟩
    · refine .defect (.unreadable clear fun text has => ?_)
      rw [hasText_iff, read] at has
      cases has
    · exact .refused barred
  | ok text =>
    have has : HasText store manifest text := hasText_iff.2 read
    rcases Registry.parse_cases store.cwd c (Path.resolve store.cwd manifest) text with
      ⟨nests, e, parsed⟩ | ⟨free, long, e, parsed⟩ | ⟨free, short, r, parsed⟩
    · have failed : loadRegistry store c manifest = .error (.problem (.nesting e)) := by
        simp [loadRegistry, read, parsed]
      rw [failed]
      exact .defect (.nesting has nests)
    · have stopped : loadRegistry store c manifest = .error (.longNumeral e) := by
        simp [loadRegistry, read, parsed]
      rw [stopped]
      exact .numeral e has free long
    · rw [loadRegistry_eq_ok_iff.2 ⟨text, read, parsed⟩]
      obtain ⟨-, rfl, -⟩ := Registry.exists_traversal parsed
      exact .drawn has free short

/-- The graph of a registry from what the registry says. -/
theorem exists_graphOf {place : Path} {projects : List Project}
    (loaded : (loadRegistry store c manifest).toOption.map (fun r => (r.manifest, r.projects)) =
      some (place, projects)) :
    ∃ r, loadRegistry store c manifest = .ok r ∧
      graphOf store r = ⟨store.cwd, place.parent, projects, store.descriptor?⟩ := by
  cases loaded' : loadRegistry store c manifest with
  | error e =>
    rw [loaded'] at loaded
    cases loaded
  | ok r =>
    rw [loaded'] at loaded
    obtain ⟨⟩ := loaded
    exact ⟨r, rfl, rfl⟩

/-- An error that is justified by the references is a defect, unless the system refused to look for
the descriptor that it calls missing. -/
theorem defect_of_justified (loaded : loadRegistry store c manifest = .ok r) {e : GraphError}
    (justified : (graphOf store r).Justified e)
    (clear : ∀ path entry referencedFrom, e = .missing path entry referencedFrom →
      store.barrier? path = none) :
    Defect store c manifest (DetectionProblem.graph e).code := by
  cases justified with
  | root root missing => exact .incomplete loaded (.root root) (clear _ _ _ rfl) missing
  | target inUse refers missing =>
    exact .incomplete loaded (.step inUse refers) (clear _ _ _ rfl) missing
  | cycle inUse once chain =>
    exact .circular loaded (inUse _ List.mem_cons_self) (ProjectGraph.transGen_of_isChain chain)

/-- What the end of a walk means: a descriptor that the system refused to look for, or a problem. -/
theorem endOf_cases (store : Store) (e : GraphError) :
    (∃ path entry referencedFrom d, e = .missing path entry referencedFrom ∧
      store.barrier? path = some d ∧ endOf store e = .denied d) ∨
    (∀ path entry referencedFrom, e = .missing path entry referencedFrom →
      store.barrier? path = none) ∧ endOf store e = .problem (.graph e) := by
  cases e with
  | cycle chain => exact .inr ⟨nofun, rfl⟩
  | missing path entry referencedFrom =>
    cases barred : store.barrier? path with
    | none =>
      refine .inr ⟨fun path' entry' from' eq => ?_, by simp [endOf, barred]⟩
      cases eq
      exact barred
    | some d => exact .inl ⟨path, entry, referencedFrom, d, rfl, barred, by simp [endOf, barred]⟩

/-- Without a registry, the only defects are those of the manifest. -/
theorem not_defect {text : Text} (has : HasText store manifest text)
    (free : ¬ Registry.NestsInCircle c (Document.ofText text).lines)
    (stopped : ∀ r, loadRegistry store c manifest ≠ .ok r) (code : Text) :
    ¬ Defect store c manifest code := by
  intro defect
  cases defect with
  | unreadable _ none => exact none text has
  | nesting has' nests =>
    cases has.unique has'
    exact free nests
  | incomplete loaded | circular loaded => exact stopped _ loaded

/-- The ways in which a detection ends: with a problem, which is a defect; at a location that it may
not look at; at a numeral that is too long, where there is no defect; or with a classification, and
no defect. -/
inductive Ending (store : Store) (c : Conventions) (manifest : Path) :
    Except DetectionError Detection → Prop
  | defect {p : DetectionProblem} : Defect store c manifest p.code →
      Ending store c manifest (.error (.problem p))
  | refused {d : Denied} : Barred store c manifest d → Ending store c manifest (.error (.denied d))
  | numeral {text : Text} (e : LongNumeral) : (∀ code, ¬ Defect store c manifest code) →
      HasText store manifest text →
      ¬ Readable (Registry.bookBody c (Document.ofText text).lines) →
      Ending store c manifest (.error (.longNumeral e))
  | classified {d : Detection} : (∀ code, ¬ Defect store c manifest code) →
      Ending store c manifest (.ok d)

/-- A walk that comes to its end has met no defect. -/
theorem not_defect_of_traverse (loaded : loadRegistry store c manifest = .ok r)
    {ps : List Project} (traversed : (graphOf store r).traverse = (ps, none)) (code : Text) :
    ¬ Defect store c manifest code := by
  have ending := ending_loadRegistry store c manifest
  rw [loaded] at ending
  obtain ⟨-, -, readable, acyclic⟩ :=
    ProjectGraph.traverse_complete (distinct_graphOf loaded) traversed
  intro defect
  cases ending with
  | drawn own free _ =>
    cases defect with
    | unreadable _ none => exact none _ own
    | nesting has nests =>
      cases has.unique own
      exact free nests
    | incomplete loaded' inUse _ missing =>
      cases loaded.symm.trans loaded'
      have found : (store.descriptor? _).isSome = true := readable _ inUse
      simp [missing] at found
    | circular loaded' inUse circle =>
      cases loaded.symm.trans loaded'
      exact acyclic _ inUse circle

/-- A walk that stops has met a defect, or a location that it may not look at. -/
theorem ending_endOf (loaded : loadRegistry store c manifest = .ok r) {ps : List Project}
    {e : GraphError} (traversed : (graphOf store r).traverse = (ps, some e)) :
    Ending store c manifest (.error (endOf store e)) := by
  obtain ⟨-, -, justified, reports⟩ :=
    ProjectGraph.traverse_justified (distinct_graphOf loaded) traversed
  rcases endOf_cases store e with ⟨path, entry, referencedFrom, d, eq, barred, refused⟩ |
    ⟨clear, problem⟩
  · obtain ⟨p, asked, rfl, -⟩ := (reports path).2 ⟨entry, referencedFrom, eq⟩
    rw [refused]
    exact .refused (.descriptor loaded (by rw [traversed]; exact asked) barred)
  · rw [problem]
    exact .defect (defect_of_justified loaded justified clear)

/-- **Every detection ends in one of these ways.** -/
theorem ending_run (store : Store) (c : Conventions) (manifest : Path) :
    Ending store c manifest (run store c manifest) := by
  cases loaded : loadRegistry store c manifest with
  | error e =>
    have stopped : run store c manifest = .error e := by simp [run, loaded]
    have ending := ending_loadRegistry store c manifest
    rw [loaded] at ending
    rw [stopped]
    cases ending with
    | defect defect => exact .defect defect
    | refused barred => exact .refused (.manifest barred)
    | numeral e has free long => exact .numeral e (not_defect has free (by simp [loaded])) has long
  | ok r =>
    rcases traversed : (graphOf store r).traverse with ⟨ps, _ | e⟩
    · obtain ⟨q, classified, -⟩ := ProjectGraph.exists_reachability traversed
      have detected : run store c manifest = .ok ⟨r, q⟩ := run_eq_ok_iff.2 ⟨loaded, classified⟩
      rw [detected]
      exact .classified (not_defect_of_traverse loaded traversed)
    · have ended : run store c manifest = .error (endOf store e) := by
        simp [run, loaded, ProjectGraph.reachability, traversed]
      rw [ended]
      exact ending_endOf loaded traversed

/-- A detection that meets a problem has met a defect. -/
theorem defect_of_run {p : DetectionProblem}
    (problem : run store c manifest = .error (.problem p)) : Defect store c manifest p.code := by
  have ending := ending_run store c manifest
  rw [problem] at ending
  cases ending with
  | defect defect => exact defect

/-- A detection that comes to a classification has met no defect. -/
theorem not_defect_of_run {d : Detection} (detected : run store c manifest = .ok d) (code : Text) :
    ¬ Defect store c manifest code := by
  have ending := ending_run store c manifest
  rw [detected] at ending
  cases ending with
  | classified sound => exact sound code

/-- A detection that stops at a numeral has met one that is too long. -/
theorem not_readable_of_run {e : LongNumeral}
    (stopped : run store c manifest = .error (.longNumeral e)) :
    ∃ text, HasText store manifest text ∧
      ¬ Readable (Registry.bookBody c (Document.ofText text).lines) := by
  have ending := ending_run store c manifest
  rw [stopped] at ending
  cases ending with
  | numeral _ _ has long => exact ⟨_, has, long⟩

/-- The walk finds no descriptor at a location that is not looked at. -/
theorem read_graphOf_of_barrier? (r : Registry) {path : Path} {d : Denied}
    (barred : store.barrier? path = some d) : (graphOf store r).read path = none :=
  Store.descriptor?_of_barrier? barred

/-- **A detection is refused exactly at the locations that it may not look at.** -/
theorem run_eq_denied_iff {d : Denied} :
    run store c manifest = .error (.denied d) ↔ Barred store c manifest d := by
  constructor
  · intro refused
    have ending := ending_run store c manifest
    rw [refused] at ending
    cases ending with
    | refused barred => exact barred
  · intro barred
    cases barred with
    | manifest barred =>
      obtain ⟨path, why⟩ := d
      obtain ⟨found, rfl⟩ := Store.barrier?_eq_some_iff.1 barred
      simp [run, loadRegistry, readManifest, found]
    | @descriptor r p _ loaded asked barred =>
      have distinct := distinct_graphOf loaded
      have unread := read_graphOf_of_barrier? r barred
      rcases traversed : (graphOf store r).traverse with ⟨ps, _ | e⟩
      · rw [traversed] at asked
        obtain ⟨-, mem, readable, -⟩ := ProjectGraph.traverse_complete distinct traversed
        have found := readable p ((mem p).1 asked)
        simp [unread] at found
      · rw [traversed] at asked
        obtain ⟨-, -, -, reports⟩ := ProjectGraph.traverse_justified distinct traversed
        obtain ⟨entry, referencedFrom, rfl⟩ := (reports p.path).1 ⟨p, asked, rfl, unread⟩
        simp [run, loaded, ProjectGraph.reachability, traversed, endOf, barred]

/-- A numeral in the section of version control that is too long stops a detection. -/
theorem exists_run_eq_longNumeral {text : Text} (has : HasText store manifest text)
    (free : ¬ Registry.NestsInCircle c (Document.ofText text).lines)
    (long : ¬ Readable (Registry.bookBody c (Document.ofText text).lines)) :
    ∃ e, run store c manifest = .error (.longNumeral e) := by
  have ending := ending_loadRegistry store c manifest
  cases drawn : loadRegistry store c manifest with
  | error e =>
    rw [drawn] at ending
    cases ending with
    | defect defect => exact absurd defect (not_defect has free (by simp [drawn]) _)
    | refused barred =>
      obtain ⟨bytes, found, -⟩ := has
      cases found.symm.trans (Store.barrier?_eq_some_iff.1 barred).1
    | numeral e => exact ⟨e, by simp [run, drawn]⟩
  | ok r =>
    rw [drawn] at ending
    cases ending with
    | drawn own _ short =>
      cases has.unique own
      exact absurd short long

end Detection

/-! ### Sessions -/

namespace Session

variable {s : Session} {store : Store} {select : Selector} {dryRun : Bool} {a : Attempt}

/-- What can be wrong with the manifest of a session and the descriptors that it leads to. -/
def Defect (s : Session) (store : Store) (code : Text) : Prop :=
  Detection.Defect store s.settings.conventions s.manifest code

/-- The numerals of version control can be read, wherever they stand in the manifest. -/
def NumeralsFit (s : Session) (store : Store) : Prop :=
  ∀ text, Detection.HasText store s.manifest text → Fit (Document.ofText text).lines

/-- An outcome of a session tells whether anything is wrong: then the session has failed, with the
code of something that is wrong, and everything but the log is as it was, so the manifest is. -/
structure Reports (s : Session) (before after : Store) (o : Outcome) : Prop where
  failed_iff : o.status = .failed ↔ ∃ code, s.Defect before code
  code : o.status = .failed → ∃ code, o.errorCode = some code ∧ s.Defect before code
  unchanged : o.status = .failed → ∀ path,
    (∀ log, s.log = some log → Store.locate before.cwd log ≠ Store.locate before.cwd path) →
      after.get? path = before.get? path

/-- A location at which the session is refused. -/
def Barred (s : Session) (store : Store) (d : Denied) : Prop :=
  Detection.Barred store s.settings.conventions s.manifest d

/-- A session that comes to an outcome fails at defects, and at nothing else. -/
theorem attempt_failed_iff (attempted : s.attempt store select dryRun = .ok a) :
    a.outcome.status = .failed ↔ ∃ code, s.Defect store code := by
  constructor
  · intro failed
    obtain ⟨p, problem, -⟩ := attempt_failed attempted failed
    exact ⟨p.code, Detection.defect_of_run problem⟩
  · rintro ⟨code, defect⟩
    have ending := ending_attempt s store select dryRun
    rw [attempted] at ending
    cases ending with
    | problem => rfl
    | settled detected | carried detected =>
      exact absurd defect (Detection.not_defect_of_run detected code)

/-- The code under which a session fails is that of a defect. -/
theorem exists_errorCode (attempted : s.attempt store select dryRun = .ok a)
    (failed : a.outcome.status = .failed) :
    ∃ code, a.outcome.errorCode = some code ∧ s.Defect store code := by
  obtain ⟨p, problem, rfl⟩ := attempt_failed attempted failed
  exact ⟨p.code, rfl, Detection.defect_of_run problem⟩

/-- A session stops only at a numeral that is too long, or where it is refused. -/
theorem attempt_error_cases {e : RunError} (stopped : s.attempt store select dryRun = .error e) :
    (∃ n, e = .longNumeral n ∧ ¬ s.NumeralsFit store) ∨ ∃ d, e = .denied d ∧ s.Barred store d := by
  have ending := ending_attempt s store select dryRun
  rw [stopped] at ending
  cases ending with
  | refused refused => exact .inr ⟨_, rfl, Detection.run_eq_denied_iff.1 refused⟩
  | numeral long =>
    obtain ⟨text, has, unreadable⟩ := Detection.not_readable_of_run long
    exact .inl ⟨_, rfl, fun fit => unreadable (Registry.readable_bookBody (fit text has))⟩
  | stopped detected failed =>
    have has := Detection.text_of_loadRegistry (Detection.run_eq_ok_iff.1 detected).1
    refine .inl ⟨_, rfl, fun fit => ?_⟩
    obtain ⟨removal, applied⟩ := Removal.exists_apply s.settings.conventions (fit _ has) _
      s.settings.pruneFolders
    cases (carryOut_eq_error failed).symm.trans applied

/-- In a store without barriers a session is refused nowhere. -/
theorem not_barred_of_files (clear : ∀ f ∈ store.files, ∀ why, f.2 ≠ .barred why) (d : Denied) :
    ¬ s.Barred store d := by
  intro barred
  cases barred with
  | manifest barred | descriptor _ _ barred =>
    cases (Store.barrier?_eq_none clear _).symm.trans barred

/-- A session comes to an outcome if all numerals can be read and it is refused nowhere. -/
theorem exists_attempt (fit : s.NumeralsFit store) (clear : ∀ d, ¬ s.Barred store d)
    (select : Selector) (dryRun : Bool) : ∃ a, s.attempt store select dryRun = .ok a := by
  cases attempted : s.attempt store select dryRun with
  | ok a => exact ⟨a, rfl⟩
  | error e =>
    rcases attempt_error_cases attempted with ⟨n, -, long⟩ | ⟨d, -, barred⟩
    · exact absurd fit long
    · exact absurd barred (clear d)

/-- A session stops at a location where it is refused. -/
theorem attempt_of_barred {d : Denied} (barred : s.Barred store d) (select : Selector)
    (dryRun : Bool) : s.attempt store select dryRun = .error (.denied d) := by
  simp [attempt, Detection.run_eq_denied_iff.2 barred]

/-- A numeral in the section of version control that is too long stops a session. -/
theorem exists_run_eq_longNumeral {text : Text} (has : Detection.HasText store s.manifest text)
    (free : ¬ Registry.NestsInCircle s.settings.conventions (Document.ofText text).lines)
    (long : ¬ Readable (Registry.bookBody s.settings.conventions (Document.ofText text).lines))
    (now : Instant) (select : Selector) (dryRun : Bool) :
    ∃ e, s.run store now select dryRun = ⟨store, .error (.longNumeral e)⟩ := by
  obtain ⟨e, stopped⟩ := Detection.exists_run_eq_longNumeral has free long
  exact ⟨e, run_eq_error now (by simp [attempt, stopped])⟩

/-- **Problems are reported.** Let the log of a session, if one is kept, be open. If all numerals of
version control in the manifest can be read and the system refuses to look neither for the manifest
nor for a descriptor that is asked for, then the session comes to an outcome. An outcome is a
failure exactly if something is wrong with the manifest or the descriptors that it leads to; then it
has the code of something that is wrong, and everything but the log is as it was. Without an outcome
nothing has changed, and a numeral is too long or the system has refused a location. Where it
refuses one there is no outcome, and neither is there one where the numerals in the section of
version control are too long and there is no circle of folders. -/
theorem reports_run (appendable : ∀ log, s.log = some log → store.isOpen log = true)
    (now : Instant) (select : Selector) (dryRun : Bool) :
    let r := s.run store now select dryRun
    (s.NumeralsFit store → (∀ d, ¬ s.Barred store d) → ∃ a, r.result = .ok a) ∧
    (∀ a, r.result = .ok a → s.Reports store r.store a.outcome) ∧
    (∀ e, r.result = .error e → r.store = store ∧
      ((∃ n, e = .longNumeral n ∧ ¬ s.NumeralsFit store) ∨
        ∃ d, e = .denied d ∧ s.Barred store d)) ∧
    (∀ d, s.Barred store d → r.result = .error (.denied d)) ∧
    ∀ text, Detection.HasText store s.manifest text →
      ¬ Registry.NestsInCircle s.settings.conventions (Document.ofText text).lines →
      ¬ Readable (Registry.bookBody s.settings.conventions (Document.ofText text).lines) →
      ∃ n, r.result = .error (.longNumeral n) := by
  intro r
  refine ⟨fun fit clear => ?_, fun a ok => ?_, fun e failed => ?_, fun d barred => ?_,
    fun text has free long => ?_⟩
  · obtain ⟨a, attempted⟩ := exists_attempt fit clear select dryRun
    exact ⟨a, result_run appendable now attempted⟩
  · have attempted := attempt_of_run ok
    constructor
    case failed_iff => exact attempt_failed_iff attempted
    case code => exact exists_errorCode attempted
    case unchanged =>
      intro failed path apart
      by_contra changed
      obtain ⟨a', attempted', removed⟩ := removed_of_changed apart changed
      cases attempted.symm.trans attempted'
      cases failed.symm.trans removed
  · cases attempted : s.attempt store select dryRun with
    | error e' =>
      have eq : r = ⟨store, .error e'⟩ := run_eq_error now attempted
      rw [eq] at failed ⊢
      cases failed
      exact ⟨rfl, attempt_error_cases attempted⟩
    | ok a =>
      cases failed.symm.trans (result_run appendable now attempted)
  · exact congrArg RunResult.result (run_eq_error now (attempt_of_barred barred select dryRun))
  · obtain ⟨n, eq⟩ := exists_run_eq_longNumeral has free long now select dryRun
    exact ⟨n, congrArg RunResult.result eq⟩

/-! ### A descriptor that is missing -/

/-- The store of the sample without the descriptor of the project in use. -/
def bareStore : Store := sampleStore "W.sln".toList orphanSample []

theorem hasText_bareStore : Detection.HasText bareStore orphanSession.manifest orphanSample :=
  ⟨Utf8.encode orphanSample, by decide +kernel, Utf8.decode?_encode _⟩

theorem numeralsFit_bareStore : orphanSession.NumeralsFit bareStore := by
  intro text has
  cases has.unique hasText_bareStore
  have none : ∀ l ∈ (Document.ofText orphanSample).lines,
      Line.indexed? l = none ∧ Line.count? l = none := by
    decide +kernel
  exact fun l mem => ⟨by simp [none l mem], by simp [none l mem]⟩

theorem not_barred_bareStore (d : Denied) : ¬ orphanSession.Barred bareStore d :=
  not_barred_of_files (by simp [bareStore, sampleStore]) d

theorem defect_bareStore : orphanSession.Defect bareStore "INCOMPLETE_GRAPH".toList := by
  have found : (Detection.loadRegistry bareStore orphanSession.settings.conventions
      orphanSession.manifest).toOption.map (fun r => (r.manifest, r.projects)) =
        some (orphanSession.manifest, [rootProject, orphanProject]) := by
    decide +kernel
  obtain ⟨r, loaded, graph⟩ := Detection.exists_graphOf found
  have roots : (Detection.graphOf bareStore r).roots = [rootProject] := by
    rw [graph]
    decide +kernel
  have isRoot : rootProject ∈ (Detection.graphOf bareStore r).roots := by simp [roots]
  exact .incomplete loaded (.root isRoot) (by decide +kernel) (by decide +kernel)

/-- A name that is too long for a file. -/
def longName : Text := List.replicate 256 'A' ++ ".csproj".toList

/-- A manifest that registers a project of this name in its directory. -/
def longNameSample : Text := blocksSample [registrationLines "A".toList longName rootId []]

/-- The project of this name. -/
def longNameProject : Project :=
  ⟨rootId, "A".toList, longName, ⟨.single, ["s".toList, longName]⟩, []⟩

/-- A store with this manifest, in which the system refuses to look for the long name. -/
def longNameStore : Store :=
  (sampleStore "W.sln".toList longNameSample []).put longNameProject.path (.barred .longName)

/-- The store is asked for the long name. -/
theorem barred_longNameStore :
    orphanSession.Barred longNameStore ⟨longNameProject.path, .longName⟩ := by
  have found : (Detection.loadRegistry longNameStore orphanSession.settings.conventions
      orphanSession.manifest).toOption.map (fun r => (r.manifest, r.projects)) =
        some (orphanSession.manifest, [longNameProject]) := by
    decide +kernel
  obtain ⟨r, loaded, graph⟩ := Detection.exists_graphOf found
  have roots : (Detection.graphOf longNameStore r).roots = [longNameProject] := by
    rw [graph]
    decide +kernel
  have barred : longNameStore.barrier? longNameProject.path =
      some ⟨longNameProject.path, .longName⟩ := by
    decide +kernel
  have unread := Detection.read_graphOf_of_barrier? r barred
  have asked : longNameProject ∈ (Detection.graphOf longNameStore r).traverse.1 := by
    rw [ProjectGraph.traverse_of_missing roots unread]
    exact List.mem_singleton_self _
  exact .descriptor loaded asked barred

/-- The session for the sample reports that a descriptor is missing. Where the system refuses to
look for a descriptor, the session comes to no outcome. -/
theorem reports_run_bareStore :
    (∀ log, orphanSession.log = some log → bareStore.isOpen log = true) ∧
      (∀ log, orphanSession.log = some log → longNameStore.isOpen log = true) ∧
      orphanSession.NumeralsFit bareStore ∧ (∀ d, ¬ orphanSession.Barred bareStore d) ∧
      ∀ now,
        (∃ a, (orphanSession.run bareStore now .approveAll false).result = .ok a ∧
          a.outcome.status = .failed ∧
          orphanSession.Reports bareStore (orphanSession.run bareStore now .approveAll false).store
            a.outcome) ∧
        (orphanSession.run longNameStore now .approveAll false).result =
          .error (.denied ⟨longNameProject.path, .longName⟩) := by
  have keeps : orphanSession.KeepsLog bareStore := by decide +kernel
  have keeps' : orphanSession.KeepsLog longNameStore := by decide +kernel
  refine ⟨keeps.appendable, keeps'.appendable, numeralsFit_bareStore, not_barred_bareStore,
    fun now => ⟨?_, ?_⟩⟩
  · obtain ⟨ends, reports, -⟩ := reports_run keeps.appendable now .approveAll false
    obtain ⟨a, ok⟩ := ends numeralsFit_bareStore not_barred_bareStore
    exact ⟨a, ok, (reports a ok).failed_iff.2 ⟨_, defect_bareStore⟩, reports a ok⟩
  · obtain ⟨-, -, -, refused, -⟩ := reports_run keeps'.appendable now .approveAll false
    exact refused _ barred_longNameStore

/-! ### A numeral that is too long -/

/-- A line of version control with an index of one digit too many. -/
def longLine : Text :=
  "SccLocalPath".toList ++ List.replicate (maxDigits + 1) '1' ++ " = x".toList

/-- The lines of a manifest with this line. -/
def longLines : List Text :=
  ["Global".toList, "GlobalSection(SourceCodeControl) = preSolution".toList, longLine,
    "EndGlobalSection".toList, "EndGlobal".toList]

/-- The manifest with these lines. -/
def longSample : Text := (Document.mk longLines .lineFeed false false).render

/-- A store with this manifest. -/
def longStore : Store := sampleStore "W.sln".toList longSample []

/-- A session for this manifest that keeps no log. -/
def longSession : Session := sampleSession "W.sln".toList none

theorem mem_longLine {ch : Char} (mem : ch ∈ longLine) :
    ch ∈ "SccLocalPath".toList ∨ ch = '1' ∨ ch ∈ " = x".toList := by
  rcases List.mem_append.1 mem with mem | mem
  · exact (List.mem_append.1 mem).imp_right fun mem => .inl (List.eq_of_mem_replicate mem)
  · exact .inr (.inr mem)

theorem isPlain_longLine : Document.IsPlain longLine := by
  have head : longLine.head? = some 'S' := rfl
  refine ⟨⟨fun mem => ?_, fun mem => ?_⟩, fun empty => ?_, ?_⟩
  · exact absurd (mem_longLine mem) (by decide)
  · exact absurd (mem_longLine mem) (by decide)
  · rw [empty] at head
    cases head
  · rw [head]
    decide

theorem lines_longSample : (Document.ofText longSample).lines = longLines := by
  refine Document.lines_ofText_render fun l mem => ?_
  simp only [longLines, List.mem_cons, List.not_mem_nil, or_false] at mem
  rcases mem with rfl | rfl | rfl | rfl | rfl
  case inr.inr.inl => exact isPlain_longLine
  all_goals exact ⟨⟨by decide +kernel, by decide +kernel⟩, by decide +kernel, by decide +kernel⟩

theorem bookBody_longLines : Registry.bookBody .standard longLines = [longLine] := by
  have found : Section.find? (Section.scan longLines) Conventions.standard.versionControlSections =
      some ⟨"SourceCodeControl".toList, "preSolution".toList, ⟨1, 3⟩⟩ := by
    decide +kernel
  rw [Registry.bookBody, found]
  rfl

theorem not_readable_longLine : ¬ Readable [longLine] := by
  intro readable
  have digits : (indexedLines [longLine]).map (·.digits.length) = [maxDigits + 1] := by
    decide +kernel
  obtain ⟨x, mem, length⟩ : ∃ x ∈ indexedLines [longLine], x.digits.length = maxDigits + 1 :=
    List.mem_map.1 (digits ▸ List.mem_singleton.2 rfl)
  have short := readable.indexed x mem
  rw [Line.IndexedLine.Short, length] at short
  omega

/-- The session for this manifest comes to no outcome. -/
theorem reports_run_longSession : longSession.log = none ∧ ∀ now, ∃ n,
    (longSession.run longStore now .approveAll false).result = .error (.longNumeral n) := by
  refine ⟨rfl, fun now => ?_⟩
  have has : Detection.HasText longStore longSession.manifest longSample :=
    ⟨Utf8.encode longSample, rfl, Utf8.decode?_encode _⟩
  have conventions : longSession.settings.conventions = .standard := rfl
  have free : ¬ Registry.NestsInCircle .standard (Document.ofText longSample).lines := by
    have none : Registry.projectBlocks .standard (Block.scan longLines) = [] := by decide +kernel
    rw [lines_longSample]
    rintro ⟨b, mem, -⟩
    rw [none] at mem
    cases mem
  have long : ¬ Readable (Registry.bookBody .standard (Document.ofText longSample).lines) := by
    rw [lines_longSample, bookBody_longLines]
    exact not_readable_longLine
  rw [← conventions] at free long
  obtain ⟨n, eq⟩ := exists_run_eq_longNumeral has free long now .approveAll false
  exact ⟨n, congrArg RunResult.result eq⟩

end Session

end SolutionSweep
