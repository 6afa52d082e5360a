import SolutionSweep.Proofs.Session.Problems
import SolutionSweep.Proofs.Text.Case

/-!
# What is named is kept

A project to keep is named by its identifier in any spelling, or by its name. The selector reads an
identifier in a simpler way than the manifest does, and compares a name that it has stripped with
one that it has not. It misses an identifier with white space inside its braces, and a name with
white space around it; otherwise it keeps what is named.

* `Selector.Names`, `Selector.NamesPlainly`: what names a project, and what the selector takes for
  it;
* `Selector.keepEach_eq`: what becomes of the candidates, and what has been kept;
* `Selector.keeping_spares`: the candidates that are kept, and what a session does with them;
* `Selector.keeping_spares_missed`: names that are not taken for such.
-/

namespace SolutionSweep

/-! ### Spellings of identifiers and names -/

/-- The braces around an item enclose no white space. -/
def Tight (item : Text) : Prop :=
  Text.strip (Text.trim isBrace (Text.strip item)) = Text.trim isBrace (Text.strip item)

instance (item : Text) : Decidable (Tight item) := inferInstanceAs (Decidable (_ = _))

theorem canonicalId_eq_strip_keptId (item : Text) : canonicalId item = Text.strip (keptId item) :=
  (Text.strip_upper _).symm

/-- What an item may stand for begins or ends with white space exactly if the item has some inside
of its braces. -/
theorem strip_keptId_iff {item : Text} : Text.strip (keptId item) = keptId item ↔ Tight item := by
  constructor
  · exact keepsWhite_upperChar.bare_of_flatMap
  · intro tight
    rw [keptId, Text.strip_upper, tight]

/-- **The two ways to read an identifier.** Without white space inside of the braces they come to
the same. -/
theorem keptId_of_tight {item : Text} (tight : Tight item) : keptId item = canonicalId item := by
  rw [canonicalId_eq_strip_keptId, strip_keptId_iff.2 tight]

/-- Which items the selector takes for an identifier. -/
theorem keptId_eq_iff {item : Text} {id : EntryId} (bare : Text.strip id = id) :
    keptId item = id ↔ Tight item ∧ canonicalId item = id := by
  constructor
  · rintro rfl
    have tight := strip_keptId_iff.1 bare
    exact ⟨tight, (keptId_of_tight tight).symm⟩
  · rintro ⟨tight, rfl⟩
    exact keptId_of_tight tight

/-- Which items the selector takes for a name: none if the name is not stripped itself. -/
theorem fold_strip_eq_fold_iff {item name : Text} :
    (Text.strip item).fold = name.fold ↔
      Text.strip name = name ∧ (Text.strip item).fold = (Text.strip name).fold := by
  constructor
  · intro same
    have bare : Text.strip name.fold = name.fold := by
      rw [← same, Text.strip_fold, Text.strip, Text.strip, Text.trim_trim]
    have bare : Text.strip name = name := keepsWhite_foldChar.bare_of_flatMap bare
    exact ⟨bare, by rw [bare, same]⟩
  · rintro ⟨bare, same⟩
    rw [same, bare]

namespace Selector

/-- An item names a project: it spells its identifier or, apart from letter case and the white space
around it, its name. -/
def Names (item : Text) (p : Project) : Prop :=
  canonicalId item = p.id ∨ (Text.strip item).fold = (Text.strip p.name).fold

instance (item : Text) (p : Project) : Decidable (Names item p) :=
  inferInstanceAs (Decidable (_ ∨ _))

/-- An item names a project, without white space inside the braces of an identifier or around the
name of the project. -/
def NamesPlainly (item : Text) (p : Project) : Prop :=
  Tight item ∧ canonicalId item = p.id ∨
    Text.strip p.name = p.name ∧ (Text.strip item).fold = (Text.strip p.name).fold

instance (item : Text) (p : Project) : Decidable (NamesPlainly item p) :=
  inferInstanceAs (Decidable (_ ∨ _))

variable {keep : List Text} {p : Project}

theorem names_iff : names keep p = true ↔
    ∃ item ∈ keep, keptId item = p.id ∨ (Text.strip item).fold = p.name.fold := by
  simp only [names, Bool.or_eq_true, List.contains_iff_mem, List.mem_map, ← exists_or,
    ← and_or_left]

/-- A project with a stripped identifier is named if an item names it plainly. -/
theorem names_iff_namesPlainly (bare : Text.strip p.id = p.id) :
    names keep p = true ↔ ∃ item ∈ keep, NamesPlainly item p := by
  rw [names_iff]
  refine exists_congr fun item => and_congr_right fun _ => ?_
  rw [keptId_eq_iff bare, fold_strip_eq_fold_iff, NamesPlainly]

/-- Among tight items, a project with a stripped name is named if an item names it. -/
theorem names_iff_names (tight : ∀ item ∈ keep, Tight item) (bare : Text.strip p.name = p.name) :
    names keep p = true ↔ ∃ item ∈ keep, Names item p := by
  rw [names_iff]
  refine exists_congr fun item => and_congr_right fun mem => ?_
  rw [Names, keptId_of_tight (tight item mem), bare]

/-! ### The candidates -/

/-- What becomes of a candidate. -/
def spare (keep : List Text) (c : Candidate) : Candidate :=
  if names keep c.project then { c with remove := false } else c

/-- Without projects to keep, no mark is lost. -/
@[simp] theorem spare_nil : spare [] = id := by
  funext c
  simp [spare, names]

/-- **What becomes of the candidates, and what has been kept.** Each candidate loses its mark if it
is named, and then its identifier is added. -/
theorem keepEach_eq (keep : List Text) (kept : List EntryId) (candidates : List Candidate) :
    keepEach keep kept candidates = (candidates.map (spare keep),
      kept ++ (candidates.filter fun c => names keep c.project).map (·.project.id)) := by
  induction candidates generalizing kept with
  | nil => simp [keepEach]
  | cons c rest ih =>
    cases named : names keep c.project with
    | true => simp [keepEach, spare, named, ih]
    | false => simp [keepEach, spare, named, ih]

theorem candidates_keeping (keep : List Text) (confirm : List Candidate → Bool)
    (projects : List Project) :
    (keeping keep confirm (candidatesOf projects)).candidates =
      projects.map fun p => ⟨p, !names keep p⟩ := by
  simp only [keeping, keepEach_eq, candidatesOf, List.map_map]
  refine List.map_congr_left fun p _ => ?_
  cases named : names keep p <;> simp [spare, named]

theorem approved_keeping (keep : List Text) (confirm : List Candidate → Bool)
    (projects : List Project) :
    (keeping keep confirm (candidatesOf projects)).approved =
      projects.filter fun p => !names keep p := by
  simp [Selection.approved, candidates_keeping, List.filter_map, Function.comp_def]

theorem kept_keeping (keep : List Text) (confirm : List Candidate → Bool)
    (projects : List Project) :
    (keeping keep confirm (candidatesOf projects)).kept =
      (projects.filter fun p => names keep p).map (·.id) := by
  simp [Selection.kept, candidates_keeping, List.filter_map, Function.comp_def]

end Selector

/-! ### What is taken out -/

namespace Session

variable {s : Session} {store : Store} {dryRun : Bool} {a : Attempt}

/-- **What is named stays.** A session does not remove an unused project that the list of projects
to keep names, and it prunes nothing under its identifier unless a folder bears it too. -/
theorem spares_named {keep : List Text} {confirm : List Candidate → Bool}
    (attempted : s.attempt store (.keeping keep confirm) dryRun = .ok a) {d : Detection}
    (detected : Detection.run store s.settings.conventions s.manifest = .ok d) {p : Project}
    (mem : p ∈ d.reachability.unused) (named : names keep p = true) :
    (∀ e ∈ a.outcome.removed, e.id ≠ p.id) ∧
    ∀ e ∈ a.outcome.prunedFolders, e.id = p.id →
      ∃ x ∈ registered (Document.ofText d.registry.text).lines, x.id = p.id ∧ x.isProject = false := by
  obtain ⟨removed, pruned⟩ | ⟨d', r, detected', applied, removed, pruned⟩ :=
    taken_of_attempt attempted
  · rw [removed, pruned]
    exact ⟨nofun, nofun⟩
  cases detected.symm.trans detected'
  obtain ⟨loaded, classified⟩ := Detection.run_eq_ok_iff.1 detected
  obtain ⟨text, -, parsed⟩ := Detection.loadRegistry_eq_ok_iff.1 loaded
  obtain ⟨-, rfl, -⟩ := Registry.exists_traversal parsed
  have distinct := Detection.distinct_graphOf loaded
  have registers {q : Project} (unused : q ∈ d.reachability.unused) : q ∈ d.registry.projects :=
    ((ProjectGraph.mem_unused_iff distinct classified).1 unused).1
  rw [Selector.approved_keeping] at applied
  -- Of two projects with the same identifier, not one is named and the other approved.
  have apart : p.id ∉ (d.reachability.unused.filter fun q => !names keep q).map (·.id) := by
    intro chosen
    obtain ⟨q, hq, same⟩ := List.mem_map.1 chosen
    obtain ⟨unused, unnamed⟩ := List.mem_filter.1 hq
    obtain rfl : q = p := distinct.eq_of_id (registers unused) (registers mem) same
    rw [named] at unnamed
    cases unnamed
  obtain ⟨chosen, folders⟩ := Removal.ids_of_apply applied fun t ht => by
    obtain ⟨q, hq, rfl⟩ := List.mem_map.1 ht
    exact Registry.canonicalId_of_mem_projects parsed (registers (List.mem_of_mem_filter hq))
  rw [removed, pruned]
  refine ⟨fun e he same => apart (same ▸ chosen e he), fun e he same => ?_⟩
  rw [← same]
  exact folders e he

end Session

namespace Selector

/-- **What is named is kept.** Let all candidates be marked at first. They stay what they are, and a
candidate with a stripped identifier loses its mark exactly if an item names it without white space
inside the braces of the identifier or around the name. So if no item has white space inside its
braces and the name of a candidate has none around it, the candidate loses its mark exactly if an
item names it. What has been kept grows by the identifiers of the candidates without a mark. A
session does not remove an unused project that is named like this, nor does it prune anything under
its identifier, unless a folder bears it too. -/
theorem keeping_spares (keep : List Text) (confirm : List Candidate → Bool) :
    (∀ projects,
      let selection := keeping keep confirm (candidatesOf projects)
      selection.candidates.map (·.project) = projects ∧
      (∀ c ∈ selection.candidates, Text.strip c.project.id = c.project.id →
        (c.remove = false ↔ ∃ item ∈ keep, NamesPlainly item c.project)) ∧
      (∀ c ∈ selection.candidates, (∀ item ∈ keep, Tight item) →
        Text.strip c.project.name = c.project.name →
        (c.remove = false ↔ ∃ item ∈ keep, Names item c.project)) ∧
      ∀ kept, keepEach keep kept (candidatesOf projects) =
        (selection.candidates, kept ++ selection.kept)) ∧
    ∀ (s : Session) (store : Store) (dryRun : Bool) (a : Attempt) (d : Detection),
      s.attempt store (keeping keep confirm) dryRun = .ok a →
      Detection.run store s.settings.conventions s.manifest = .ok d →
      ∀ p ∈ d.reachability.unused, (∃ item ∈ keep, NamesPlainly item p) →
        (∀ e ∈ a.outcome.removed, e.id ≠ p.id) ∧
        ∀ e ∈ a.outcome.prunedFolders, e.id = p.id →
          ∃ x ∈ registered (Document.ofText d.registry.text).lines,
            x.id = p.id ∧ x.isProject = false := by
  refine ⟨fun projects => ?_, fun s store dryRun a d attempted detected p mem named => ?_⟩
  · intro selection
    have mark : ∀ c ∈ selection.candidates, c.remove = false ↔ names keep c.project = true := by
      intro c mem
      rw [candidates_keeping] at mem
      obtain ⟨p, -, rfl⟩ := List.mem_map.1 mem
      rw [Bool.not_eq_false']
    refine ⟨?_, fun c mem bare => ?_, fun c mem tight bare => ?_, fun kept => ?_⟩
    · rw [candidates_keeping, List.map_map]
      exact List.map_id' projects
    · rw [mark c mem, names_iff_namesPlainly bare]
    · rw [mark c mem, names_iff_names tight bare]
    · refine Prod.ext ?_ ?_
      · change _ = (keepEach keep [] (candidatesOf projects)).1
        rw [keepEach_eq, keepEach_eq]
      · rw [keepEach_eq, kept_keeping]
        simp [candidatesOf, List.filter_map, Function.comp_def]
  · refine Session.spares_named attempted detected mem ?_
    obtain ⟨item, given, ⟨tight, spelled⟩ | ⟨bare, alike⟩⟩ := named
    · exact names_iff.2 ⟨item, given, .inl ((keptId_of_tight tight).trans spelled)⟩
    · exact names_iff.2 ⟨item, given, .inr (fold_strip_eq_fold_iff.2 ⟨bare, alike⟩)⟩

open Session (orphanProject orphanSample orphanSession orphanStore)

/-- The project of the sample is kept by its name in another case. -/
theorem keeping_spares_orphanSession (confirm : List Candidate → Bool) : ∃ d a,
    Detection.run orphanStore orphanSession.settings.conventions orphanSession.manifest = .ok d ∧
      orphanProject ∈ d.reachability.unused ∧
      orphanSession.attempt orphanStore (keeping ["b".toList] confirm) false = .ok a ∧
      (∀ c ∈ (keeping ["b".toList] confirm (candidatesOf [orphanProject])).candidates,
        c.remove = false) ∧
      ∀ e ∈ a.outcome.removed, e.id ≠ orphanProject.id := by
  obtain ⟨q, classified, -, unused⟩ := Session.exists_reachability_orphanGraph
  obtain ⟨r, detected, -⟩ := Detection.exists_run Session.evaluated_orphanSample.1 classified
  have mem : orphanProject ∈ q.unused := unused ▸ List.mem_cons_self
  have has : Detection.HasText orphanStore orphanSession.manifest orphanSample :=
    ⟨Utf8.encode orphanSample, by decide +kernel, Utf8.decode?_encode _⟩
  have fit : orphanSession.NumeralsFit orphanStore := by
    intro text has'
    cases has'.unique has
    exact Session.numeralsFit_bareStore _ Session.hasText_bareStore
  have clear (d : Denied) : ¬ orphanSession.Barred orphanStore d :=
    Session.not_barred_of_files (by simp [orphanStore, Session.sampleStore]) d
  obtain ⟨a, attempted⟩ := Session.exists_attempt fit clear (keeping ["b".toList] confirm) false
  obtain ⟨bare, plain⟩ : Text.strip orphanProject.id = orphanProject.id ∧
      NamesPlainly "b".toList orphanProject := by decide +kernel
  obtain ⟨candidates, sessions⟩ := keeping_spares ["b".toList] confirm
  obtain ⟨same, marks, -⟩ := candidates [orphanProject]
  refine ⟨⟨r, q⟩, a, detected, mem, attempted, fun c hc => ?_,
    (sessions _ _ _ a _ attempted detected _ mem ⟨_, List.mem_singleton_self _, plain⟩).1⟩
  have project : c.project = orphanProject :=
    List.mem_singleton.1 (same ▸ List.mem_map_of_mem hc)
  exact (marks c hc (project ▸ bare)).2 ⟨_, List.mem_singleton_self _, project ▸ plain⟩

/-- An identifier with white space inside of its braces. -/
def looseItem (id : EntryId) : Text := "\x7b ".toList ++ id ++ " \x7d".toList

/-- The unused project of the sample, with white space around its name. -/
def spacedProject : Project := { orphanProject with name := " B ".toList }

/-- Not everything is kept that is named. The identifier of a project does not keep it if there is
white space inside of the braces, though it is spelled correctly, and the name of a project does not
keep it, as it stands, if there is white space around it. -/
theorem keeping_spares_missed :
    Names (looseItem orphanProject.id) orphanProject ∧
    (keeping [looseItem orphanProject.id] (fun _ => true) (candidatesOf [orphanProject])).approved =
      [orphanProject] ∧
    Names spacedProject.name spacedProject ∧
    (keeping [spacedProject.name] (fun _ => true) (candidatesOf [spacedProject])).approved =
      [spacedProject] := by
  decide +kernel

end Selector

end SolutionSweep
