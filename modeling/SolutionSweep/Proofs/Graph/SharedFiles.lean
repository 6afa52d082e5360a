import SolutionSweep.Proofs.Graph.Restriction

/-!
# Several registrations of one file

A reference means a file, and the walk follows it to the first project that stands for the file. So
if a file is registered more than once, the projects behind the first one are in use only as roots,
whoever names their file. A project whose file is registered once is in use as soon as its file is,
and each file in use keeps a project that is not unused.

* `inUse_iff`: how a project gets into use;
* `unused_by_file`: the unused projects by their files;
* `unused_by_file_doubleProjects`: a file that is named by a root, and registered twice.
-/

namespace SolutionSweep.ProjectGraph

variable {g : ProjectGraph} {p q : Project} {r : Reachability}

/-! ### How a project gets into use -/

/-- The file of a project is that of a root, or a project in use names it. -/
def FileInUse (g : ProjectGraph) (p : Project) : Prop :=
  (∃ q ∈ g.roots, q.path.key = p.path.key) ∨ ∃ e, g.InUse e ∧ g.Names e p

/-- A root is in use; any other project if it stands first and a project in use names its file. -/
theorem inUse_iff : g.InUse p ↔
    p ∈ g.roots ∨ g.isRoot p = false ∧ g.StandsFirst p ∧ ∃ e, g.InUse e ∧ g.Names e p := by
  constructor
  · rintro (root | ⟨inUse, names, first, external⟩)
    · exact .inl root
    · exact .inr ⟨external, first, _, inUse, names⟩
  · rintro (root | ⟨external, first, e, inUse, names⟩)
    · exact .root root
    · exact .step inUse ⟨names, first, external⟩

/-- A file is in use exactly if a project of that file is. -/
theorem fileInUse_iff (mem : p ∈ g.projects) :
    g.FileInUse p ↔ ∃ q, g.InUse q ∧ q.path.key = p.path.key := by
  constructor
  · rintro (⟨q, root, same⟩ | ⟨e, inUse, names⟩)
    · exact ⟨q, .root root, same⟩
    · obtain ⟨q, same, first⟩ := exists_standsFirst mem
      refine ⟨q, ?_, same⟩
      by_cases root : g.isRoot q = true
      · exact .root (mem_roots.2 ⟨first.mem, root⟩)
      · exact .step inUse ⟨names.of_key same.symm, first, Bool.eq_false_iff.2 root⟩
  · rintro ⟨q, inUse, same⟩
    rcases inUse_iff.1 inUse with root | ⟨-, -, e, inUse, names⟩
    · exact .inl ⟨q, root, same⟩
    · exact .inr ⟨e, inUse, names.of_key same⟩

/-! ### The unused projects -/

/-- **The unused projects by their files.** A project is unused exactly if it is no root and, should
it stand first for its file, no project in use names the file. Hence a project whose file is
registered once is unused only if its file is not in use, so that neither a root stands for the file
nor a project in use names it. If the file of a project is in use, some project of that file is not
unused. Of the external projects of one file at most the first is not unused. -/
theorem unused_by_file (distinct : g.Distinct) (classified : g.reachability = .ok r) :
    (∀ p, p ∈ r.unused ↔ p ∈ g.projects ∧ g.isRoot p = false ∧
      (g.StandsFirst p → ∀ e, g.InUse e → ¬ g.Names e p)) ∧
    (∀ p ∈ r.unused, (∀ q ∈ g.projects, q.path.key = p.path.key → q = p) →
      (∀ q ∈ g.roots, q.path.key ≠ p.path.key) ∧ ∀ e, g.InUse e → ¬ g.Names e p) ∧
    (∀ p ∈ g.projects, g.FileInUse p →
      ∃ q ∈ g.projects, q.path.key = p.path.key ∧ q ∉ r.unused) ∧
    ∀ p ∈ g.externals, ∀ q ∈ g.externals, p.path.key = q.path.key →
      p ∉ r.unused → q ∉ r.unused → p = q := by
  have unused {p : Project} : p ∈ r.unused ↔ p ∈ g.projects ∧ ¬ g.InUse p :=
    mem_unused_iff distinct classified
  have first {p : Project} (mem : p ∈ g.externals) (used : p ∉ r.unused) : g.StandsFirst p := by
    obtain ⟨mem, external⟩ := List.mem_filter.1 mem
    have inUse : g.InUse p := by
      by_contra notInUse
      exact used (unused.2 ⟨mem, notInUse⟩)
    rcases inUse_iff.1 inUse with root | ⟨-, first, -⟩
    · simp [(mem_roots.1 root).2] at external
    · exact first
  refine ⟨fun p => ?_, fun p mem alone => ?_, fun p mem file => ?_, fun p hp q hq same p' q' => ?_⟩
  · rw [unused, inUse_iff, mem_roots]
    grind
  · obtain ⟨registered, notInUse⟩ := unused.1 mem
    have notFile : ¬ g.FileInUse p := by
      intro file
      obtain ⟨q, inUse, same⟩ := (fileInUse_iff registered).1 file
      exact notInUse (alone q inUse.mem same ▸ inUse)
    exact ⟨fun q root same => notFile (.inl ⟨q, root, same⟩),
      fun e inUse names => notFile (.inr ⟨e, inUse, names⟩)⟩
  · obtain ⟨q, inUse, same⟩ := (fileInUse_iff mem).1 file
    exact ⟨q, inUse.mem, same, fun h => (unused.1 h).2 inUse⟩
  · exact (first hp p').eq_of_key (first hq q') same

/-- Of the three projects, `c` is unused, and its file is not in use. -/
theorem unused_by_file_threeProjects :
    ∃ r, threeProjects.Distinct ∧ threeProjects.reachability = .ok r ∧
      threeProjects.projects[2] ∈ r.unused ∧
      (∀ q ∈ threeProjects.roots, q.path.key ≠ threeProjects.projects[2].path.key) ∧
      ∀ e, threeProjects.InUse e → ¬ threeProjects.Names e threeProjects.projects[2] := by
  have classified : ∃ r, threeProjects.reachability = .ok r ∧
      threeProjects.projects[2] ∈ r.unused := by
    unfold reachability
    rw [traverse_threeProjects]
    exact ⟨_, rfl, by decide +kernel⟩
  obtain ⟨r, classified, mem⟩ := classified
  refine ⟨r, distinct_threeProjects, classified, mem, ?_⟩
  exact (unused_by_file distinct_threeProjects classified).2.1 _ mem (by decide +kernel)

/-! ### A file that is registered twice -/

/-- In the directory `/s` the root `a`, which refers to `../b`; outside of it the file `b`,
registered with either separator. -/
def doubleProjects : ProjectGraph where
  cwd := ⟨.single, ["s".toList]⟩
  directory := ⟨.single, ["s".toList]⟩
  projects := [
    ⟨"A".toList, "a".toList, "a".toList, ⟨.single, ["s".toList, "a".toList]⟩, []⟩,
    ⟨"B".toList, "b".toList, "../b".toList, ⟨.single, ["b".toList]⟩, []⟩,
    ⟨"C".toList, "b".toList, "..\\b".toList, ⟨.single, ["b".toList]⟩, []⟩]
  read p := if p.name = "a".toList then some referenceToB else some []

theorem distinct_doubleProjects : doubleProjects.Distinct := by
  unfold Distinct
  decide

theorem targets_doubleProjects :
    doubleProjects.targets doubleProjects.projects[0] referenceToB =
      [doubleProjects.projects[1]] := by
  decide +kernel

theorem read_doubleProjects :
    doubleProjects.read doubleProjects.projects[0].path = some referenceToB := by
  decide +kernel

/-- The walk asks for `a` and then for the first registration of `b`. -/
theorem traverse_doubleProjects :
    doubleProjects.traverse = ([doubleProjects.projects[0], doubleProjects.projects[1]], none) := by
  have read_b : doubleProjects.read doubleProjects.projects[1].path = some [] := by decide +kernel
  exact traverse_of_reference (by decide +kernel) read_doubleProjects targets_doubleProjects
    (List.getElem_mem _) (by decide) read_b (by decide +kernel)

/-- The root names the file of the second registration, which is unused, while the first one of the
same path is not. -/
theorem unused_by_file_doubleProjects :
    ∃ r, doubleProjects.Distinct ∧ doubleProjects.reachability = .ok r ∧
      doubleProjects.projects[2] ∈ r.unused ∧
      doubleProjects.InUse doubleProjects.projects[0] ∧
      doubleProjects.Names doubleProjects.projects[0] doubleProjects.projects[2] ∧
      doubleProjects.projects[1] ∉ r.unused ∧
      doubleProjects.projects[1].path.key = doubleProjects.projects[2].path.key := by
  have classified : ∃ r, doubleProjects.reachability = .ok r ∧
      doubleProjects.projects[2] ∈ r.unused ∧ doubleProjects.projects[1] ∉ r.unused := by
    unfold reachability
    rw [traverse_doubleProjects]
    exact ⟨_, rfl, by decide +kernel, by decide +kernel⟩
  obtain ⟨r, classified, unused, used⟩ := classified
  have refers := (mem_targets distinct_doubleProjects read_doubleProjects).1
    (targets_doubleProjects ▸ List.mem_singleton.2 rfl)
  exact ⟨r, distinct_doubleProjects, classified, unused, .root (by decide +kernel),
    refers.names.of_key rfl, used, rfl⟩

end SolutionSweep.ProjectGraph
