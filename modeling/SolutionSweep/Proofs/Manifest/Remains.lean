import SolutionSweep.Proofs.Manifest.Denotation

/-!
# What remains of a registry

All selected projects are taken out, and of the other projects none. So the registry of the text
that a removal leaves has exactly the projects that were not selected. Only their paths through the
folders may have changed.

* `Removal.mem_gone_iff`: which projects a removal takes out;
* `Removal.exists_parse_apply`: the registry of the text that it leaves.
-/

namespace SolutionSweep

theorem WellFormed.nodup_registered {text : Text} (h : WellFormed text) :
    ((registered (Document.ofText text).lines).map (·.id)).Nodup := by
  rw [← map_entry_scan, List.map_map]
  exact h.distinct

namespace Removal

variable {cwd : Path} {c : Conventions} {manifest : Path} {text : Text} {r : Registry}
  {selected : List Text} {prune : Bool} {removal : Removal}

/-- The registration of a project, which is no folder. -/
theorem exists_registered_of_mem_projects (parsed : Registry.parse cwd c manifest text = .ok r)
    {p : Project} (mem : p ∈ r.projects) :
    ∃ e ∈ registered (Document.ofText text).lines, e.id = p.id ∧ e.isProject = true := by
  obtain ⟨b, hb, id, -⟩ := Registry.exists_block_of_mem_projects parsed mem
  obtain ⟨hb, counts⟩ := List.mem_filter.1 (List.mem_of_find?_eq_some (find?_of_mem_firsts hb))
  simp only [Bool.and_eq_true] at counts
  exact ⟨b.entry, map_entry_scan _ ▸ List.mem_map_of_mem hb, id.symm, counts.1⟩

/-- **A removal of projects takes out those that have been selected.** Pruning takes out folders, so
it takes out no other project. -/
theorem mem_gone_iff (wellFormed : WellFormed text)
    (parsed : Registry.parse cwd c manifest text = .ok r)
    (projects : ∀ t ∈ selected, ∃ p ∈ r.projects, p.id = t)
    (applied : apply c text selected prune = .ok removal) {p : Project} (mem : p ∈ r.projects) :
    p.id ∈ (removal.removed ++ removal.prunedFolders).map (·.id) ↔ p.id ∈ selected := by
  have canonical : ∀ t ∈ selected, canonicalId t = t := by
    intro t chosen
    obtain ⟨q, hq, rfl⟩ := projects t chosen
    exact Registry.canonicalId_of_mem_projects parsed hq
  obtain ⟨among, folders⟩ := ids_of_apply applied canonical
  obtain ⟨own, here, sameOwn, project⟩ := exists_registered_of_mem_projects parsed mem
  rw [List.map_append, List.mem_append]
  constructor
  · rintro (taken | taken)
    · obtain ⟨e, he, same⟩ := List.mem_map.1 taken
      exact same ▸ among e he
    · -- What is pruned bears the identifier of a folder, which no project does.
      obtain ⟨e, he, same⟩ := List.mem_map.1 taken
      obtain ⟨x, there, sameFolder, folder⟩ := folders e he
      have ids : x.id = own.id := sameFolder.trans (same.trans sameOwn.symm)
      obtain rfl := List.inj_on_of_nodup_map wellFormed.nodup_registered there here ids
      rw [project] at folder
      cases folder
  · intro chosen
    obtain ⟨after, done, trace, run, -⟩ := exists_runs applied canonical
    have taken := Surgery.mem_of_removeIds run wellFormed.nodup_registered here
      (mem_firsts_id.2 (sameOwn ▸ chosen))
    exact Or.inl (List.mem_map.2 ⟨own, taken, sameOwn⟩)

/-- **What remains of a registry.** A removal of registered projects leaves a text with a registry
again, and its projects are those that have not been selected, in the same order. -/
theorem exists_parse_apply (wellFormed : WellFormed text)
    (parsed : Registry.parse cwd c manifest text = .ok r) {unused : List Project}
    (among : ∀ p ∈ unused, p ∈ r.projects)
    (applied : apply c text (unused.map (·.id)) prune = .ok removal) :
    ∃ r' nested, Registry.parse cwd c manifest removal.text = .ok r' ∧ r'.manifest = manifest ∧
      r'.projects = (r.projects.filter (· ∉ unused)).map (·.renested nested) := by
  have distinct := distinctIds_iff.2 wellFormed.distinct
  have projects : ∀ t ∈ unused.map (·.id), ∃ p ∈ r.projects, p.id = t := by
    intro t chosen
    obtain ⟨p, hp, rfl⟩ := List.mem_map.1 chosen
    exact ⟨p, among p hp, rfl⟩
  have readable : Readable (bookLines c (Document.ofText text).lines) := by
    obtain ⟨_, records, -, read, -⟩ := (Registry.parse_eq_ok_iff rfl distinct).1 parsed
    exact (versionControlOf_isOk_iff wellFormed.orderly).1 ⟨records, read⟩
  have canonical : ∀ t ∈ unused.map (·.id), canonicalId (canonicalId t) = canonicalId t := by
    intro t chosen
    obtain ⟨p, hp, rfl⟩ := projects t chosen
    have spelling := Registry.canonicalId_of_mem_projects parsed hp
    rw [spelling, spelling]
  obtain ⟨removal', applied', without, -⟩ := apply_without wellFormed readable canonical prune
  obtain rfl : removal = removal' := Except.ok.inj (applied.symm.trans applied')
  obtain ⟨r', nested, parsed', manifest', eq⟩ :=
    Registry.exists_parse_without without distinct parsed
  refine ⟨r', nested, parsed', manifest', ?_⟩
  rw [eq]
  refine congrArg (List.map _) (List.filter_congr fun p hp => ?_)
  rw [decide_eq_decide, not_iff_not, mem_gone_iff wellFormed parsed projects applied hp,
    List.mem_map]
  constructor
  · rintro ⟨q, hq, same⟩
    exact List.inj_on_of_nodup_map (Registry.nodup_projects parsed) (among q hq) hp same ▸ hq
  · intro hp
    exact ⟨p, hp, rfl⟩

end Removal

end SolutionSweep
