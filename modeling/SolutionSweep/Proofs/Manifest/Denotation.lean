import SolutionSweep.Proofs.Manifest.Refinement
import SolutionSweep.Proofs.Manifest.Registered
import Mathlib.Data.List.Pairwise

/-!
# Which registration an identifier stands for

The registry and a removal look an identifier up on their own: the registry among the blocks that
count as projects, a removal among all blocks. Both find the first of theirs, so they mean the same
registration unless registrations of different kinds share the identifier.

* `Unambiguous`: registrations that share an identifier are alike;
* `Removal.apply_eq_ok`: the runs that a removal consists of;
* `Removal.apply_denotes`: what a removal takes out, and what the registry knows of it.
-/

namespace SolutionSweep

/-- If two registrations share an identifier, neither is a folder, and both or neither have the path
of a project. -/
def Alike (c : Conventions) (x y : RemovedEntry) : Prop :=
  x.id = y.id → x.isProject = true ∧ y.isProject = true ∧
    c.isProjectPath x.relativePath = c.isProjectPath y.relativePath

instance (c : Conventions) (x y : RemovedEntry) : Decidable (Alike c x y) :=
  inferInstanceAs (Decidable (_ → _))

instance (c : Conventions) : Std.Symm (Alike c) where
  symm _ _ h same := by
    obtain ⟨hx, hy, paths⟩ := h same.symm
    exact ⟨hy, hx, paths.symm⟩

/-- Registrations that share an identifier are alike. -/
def Unambiguous (c : Conventions) (lines : List Text) : Prop :=
  (registered lines).Pairwise (Alike c)

instance (c : Conventions) (lines : List Text) : Decidable (Unambiguous c lines) :=
  inferInstanceAs (Decidable (List.Pairwise _ _))

section Unambiguous

variable {c : Conventions} {lines : List Text} {x y : RemovedEntry}

/-- A folder shares its identifier with nothing else. -/
theorem Unambiguous.eq_of_folder (h : Unambiguous c lines) (hx : x ∈ registered lines)
    (hy : y ∈ registered lines) (same : x.id = y.id) (folder : y.isProject = false) : x = y := by
  by_contra ne
  obtain ⟨-, project, -⟩ := h.forall hx hy ne same
  rw [folder] at project
  cases project

/-- What shares its identifier with a project counts as a project. -/
theorem Unambiguous.counts (h : Unambiguous c lines) (hx : x ∈ registered lines)
    (hy : y ∈ registered lines) (same : x.id = y.id)
    (counts : y.isProject = true ∧ c.isProjectPath y.relativePath = true) :
    x.isProject = true ∧ c.isProjectPath x.relativePath = true := by
  by_cases eq : x = y
  · rw [eq]
    exact counts
  · obtain ⟨project, -, paths⟩ := h.forall hx hy eq same
    exact ⟨project, paths.trans counts.2⟩

end Unambiguous

namespace Registry

variable {cwd : Path} {c : Conventions} {manifest : Path} {text : Text} {r : Registry}

/-- A registry has the manifest and the text that it is drawn up from, and its projects are those of
the blocks that count as projects. -/
theorem exists_traversal (parsed : parse cwd c manifest text = .ok r) :
    r.manifest = manifest ∧ r.text = text ∧ ∃ parents names,
      (projectBlocks c (Block.scan (Document.ofText text).lines)).mapM
        (projectOf cwd manifest.parent parents names) = .ok r.projects := by
  unfold parse at parsed
  dsimp only at parsed
  cases built : (projectBlocks c (Block.scan (Document.ofText text).lines)).mapM
      (projectOf cwd manifest.parent (parentsOf (NestingLine.scan (Document.ofText text).lines
        (nestingSection? (Document.ofText text).lines)))
        (namesOf (Block.scan (Document.ofText text).lines))) with
  | error e =>
    rw [built] at parsed
    cases parsed
  | ok projects =>
    rw [built] at parsed
    cases records : versionControlOf c (Document.ofText text).lines with
    | error e =>
      rw [records] at parsed
      cases parsed
    | ok records' =>
      rw [records] at parsed
      cases parsed
      exact ⟨rfl, rfl, _, _, built⟩

/-- Each project of a registry is that of a block: the first one of its identifier among those that
count as projects. -/
theorem exists_block_of_mem_projects (parsed : parse cwd c manifest text = .ok r) {p : Project}
    (mem : p ∈ r.projects) :
    ∃ b ∈ projectBlocks c (Block.scan (Document.ofText text).lines),
      p.id = b.id ∧ p.name = b.name ∧ p.relativePath = b.path := by
  obtain ⟨-, -, parents, names, built⟩ := exists_traversal parsed
  obtain ⟨b, hb, ok⟩ := exists_of_mem_mapM built mem
  obtain ⟨id, name, path, -⟩ := fields_of_projectOf ok
  exact ⟨b, hb, id, name, path⟩

/-- The identifiers of projects are in canonical spelling. -/
theorem canonicalId_of_mem_projects (parsed : parse cwd c manifest text = .ok r) {p : Project}
    (mem : p ∈ r.projects) : canonicalId p.id = p.id := by
  obtain ⟨b, hb, id, -⟩ := exists_block_of_mem_projects parsed mem
  rw [id]
  exact canonicalId_id (List.mem_of_mem_filter (List.mem_of_find?_eq_some (find?_of_mem_firsts hb)))

/-- The projects of a registry have distinct identifiers. -/
theorem nodup_projects (parsed : parse cwd c manifest text = .ok r) :
    (r.projects.map (·.id)).Nodup := by
  obtain ⟨-, -, parents, names, built⟩ := exists_traversal parsed
  have same : (projectBlocks c (Block.scan (Document.ofText text).lines)).map (·.id) =
      r.projects.map (·.id) := by
    rw [← List.forall₂_eq_eq_eq, List.forall₂_map_left_iff, List.forall₂_map_right_iff]
    exact (mapM_eq_ok_iff.1 built).imp fun b p ok => (id_of_projectOf ok).symm
  rw [← same]
  exact nodup_map_firsts _ _

end Registry

namespace Removal

variable {c : Conventions} {text : Text} {selected : List Text} {prune : Bool} {removal : Removal}

/-- The runs that a removal consists of: the selected entries, each of them once, and then perhaps
empty folders. -/
theorem apply_eq_ok (applied : apply c text selected prune = .ok removal) :
    ∃ after done,
      Surgery.removeAll c (Surgery.ofText text) (firsts id (selected.map canonicalId)) =
        (after, .ok removal.removed) ∧
      (if prune then Surgery.pruneFolders c after else (after, .ok [])) =
        (done, .ok removal.prunedFolders) ∧
      removal = close done removal.removed removal.prunedFolders := by
  unfold apply at applied
  rcases run : Surgery.removeAll c (Surgery.ofText text) (firsts id (selected.map canonicalId))
    with ⟨after, e | removed⟩
  · rw [run] at applied
    cases applied
  · rw [run] at applied
    dsimp only at applied
    cases prune with
    | false =>
      cases applied
      exact ⟨after, after, rfl, rfl, rfl⟩
    | true =>
      rcases pruning : Surgery.pruneFolders c after with ⟨done, e | pruned⟩
      · simp [pruning] at applied
      · simp only [if_true, pruning] at applied
        cases applied
        exact ⟨after, done, rfl, pruning, rfl⟩

/-- What is registered in the lines of a document is registered in the text that it is written as.
A line that starts with a byte order mark registers nothing, so it does not matter if it comes to
stand first. -/
theorem registered_close (s : Surgery) (clean : ∀ l ∈ s.lines, IsLine l)
    (removed pruned : List RemovedEntry) :
    (registered s.lines).Sublist
      (registered (Document.ofText (close s removed pruned).text).lines) := by
  have stripped : s.document.stripBlankLines.lines = nonblank s.lines :=
    s.document.lines_stripBlankLines
  have same : registered (nonblank s.lines) = registered s.lines := by
    rw [← map_entry_registrations, ← map_entry_registrations, registrations_nonblank]
  have clean' : ∀ l ∈ s.document.stripBlankLines.lines, IsLine l := fun l mem =>
    clean l (mem_of_mem_nonblank (stripped ▸ mem))
  have filled : ∀ l ∈ s.document.stripBlankLines.lines, l ≠ [] := by
    rintro l mem rfl
    rw [stripped] at mem
    cases (List.mem_filter.1 mem).2
  rw [← same, ← stripped, close]
  rcases Document.lines_ofText_render_cases clean' filled with eq | ⟨l, rest, parts, eq⟩
  · rw [eq]
    split
    · rename_i empty
      rw [empty]
      exact List.nil_sublist _
    · exact .refl _
  · have none : Line.entry? (Text.byteOrderMark :: l) = none :=
      Line.entry?_eq_none (by
        rw [Line.initial?, Text.skipWhite_cons (by decide), List.head?_cons]
        decide)
    rw [eq, parts, registered, registered, List.filterMap_cons_none none, List.filterMap_cons]
    split
    · exact .refl _
    · exact List.sublist_cons_self _ _

/-- Whether or not folders are pruned, this is a run of removals, and each of its entries bears the
identifier of a folder that is empty when its turn comes. -/
theorem exists_trace {after done : Surgery} {pruned : List RemovedEntry}
    (pruning : (if prune then Surgery.pruneFolders c after else (after, .ok [])) =
      (done, .ok pruned)) :
    ∃ trace, Surgery.removeIds c after trace = (done, .ok pruned) ∧
      ∀ e ∈ pruned, ∃ ids middle gone, Surgery.removeIds c after ids = (middle, .ok gone) ∧
        gone <+: pruned ∧ e.id ∈ Surgery.emptyFolders middle.lines := by
  cases prune with
  | false =>
    cases pruning
    exact ⟨[], rfl, nofun⟩
  | true =>
    rw [if_pos rfl] at pruning
    exact ⟨Surgery.pruneTrace c after, Surgery.pruneFolders_eq c after ▸ pruning,
      fun e mem => Surgery.emptied_of_mem_pruneFolders pruning mem⟩

/-- The runs that a removal of identifiers in canonical spelling consists of: each of them once, and
then identifiers of folders that are empty when their turn comes. -/
theorem exists_runs (applied : apply c text selected prune = .ok removal)
    (canonical : ∀ t ∈ selected, canonicalId t = t) :
    ∃ after done trace,
      Surgery.removeIds c (Surgery.ofText text) (firsts id selected) =
        (after, .ok removal.removed) ∧
      Surgery.removeIds c after trace = (done, .ok removal.prunedFolders) ∧
      (∀ e ∈ removal.prunedFolders, ∃ ids middle gone,
        Surgery.removeIds c after ids = (middle, .ok gone) ∧ gone <+: removal.prunedFolders ∧
          e.id ∈ Surgery.emptyFolders middle.lines) ∧
      removal = close done removal.removed removal.prunedFolders := by
  obtain ⟨after, done, run, pruning, closed⟩ := apply_eq_ok applied
  obtain ⟨trace, prunes, emptied⟩ := exists_trace pruning
  have spelling {ts : List Text} (sub : ts ⊆ selected) : ts.map canonicalId = ts :=
    (List.map_congr_left fun t mem => canonical t (sub mem)).trans (List.map_id _)
  rw [Surgery.removeAll, spelling (List.Subset.refl _), spelling fun t => mem_firsts_id.1] at run
  exact ⟨after, done, trace, run, prunes, emptied, closed⟩

/-- A removal of identifiers in canonical spelling takes out what is selected, and what it prunes has
the identifier of a folder. -/
theorem ids_of_apply (applied : apply c text selected prune = .ok removal)
    (canonical : ∀ t ∈ selected, canonicalId t = t) :
    (∀ e ∈ removal.removed, e.id ∈ selected) ∧
    ∀ e ∈ removal.prunedFolders, ∃ x ∈ registered (Document.ofText text).lines,
      x.id = e.id ∧ x.isProject = false := by
  obtain ⟨after, done, trace, run, prunes, emptied, -⟩ := exists_runs applied canonical
  refine ⟨fun e mem => mem_firsts_id.1 ((Surgery.removeIds_registered run).2 e mem),
    fun e mem => ?_⟩
  obtain ⟨ids, middle, gone, later, -, chosen⟩ := emptied e mem
  obtain ⟨b, hb, same⟩ := List.mem_map.1 chosen
  obtain ⟨hb, empty⟩ := List.mem_filter.1 hb
  simp only [Bool.and_eq_true] at empty
  refine ⟨b.entry, ?_, same, by simp [Block.entry, empty.1.1]⟩
  exact (Surgery.mem_registered_iff run).2 (.inr ((Surgery.mem_registered_iff later).2
    (.inr (map_entry_scan middle.lines ▸ List.mem_map_of_mem hb))))

/-- The entry is a folder that is registered without anything in it when the entries in front of it
have been taken out. -/
def TakenEmpty (c : Conventions) (text : Text) (run : List RemovedEntry) (e : RemovedEntry) :
    Prop :=
  ∃ ids middle gone, Surgery.removeIds c (Surgery.ofText text) ids = (middle, .ok gone) ∧
    gone <+: run ∧ ∃ b ∈ Block.scan middle.lines, b.entry = e ∧ b.isFolder = true ∧
      b.hasItems = false ∧ ∀ q ∈ nestingPairs middle.lines, q.2 ≠ e.id

/-- If registrations that share an identifier are alike, the first registration under the identifier
of a project is that project. -/
theorem project_of_first {cwd : Path} {manifest : Path} {r : Registry}
    (parsed : Registry.parse cwd c manifest text = .ok r)
    (unambiguous : Unambiguous c (Document.ofText text).lines) {p : Project}
    (mem : p ∈ r.projects) {e : RemovedEntry}
    (first : (registered (Document.ofText text).lines).find? (·.id == p.id) = some e) :
    e.isProject = true ∧ p.name = e.name ∧ p.relativePath = e.relativePath := by
  obtain ⟨b, hb, id, name, path⟩ := Registry.exists_block_of_mem_projects parsed mem
  have found := find?_of_mem_firsts hb
  obtain ⟨hb, counts⟩ := List.mem_filter.1 (List.mem_of_find?_eq_some found)
  have here : b.entry ∈ registered (Document.ofText text).lines :=
    map_entry_scan _ ▸ List.mem_map_of_mem hb
  have he := List.mem_of_find?_eq_some first
  have same : e.id = b.id := by
    rw [← id]
    simpa using List.find?_some first
  -- The first registration counts as a project like the block does, so it is that of the block.
  obtain ⟨project, counted⟩ := unambiguous.counts he here same (by simpa [Block.entry] using counts)
  rw [← map_entry_scan, List.find?_map] at first
  obtain ⟨b', first', rfl⟩ := Option.map_eq_some_iff.1 first
  obtain ⟨-, before, behind, blocks, others⟩ := List.find?_eq_some_iff_append.1 first'
  have found' : ((Block.scan (Document.ofText text).lines).filter fun b =>
      !b.isFolder && c.isProjectPath b.path).find? (·.id == b.id) = some b' := by
    rw [List.find?_filter, List.find?_eq_some_iff_append]
    refine ⟨?_, before, behind, blocks, fun x hx => ?_⟩
    · simp only [Block.entry] at project counted same
      simp [project, counted, same]
    · have other : x.id ≠ b.id := by simpa [Block.entry, id] using others x hx
      simp [other]
  obtain rfl : b' = b := Option.some.inj (found'.symm.trans found)
  exact ⟨project, name, path⟩

/-- **What a removal takes out.** Of the selected projects a removal takes out the first
registration of each identifier. What was registered is what has been removed, what has been pruned
and what the text registers that is left, so nothing else disappears. If registrations that share an
identifier are alike, what has been removed is the project that the registry has under that
identifier, and what has been pruned are folders that were empty. -/
theorem apply_denotes {cwd : Path} {manifest : Path} {r : Registry}
    (parsed : Registry.parse cwd c manifest text = .ok r)
    (projects : ∀ t ∈ selected, ∃ p ∈ r.projects, p.id = t)
    (applied : apply c text selected prune = .ok removal) :
    (∀ e ∈ removal.removed, e.id ∈ selected ∧
      (registered (Document.ofText text).lines).find? (·.id == e.id) = some e) ∧
    (∃ rest, (registered (Document.ofText text).lines).Perm
        (removal.removed ++ removal.prunedFolders ++ rest) ∧
      rest.Sublist (registered (Document.ofText removal.text).lines)) ∧
    (Unambiguous c (Document.ofText text).lines →
      (∀ e ∈ removal.removed, e.isProject = true ∧
        ∃ p ∈ r.projects, p.id = e.id ∧ p.name = e.name ∧ p.relativePath = e.relativePath) ∧
      ∀ e ∈ removal.prunedFolders, e.isProject = false ∧
        TakenEmpty c text (removal.removed ++ removal.prunedFolders) e) := by
  -- The identifiers of projects are in canonical spelling.
  have canonical : ∀ t ∈ selected, canonicalId t = t := by
    intro t mem
    obtain ⟨p, hp, rfl⟩ := projects t mem
    obtain ⟨b, hb, id, -⟩ := Registry.exists_block_of_mem_projects parsed hp
    have hb := List.mem_of_mem_filter (List.mem_of_find?_eq_some (find?_of_mem_firsts hb))
    rw [id]
    exact canonicalId_id hb
  obtain ⟨after, done, trace, run, prunes, emptied, closed⟩ := exists_runs applied canonical
  have removed_first : ∀ e ∈ removal.removed, e.id ∈ selected ∧
      (registered (Document.ofText text).lines).find? (·.id == e.id) = some e := fun e mem =>
    ⟨mem_firsts_id.1 ((Surgery.removeIds_registered run).2 e mem),
      Surgery.find?_of_mem_removeIds run (by simpa using nodup_map_firsts id selected) mem⟩
  refine ⟨removed_first, ⟨registered done.lines, ?_, ?_⟩, fun unambiguous => ⟨?_, ?_⟩⟩
  · have first := (Surgery.removeIds_registered run).1
    have second := (Surgery.removeIds_registered prunes).1
    rw [List.append_assoc]
    exact first.trans (second.append_left _)
  · have clean : ∀ l ∈ done.lines, IsLine l := by
      intro l mem
      obtain ⟨l', mem', pair⟩ := Surgery.exists_of_mem_removeIds prunes mem
      obtain ⟨l'', mem'', pair'⟩ := Surgery.exists_of_mem_removeIds run mem'
      exact (pair'.trans pair).isLine (Document.isLine_of_mem_ofText mem'')
    have kept := registered_close done clean removal.removed removal.prunedFolders
    rwa [← closed] at kept
  · intro e mem
    obtain ⟨chosen, first⟩ := removed_first e mem
    obtain ⟨p, hp, same⟩ := projects _ chosen
    obtain ⟨project, name, path⟩ := project_of_first parsed unambiguous hp (same ▸ first)
    exact ⟨project, p, hp, same, name, path⟩
  · intro e mem
    obtain ⟨ids, middle, gone, later, front, chosen⟩ := emptied e mem
    obtain ⟨b, hb, same⟩ := List.mem_map.1 chosen
    obtain ⟨hb, empty⟩ := List.mem_filter.1 hb
    simp only [Bool.and_eq_true, Bool.not_eq_true'] at empty
    -- The folder and the entry share their identifier, and folders share theirs with nothing else.
    have folder : b.entry.isProject = false := by simp [Block.entry, empty.1.1]
    have here : b.entry ∈ registered (Document.ofText text).lines :=
      (Surgery.mem_registered_iff run).2 (Or.inr ((Surgery.mem_registered_iff later).2
        (Or.inr (map_entry_scan middle.lines ▸ List.mem_map_of_mem hb))))
    have there : e ∈ registered (Document.ofText text).lines :=
      (Surgery.mem_registered_iff run).2 (Or.inr ((Surgery.mem_registered_iff prunes).2
        (Or.inl mem)))
    obtain rfl : e = b.entry := unambiguous.eq_of_folder there here same.symm folder
    refine ⟨folder, firsts id selected ++ ids, middle, removal.removed ++ gone, ?_,
      (List.prefix_append_right_inj _).2 front, b, hb, rfl, empty.1.1, empty.1.2, ?_⟩
    · rw [Surgery.removeIds_append, run]
      dsimp only
      rw [later, Surgery.continued]
    · exact Surgery.not_parent_of_mem_emptyFolders chosen

/-- What is taken out of the sample: the project, and the folder that it leaves empty. -/
theorem apply_nestedSample : apply .standard nestedSample [sampleProjectId] true = .ok
    { text := Text.join ['\n'] ["Global".toList,
        "GlobalSection(NestedProjects) = preSolution".toList, "EndGlobalSection".toList,
        "EndGlobal".toList]
      removed := [⟨sampleProjectId, "A".toList, "A.csproj".toList, true⟩]
      prunedFolders := [⟨sampleFolderId, "F".toList, "F".toList, false⟩]
      warnings := [] } := by
  decide +kernel

/-- In the sample no identifier is shared, and what is taken out is what the registry knows. -/
theorem apply_denotes_nestedSample : ∃ r removal,
    Registry.parse ⟨.single, []⟩ .standard ⟨.single, ["W.sln".toList]⟩ nestedSample = .ok r ∧
      (∀ t ∈ [sampleProjectId], ∃ p ∈ r.projects, p.id = t) ∧
      apply .standard nestedSample [sampleProjectId] true = .ok removal ∧
      Unambiguous .standard (Document.ofText nestedSample).lines ∧
      (∀ e ∈ removal.removed, e.isProject = true ∧
        ∃ p ∈ r.projects, p.id = e.id ∧ p.name = e.name ∧ p.relativePath = e.relativePath) ∧
      ∀ e ∈ removal.prunedFolders, e.isProject = false ∧
        TakenEmpty .standard nestedSample (removal.removed ++ removal.prunedFolders) e := by
  obtain ⟨r, parsed, ⟨p, mem, id⟩, -⟩ := exists_registry_nestedSample
  have projects : ∀ t ∈ [sampleProjectId], ∃ p ∈ r.projects, p.id = t := by
    intro t chosen
    rw [List.mem_singleton.1 chosen]
    exact ⟨p, mem, id⟩
  have unambiguous : Unambiguous .standard (Document.ofText nestedSample).lines := by
    decide +kernel
  obtain ⟨-, -, alike⟩ := apply_denotes parsed projects apply_nestedSample
  obtain ⟨removed, pruned⟩ := alike unambiguous
  exact ⟨r, _, parsed, projects, apply_nestedSample, unambiguous, removed, pruned⟩

/-- A manifest that registers a project and, under the same identifier, an empty folder. -/
def ambiguousSample : Text :=
  Text.join ['\n'] (["Project(\"\x7bFAE04EC0-301F-11D3-BF4B-00C04F79EFBC\x7d\") = \"A\", ".toList ++
      "\"A.csproj\", \"\x7b".toList ++ sampleFolderId ++ "\x7d\"".toList, "EndProject".toList] ++
    nestedLines.take 2)

/-- The registry has the project, and pruning takes it out for the sake of the folder. -/
theorem apply_ambiguousSample :
    ((Registry.parse ⟨.single, []⟩ .standard ⟨.single, ["W.sln".toList]⟩
      ambiguousSample).toOption.map (·.projects)) = some [{
        id := sampleFolderId
        name := "A".toList
        relativePath := "A.csproj".toList
        path := ⟨.single, ["A.csproj".toList]⟩
        nestedPath := [] }] ∧
    (apply .standard ambiguousSample [] true).toOption.map (·.prunedFolders) =
      some [⟨sampleFolderId, "A".toList, "A.csproj".toList, true⟩,
        ⟨sampleFolderId, "F".toList, "F".toList, false⟩] := by
  constructor <;> decide +kernel

end Removal

end SolutionSweep
