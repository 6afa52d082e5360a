import SolutionSweep.Manifest.Registry
import SolutionSweep.Manifest.Removal
import SolutionSweep.Proofs.Manifest.Climbing
import SolutionSweep.Proofs.Manifest.Identifier
import SolutionSweep.Proofs.Manifest.Without
import SolutionSweep.Proofs.Traversal

/-!
# Removal from the text refines removal from the registry

Taking entries out of a manifest text and drawing up the registry of what is left is the same as
drawing up the registry and taking the entries out of it: the other projects, folders and nestings
are there, in the same order and unchanged.

* `WellFormed`: the manifest texts for which this holds;
* `Registry.parse_eq_ok_iff`: the registry in terms of the outline and the nesting lines;
* `Registry.parse_without`, `Registry.exists_parse_without`: the registry of a manifest without some
  entries;
* `Removal.parse_apply`: the registry of the text that a removal leaves.
-/

namespace SolutionSweep

/-- A manifest text whose lines are orderly, whose entries have pairwise distinct identifiers, and
of which no line starts with a byte order mark. -/
structure WellFormed (text : Text) : Prop where
  orderly : Orderly (Document.ofText text).lines
  distinct : ((Block.scan (Document.ofText text).lines).map (·.id)).Nodup
  unmarked : ∀ l ∈ (Document.ofText text).lines, l.head? ≠ some Text.byteOrderMark

theorem WellFormed.writable {text : Text} (h : WellFormed text) :
    ∀ l ∈ (Document.ofText text).lines, IsWritable l := fun l mem =>
  ⟨Document.isLine_of_mem_ofText mem, h.unmarked l mem⟩

/-- What is to be checked of the lines in front of and behind the one that opens the global part. -/
theorem wellFormed_of_lines {text : Text} (front : List Text) (opening : Text) (back : List Text)
    (checked : (Document.ofText text).lines = front ++ opening :: back ∧
      BlocksClosed (front ++ opening :: back) ∧ SectionsClosed (front ++ opening :: back) ∧
      Line.isGlobalOpening opening = true ∧ (∀ l ∈ front, Line.isSectionHeader l = false) ∧
      (∀ l ∈ back, Line.isRegistration l = false) ∧
      ((Block.scan (front ++ opening :: back)).map (·.id)).Nodup ∧
      ∀ l ∈ front ++ opening :: back, l.head? ≠ some Text.byteOrderMark) :
    WellFormed text := by
  obtain ⟨eq, blocks, sections, opens, headless, unregistered, distinct, unmarked⟩ := checked
  constructor
  case orderly =>
    exact eq ▸ ⟨blocks, sections, front, opening, back, rfl, opens, headless, unregistered⟩
  case distinct => exact eq ▸ distinct
  case unmarked => exact eq ▸ unmarked

theorem distinctIds_iff {lines : List Text} :
    DistinctIds lines ↔ ((Block.scan lines).map (·.id)).Nodup := by
  rw [DistinctIds, outline, List.map_map]
  exact Iff.rfl

/-! ### Records of version control -/

/-- The records of version control can be read if the numerals can. -/
theorem versionControlOf_isOk_iff {c : Conventions} {lines : List Text} (orderly : Orderly lines) :
    (∃ records, Registry.versionControlOf c lines = .ok records) ↔
      Readable (bookLines c lines) := by
  unfold Registry.versionControlOf bookLines
  rcases Section.exists_at orderly.sections c.versionControlSections with
    absent | ⟨before, header, body, ending, after, sec⟩
  · rw [Section.find?_eq_none absent, Section.linesOf_eq_nil absent]
    exact ⟨fun _ => ⟨nofun, nofun⟩, fun _ => ⟨none, rfl⟩⟩
  · obtain ⟨book, found, at_⟩ := sec.exists_bodyOf
    rw [found, sec.linesOf_eq, ← VersionControl.read_isOk_iff at_]
    exact exists_map_eq_ok_iff

/-- A project with another path through the folders. -/
def Project.renested (nested : EntryId → Text) (p : Project) : Project :=
  { p with nestedPath := nested p.id }

namespace Registry

/-! ### The registry in terms of the outline -/

/-- Whether a block counts as a project. -/
def isProjectBlock (c : Conventions) (b : Block) : Bool := !b.isFolder && c.isProjectPath b.path

theorem projectBlocks_eq {blocks : List Block} (c : Conventions)
    (distinct : (blocks.map (·.id)).Nodup) :
    projectBlocks c blocks = blocks.filter (isProjectBlock c) :=
  firsts_eq_self (distinct.sublist (List.filter_sublist.map _))

theorem foldersOf_eq {blocks : List Block} (distinct : (blocks.map (·.id)).Nodup) :
    foldersOf blocks = (blocks.filter (·.isFolder)).map fun b => (b.id, b.name) := by
  rw [foldersOf, firsts_eq_self (distinct.sublist (List.filter_sublist.map _))]

theorem namesOf_eq {blocks : List Block} (distinct : (blocks.map (·.id)).Nodup) :
    namesOf blocks = blocks.map fun b => (b.id, b.name) := by
  refine lastValues_eq_self ?_
  rwa [List.map_map]

/-- The registry of a manifest text in terms of the outline and the nesting lines. -/
theorem parse_eq_ok_iff {cwd : Path} {c : Conventions} {manifest : Path} {text : Text}
    {lines : List Text} (eq : (Document.ofText text).lines = lines) (distinct : DistinctIds lines)
    {r : Registry} :
    parse cwd c manifest text = .ok r ↔ ∃ projects records,
      ((outline lines).filter (isProjectBlock c)).mapM
          (projectOf cwd manifest.parent (lastValues (nestingPairs lines))
            ((outline lines).map fun b => (b.id, b.name))) = .ok projects ∧
        versionControlOf c lines = .ok records ∧
        r = ⟨manifest, text, projects,
          ((outline lines).filter (·.isFolder)).map fun b => (b.id, b.name),
          lastValues (nestingPairs lines), records⟩ := by
  have distinct := distinctIds_iff.1 distinct
  have parents : parentsOf (NestingLine.scan lines (nestingSection? lines)) =
      lastValues (nestingPairs lines) := by rw [parentsOf, Surgery.map_parent_scan]
  have names : namesOf (Block.scan lines) = (outline lines).map fun b => (b.id, b.name) := by
    rw [namesOf_eq distinct, outline, List.map_map]
    rfl
  have folders : foldersOf (Block.scan lines) =
      ((outline lines).filter (·.isFolder)).map fun b => (b.id, b.name) := by
    rw [foldersOf_eq distinct, outline, List.filter_map, List.map_map]
    rfl
  have blocks (parents : List (EntryId × EntryId)) (names : List (EntryId × Text)) :
      (projectBlocks c (Block.scan lines)).mapM (projectOf cwd manifest.parent parents names) =
        ((outline lines).filter (isProjectBlock c)).mapM
          (projectOf cwd manifest.parent parents names) := by
    rw [projectBlocks_eq c distinct, outline, List.filter_map, List.mapM_map]
    rfl
  unfold parse
  dsimp only
  rw [eq, parents, names, folders, blocks]
  cases projects : ((outline lines).filter (isProjectBlock c)).mapM (projectOf cwd manifest.parent
    (lastValues (nestingPairs lines)) ((outline lines).map fun b => (b.id, b.name))) with
  | error e =>
    constructor
    · intro h
      cases h
    · rintro ⟨_, _, ⟨⟩, -⟩
  | ok projects =>
    cases records : versionControlOf c lines with
    | error e =>
      constructor
      · intro h
        cases h
      · rintro ⟨_, _, -, ⟨⟩, -⟩
    | ok records =>
      constructor
      · rintro ⟨⟩
        exact ⟨_, _, rfl, rfl, rfl⟩
      · rintro ⟨_, _, ⟨⟩, ⟨⟩, rfl⟩
        rfl

/-! ### The registry without some entries -/

/-- What the project of a block takes over from it. -/
theorem fields_of_projectOf {cwd directory : Path} {parents : List (EntryId × EntryId)}
    {names : List (EntryId × Text)} {b : Block} {p : Project}
    (ok : projectOf cwd directory parents names b = .ok p) :
    p.id = b.id ∧ p.name = b.name ∧ p.relativePath = b.path ∧
      p.path = Reference.path cwd directory b.path := by
  unfold projectOf at ok
  cases nested : nestedPath parents names b.id with
  | error e => rw [nested] at ok; cases ok
  | ok path =>
    rw [nested] at ok
    cases ok
    exact ⟨rfl, rfl, rfl, rfl⟩

theorem id_of_projectOf {cwd directory : Path} {parents : List (EntryId × EntryId)}
    {names : List (EntryId × Text)} {b : Block} {p : Project}
    (ok : projectOf cwd directory parents names b = .ok p) : p.id = b.id :=
  (fields_of_projectOf ok).1

section Without

variable {c : Conventions} {gone : List EntryId} {lines lines' : List Text}

/-- The parents of the entries that stay are those that they had. -/
theorem lastValues_without (h : Without c gone lines lines') :
    lastValues (nestingPairs lines') =
      (lastValues (nestingPairs lines)).filter fun p => !decide (p.1 ∈ gone) := by
  rw [h.nesting, ← lastValues_filter fun id => decide (id ∈ gone)]
  simp

/-- The names of the entries that stay are those that they had. -/
theorem names_without (h : Without c gone lines lines') :
    ((outline lines').map fun b => (b.id, b.name)) =
      ((outline lines).map fun b => (b.id, b.name)).filter fun p => !decide (p.1 ∈ gone) := by
  rw [h.outline, List.filter_map]
  simp [Function.comp_def]

/-- Choosing the projects and taking entries out can be done in either order. -/
theorem projectBlocks_without (h : Without c gone lines lines') :
    (outline lines').filter (isProjectBlock c) =
      ((outline lines).filter (isProjectBlock c)).filter (·.id ∉ gone) := by
  rw [h.outline, List.filter_filter, List.filter_filter]
  exact List.filter_congr fun b _ => Bool.and_comm _ _

end Without

/-- **The registry of a manifest without some entries.** The entries must not be the parents of any
that stay. -/
theorem parse_without {cwd : Path} {c : Conventions} {manifest : Path} {text text' : Text}
    {gone : List EntryId} {r : Registry}
    (h : Without c gone (Document.ofText text).lines (Document.ofText text').lines)
    (distinct : DistinctIds (Document.ofText text).lines)
    (parsed : parse cwd c manifest text = .ok r)
    (leaves : ∀ q ∈ r.nesting, q.1 ∉ gone → q.2 ∉ gone) :
    ∃ r', parse cwd c manifest text' = .ok r' ∧
      r'.projects = r.projects.filter (·.id ∉ gone) ∧
      r'.folders = r.folders.filter (·.1 ∉ gone) ∧
      r'.nesting = r.nesting.filter (·.1 ∉ gone) := by
  obtain ⟨projects, records, built, -, rfl⟩ := (parse_eq_ok_iff rfl distinct).1 parsed
  obtain ⟨records', read⟩ := (versionControlOf_isOk_iff h.orderly).2 h.readable
  generalize (Document.ofText text).lines = lines at h distinct built leaves ⊢
  refine ⟨_, (parse_eq_ok_iff rfl (h.distinct distinct)).2 ⟨projects.filter (·.id ∉ gone),
    records', ?_, read, rfl⟩, rfl, ?_, ?_⟩
  · rw [lastValues_without h, names_without h, projectBlocks_without h]
    refine mapM_filter (fun b stays => ?_) (fun b p ok => ?_) built
    · rw [projectOf, projectOf]
      refine congrArg (Except.map _)
        (nestedPath_filter (fun id => decide (id ∈ gone)) (by simpa using stays) ?_)
      intro q hq
      obtain ⟨mem, kept⟩ := List.mem_filter.1 hq
      simpa using leaves q mem (by simpa using kept)
    · rw [id_of_projectOf ok]
  · rw [h.outline, List.filter_map, List.filter_filter, List.filter_filter]
    refine congrArg (List.map _) (List.filter_congr fun b _ => ?_)
    exact Bool.and_comm _ _
  · rw [lastValues_without h]
    simp

/-- **There is a registry without some entries.** The other projects are there, though their paths
through the folders may be shorter than they were. -/
theorem exists_parse_without {cwd : Path} {c : Conventions} {manifest : Path} {text text' : Text}
    {gone : List EntryId} {r : Registry}
    (h : Without c gone (Document.ofText text).lines (Document.ofText text').lines)
    (distinct : DistinctIds (Document.ofText text).lines)
    (parsed : parse cwd c manifest text = .ok r) :
    ∃ r' nested, parse cwd c manifest text' = .ok r' ∧ r'.manifest = manifest ∧
      r'.projects = (r.projects.filter (·.id ∉ gone)).map (·.renested nested) := by
  obtain ⟨projects, records, built, -, rfl⟩ := (parse_eq_ok_iff rfl distinct).1 parsed
  obtain ⟨records', read⟩ := (versionControlOf_isOk_iff h.orderly).2 h.readable
  generalize (Document.ofText text).lines = lines at h distinct built ⊢
  refine ⟨_, fun id => (nestedPath
      ((lastValues (nestingPairs lines)).filter fun p => !decide (p.1 ∈ gone))
      (((outline lines).map fun b => (b.id, b.name)).filter fun p => !decide (p.1 ∈ gone))
      id).toOption.getD [],
    (parse_eq_ok_iff rfl (h.distinct distinct)).2 ⟨_, records', ?_, read, rfl⟩, rfl, rfl⟩
  rw [lastValues_without h, names_without h, projectBlocks_without h]
  refine mapM_filter_map (fun b p ok => by rw [id_of_projectOf ok]) (fun b p stays ok => ?_) built
  rw [projectOf] at ok ⊢
  cases old : nestedPath (lastValues (nestingPairs lines))
      ((outline lines).map fun b => (b.id, b.name)) b.id with
  | error e =>
    rw [old] at ok
    cases ok
  | ok path =>
    rw [old] at ok
    cases ok
    obtain ⟨path', new⟩ :=
      exists_nestedPath_filter (fun id => decide (id ∈ gone)) (by simpa using stays) old
    rw [new, Project.renested, new]
    rfl

end Registry

namespace Removal

/-- The lines that are left when blank ones have been dropped are read back. -/
theorem plain_stripBlankLines {d : Document} (writable : ∀ l ∈ d.lines, IsWritable l) :
    ∀ l ∈ d.stripBlankLines.lines, Document.IsPlain l := by
  intro l mem
  rw [d.lines_stripBlankLines] at mem
  obtain ⟨mem, filled⟩ := List.mem_filter.1 mem
  have w := writable l mem
  refine ⟨w.line, ?_, w.unmarked⟩
  rintro rfl
  cases filled

/-- In an orderly manifest not all lines are blank. -/
theorem stripBlankLines_ne_nil {d : Document} (orderly : Orderly d.lines) :
    d.stripBlankLines.lines ≠ [] := by
  obtain ⟨front, opening, back, eq, -⟩ := orderly.nonblank.global
  rw [d.lines_stripBlankLines, eq]
  simp

/-- The lines of the text that a removal leaves. -/
theorem lines_close {s : Surgery} (orderly : Orderly s.lines)
    (writable : ∀ l ∈ s.lines, IsWritable l) (removed pruned : List RemovedEntry) :
    (Document.ofText (close s removed pruned).text).lines = nonblank s.lines := by
  rw [close, Document.lines_ofText_render (plain_stripBlankLines writable),
    if_neg (stripBlankLines_ne_nil orderly)]
  exact s.document.lines_stripBlankLines

/-- A removal succeeds if the numerals of version control can be read, and leaves a manifest without
the entries that it has taken out. -/
theorem apply_without {c : Conventions} {text : Text} (wellFormed : WellFormed text)
    (readable : Readable (bookLines c (Document.ofText text).lines)) {selected : List Text}
    (registered : ∀ t ∈ selected, canonicalId (canonicalId t) = canonicalId t) (prune : Bool) :
    ∃ removal, apply c text selected prune = .ok removal ∧
      Without c ((removal.removed ++ removal.prunedFolders).map (·.id))
        (Document.ofText text).lines (Document.ofText removal.text).lines ∧
      (∀ e ∈ removal.removed, ∃ t ∈ selected, canonicalId t = e.id) ∧
      ∀ e ∈ removal.prunedFolders, ∀ q ∈ nestingPairs (Document.ofText removal.text).lines,
        q.2 ≠ e.id := by
  have distinct := distinctIds_iff.2 wellFormed.distinct
  have writable := wellFormed.writable
  have ids : (firsts id (selected.map canonicalId)).map canonicalId =
      firsts id (selected.map canonicalId) := by
    refine (List.map_congr_left fun id mem => ?_).trans (List.map_id _)
    obtain ⟨t, chosen, rfl⟩ := List.mem_map.1 (mem_firsts_id.1 mem)
    exact registered t chosen
  obtain ⟨after, removed, eq, without, among⟩ :=
    Surgery.removeIds_without (s := Surgery.ofText text) wellFormed.orderly readable distinct
      (firsts id (selected.map canonicalId))
  have chosen : ∀ e ∈ removed, ∃ t ∈ selected, canonicalId t = e.id := fun e mem =>
    List.mem_map.1 (mem_firsts_id.1 (among e mem))
  -- Whatever the removals leave, dropping blank lines and writing the text change nothing else.
  have stripped {s : Surgery} {gone : List EntryId} (removed pruned : List RemovedEntry)
      (h : Without c gone (Document.ofText text).lines s.lines) :
      Without c gone (Document.ofText text).lines
        (Document.ofText (close s removed pruned).text).lines := by
    rw [lines_close h.orderly (h.writable writable)]
    have := h.trans (without_nonblank c h.orderly h.readable)
    rwa [List.append_nil] at this
  unfold apply
  rw [Surgery.removeAll, ids, eq]
  cases prune with
  | false =>
    refine ⟨_, rfl, ?_, chosen, nofun⟩
    have := stripped removed [] without
    rwa [← List.append_nil removed] at this
  | true =>
    obtain ⟨done, pruned, eq', without', leaves⟩ := Surgery.pruneFolders_without without.orderly
      without.readable (without.distinct distinct)
    have both := without.trans without'
    simp only [if_true, eq']
    refine ⟨_, rfl, ?_, chosen, fun e mem q hq => ?_⟩
    · have := stripped removed pruned both
      rwa [← List.map_append] at this
    · have last := without_nonblank c without'.orderly without'.readable
      rw [lines_close both.orderly (both.writable writable), last.nesting] at hq
      exact leaves e mem q (List.mem_of_mem_filter hq)

/-- The projects of a registry have identifiers in canonical spelling. -/
theorem canonicalId_of_mem_projects {cwd : Path} {c : Conventions} {manifest : Path} {text : Text}
    {r : Registry} (distinct : DistinctIds (Document.ofText text).lines)
    (parsed : Registry.parse cwd c manifest text = .ok r) {p : Project} (mem : p ∈ r.projects) :
    canonicalId p.id = p.id := by
  obtain ⟨projects, records, built, -, rfl⟩ := (Registry.parse_eq_ok_iff rfl distinct).1 parsed
  obtain ⟨b, hb, ok⟩ := exists_of_mem_mapM built mem
  obtain ⟨b', hb', rfl⟩ := List.mem_map.1 (List.mem_of_mem_filter hb)
  rw [Registry.id_of_projectOf ok]
  show canonicalId b'.id = b'.id
  exact canonicalId_id hb'

/-- **Removal from the text refines removal from the registry.** Let the selected entries be
projects, none of them the parent of another entry. Then the removal succeeds, and the text that it
leaves has a registry again, with the projects, folders and nestings that there were, in the same
order and unchanged, except for those of the entries that have been removed or pruned. -/
theorem parse_apply {cwd : Path} {c : Conventions} {manifest : Path} {text : Text} {r : Registry}
    (wellFormed : WellFormed text) (parsed : Registry.parse cwd c manifest text = .ok r)
    {selected : List Text} (registered : ∀ t ∈ selected, ∃ p ∈ r.projects, p.id = canonicalId t)
    (leaf : ∀ t ∈ selected, ∀ q ∈ r.nesting, q.2 ≠ canonicalId t) (prune : Bool) :
    ∃ removal r', apply c text selected prune = .ok removal ∧
      Registry.parse cwd c manifest removal.text = .ok r' ∧
      let gone := (removal.removed ++ removal.prunedFolders).map (·.id)
      r'.projects = r.projects.filter (·.id ∉ gone) ∧
      r'.folders = r.folders.filter (·.1 ∉ gone) ∧
      r'.nesting = r.nesting.filter (·.1 ∉ gone) := by
  have distinct := distinctIds_iff.2 wellFormed.distinct
  obtain ⟨projects, records, built, read, eq⟩ := (Registry.parse_eq_ok_iff rfl distinct).1 parsed
  have readable := (versionControlOf_isOk_iff wellFormed.orderly).1 ⟨records, read⟩
  have canonical : ∀ t ∈ selected, canonicalId (canonicalId t) = canonicalId t := by
    intro t mem
    obtain ⟨p, hp, same⟩ := registered t mem
    rw [← same]
    exact canonicalId_of_mem_projects distinct parsed hp
  obtain ⟨removal, applied, without, chosen, pruned⟩ :=
    apply_without wellFormed readable canonical prune
  -- Selected entries are no parents by assumption, and pruned folders have lost their children.
  have leaves : ∀ q ∈ r.nesting, q.1 ∉ (removal.removed ++ removal.prunedFolders).map (·.id) →
      q.2 ∉ (removal.removed ++ removal.prunedFolders).map (·.id) := by
    intro q hq kept lost
    obtain ⟨e, mem, same⟩ := List.mem_map.1 lost
    rcases List.mem_append.1 mem with mem | mem
    · obtain ⟨t, ht, id⟩ := chosen e mem
      exact leaf t ht q hq (same.symm.trans id.symm)
    · refine pruned e mem q ?_ same.symm
      rw [without.nesting]
      refine List.mem_filter.2 ⟨?_, by simpa using kept⟩
      rw [eq] at hq
      exact mem_of_mem_lastValues hq
  obtain ⟨r', parsed', refined⟩ := Registry.parse_without without distinct parsed leaves
  exact ⟨removal, r', applied, parsed', refined⟩

/-- The identifier of the folder in the sample. -/
def sampleFolderId : EntryId := "22222222-2222-2222-2222-222222222222".toList

/-- The identifier of the project in the sample. -/
def sampleProjectId : EntryId := "11111111-1111-1111-1111-111111111111".toList

/-- The lines of a manifest with a project in a folder. -/
def nestedLines : List Text :=
  ["Project(\"\x7b2150E333-8FDC-42A3-9474-1A3956D46DE8\x7d\") = \"F\", \"F\", \"\x7b".toList ++
      sampleFolderId ++ "\x7d\"".toList,
    "EndProject".toList,
    "Project(\"\x7bFAE04EC0-301F-11D3-BF4B-00C04F79EFBC\x7d\") = \"A\", \"A.csproj\", ".toList ++
      "\"\x7b".toList ++ sampleProjectId ++ "\x7d\"".toList,
    "EndProject".toList,
    "Global".toList,
    "GlobalSection(NestedProjects) = preSolution".toList,
    "\x7b".toList ++ sampleProjectId ++ "\x7d = \x7b".toList ++ sampleFolderId ++ "\x7d".toList,
    "EndGlobalSection".toList,
    "EndGlobal".toList]

/-- The manifest with these lines. -/
def nestedSample : Text := Text.join ['\n'] nestedLines

theorem lines_nestedSample : (Document.ofText nestedSample).lines = nestedLines := by
  decide +kernel

theorem outline_nestedLines : outline nestedLines =
    [{ id := sampleFolderId
       typeId := "2150E333-8FDC-42A3-9474-1A3956D46DE8".toList
       name := "F".toList
       path := "F".toList
       span := ⟨0, 0⟩
       hasItems := false },
      { id := sampleProjectId
        typeId := "FAE04EC0-301F-11D3-BF4B-00C04F79EFBC".toList
        name := "A".toList
        path := "A.csproj".toList
        span := ⟨0, 0⟩
        hasItems := false }] := by
  decide +kernel

theorem nestingPairs_nestedLines :
    nestingPairs nestedLines = [(sampleProjectId, sampleFolderId)] := by
  decide +kernel

theorem wellFormed_nestedSample : WellFormed nestedSample :=
  wellFormed_of_lines (nestedLines.take 4) "Global".toList (nestedLines.drop 5) (by decide +kernel)

/-- The registry of the sample: the project lies in the folder. -/
theorem exists_registry_nestedSample : ∃ r,
    Registry.parse ⟨.single, []⟩ .standard ⟨.single, ["W.sln".toList]⟩ nestedSample = .ok r ∧
      (∃ p ∈ r.projects, p.id = sampleProjectId) ∧
      r.nesting = [(sampleProjectId, sampleFolderId)] := by
  have distinct := distinctIds_iff.2 wellFormed_nestedSample.distinct
  rw [lines_nestedSample] at distinct
  have projects : ((outline nestedLines).filter (Registry.isProjectBlock .standard)).mapM
      (Registry.projectOf ⟨.single, []⟩ ⟨.single, []⟩ (lastValues (nestingPairs nestedLines))
        ((outline nestedLines).map fun b => (b.id, b.name))) =
      .ok [{
        id := sampleProjectId
        name := "A".toList
        relativePath := "A.csproj".toList
        path := ⟨.single, ["A.csproj".toList]⟩
        nestedPath := "F".toList }] := by
    rw [outline_nestedLines, nestingPairs_nestedLines]
    decide +kernel
  have records : Registry.versionControlOf .standard nestedLines = .ok none := by
    have absent : ∀ l ∈ nestedLines,
        Line.opensSection Conventions.standard.versionControlSections l = false := by
      decide +kernel
    rw [Registry.versionControlOf, Section.find?_eq_none absent]
  refine ⟨_, (Registry.parse_eq_ok_iff lines_nestedSample distinct).2
    ⟨_, _, projects, records, rfl⟩, ⟨_, List.mem_singleton.2 rfl, rfl⟩, ?_⟩
  rw [nestingPairs_nestedLines]
  rfl

/-- The removal of the project from the sample, with the folder pruned. -/
theorem parse_apply_nestedSample : WellFormed nestedSample ∧ ∃ r removal r',
    Registry.parse ⟨.single, []⟩ .standard ⟨.single, ["W.sln".toList]⟩ nestedSample = .ok r ∧
      (∃ p ∈ r.projects, p.id = canonicalId sampleProjectId) ∧
      (∀ q ∈ r.nesting, q.2 ≠ canonicalId sampleProjectId) ∧
      apply .standard nestedSample [sampleProjectId] true = .ok removal ∧
      Registry.parse ⟨.single, []⟩ .standard ⟨.single, ["W.sln".toList]⟩ removal.text = .ok r' ∧
      r'.projects = r.projects.filter
        (·.id ∉ (removal.removed ++ removal.prunedFolders).map (·.id)) := by
  obtain ⟨r, parsed, ⟨p, mem, id⟩, nesting⟩ := exists_registry_nestedSample
  have canonical : canonicalId sampleProjectId = sampleProjectId := by decide +kernel
  have registered : ∀ t ∈ [sampleProjectId], ∃ p ∈ r.projects, p.id = canonicalId t := by
    intro t chosen
    rw [List.mem_singleton.1 chosen, canonical]
    exact ⟨p, mem, id⟩
  have leaf : ∀ t ∈ [sampleProjectId], ∀ q ∈ r.nesting, q.2 ≠ canonicalId t := by
    intro t chosen q hq
    rw [nesting] at hq
    rw [List.mem_singleton.1 hq, List.mem_singleton.1 chosen, canonical]
    decide
  obtain ⟨removal, r', applied, parsed', projects, -⟩ :=
    parse_apply wellFormed_nestedSample parsed registered leaf true
  exact ⟨wellFormed_nestedSample, r, removal, r', parsed, registered _ List.mem_cons_self,
    leaf _ List.mem_cons_self, applied, parsed', projects⟩

end Removal

end SolutionSweep
