import SolutionSweep.Proofs.Manifest.Reordering

/-!
# Pruning computes a least fixed point

Pruning is a loop that reads the manifest anew in each pass. It ends for every manifest, since each
pass takes out a registration. In an orderly manifest with distinct identifiers the folders that it
takes out are the least set that a folder without items belongs to as soon as everything in it does.
So a folder that has itself for an ancestor stays, and so does one that holds anything that stays.

* `Surgery.Passes`: the loop, with the number of its passes;
* `Surgery.exists_passes`: it ends after at most as many passes as there are registrations;
* `ClosedUnderEmptying`: what the least set is the least one of;
* `Surgery.emptied_in_turn`: when the turn of a folder comes, everything in it has been taken out;
* `Surgery.pruneFolders_least`: what pruning takes out, in which order, and what it leaves.
-/

namespace SolutionSweep

variable {c : Conventions} {lines : List Text}

namespace Surgery

variable {s after : Surgery} {pruned : List RemovedEntry}

/-! ### The loop ends -/

/-- The passes of a pruning: as long as there are empty folders they are taken out, unless that
fails. -/
inductive Passes (c : Conventions) :
    Nat → Surgery → Surgery × Except LongNumeral (List RemovedEntry) → Prop
  | settled {s : Surgery} : emptyFolders s.lines = [] → Passes c 0 s (s, .ok [])
  | failed {s after : Surgery} {e : LongNumeral} : emptyFolders s.lines ≠ [] →
      removeIds c s (emptyFolders s.lines) = (after, .error e) → Passes c 1 s (after, .error e)
  | pass {s after : Surgery} {n : Nat} {removed : List RemovedEntry}
      {result : Surgery × Except LongNumeral (List RemovedEntry)} : emptyFolders s.lines ≠ [] →
      removeIds c s (emptyFolders s.lines) = (after, .ok removed) → Passes c n after result →
      Passes c (n + 1) s (continued removed result)

/-- An empty folder is registered. -/
theorem exists_registered_of_mem_emptyFolders {id : EntryId} (mem : id ∈ emptyFolders lines) :
    ∃ e ∈ registered lines, e.id = id := by
  obtain ⟨b, hb, rfl⟩ := List.mem_map.1 mem
  exact ⟨b.entry, map_entry_scan lines ▸ List.mem_map_of_mem (List.mem_of_mem_filter hb), rfl⟩

/-- A pass takes out a registration. -/
theorem length_registered_lt (nonempty : emptyFolders s.lines ≠ []) {removed : List RemovedEntry}
    (ok : removeIds c s (emptyFolders s.lines) = (after, .ok removed)) :
    (registered after.lines).length < (registered s.lines).length := by
  obtain ⟨id, ids, empty⟩ := List.exists_cons_of_ne_nil nonempty
  obtain ⟨e, mem, same⟩ :=
    exists_registered_of_mem_emptyFolders (empty ▸ List.mem_cons_self : id ∈ emptyFolders s.lines)
  rw [empty] at ok
  have total := (removeIds_registered ok).1.length_eq
  obtain ⟨middle, first, more, one, -, rfl⟩ := removeIds_cons_eq_ok ok
  obtain ⟨found, -⟩ := removeId_registered one
  have taken : first.isSome = true := by
    rw [found, List.find?_isSome]
    exact ⟨e, mem, by simpa using same⟩
  obtain ⟨e', rfl⟩ := Option.isSome_iff_exists.1 taken
  rw [List.length_append, List.length_append, Option.toList_some, List.length_singleton] at total
  omega

/-- A pass and those after it. -/
theorem exists_passes_of_pass {removed : List RemovedEntry}
    {result : Surgery × Except LongNumeral (List RemovedEntry)}
    (nonempty : emptyFolders s.lines ≠ [])
    (ok : removeIds c s (emptyFolders s.lines) = (after, .ok removed))
    (rest : ∃ n ≤ (registered after.lines).length, Passes c n after result) :
    ∃ n ≤ (registered s.lines).length, Passes c n s (continued removed result) := by
  obtain ⟨n, le, passes⟩ := rest
  have lt := length_registered_lt nonempty ok
  exact ⟨n + 1, by omega, passes.pass nonempty ok⟩

/-- **Pruning ends**, for every manifest, after at most as many passes as there are
registrations. -/
theorem exists_passes (c : Conventions) (s : Surgery) :
    ∃ n ≤ (registered s.lines).length, Passes c n s (pruneFolders c s) := by
  fun_induction pruneFolders c s with
  | case1 s empty => exact ⟨0, Nat.zero_le _, .settled empty⟩
  | case2 s id ids empty after e pass =>
    obtain ⟨e, mem, -⟩ := exists_registered_of_mem_emptyFolders
      (empty ▸ List.mem_cons_self : id ∈ emptyFolders s.lines)
    exact ⟨1, List.length_pos_of_mem mem, .failed (by simp [empty]) (empty ▸ pass)⟩
  | case3 s id ids empty after removed pass done e rest ih =>
    exact exists_passes_of_pass (by simp [empty]) (empty ▸ pass) (rest ▸ ih)
  | case4 s id ids empty after removed pass done more rest ih =>
    exact exists_passes_of_pass (by simp [empty]) (empty ▸ pass) (rest ▸ ih)

/-- No folder is empty when pruning ends. -/
theorem emptyFolders_of_pruneFolders (ok : pruneFolders c s = (after, .ok pruned)) :
    emptyFolders after.lines = [] := by
  fun_induction pruneFolders c s generalizing pruned with
  | case1 s empty =>
    cases ok
    exact empty
  | case2 s id ids empty middle e pass => cases ok
  | case3 s id ids empty middle removed pass done e rest => cases ok
  | case4 s id ids empty middle removed pass done more rest ih =>
    cases ok
    exact ih rest

/-- What pruning leaves. -/
theorem pruneFolders_cleared (orderly : Orderly s.lines) (distinct : DistinctIds s.lines)
    (ok : pruneFolders c s = (after, .ok pruned)) :
    Cleared c (pruned.map (·.id)) s.lines after.lines :=
  removeIds_cleared orderly distinct (pruneFolders_eq c s ▸ ok)

end Surgery

/-! ### The least set -/

/-- A folder without items belongs to the set if all entries that nesting lines put into it do. -/
def ClosedUnderEmptying (lines : List Text) (P : EntryId → Prop) : Prop :=
  ∀ b ∈ Block.scan lines, b.isFolder = true → b.hasItems = false →
    (∀ p ∈ nestingPairs lines, p.2 = b.id → P p.1) → P b.id

/-- An empty folder, wherever its block stands. -/
theorem mem_emptyFolders_iff {id : EntryId} : id ∈ Surgery.emptyFolders lines ↔
    (∃ b ∈ outline lines, b.id = id ∧ b.isFolder = true ∧ b.hasItems = false) ∧
      ∀ p ∈ nestingPairs lines, p.2 ≠ id := by
  simp only [Surgery.emptyFolders_eq, List.mem_map, List.mem_filter, Bool.and_eq_true,
    Bool.not_eq_true', ← Bool.not_eq_true, List.contains_iff_mem]
  constructor
  · rintro ⟨b, ⟨hb, ⟨folder, bare⟩, childless⟩, rfl⟩
    exact ⟨⟨b, hb, rfl, folder, bare⟩, fun p hp same => childless ⟨p, hp, same⟩⟩
  · rintro ⟨⟨b, hb, rfl, folder, bare⟩, childless⟩
    refine ⟨b, ⟨hb, ⟨folder, bare⟩, ?_⟩, rfl⟩
    rintro ⟨p, hp, same⟩
    exact childless p hp same

/-- What pruning takes out of the lines of a manifest, by identifier and in order, and the lines
that it leaves. -/
structure Prunes (lines : List Text) (gone : List EntryId) (lines' : List Text) : Prop where
  once : gone.Nodup
  closed : ClosedUnderEmptying lines (· ∈ gone)
  least : ∀ P, ClosedUnderEmptying lines P → ∀ id ∈ gone, P id
  inward : ∀ p ∈ nestingPairs lines, p.2 ∈ gone → [p.1, p.2].Sublist gone
  nesting : ∀ p ∈ nestingPairs lines', p.1 ∉ gone ∧ p.2 ∉ gone
  registered : ∀ b ∈ Block.scan lines', b.id ∉ gone

namespace Surgery

variable {s after : Surgery} {pruned : List RemovedEntry}

/-- **When the turn of a folder comes, everything in it has been taken out.** -/
theorem emptied_in_turn (orderly : Orderly s.lines) (distinct : DistinctIds s.lines)
    (ok : pruneFolders c s = (after, .ok pruned)) {e : RemovedEntry} (mem : e ∈ pruned) :
    ∃ gone rest, pruned = gone ++ rest ∧ e ∈ rest ∧
      (∃ b ∈ Block.scan s.lines, b.id = e.id ∧ b.isFolder = true ∧ b.hasItems = false) ∧
      ∀ p ∈ nestingPairs s.lines, p.2 = e.id → p.1 ∈ gone.map (·.id) := by
  obtain ⟨ids, middle, gone, later, ⟨rest, rfl⟩, empty⟩ := emptied_of_mem_pruneFolders ok mem
  have cleared := removeIds_cleared orderly distinct later
  obtain ⟨⟨b, hb, same, folder, bare⟩, childless⟩ := mem_emptyFolders_iff.1 empty
  rw [cleared.outline, List.mem_filter, decide_eq_true_eq] at hb
  obtain ⟨hb, left⟩ := hb
  refine ⟨gone, rest, rfl, ?_, ?_, fun p hp child => ?_⟩
  · refine (List.mem_append.1 mem).resolve_left fun taken => left ?_
    exact same ▸ List.mem_map_of_mem taken
  · obtain ⟨b', hb', rfl⟩ := List.mem_map.1 hb
    exact ⟨b', hb', same, folder, bare⟩
  · by_contra kept
    refine childless p ?_ child
    rw [cleared.nesting]
    exact List.mem_filter.2 ⟨hp, by simpa using kept⟩

/-- A folder that is empty without some entries of a closed set belongs to the set. -/
theorem of_mem_emptyFolders {gone : List EntryId} {P : EntryId → Prop}
    (cleared : Cleared c gone lines s.lines) (closed : ClosedUnderEmptying lines P)
    (before : ∀ id ∈ gone, P id) {id : EntryId} (mem : id ∈ emptyFolders s.lines) : P id := by
  obtain ⟨⟨b, hb, rfl, folder, bare⟩, childless⟩ := mem_emptyFolders_iff.1 mem
  rw [cleared.outline, List.mem_filter] at hb
  obtain ⟨b', hb', rfl⟩ := List.mem_map.1 hb.1
  refine closed b' hb' folder bare fun p hp child => ?_
  by_contra kept
  have here : p ∈ nestingPairs s.lines := by
    rw [cleared.nesting]
    exact List.mem_filter.2 ⟨hp, by simpa using fun taken => kept (before _ taken)⟩
  exact childless p here child

/-- Pruning stays inside of every closed set. -/
theorem least_of_pruneFolders (orderly : Orderly s.lines) (distinct : DistinctIds s.lines)
    (ok : pruneFolders c s = (after, .ok pruned)) {gone : List EntryId} {P : EntryId → Prop}
    (cleared : Cleared c gone lines s.lines) (closed : ClosedUnderEmptying lines P)
    (before : ∀ id ∈ gone, P id) : ∀ e ∈ pruned, P e.id := by
  fun_induction pruneFolders c s generalizing pruned gone with
  | case1 s empty =>
    cases ok
    exact List.forall_mem_nil _
  | case2 s id ids empty middle e pass => cases ok
  | case3 s id ids empty middle removed pass done e rest => cases ok
  | case4 s id ids empty middle removed pass done more rest ih =>
    cases ok
    have here := removeIds_cleared orderly distinct pass
    have now : ∀ e ∈ removed, P e.id := fun e mem =>
      of_mem_emptyFolders cleared closed before (empty ▸ (removeIds_registered pass).2 e mem)
    refine List.forall_mem_append.2 ⟨now, ih here.orderly (here.distinct distinct) rest
      (cleared.trans here) (List.forall_mem_append.2 ⟨before, ?_⟩)⟩
    exact List.forall_mem_map.2 now

/-- What pruning takes out, and what it leaves. -/
theorem prunes_of_pruneFolders (orderly : Orderly s.lines) (distinct : DistinctIds s.lines)
    (ok : pruneFolders c s = (after, .ok pruned)) :
    Prunes s.lines (pruned.map (·.id)) after.lines := by
  have cleared := pruneFolders_cleared orderly distinct ok
  have ids : ((registered s.lines).map (·.id)).Perm
      (pruned.map (·.id) ++ (registered after.lines).map (·.id)) := by
    rw [← List.map_append]
    exact (removeIds_registered (pruneFolders_eq c s ▸ ok)).1.map _
  have apart := ids.nodup_iff.1 (map_id_registered s.lines ▸ distinct)
  have inward : ∀ p ∈ nestingPairs s.lines, p.2 ∈ pruned.map (·.id) →
      [p.1, p.2].Sublist (pruned.map (·.id)) := by
    intro p hp taken
    obtain ⟨e, mem, same⟩ := List.mem_map.1 taken
    obtain ⟨gone, rest, rfl, later, -, children⟩ := emptied_in_turn orderly distinct ok mem
    rw [List.map_append]
    exact (List.singleton_sublist.2 (children p hp same.symm)).append
      (List.singleton_sublist.2 (same ▸ List.mem_map_of_mem later))
  constructor
  case once => exact (List.nodup_append.1 apart).1
  case closed =>
    intro b hb folder bare children
    by_contra kept
    -- Otherwise the folder would be empty in the end.
    have empty : b.id ∈ emptyFolders after.lines := by
      refine mem_emptyFolders_iff.2 ⟨⟨b.unplaced, ?_, rfl, folder, bare⟩, fun p hp child => ?_⟩
      · rw [cleared.outline]
        exact List.mem_filter.2 ⟨List.mem_map_of_mem hb, by simpa [Block.unplaced] using kept⟩
      · rw [cleared.nesting, List.mem_filter, decide_eq_true_eq] at hp
        exact hp.2 (children p hp.1 child)
    rw [emptyFolders_of_pruneFolders ok] at empty
    cases empty
  case least =>
    intro P closed
    exact List.forall_mem_map.2 (least_of_pruneFolders orderly distinct ok
      (Cleared.refl c orderly) closed (List.forall_mem_nil _))
  case inward => exact inward
  case nesting =>
    intro p hp
    rw [cleared.nesting, List.mem_filter, decide_eq_true_eq] at hp
    exact ⟨hp.2, fun parent => hp.2 ((inward p hp.1 parent).subset List.mem_cons_self)⟩
  case registered =>
    intro b hb taken
    have here : b.id ∈ (registered after.lines).map (·.id) := by
      rw [← map_entry_scan, List.map_map]
      exact List.mem_map_of_mem (f := (·.id) ∘ Block.entry) hb
    exact (List.nodup_append.1 apart).2.2 _ taken _ here rfl

/-- **Pruning ends and computes a least fixed point.** For every manifest pruning ends, after at
most as many passes as there are registrations. In an orderly manifest with distinct identifiers it
succeeds. The folders that it takes out are pairwise distinct, and they are the least set that a
folder without items belongs to as soon as all entries in it do. What lies in such a folder is taken
out before it. Neither a nesting line nor a registration of any of them is left. -/
theorem pruneFolders_least (c : Conventions) (s : Surgery) :
    (∃ n ≤ (registered s.lines).length, Passes c n s (pruneFolders c s)) ∧
    (Orderly s.lines → DistinctIds s.lines → ∃ after pruned,
      pruneFolders c s = (after, .ok pruned) ∧
        Prunes s.lines (pruned.map (·.id)) after.lines) := by
  refine ⟨exists_passes c s, fun orderly distinct => ?_⟩
  obtain ⟨after, pruned, ok⟩ := pruneFolders_isOk (c := c) orderly distinct
  exact ⟨after, pruned, ok, prunes_of_pruneFolders orderly distinct ok⟩

/-- The block of an empty folder with some name and identifier. -/
def folderBlock (name : Char) (id : EntryId) : List Text :=
  ["Project(\"\x7b2150E333-8FDC-42A3-9474-1A3956D46DE8\x7d\") = \"".toList ++ name ::
      "\", \"".toList ++ name :: "\", \"\x7b".toList ++ id ++ "\x7d\"".toList,
    "EndProject".toList]

/-- The lines of a manifest with a folder that holds an empty one, and a folder that lies in
itself. -/
def chainLines : List Text :=
  folderBlock 'A' Removal.sampleFolderId ++ folderBlock 'B' Removal.secondProjectId ++
    folderBlock 'C' Removal.sampleProjectId ++
    ["Global".toList,
      "GlobalSection(NestedProjects) = preSolution".toList,
      "\x7b".toList ++ Removal.secondProjectId ++ "\x7d = \x7b".toList ++
        Removal.sampleFolderId ++ "\x7d".toList,
      "\x7b".toList ++ Removal.sampleProjectId ++ "\x7d = \x7b".toList ++
        Removal.sampleProjectId ++ "\x7d".toList,
      "EndGlobalSection".toList,
      "EndGlobal".toList]

/-- The manifest with these lines. -/
def chainSample : Text := Text.join ['\n'] chainLines

theorem wellFormed_chainSample : WellFormed chainSample :=
  wellFormed_of_lines (chainLines.take 6) "Global".toList (chainLines.drop 7)
    (by decide +kernel)

/-- The inner folder of the sample goes first, then the outer one, and the third one stays. -/
theorem pruneFolders_least_chainSample :
    Orderly (ofText chainSample).lines ∧ DistinctIds (ofText chainSample).lines ∧
      ∃ after pruned, pruneFolders .standard (ofText chainSample) = (after, .ok pruned) ∧
        Prunes (ofText chainSample).lines (pruned.map (·.id)) after.lines ∧
        pruned.map (·.id) = [Removal.secondProjectId, Removal.sampleFolderId] := by
  have distinct := distinctIds_iff.2 wellFormed_chainSample.distinct
  obtain ⟨after, pruned, ok, prunes⟩ := (pruneFolders_least .standard (ofText chainSample)).2
    wellFormed_chainSample.orderly distinct
  have ids : (pruneFolders .standard (ofText chainSample)).2.toOption.map
      (fun es => es.map (·.id)) = some [Removal.secondProjectId, Removal.sampleFolderId] := by
    decide +kernel
  rw [ok] at ids
  exact ⟨wellFormed_chainSample.orderly, distinct, after, pruned, ok, prunes, Option.some.inj ids⟩

end Surgery

end SolutionSweep
