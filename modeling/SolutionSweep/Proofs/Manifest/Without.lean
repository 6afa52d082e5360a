import SolutionSweep.Proofs.Manifest.Outline
import SolutionSweep.Proofs.Manifest.Rendering
import SolutionSweep.Proofs.Manifest.Pruning
import Mathlib.Data.List.Nodup

/-!
# A manifest without some entries

What a manifest says once some entries have been taken out: the blocks of the others, the nesting
lines of the others, and a book of version control that can still be read. Removals compose, pruning
takes out folders that are nobody's parents, and blank lines do not matter.

* `Without`: a manifest and what is left of it;
* `Without.trans`: taking out more;
* `removeIds_without`, `pruneFolders_without`: runs of removals, and pruning.
-/

namespace SolutionSweep

/-- A line that can be written and read again: it has no line breaks and does not start with a byte
order mark. -/
structure IsWritable (l : Text) : Prop where
  line : IsLine l
  unmarked : l.head? ≠ some Text.byteOrderMark

/-- The second list of lines says what the first one does, some entries aside. -/
structure Without (c : Conventions) (gone : List EntryId) (lines lines' : List Text) : Prop where
  orderly : Orderly lines'
  outline : outline lines' = (outline lines).filter (·.id ∉ gone)
  nesting : nestingPairs lines' = (nestingPairs lines).filter (·.1 ∉ gone)
  readable : Readable (bookLines c lines')
  writable : (∀ l ∈ lines, IsWritable l) → ∀ l ∈ lines', IsWritable l

variable {c : Conventions} {lines lines' lines'' : List Text}

/-- The blocks have pairwise distinct identifiers. -/
def DistinctIds (lines : List Text) : Prop := ((outline lines).map (·.id)).Nodup

theorem Without.refl (c : Conventions) (orderly : Orderly lines)
    (readable : Readable (bookLines c lines)) : Without c [] lines lines where
  orderly := orderly
  outline := by simp
  nesting := by simp
  readable := readable
  writable h := h

/-- Taking out entries in two steps. -/
theorem filter_not_mem_append {α : Type} (key : α → EntryId) (gone gone' : List EntryId)
    (xs : List α) :
    (xs.filter (key · ∉ gone)).filter (key · ∉ gone') = xs.filter (key · ∉ gone ++ gone') := by
  rw [List.filter_filter]
  refine List.filter_congr fun x _ => ?_
  rw [← Bool.decide_and, decide_eq_decide, List.mem_append, not_or]
  exact and_comm

theorem Without.trans {gone gone' : List EntryId} (h : Without c gone lines lines')
    (h' : Without c gone' lines' lines'') : Without c (gone ++ gone') lines lines'' where
  orderly := h'.orderly
  outline := by rw [h'.outline, h.outline, filter_not_mem_append Block.id]
  nesting := by rw [h'.nesting, h.nesting, filter_not_mem_append Prod.fst]
  readable := h'.readable
  writable w := h'.writable (h.writable w)

theorem Without.distinct {gone : List EntryId} (h : Without c gone lines lines')
    (distinct : DistinctIds lines) : DistinctIds lines' := by
  unfold DistinctIds at distinct ⊢
  rw [h.outline]
  exact distinct.sublist (List.filter_sublist.map _)

/-! ### One removal -/

/-- Rewriting a line brings in no line breaks. -/
theorem Renumbered.isLine {l l' : Text} (h : Renumbered l l') (line : IsLine l) : IsLine l' := by
  constructor
  · intro mem
    rcases h.isDigit_of_mem mem with mem | digit
    · exact line.lineFeed mem
    · exact absurd digit (by decide)
  · intro mem
    rcases h.isDigit_of_mem mem with mem | digit
    · exact line.carriageReturn mem
    · exact absurd digit (by decide)

/-- Rewriting a line keeps it writable. -/
theorem Renumbered.isWritable {l l' : Text} (h : Renumbered l l') (w : IsWritable l) :
    IsWritable l' := by
  refine ⟨h.isLine w.line, fun head => ?_⟩
  rcases h.eq_or_initial? with rfl | ⟨-, scc⟩
  · exact w.unmarked head
  · obtain ⟨rest, rfl⟩ := List.head?_eq_some_iff.1 head
    rw [Line.initial?, Text.skipWhite_cons (by decide)] at scc
    exact absurd (Option.some.inj scc) (by decide)

/-- With distinct identifiers, taking out a block takes the entry out of the outline. -/
theorem Removes.outline_eq {b : Block} (h : Removes c b lines lines') (closed : BlocksClosed lines)
    (distinct : DistinctIds lines) : outline lines' = (outline lines).filter (·.id ∉ [b.id]) := by
  obtain ⟨front, _, _, _, back, _, _, excised⟩ := h.excised
  obtain ⟨old, new⟩ := excised.outline_eq closed
  -- The filter takes out the block, and no other since none shares its identifier.
  rw [DistinctIds, old, List.map_append, List.map_cons, List.nodup_middle, List.nodup_cons,
    ← List.map_append] at distinct
  have others : ∀ x ∈ outline front ++ outline back, x.id ∉ [b.id] := fun x mem same =>
    distinct.1 (List.mem_map.2 ⟨x, mem, List.mem_singleton.1 same⟩)
  rw [old, new, List.filter_append, List.filter_cons_of_neg (by simp [Block.unplaced]),
    ← List.filter_append]
  exact (List.filter_eq_self.2 fun x mem => by simpa using others x mem).symm

theorem Removes.nesting_eq {b : Block} (h : Removes c b lines lines') :
    nestingPairs lines' = (nestingPairs lines).filter (·.1 ∉ [b.id]) := by
  rw [h.nesting]
  refine List.filter_congr fun p _ => ?_
  simp

/-- With distinct identifiers, taking out a block takes out the entry. -/
theorem Removes.without {b : Block} (h : Removes c b lines lines') (closed : BlocksClosed lines)
    (readable : Readable (bookLines c lines)) (distinct : DistinctIds lines) :
    Without c [b.id] lines lines' where
  orderly := h.orderly
  outline := h.outline_eq closed distinct
  nesting := h.nesting_eq
  readable := h.readable readable
  writable w l' mem := by
    obtain ⟨l, mem, pair⟩ := h.characters l' mem
    exact pair.isWritable (w l mem)

namespace Surgery

variable {s : Surgery}

theorem removeId_without (orderly : Orderly s.lines) (readable : Readable (bookLines c s.lines))
    (distinct : DistinctIds s.lines) (id : EntryId) :
    ∃ after removed, removeId c s id = (after, .ok removed) ∧
      Without c (removed.toList.map (·.id)) s.lines after.lines ∧
      ∀ e ∈ removed.toList, e.id = id := by
  obtain ⟨after, removed, eq, ⟨-, rfl, same⟩ | ⟨b, found, rfl, effect⟩⟩ :=
    removeId_cases c orderly readable id
  · refine ⟨after, none, eq, ?_, by simp⟩
    rw [same]
    exact Without.refl c orderly readable
  · refine ⟨after, _, eq, effect.without orderly.blocks readable distinct, fun e mem => ?_⟩
    obtain rfl : b.entry = e := Option.some.inj (Option.mem_toList.1 mem)
    exact (Block.exists_at_of_find? orderly.blocks found).1

/-- A run of removals. -/
theorem removeIds_without (orderly : Orderly s.lines) (readable : Readable (bookLines c s.lines))
    (distinct : DistinctIds s.lines) (ids : List EntryId) :
    ∃ after removed, removeIds c s ids = (after, .ok removed) ∧
      Without c (removed.map (·.id)) s.lines after.lines ∧ ∀ e ∈ removed, e.id ∈ ids := by
  induction ids generalizing s with
  | nil => exact ⟨s, [], rfl, Without.refl c orderly readable, nofun⟩
  | cons id ids ih =>
    obtain ⟨middle, first, eq, without, same⟩ := removeId_without orderly readable distinct id
    obtain ⟨after, more, eq', without', among⟩ :=
      ih without.orderly without.readable (without.distinct distinct)
    refine ⟨after, first.toList ++ more, removeIds_cons_of_ok eq eq', ?_, fun e mem => ?_⟩
    · rw [List.map_append]
      exact without.trans without'
    · rcases List.mem_append.1 mem with mem | mem
      · exact same e mem ▸ List.mem_cons_self
      · exact List.mem_cons_of_mem id (among e mem)

/-! ### Pruning -/

theorem map_parent_scan (lines : List Text) :
    (NestingLine.scan lines (nestingSection? lines)).map (fun n => (n.child, n.parent)) =
      nestingPairs lines := by
  rw [NestingLine.scan, nestingPairs, Section.linesOf, List.map_filterMap, List.filterMap_map]
  refine List.filterMap_congr fun p _ => ?_
  cases read : Line.nesting? p.1 <;> simp [read]

/-- An empty folder is nobody's parent. -/
theorem not_parent_of_mem_emptyFolders {id : EntryId} (mem : id ∈ emptyFolders lines) :
    ∀ p ∈ nestingPairs lines, p.2 ≠ id := by
  intro p hp same
  rw [← map_parent_scan] at hp
  obtain ⟨n, hn, rfl⟩ := List.mem_map.1 hp
  obtain ⟨b, folder, rfl⟩ := List.mem_map.1 mem
  have empty := (List.mem_filter.1 folder).2
  simp only [Bool.and_eq_true, Bool.not_eq_true', ← Bool.not_eq_true, List.contains_iff_mem]
    at empty
  exact empty.2 (List.mem_map.2 ⟨n, hn, same⟩)

/-- Pruning takes out entries that are nobody's parents. -/
theorem pruneFolders_without (orderly : Orderly s.lines)
    (readable : Readable (bookLines c s.lines)) (distinct : DistinctIds s.lines) :
    ∃ after pruned, pruneFolders c s = (after, .ok pruned) ∧
      Without c (pruned.map (·.id)) s.lines after.lines ∧
      ∀ e ∈ pruned, ∀ p ∈ nestingPairs after.lines, p.2 ≠ e.id := by
  fun_induction pruneFolders c s with
  | case1 s empty =>
    exact ⟨s, [], rfl, Without.refl c orderly readable, List.forall_mem_nil _⟩
  | case2 s id ids empty after e pass =>
    obtain ⟨_, _, eq, -⟩ := removeIds_without orderly readable distinct (id :: ids)
    rw [pass] at eq
    cases eq
  | case3 s id ids empty after removed pass done e rest ih =>
    obtain ⟨_, _, eq, without, -⟩ := removeIds_without orderly readable distinct (id :: ids)
    rw [pass] at eq
    cases eq
    obtain ⟨_, _, eq, -⟩ :=
      ih without.orderly without.readable (without.distinct distinct)
    rw [rest] at eq
    cases eq
  | case4 s id ids empty after removed pass done more rest ih =>
    obtain ⟨_, _, eq, without, among⟩ := removeIds_without orderly readable distinct (id :: ids)
    rw [pass] at eq
    cases eq
    obtain ⟨_, _, eq, without', leaves⟩ :=
      ih without.orderly without.readable (without.distinct distinct)
    rw [rest] at eq
    cases eq
    refine ⟨done, removed ++ more, rfl, ?_, fun e mem p hp => ?_⟩
    · rw [List.map_append]
      exact without.trans without'
    · rcases List.mem_append.1 mem with mem | mem
      · -- A folder of this pass had no children when it was chosen, and removals bring in none.
        have old : p ∈ nestingPairs s.lines := by
          rw [without'.nesting, without.nesting] at hp
          exact List.mem_of_mem_filter (List.mem_of_mem_filter hp)
        exact not_parent_of_mem_emptyFolders (empty ▸ among e mem) p old
      · exact leaves e mem p hp

end Surgery

/-! ### Blank lines -/

theorem outline_nonblank (closed : BlocksClosed lines) : outline (nonblank lines) = outline lines :=
  outline_thinned (thinned_nonblank lines) closed

theorem nestingPairs_nonblank (orderly : Orderly lines) :
    nestingPairs (nonblank lines) = nestingPairs lines :=
  filterMap_linesOf_nonblank orderly _ fun l blank =>
    Line.nesting?_eq_none (by simp [Line.initial?_eq_none blank])

/-- Without its blank lines a manifest says the same. -/
theorem without_nonblank (c : Conventions) (orderly : Orderly lines)
    (readable : Readable (bookLines c lines)) : Without c [] lines (nonblank lines) where
  orderly := orderly.nonblank
  outline := by simp [outline_nonblank orderly.blocks]
  nesting := by simp [nestingPairs_nonblank orderly]
  readable := readable.nonblank orderly
  writable w l mem := w l (mem_of_mem_nonblank mem)

end SolutionSweep
