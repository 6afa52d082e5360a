import SolutionSweep.Proofs.Manifest.Batch
import SolutionSweep.Proofs.Manifest.Denotation

/-!
# The order of a selection does not matter

A removal takes out the same entries in whatever order they are selected, and so it leaves the same
lines outside of the book of version control: those of one deletion from the original lines. Nor
does it depend on the order whether a removal succeeds: if the numerals of the book cannot all be
read, it succeeds if none of the entries has an index in the book.

* `Agree`, `removeIds_agree`, `pruneFolders_agree`: runs that take out the same entries;
* `removeIds_isOk_of_subset`, `pruneFolders_isOk`: runs that succeed;
* `footprint`, `withoutBook`: the lines that go with some entries, and those outside of the book;
* `Removal.apply_batch`: a removal as one deletion, whatever the order of the selection.
-/

namespace SolutionSweep

open Document (linesExcept)

variable {c : Conventions} {lines lines' : List Text}

/-! ### Runs that take out the same -/

/-- Two lists of lines that agree in all that goes with entries. -/
structure Agree (c : Conventions) (lines lines' : List Text) : Prop where
  outline : outline lines' = outline lines
  nesting : nestingPairs lines' = nestingPairs lines
  outside : outside c .start lines' = outside c .start lines

theorem Agree.refl (c : Conventions) (lines : List Text) : Agree c lines lines := ⟨rfl, rfl, rfl⟩

/-- Taking out the same keeps the agreement. -/
theorem Cleared.agree {before before' : List Text} {gone gone' : List EntryId}
    (h : Cleared c gone before lines) (h' : Cleared c gone' before' lines')
    (agree : Agree c before before') (same : ∀ id, id ∈ gone' ↔ id ∈ gone) :
    Agree c lines lines' where
  outline := by
    rw [h.outline, h'.outline, agree.outline]
    refine List.filter_congr fun b _ => ?_
    rw [decide_eq_decide, same]
  nesting := by
    rw [h.nesting, h'.nesting, agree.nesting]
    refine List.filter_congr fun p _ => ?_
    rw [decide_eq_decide, same]
  outside := by
    rw [h.outside, h'.outside, agree.outside]
    refine List.filter_congr fun q _ => ?_
    rw [Bool.not_inj_iff, Bool.eq_iff_iff, List.any_eq_true, List.any_eq_true]
    exact exists_congr fun id => and_congr_left' (same id)

namespace Surgery

variable {s t after after' : Surgery}

/-- The empty folders in terms of the outline and the nesting lines. -/
theorem emptyFolders_eq (lines : List Text) :
    emptyFolders lines = ((outline lines).filter fun b =>
      b.isFolder && !b.hasItems && !((nestingPairs lines).map (·.2)).contains b.id).map (·.id) := by
  rw [emptyFolders, ← map_parent_scan, outline, List.filter_map, List.map_map, List.map_map]
  rfl

/-- Runs that take out the same entries agree in what they leave. -/
theorem removeIds_agree (orderly : Orderly s.lines) (orderly' : Orderly t.lines)
    (distinct : DistinctIds s.lines) (agree : Agree c s.lines t.lines) {ids ids' : List EntryId}
    (same : ∀ id, id ∈ ids' ↔ id ∈ ids) {removed removed' : List RemovedEntry}
    (ok : removeIds c s ids = (after, .ok removed))
    (ok' : removeIds c t ids' = (after', .ok removed')) : Agree c after.lines after'.lines := by
  have distinct' : DistinctIds t.lines := by rwa [DistinctIds, agree.outline]
  refine (removeIds_cleared orderly distinct ok).agree (removeIds_cleared orderly' distinct' ok')
    agree fun id => ?_
  rw [mem_map_removeIds distinct ok, mem_map_removeIds distinct' ok', same, agree.outline]

/-- A pruning that succeeds: there is no empty folder, or one pass is followed by others. -/
theorem pruneFolders_eq_ok {pruned : List RemovedEntry}
    (ok : pruneFolders c s = (after, .ok pruned)) :
    (emptyFolders s.lines = [] ∧ after = s ∧ pruned = []) ∨
      ∃ id ids middle removed more, emptyFolders s.lines = id :: ids ∧
        removeIds c s (id :: ids) = (middle, .ok removed) ∧
        pruneFolders c middle = (after, .ok more) ∧ pruned = removed ++ more := by
  fun_induction pruneFolders c s with
  | case1 s empty =>
    cases ok
    exact Or.inl ⟨empty, rfl, rfl⟩
  | case2 s id ids empty middle e pass => cases ok
  | case3 s id ids empty middle removed pass done e rest => cases ok
  | case4 s id ids empty middle removed pass done more rest =>
    cases ok
    exact Or.inr ⟨id, ids, middle, removed, more, empty, pass, rest, rfl⟩

/-- Prunings that start in agreement end in agreement. -/
theorem pruneFolders_agree (orderly : Orderly s.lines) (orderly' : Orderly t.lines)
    (distinct : DistinctIds s.lines) (agree : Agree c s.lines t.lines)
    {pruned pruned' : List RemovedEntry} (ok : pruneFolders c s = (after, .ok pruned))
    (ok' : pruneFolders c t = (after', .ok pruned')) : Agree c after.lines after'.lines := by
  have folders : ∀ {s t : Surgery}, Agree c s.lines t.lines →
      emptyFolders t.lines = emptyFolders s.lines := fun agree => by
    rw [emptyFolders_eq, emptyFolders_eq, agree.outline, agree.nesting]
  fun_induction pruneFolders c s generalizing t pruned pruned' with
  | case1 s empty =>
    cases ok
    rcases pruneFolders_eq_ok ok' with ⟨-, rfl, -⟩ | ⟨_, _, _, _, _, nonempty, -⟩
    · exact agree
    · rw [folders agree, empty] at nonempty
      cases nonempty
  | case2 s id ids empty middle e pass => cases ok
  | case3 s id ids empty middle removed pass done e rest ih => cases ok
  | case4 s id ids empty middle removed pass done more rest ih =>
    cases ok
    rcases pruneFolders_eq_ok ok' with
      ⟨none, -⟩ | ⟨id', ids', middle', removed', more', empty', pass', rest', -⟩
    · rw [folders agree, empty] at none
      cases none
    · -- Both passes take out the same folders.
      rw [folders agree, empty] at empty'
      obtain ⟨rfl, rfl⟩ := List.cons.inj empty'
      have distinct' : DistinctIds t.lines := by rwa [DistinctIds, agree.outline]
      have here := removeIds_cleared orderly distinct pass
      have there := removeIds_cleared orderly' distinct' pass'
      exact ih here.orderly there.orderly (here.distinct distinct)
        (removeIds_agree orderly orderly' distinct agree (fun _ => Iff.rfl) pass pass') rest rest'

end Surgery

/-! ### Runs that succeed -/

/-- Two lists of lines of which the same book is read. -/
structure SameBook (c : Conventions) (lines lines' : List Text) : Prop where
  indexed : indexedLines (bookLines c lines') = indexedLines (bookLines c lines)
  counted : countLines (bookLines c lines') = countLines (bookLines c lines)

theorem SameBook.harmless_iff (h : SameBook c lines lines') {e : RemovedEntry} :
    Harmless c lines' e ↔ Harmless c lines e := by
  rw [Harmless, Harmless, indexIn?, indexIn?, h.indexed]

theorem SameBook.readable (h : SameBook c lines lines') (readable : Readable (bookLines c lines')) :
    Readable (bookLines c lines) :=
  ⟨h.indexed ▸ readable.indexed, h.counted ▸ readable.counting⟩

namespace Surgery

variable {s after : Surgery} {ids ids' : List EntryId} {removed : List RemovedEntry}

/-- A harmless removal leaves the book as it is. -/
theorem removeBlock_sameBook (orderly : Orderly s.lines) {id : EntryId} {b : Block}
    (found : Block.find? (Block.scan s.lines) id = some b)
    (harmless : Harmless c s.lines b.entry) {e : RemovedEntry}
    (ok : removeBlock c s b = (after, .ok e)) : SameBook c s.lines after.lines := by
  have removes := removes_of_removeBlock orderly found ok
  have quiet := harmless.releasedIndex?_eq_none
  constructor
  · rw [removes.indexed, quiet, indexedAfter]
  · rw [removes.counted, quiet, countedAfter]

/-- If the numerals of the book cannot all be read, a run of removals that succeeds is harmless. -/
theorem harmless_of_removeIds (orderly : Orderly s.lines) (distinct : DistinctIds s.lines)
    (unreadable : ¬ Readable (bookLines c s.lines))
    (ok : removeIds c s ids = (after, .ok removed)) : ∀ e ∈ removed, Harmless c s.lines e := by
  induction ids generalizing s removed with
  | nil =>
    cases ok
    nofun
  | cons id ids ih =>
    obtain ⟨middle, first, more, one, others, rfl⟩ := removeIds_cons_eq_ok ok
    rcases removeId_eq_ok one with ⟨-, rfl, rfl⟩ | ⟨b, e, found, rfl, taken⟩
    · exact ih (s := s.warn (.entryNotFound id)) orderly distinct unreadable others
    · obtain ⟨rfl, -⟩ := removeBlock_eq_ok taken
      have cleared := removeBlock_cleared orderly distinct found taken
      have harmless : Harmless c s.lines b.entry := by
        rcases removeBlock_shape orderly taken with ⟨harmless, -⟩ | ⟨readable, -⟩
        · exact harmless
        · exact absurd readable unreadable
      have book := removeBlock_sameBook orderly found harmless taken
      have later := ih cleared.orderly (cleared.distinct distinct)
        (fun readable => unreadable (book.readable readable)) others
      intro e mem
      rcases List.mem_append.1 mem with mem | mem
      · obtain rfl : b.entry = e := Option.some.inj (Option.mem_toList.1 mem)
        exact harmless
      · exact book.harmless_iff.1 (later e mem)

/-- A run of harmless removals succeeds. -/
theorem removeIds_isOk (orderly : Orderly s.lines) (distinct : DistinctIds s.lines)
    (harmless : ∀ e ∈ registered s.lines, e.id ∈ ids → Harmless c s.lines e) :
    ∃ after removed, removeIds c s ids = (after, .ok removed) := by
  induction ids generalizing s with
  | nil => exact ⟨s, [], rfl⟩
  | cons id ids ih =>
    have chosen : ∀ e ∈ registered s.lines, e.id ∈ ids → Harmless c s.lines e :=
      fun e mem hid => harmless e mem (List.mem_cons_of_mem id hid)
    cases found : Block.find? (Block.scan s.lines) id with
    | none =>
      obtain ⟨after, more, others⟩ := @ih (s.warn (.entryNotFound id)) orderly distinct chosen
      have one : removeId c s id = (s.warn (.entryNotFound id), .ok none) := by
        rw [removeId, found]
      exact ⟨after, _, removeIds_cons_of_ok one others⟩
    | some b =>
      have same : b.id = id := by simpa using List.find?_some found
      have here : b.entry ∈ registered s.lines :=
        map_entry_scan s.lines ▸ List.mem_map_of_mem (List.mem_of_find?_eq_some found)
      have harmlessHere := harmless b.entry here (by simp [Block.entry, same])
      obtain ⟨middle, taken⟩ := removeBlock_isOk orderly (Or.inr harmlessHere)
      have cleared := removeBlock_cleared orderly distinct found taken
      have book := removeBlock_sameBook orderly found harmlessHere taken
      have erased := registered_of_eraseP (removeBlock_registrations found taken).2
      obtain ⟨after, more, others⟩ := ih cleared.orderly (cleared.distinct distinct)
        fun e mem hid => book.harmless_iff.2
          (chosen e (List.eraseP_sublist.subset (erased ▸ mem)) hid)
      have one : removeId c s id = (middle, .ok (some b.entry)) := by
        rw [removeId, found]
        dsimp only
        rw [taken]
        rfl
      exact ⟨after, _, removeIds_cons_of_ok one others⟩

/-- **Whether a run of removals succeeds does not depend on their order.** -/
theorem removeIds_isOk_of_subset (orderly : Orderly s.lines) (distinct : DistinctIds s.lines)
    (ok : removeIds c s ids = (after, .ok removed)) (subset : ∀ id ∈ ids', id ∈ ids) :
    ∃ after' removed', removeIds c s ids' = (after', .ok removed') := by
  by_cases readable : Readable (bookLines c s.lines)
  · obtain ⟨after', removed', ok', -⟩ := removeIds_without orderly readable distinct ids'
    exact ⟨after', removed', ok'⟩
  · refine removeIds_isOk orderly distinct fun e mem chosen => ?_
    refine harmless_of_removeIds orderly distinct readable ok e ?_
    exact mem_of_removeIds ok (map_id_registered s.lines ▸ distinct) mem (subset e.id chosen)

/-- With distinct identifiers, what is registered under that of an empty folder is a folder. -/
theorem harmless_of_mem_emptyFolders (distinct : DistinctIds s.lines) {e : RemovedEntry}
    (mem : e ∈ registered s.lines) (empty : e.id ∈ emptyFolders s.lines) :
    Harmless c s.lines e := by
  obtain ⟨b, hb, same⟩ := List.mem_map.1 empty
  obtain ⟨hb, folder⟩ := List.mem_filter.1 hb
  have here : b.entry ∈ registered s.lines := map_entry_scan s.lines ▸ List.mem_map_of_mem hb
  have distinct : ((registered s.lines).map (·.id)).Nodup := map_id_registered s.lines ▸ distinct
  obtain rfl : b.entry = e := List.inj_on_of_nodup_map distinct here mem same
  intro project
  simp only [Bool.and_eq_true] at folder
  simp [Block.entry, folder.1.1] at project

/-- **Pruning succeeds**, since it only takes out folders. -/
theorem pruneFolders_isOk (orderly : Orderly s.lines) (distinct : DistinctIds s.lines) :
    ∃ after pruned, pruneFolders c s = (after, .ok pruned) := by
  fun_induction pruneFolders c s with
  | case1 s empty => exact ⟨s, [], rfl⟩
  | case2 s id ids empty middle e pass =>
    have harmless : ∀ e ∈ registered s.lines, e.id ∈ id :: ids → Harmless c s.lines e :=
      fun e mem chosen => harmless_of_mem_emptyFolders distinct mem (empty ▸ chosen)
    obtain ⟨_, _, ok⟩ := removeIds_isOk orderly distinct harmless
    rw [pass] at ok
    cases ok
  | case3 s id ids empty middle removed pass done e rest ih =>
    have cleared := removeIds_cleared orderly distinct pass
    obtain ⟨_, _, ok⟩ := ih cleared.orderly (cleared.distinct distinct)
    rw [rest] at ok
    cases ok
  | case4 s id ids empty middle removed pass done more rest ih => exact ⟨_, _, rfl⟩

end Surgery

/-! ### The batch -/

/-- The lines outside of the book of version control. -/
def withoutBook (c : Conventions) (lines : List Text) : List Text :=
  linesExcept (bookIndices c lines) 0 lines

/-- The indices of the lines that go with some entries: those of their blocks, their build
configuration lines, and the nesting lines that put them into folders. -/
def footprint (lines : List Text) (gone : List EntryId) : List Nat :=
  ((Block.scan lines).filter (·.id ∈ gone)).flatMap (·.span.indices) ++
    gone.flatMap (configIndices lines) ++ gone.flatMap (childIndices lines)

theorem withoutBook_eq (orderly : Orderly lines) :
    withoutBook c lines = (outside c .start lines).map (·.2) := by
  rw [withoutBook, outside]
  refine (map_filter_placed (fun p l => !p.booked l) fun i l at_ => ?_).symm
  rw [Nat.zero_add, mem_bookIndices orderly at_, Bool.not_eq_false']
  rfl

/-- With distinct identifiers, the footprint consists of the lines that go with one of the
entries. -/
theorem mem_footprint (orderly : Orderly lines) (distinct : DistinctIds lines) {gone : List EntryId}
    (known : ∀ id ∈ gone, id ∈ (outline lines).map (·.id)) {i : Nat} {l : Text}
    (at_ : lines[i]? = some l) :
    i ∈ footprint lines gone ↔
      (gone.any fun id => (placeAt c lines i).keyedBy id l) = true := by
  have keyed {b : Block} (hb : b ∈ Block.scan lines) :
      (placeAt c lines i).keyedBy b.id l = true ↔ i ∈ keyedIndices lines b := by
    have found : Block.find? (Block.scan lines) b.id = some b :=
      find?_of_mem_firsts (by rwa [firsts_eq_self (distinctIds_iff.1 distinct)])
    obtain ⟨-, _, _, _, _, _, h⟩ := Block.exists_at_of_find? orderly.blocks found
    exact keyedBy_iff orderly (map_id_registered lines ▸ distinct) h at_
  have block : ∀ id ∈ gone, ∃ b ∈ Block.scan lines, b.id = id := by
    intro id chosen
    have here := known id chosen
    rw [outline, List.map_map] at here
    exact List.mem_map.1 here
  simp only [footprint, List.mem_append, List.mem_flatMap, List.mem_filter, decide_eq_true_eq,
    List.any_eq_true]
  constructor
  · rintro ((⟨b, ⟨hb, chosen⟩, mem⟩ | ⟨id, chosen, mem⟩) | ⟨id, chosen, mem⟩)
    · exact ⟨b.id, chosen, (keyed hb).2 (by simp [keyedIndices, mem])⟩
    · obtain ⟨b, hb, rfl⟩ := block id chosen
      exact ⟨b.id, chosen, (keyed hb).2 (by simp [keyedIndices, mem])⟩
    · obtain ⟨b, hb, rfl⟩ := block id chosen
      exact ⟨b.id, chosen, (keyed hb).2 (by simp [keyedIndices, mem])⟩
  · rintro ⟨id, chosen, here⟩
    obtain ⟨b, hb, rfl⟩ := block id chosen
    have mem := (keyed hb).1 here
    rw [keyedIndices, List.mem_append, List.mem_append] at mem
    rcases mem with (mem | mem) | mem
    · exact Or.inl (Or.inl ⟨b, ⟨hb, chosen⟩, mem⟩)
    · exact Or.inl (Or.inr ⟨b.id, chosen, mem⟩)
    · exact Or.inr ⟨b.id, chosen, mem⟩

/-- Dropping blank lines filters the lines with their places. -/
theorem outside_nonblank (c : Conventions) (d : Document) :
    outside c .start (nonblank d.lines) =
      (outside c .start d.lines).filter fun q => !Text.isBlank q.2 := by
  have deletes : Deletes c .start (fun _ l => Text.isBlank l) d.blankIndices 0 d.lines d.lines := by
    refine ⟨forall₂_renumbered_refl _, fun i l l' at_ at' _ => ?_⟩
    rw [Nat.zero_add, Document.mem_blankIndices]
    refine ⟨Option.some.inj (at'.symm.trans at_), ?_, fun blank => ⟨l, at_, blank⟩⟩
    rintro ⟨l₀, at₀, blank⟩
    rwa [Option.some.inj (at_.symm.trans at₀)]
  rw [← d.lines_stripBlankLines]
  refine deletes.outside_eq fun i l at_ mem => ?_
  rw [Nat.zero_add] at mem
  obtain ⟨l₀, at₀, blank⟩ := Document.mem_blankIndices.1 mem
  rw [Option.some.inj (at_.symm.trans at₀)]
  exact Line.isInert_of_isBlank blank

namespace Removal

variable {text : Text} {selected : List Text} {prune : Bool} {removal : Removal}

/-- The lines outside of the book in the text that a removal leaves. -/
theorem withoutBook_close {gone : List EntryId} {s : Surgery}
    (writable : ∀ l ∈ lines, IsWritable l) (h : Cleared c gone lines s.lines)
    (removed pruned : List RemovedEntry) :
    withoutBook c (Document.ofText (close s removed pruned).text).lines =
      ((outside c .start s.lines).filter fun q => !Text.isBlank q.2).map (·.2) := by
  rw [lines_close h.orderly (h.writable writable), withoutBook_eq h.orderly.nonblank]
  exact congrArg _ (outside_nonblank c s.document)

/-- What the runs of a removal leave, and whose entries they take out. -/
theorem runs_cleared {s after done : Surgery} {ids : List EntryId}
    {removed pruned : List RemovedEntry} (orderly : Orderly s.lines)
    (distinct : DistinctIds s.lines) (run : Surgery.removeIds c s ids = (after, .ok removed))
    (prunes : (if prune then Surgery.pruneFolders c after else (after, .ok [])) =
      (done, .ok pruned)) :
    Cleared c ((removed ++ pruned).map (·.id)) s.lines done.lines ∧
      ∀ id ∈ (removed ++ pruned).map (·.id), id ∈ (outline s.lines).map (·.id) := by
  have first := Surgery.removeIds_cleared orderly distinct run
  -- Pruning is a run of removals like the first one.
  obtain ⟨trace, second⟩ : ∃ trace, Surgery.removeIds c after trace = (done, .ok pruned) := by
    cases prune with
    | false => exact ⟨[], prunes⟩
    | true => exact ⟨_, (Surgery.pruneFolders_eq c after).symm.trans prunes⟩
  have distinct' := first.distinct distinct
  rw [List.map_append]
  refine ⟨first.trans (Surgery.removeIds_cleared first.orderly distinct' second),
    fun id mem => ?_⟩
  rcases List.mem_append.1 mem with mem | mem
  · exact ((Surgery.mem_map_removeIds distinct run).1 mem).2
  · have here := ((Surgery.mem_map_removeIds distinct' second).1 mem).2
    rw [first.outline] at here
    exact (List.filter_sublist.map _).subset here

/-- Another run that is to take out the same succeeds too, and then the same folders are empty. -/
theorem exists_runs_of_same {s after done : Surgery} {ids ids' : List EntryId}
    {removed pruned : List RemovedEntry} (orderly : Orderly s.lines)
    (distinct : DistinctIds s.lines) (run : Surgery.removeIds c s ids = (after, .ok removed))
    (prunes : (if prune then Surgery.pruneFolders c after else (after, .ok [])) =
      (done, .ok pruned)) (same : ∀ id, id ∈ ids' ↔ id ∈ ids) :
    ∃ after' removed' done' pruned', Surgery.removeIds c s ids' = (after', .ok removed') ∧
      (if prune then Surgery.pruneFolders c after' else (after', .ok [])) =
        (done', .ok pruned') ∧ Agree c done.lines done'.lines := by
  obtain ⟨after', removed', run'⟩ :=
    Surgery.removeIds_isOk_of_subset orderly distinct run fun id => (same id).1
  have first := Surgery.removeIds_cleared orderly distinct run
  have first' := Surgery.removeIds_cleared orderly distinct run'
  have agree : Agree c after.lines after'.lines :=
    Surgery.removeIds_agree orderly orderly distinct (Agree.refl c _) same run run'
  cases prune with
  | false =>
    cases prunes
    exact ⟨after', removed', after', [], run', rfl, agree⟩
  | true =>
    obtain ⟨done', pruned', prunes'⟩ :=
      Surgery.pruneFolders_isOk (c := c) first'.orderly (first'.distinct distinct)
    exact ⟨after', removed', done', pruned', run', prunes', Surgery.pruneFolders_agree first.orderly
      first'.orderly (first.distinct distinct) agree prunes prunes'⟩

/-- A removal succeeds if its runs do. -/
theorem apply_of_runs {after done : Surgery} {removed pruned : List RemovedEntry}
    (run : Surgery.removeAll c (Surgery.ofText text) (firsts id (selected.map canonicalId)) =
      (after, .ok removed))
    (prunes : (if prune then Surgery.pruneFolders c after else (after, .ok [])) =
      (done, .ok pruned)) :
    apply c text selected prune = .ok (close done removed pruned) := by
  unfold apply
  rw [run]
  cases prune with
  | false =>
    cases prunes
    rfl
  | true =>
    dsimp only
    rw [if_pos rfl] at prunes ⊢
    rw [prunes]

/-- **A removal is one deletion.** Whatever the order in which entries are taken out, outside of the
book of version control the lines of the text that a removal leaves are the original lines, in their
order, without the blank ones and without those that go with the entries that it has removed or
pruned. So they do not depend on the order of the selection, nor does it depend on the order whether
the removal succeeds. -/
theorem apply_batch (wellFormed : WellFormed text)
    (applied : apply c text selected prune = .ok removal) :
    withoutBook c (Document.ofText removal.text).lines =
      linesExcept (bookIndices c (Document.ofText text).lines ++
        (Document.ofText text).blankIndices ++
        footprint (Document.ofText text).lines
          ((removal.removed ++ removal.prunedFolders).map (·.id))) 0 (Document.ofText text).lines ∧
    ∀ selected', (∀ id, id ∈ selected'.map canonicalId ↔ id ∈ selected.map canonicalId) →
      ∃ removal', apply c text selected' prune = .ok removal' ∧
        withoutBook c (Document.ofText removal'.text).lines =
          withoutBook c (Document.ofText removal.text).lines := by
  have orderly := wellFormed.orderly
  have distinct := distinctIds_iff.2 wellFormed.distinct
  have writable : ∀ l ∈ (Document.ofText text).lines, IsWritable l := fun l mem =>
    ⟨Document.isLine_of_mem_ofText mem, wellFormed.unmarked l mem⟩
  obtain ⟨after, done, run, prunes, closed⟩ := apply_eq_ok applied
  obtain ⟨cleared, known⟩ := runs_cleared (s := Surgery.ofText text) orderly distinct run prunes
  have left : withoutBook c (Document.ofText removal.text).lines =
      ((outside c .start done.lines).filter fun q => !Text.isBlank q.2).map (·.2) := by
    have here : removal.text = (close done removal.removed removal.prunedFolders).text :=
      congrArg Removal.text closed
    rw [here]
    exact withoutBook_close writable cleared _ _
  rw [left]
  constructor
  · rw [cleared.outside, List.filter_filter, outside, List.filter_filter]
    refine map_filter_placed (fun p l => (!Text.isBlank l &&
      !((removal.removed ++ removal.prunedFolders).map (·.id)).any fun id => p.keyedBy id l) &&
        !p.booked l) fun i l at_ => ?_
    have blank : i ∈ (Document.ofText text).blankIndices ↔ Text.isBlank l = true := by
      rw [Document.mem_blankIndices]
      refine ⟨?_, fun blank => ⟨l, at_, blank⟩⟩
      rintro ⟨l₀, at₀, blank⟩
      rwa [Option.some.inj (at_.symm.trans at₀)]
    rw [Nat.zero_add, List.mem_append, List.mem_append, mem_bookIndices orderly at_, blank,
      mem_footprint orderly distinct known at_, placeAt]
    simp only [Bool.and_eq_false_iff, Bool.not_eq_false']
    tauto
  · intro selected' same
    have same' : ∀ x, x ∈ (firsts id (selected'.map canonicalId)).map canonicalId ↔
        x ∈ (firsts id (selected.map canonicalId)).map canonicalId := by
      intro x
      rw [List.mem_map, List.mem_map]
      simp only [mem_firsts_id, same]
    obtain ⟨after', removed', done', pruned', run', prunes', agree⟩ :=
      exists_runs_of_same (s := Surgery.ofText text) orderly distinct run prunes same'
    obtain ⟨cleared', -⟩ :=
      runs_cleared (s := Surgery.ofText text) orderly distinct run' prunes'
    refine ⟨close done' removed' pruned', apply_of_runs run' prunes', ?_⟩
    rw [withoutBook_close writable cleared', agree.outside]

/-- The identifier of the second project in the sample. -/
def secondProjectId : EntryId := "33333333-3333-3333-3333-333333333333".toList

/-- The block of a project with some name and identifier. -/
def bookedBlock (name : Char) (id : EntryId) : List Text :=
  ["Project(\"\x7bFAE04EC0-301F-11D3-BF4B-00C04F79EFBC\x7d\") = \"".toList ++ name ::
      "\", \"".toList ++ name :: ".csproj\", \"\x7b".toList ++ id ++ "\x7d\"".toList,
    "EndProject".toList]

/-- The lines of a manifest with two projects under version control. -/
def bookedLines : List Text :=
  bookedBlock 'A' sampleProjectId ++ [] :: bookedBlock 'B' secondProjectId ++
    ["Global".toList,
      "GlobalSection(TeamFoundationVersionControl) = preSolution".toList,
      "SccNumberOfProjects = 2".toList,
      "SccProjectUniqueName0 = A.csproj".toList,
      "SccProjectUniqueName1 = B.csproj".toList,
      "SccWeb = x".toList,
      "EndGlobalSection".toList,
      "EndGlobal".toList]

/-- The manifest with these lines. -/
def bookedSample : Text := Text.join ['\n'] bookedLines

theorem wellFormed_bookedSample : WellFormed bookedSample :=
  wellFormed_of_lines (bookedLines.take 5) "Global".toList (bookedLines.drop 6) (by decide +kernel)

theorem apply_bookedSample :
    apply .standard bookedSample [sampleProjectId, secondProjectId] false = .ok
      { text := Text.join ['\n'] ["Global".toList,
          "GlobalSection(TeamFoundationVersionControl) = preSolution".toList,
          "SccNumberOfProjects = 0".toList, "SccWeb = x".toList, "EndGlobalSection".toList,
          "EndGlobal".toList]
        removed := [⟨sampleProjectId, "A".toList, "A.csproj".toList, true⟩,
          ⟨secondProjectId, "B".toList, "B.csproj".toList, true⟩]
        prunedFolders := []
        warnings := [] } := by
  decide +kernel

/-- Both projects of the sample are taken out, in either order. -/
theorem apply_batch_bookedSample : WellFormed bookedSample ∧ ∃ removal removal',
    apply .standard bookedSample [sampleProjectId, secondProjectId] false = .ok removal ∧
      apply .standard bookedSample [secondProjectId, sampleProjectId] false = .ok removal' ∧
      withoutBook .standard (Document.ofText removal.text).lines =
        ["Global".toList, "GlobalSection(TeamFoundationVersionControl) = preSolution".toList,
          "SccWeb = x".toList, "EndGlobalSection".toList, "EndGlobal".toList] ∧
      withoutBook .standard (Document.ofText removal'.text).lines =
        withoutBook .standard (Document.ofText removal.text).lines := by
  obtain ⟨batch, reordered⟩ := apply_batch wellFormed_bookedSample apply_bookedSample
  obtain ⟨removal', applied', same⟩ := reordered [secondProjectId, sampleProjectId] fun id => by
    simp [or_comm]
  refine ⟨wellFormed_bookedSample, _, removal', apply_bookedSample, applied', ?_, same⟩
  rw [batch]
  decide +kernel

end Removal

end SolutionSweep
