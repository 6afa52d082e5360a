import SolutionSweep.Proofs.Manifest.Places
import SolutionSweep.Proofs.Manifest.Without

/-!
# Removals one after another are one batch

Each removal looks for its lines in what the removals before it have left, and works with the
indices that the lines have there. All the same, outside of the book of version control a run of
removals leaves what one deletion from the original lines would: a line goes with the entries that
it went with at the beginning, so it does not matter which of them are taken out first.

* `Cleared`: the second list of lines is the first one without the lines of some entries;
* `removeBlock_cleared`, `removeIds_cleared`: one removal, and several.
-/

namespace SolutionSweep

open Document (linesExcept)
open Line (indexed? count?)

variable {c : Conventions} {lines lines' lines'' : List Text}

/-! ### One removal -/

/-- The second list of lines is the first one without the lines that go with some entries, the book
of version control aside. -/
structure Cleared (c : Conventions) (gone : List EntryId) (lines lines' : List Text) : Prop where
  orderly : Orderly lines'
  outline : outline lines' = (outline lines).filter (·.id ∉ gone)
  nesting : nestingPairs lines' = (nestingPairs lines).filter (·.1 ∉ gone)
  outside : outside c .start lines' =
    (outside c .start lines).filter fun q => !gone.any fun id => q.1.keyedBy id q.2
  characters : ∀ l' ∈ lines', ∃ l ∈ lines, Renumbered l l'

theorem Cleared.refl (c : Conventions) (orderly : Orderly lines) : Cleared c [] lines lines where
  orderly := orderly
  outline := by simp
  nesting := by simp
  outside := by simp
  characters l mem := ⟨l, mem, .same⟩

theorem Cleared.trans {gone gone' : List EntryId} (h : Cleared c gone lines lines')
    (h' : Cleared c gone' lines' lines'') : Cleared c (gone ++ gone') lines lines'' where
  orderly := h'.orderly
  outline := by rw [h'.outline, h.outline, filter_not_mem_append Block.id]
  nesting := by rw [h'.nesting, h.nesting, filter_not_mem_append Prod.fst]
  outside := by
    rw [h'.outside, h.outside, List.filter_filter]
    refine List.filter_congr fun q _ => ?_
    rw [List.any_append, Bool.not_or, Bool.and_comm]
  characters l'' mem := by
    obtain ⟨l', mem', pair'⟩ := h'.characters l'' mem
    obtain ⟨l, mem, pair⟩ := h.characters l' mem'
    exact ⟨l, mem, pair.trans pair'⟩

theorem Cleared.distinct {gone : List EntryId} (h : Cleared c gone lines lines')
    (distinct : DistinctIds lines) : DistinctIds lines' := by
  unfold DistinctIds at distinct ⊢
  rw [h.outline]
  exact distinct.sublist (List.filter_sublist.map _)

theorem Cleared.writable {gone : List EntryId} (h : Cleared c gone lines lines')
    (writable : ∀ l ∈ lines, IsWritable l) : ∀ l ∈ lines', IsWritable l := by
  intro l' mem
  obtain ⟨l, mem, pair⟩ := h.characters l' mem
  exact pair.isWritable (writable l mem)

theorem map_id_registered (lines : List Text) :
    (registered lines).map (·.id) = (outline lines).map (·.id) := by
  rw [← map_entry_scan, outline, List.map_map, List.map_map]
  rfl

section Step

variable {b : Block} {left front inner back : List Text} {opening closing : Text}
  {doomed : List Nat}

/-- In front of a block and in it nothing is open but the block itself. -/
theorem foldl_next_front (orderly : Orderly lines)
    (h : b.At lines front opening inner closing back) :
    front.foldl (Place.next c) .start = .start ∧
      (opening :: (inner ++ [closing])).foldl (Place.next c) .start = .start := by
  obtain ⟨between, boundary, rest, rfl, -, -, noHeader⟩ := orderly.back_eq h
  have ahead {xs : List Text}
      (mem : ∀ l ∈ xs, l ∈ front ++ opening :: (inner ++ closing :: between))
      (names : List Text) : xs.foldl (Phase.next names) .ahead = .ahead :=
    Phase.foldl_ahead fun l hl => Line.opensSection_eq_false (noHeader l (mem l hl))
  constructor
  · rw [Place.foldl_next]
    simp only [Place.start]
    rw [(h.blocksClosed_front orderly.blocks).foldl_ownerAfter, ahead (by simp +contextual),
      ahead (by simp +contextual)]
  · have inside : ∀ l ∈ opening :: (inner ++ [closing]),
        l ∈ front ++ opening :: (inner ++ closing :: between) := by
      intro l mem
      simp only [List.mem_cons, List.mem_append, List.not_mem_nil, or_false] at mem ⊢
      tauto
    rw [Place.foldl_next]
    simp only [Place.start]
    rw [h.foldl_ownerAfter, ahead inside, ahead inside]

/-- A deletion of the lines of a block and of inert lines filters the lines. -/
theorem outside_excised (orderly : Orderly lines)
    (h : b.At lines front opening inner closing back) {gone : Place → Text → Bool}
    (deletes : Deletes c .start gone doomed 0 lines left)
    (all : ∀ i ∈ b.span.indices, i ∈ doomed)
    (inert : ∀ i l, lines[i]? = some l → i ∈ doomed →
      i ∈ b.span.indices ∨ Line.isInert l = true) :
    outside c .start (linesExcept doomed 0 left) =
      (outside c .start lines).filter fun q => !gone q.1 q.2 := by
  obtain ⟨frontStart, blockStart⟩ := foldl_next_front (c := c) orderly h
  have parts : lines = front ++ ((opening :: (inner ++ [closing])) ++ back) := by simp [h.lines_eq]
  have length : (opening :: (inner ++ [closing])).length = inner.length + 2 := by simp
  rw [parts] at deletes
  obtain ⟨front', rest, rfl, atFront, deletes⟩ := deletes.append_inv
  obtain ⟨block', back', rfl, atBlock, atBack⟩ := deletes.append_inv
  have lengthFront := atFront.pairs.length_eq
  have lengthBlock := atBlock.pairs.length_eq
  have inertFront : ∀ i l, front[i]? = some l → 0 + i ∈ doomed → Line.isInert l = true := by
    intro i l at_ mem
    have lt : i < front.length := (List.getElem?_eq_some_iff.1 at_).1
    rw [Nat.zero_add] at mem
    refine (inert i l ?_ mem).resolve_left fun block => ?_
    · rw [parts, List.getElem?_append_left lt, at_]
    · have := h.mem_indices.1 block
      omega
  have inertBack : ∀ i l, back[i]? = some l →
      0 + front.length + (opening :: (inner ++ [closing])).length + i ∈ doomed →
      Line.isInert l = true := by
    intro i l at_ mem
    refine (inert _ l ?_ mem).resolve_left fun block => ?_
    · rw [parts, ← List.append_assoc, List.getElem?_append_right (by simp), ← at_]
      congr 1
      simp
    · have := h.mem_indices.1 block
      omega
  have blockAll : ∀ i < (opening :: (inner ++ [closing])).length,
      0 + front.length + i ∈ doomed := fun i lt => all _ (h.mem_indices.2 (by omega))
  have blockGone : linesExcept doomed (0 + front.length) block' = [] :=
    Document.linesExcept_eq_nil fun i lt => blockAll i (by omega)
  rw [Document.linesExcept_append, Document.linesExcept_append, ← lengthFront, ← lengthBlock,
    blockGone, List.nil_append, outside_append,
    Place.foldl_next_thinned (thinned_of_renumbered atFront.pairs inertFront),
    atFront.outside_eq inertFront, frontStart]
  rw [frontStart] at atBlock atBack
  rw [blockStart] at atBack
  rw [atBack.outside_eq inertBack, parts, outside_append, outside_append, frontStart, blockStart,
    List.filter_append, List.filter_append, atBlock.filter_outside_eq_nil blockAll,
    List.nil_append]

/-- **A removal that leaves alone what is not of the book filters the lines.** -/
theorem cleared_linesExcept (orderly : Orderly lines) (distinct : DistinctIds lines)
    (h : b.At lines front opening inner closing back)
    (removes : Removes c b lines (linesExcept (keyedIndices lines b ++ doomed) 0 left))
    (pairs : List.Forall₂ Renumbered lines left)
    (marked : ∀ i ∈ doomed, ∃ l x, lines[i]? = some l ∧ indexed? l = some x)
    (hidden : ∀ i l l', lines[i]? = some l → left[i]? = some l' →
      (placeAt c lines i).booked l = false → l' = l ∧ i ∉ doomed) :
    Cleared c [b.id] lines (linesExcept (keyedIndices lines b ++ doomed) 0 left) where
  orderly := removes.orderly
  outline := removes.outline_eq orderly.blocks distinct
  nesting := removes.nesting_eq
  outside := by
    have deletes : Deletes c .start (fun p l => p.keyedBy b.id l) (keyedIndices lines b ++ doomed) 0
        lines left := by
      refine ⟨pairs, fun i l l' at_ at' unbooked => ?_⟩
      obtain ⟨same, kept⟩ := hidden i l l' at_ at' unbooked
      have keyed := keyedBy_iff (c := c) orderly (map_id_registered lines ▸ distinct) h at_
      rw [placeAt] at keyed
      rw [keyed, Nat.zero_add, List.mem_append]
      exact ⟨same, or_iff_left kept⟩
    have all : ∀ i ∈ b.span.indices, i ∈ keyedIndices lines b ++ doomed := fun i mem =>
      List.mem_append_left _ (List.mem_append_left _ (List.mem_append_left _ mem))
    rw [outside_excised orderly h deletes all fun i l at_ mem => inert_of_mem_doomed marked at_ mem]
    simp
  characters := removes.characters

/-- The release of an index leaves alone what is not of the book. -/
theorem hidden_of_released (orderly : Orderly lines) {before body behind : List Text}
    {header ending : Text}
    (sec : Section.At c.versionControlSections lines before header body ending behind) {k : Nat}
    (marked : ∀ i, i ∈ doomed ↔ ∃ j l x, i = before.length + 1 + j ∧ body[j]? = some l ∧
      indexed? l = some x ∧ x.number = k) {i : Nat} {l l' : Text} (at_ : lines[i]? = some l)
    (at' : (before ++ header :: (released k body ++ ending :: behind))[i]? = some l')
    (unbooked : (placeAt c lines i).booked l = false) : l' = l ∧ i ∉ doomed := by
  have plain : ∀ j, i = before.length + 1 + j → body[j]? = some l →
      indexed? l = none ∧ count? l = none := by
    rintro j rfl inside
    have held := (Phase.holds_iff orderly.sections at_).2
      (sec.bodyOf_eq ▸ List.mem_zipIdx_iff_le_and_getElem?_sub.2 ⟨by simp, by simpa using inside⟩)
    rw [placeAt, Place.foldl_next, Place.booked] at unbooked
    simp only [Place.start] at unbooked
    rw [held, Bool.true_and] at unbooked
    simpa using unbooked
  constructor
  · rw [sec.lines_eq] at at_
    rcases getElem?_append_cases at_ with ⟨lt, at_, -⟩ | ⟨j, rfl, at_, -⟩
    · rw [List.getElem?_append_left lt, at_] at at'
      exact (Option.some.inj at').symm
    rw [List.getElem?_append_right (by omega), Nat.add_sub_cancel_left] at at'
    cases j with
    | zero => exact (Option.some.inj at').symm.trans (Option.some.inj at_)
    | succ j =>
      rw [List.getElem?_cons_succ] at at_ at'
      have length := (forall₂_released k body).length_eq
      rcases getElem?_append_cases at_ with ⟨lt, at_, -⟩ | ⟨m, rfl, at_, -⟩
      · -- A line inside of the section, which neither carries an index nor the count.
        rw [List.getElem?_append_left (by omega)] at at'
        obtain ⟨l₀, at₀, pair⟩ := exists_of_renumbered (forall₂_released k body) at'
        obtain rfl : l = l₀ := Option.some.inj (at_.symm.trans at₀)
        obtain ⟨noIndex, noCount⟩ := plain j (by omega) at_
        cases pair with
        | same => rfl
        | index n read => simp [noIndex] at read
        | count n read => simp [noCount] at read
      · rw [List.getElem?_append_right (by omega), ← length, Nat.add_sub_cancel_left, at_] at at'
        exact (Option.some.inj at').symm
  · intro mem
    obtain ⟨j, l₀, x, here, inside, read, -⟩ := (marked i).1 mem
    obtain rfl : l = l₀ := Option.some.inj (at_.symm.trans (here ▸ sec.getElem?_eq inside))
    rw [(plain j here inside).1] at read
    cases read

end Step

/-- **What a removal of one block leaves.** -/
theorem Surgery.removeBlock_cleared {s after : Surgery} (orderly : Orderly s.lines)
    (distinct : DistinctIds s.lines) {id : EntryId} {b : Block}
    (found : Block.find? (Block.scan s.lines) id = some b) {e : RemovedEntry}
    (ok : removeBlock c s b = (after, .ok e)) : Cleared c [b.id] s.lines after.lines := by
  obtain ⟨-, front, opening, inner, closing, back, h⟩ :=
    Block.exists_at_of_find? orderly.blocks found
  have removes := removes_of_removeBlock orderly found ok
  rcases removeBlock_shape orderly ok with
    ⟨-, eq⟩ | ⟨-, k, before, header, body, ending, behind, doomed, -, sec, marked, eq⟩
  · rw [eq, ← List.append_nil (keyedIndices s.lines b)] at removes ⊢
    exact cleared_linesExcept orderly distinct h removes (forall₂_renumbered_refl _) (by simp)
      fun i l l' at_ at' _ => ⟨Option.some.inj (at'.symm.trans at_), by simp⟩
  · rw [eq] at removes ⊢
    refine cleared_linesExcept orderly distinct h removes ?_ (fun i mem => ?_)
      fun i l l' => hidden_of_released orderly sec marked
    · conv_lhs => rw [sec.lines_eq]
      exact List.rel_append (forall₂_renumbered_refl _) (.cons .same
        (List.rel_append (forall₂_released k body) (forall₂_renumbered_refl _)))
    · obtain ⟨j, l, x, rfl, at_, read, -⟩ := (marked i).1 mem
      exact ⟨l, x, sec.getElem?_eq at_, read⟩

/-! ### Runs of removals -/

namespace Surgery

variable {s t after : Surgery}

/-- **What a run of removals leaves.** -/
theorem removeIds_cleared (orderly : Orderly s.lines) (distinct : DistinctIds s.lines)
    {ids : List EntryId} {removed : List RemovedEntry}
    (ok : removeIds c s ids = (after, .ok removed)) :
    Cleared c (removed.map (·.id)) s.lines after.lines := by
  induction ids generalizing s removed with
  | nil =>
    cases ok
    exact Cleared.refl c orderly
  | cons id ids ih =>
    obtain ⟨middle, first, more, one, others, rfl⟩ := removeIds_cons_eq_ok ok
    have step : Cleared c (first.toList.map (·.id)) s.lines middle.lines := by
      rcases removeId_eq_ok one with ⟨-, rfl, rfl⟩ | ⟨b, e, found, rfl, taken⟩
      · exact Cleared.refl c orderly
      · obtain ⟨rfl, -⟩ := removeBlock_eq_ok taken
        exact removeBlock_cleared orderly distinct found taken
    rw [List.map_append]
    exact step.trans (ih step.orderly (step.distinct distinct) others)

/-- A run of removals takes out what is registered under the chosen identifiers. -/
theorem mem_map_removeIds (distinct : DistinctIds s.lines) {ids : List EntryId}
    {removed : List RemovedEntry} (ok : removeIds c s ids = (after, .ok removed)) {id : EntryId} :
    id ∈ removed.map (·.id) ↔ id ∈ ids ∧ id ∈ (outline s.lines).map (·.id) := by
  rw [← map_id_registered]
  constructor
  · intro taken
    obtain ⟨e, mem, rfl⟩ := List.mem_map.1 taken
    exact ⟨(removeIds_registered ok).2 e mem,
      List.mem_map_of_mem ((mem_registered_iff ok).2 (Or.inl mem))⟩
  · rintro ⟨chosen, here⟩
    obtain ⟨e, mem, rfl⟩ := List.mem_map.1 here
    exact List.mem_map_of_mem
      (mem_of_removeIds ok (map_id_registered s.lines ▸ distinct) mem chosen)

end Surgery

end SolutionSweep
