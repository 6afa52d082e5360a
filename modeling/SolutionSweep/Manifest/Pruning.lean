import SolutionSweep.Manifest.Surgery

/-!
# Pruning empty folders

Taking out an empty folder may leave the folder around it empty, so folders are taken out in
passes until a pass finds none. Each pass takes out at least one line, which bounds their number.

* `Surgery.emptyFolders`: the folders that a pass takes out;
* `Surgery.pruneFolders`: the passes.
-/

namespace SolutionSweep.Surgery

/-! ### Removals shorten the document -/

theorem length_delete_le (s : Surgery) (doomed : List Nat) :
    (s.delete doomed).lines.length ≤ s.lines.length :=
  Document.length_linesExcept_le _ _ _

theorem length_delete_lt {s : Surgery} {doomed : List Nat} {i : Nat} (mem : i ∈ doomed)
    (lt : i < s.lines.length) : (s.delete doomed).lines.length < s.lines.length :=
  Document.length_linesExcept_lt 0 mem (by omega) (by simpa [lines] using lt)

theorem length_removeBlock_le (c : Conventions) (s : Surgery) (b : Block) :
    (removeBlock c s b).1.lines.length ≤ s.lines.length := by
  unfold removeBlock
  split
  · exact length_delete_le _ _
  · rename_i book _
    have len := length_releaseIndex book b s.lines
    split <;> rename_i h <;> rw [h] at len <;> simp only at len
    · simp [withLines, lines] at len ⊢; omega
    · refine Nat.le_trans (length_delete_le _ _) ?_
      simp [withLines, warn, lines] at len ⊢; omega
    · refine Nat.le_trans (length_delete_le _ _) ?_
      simp [withLines, lines] at len ⊢; omega

/-- Taking out a registered entry takes out its registration line. -/
theorem length_removeBlock_lt {c : Conventions} {s : Surgery} {b : Block}
    (mem : b ∈ Block.scan s.lines) {removed : RemovedEntry}
    (ok : (removeBlock c s b).2 = .ok removed) :
    (removeBlock c s b).1.lines.length < s.lines.length := by
  obtain ⟨-, high, ordered⟩ := Block.span_of_mem_scanFrom mem
  have first : b.span.first ∈ keyedIndices s.lines b := by
    simp [keyedIndices, Span.first_mem_indices ordered]
  revert ok
  unfold removeBlock
  split
  · intro _
    exact length_delete_lt first (by omega)
  · rename_i book _
    have len := length_releaseIndex book b s.lines
    split <;> rename_i h <;> rw [h] at len <;> simp only at len <;> intro ok
    · cases ok
    · refine Nat.lt_of_lt_of_le (length_delete_lt first ?_) ?_
      · simp [withLines, warn, lines] at len ⊢; simp [lines] at high; omega
      · simp [withLines, warn, lines] at len ⊢; omega
    · refine Nat.lt_of_lt_of_le (length_delete_lt (List.mem_append_left _ first) ?_) ?_
      · simp [withLines, lines] at len ⊢; simp [lines] at high; omega
      · simp [withLines, lines] at len ⊢; omega

theorem length_removeId_le (c : Conventions) (s : Surgery) (id : EntryId) :
    (removeId c s id).1.lines.length ≤ s.lines.length := by
  unfold removeId
  split
  · exact Nat.le_refl _
  · exact length_removeBlock_le c s _

theorem length_removeIds_le (c : Conventions) (s : Surgery) (ids : List EntryId) :
    (removeIds c s ids).1.lines.length ≤ s.lines.length := by
  induction ids generalizing s with
  | nil => simp [removeIds]
  | cons id ids ih =>
      have one := length_removeId_le c s id
      unfold removeIds
      split <;> rename_i h <;> rw [h] at one <;> simp only at one
      · exact one
      · rename_i after _
        have rest := ih after
        split <;> rename_i h' <;> rw [h'] at rest <;> simp only at rest ⊢ <;> omega

/-- Taking out entries of which the first is registered takes out a line. -/
theorem length_removeIds_lt {c : Conventions} {s : Surgery} {id : EntryId} (ids : List EntryId)
    {b : Block} (found : Block.find? (Block.scan s.lines) id = some b)
    {removed : List RemovedEntry} (ok : (removeIds c s (id :: ids)).2 = .ok removed) :
    (removeIds c s (id :: ids)).1.lines.length < s.lines.length := by
  have mem : b ∈ Block.scan s.lines := List.mem_of_find?_eq_some found
  have step : removeId c s id = ((removeBlock c s b).1, (removeBlock c s b).2.map some) := by
    simp [removeId, found]
  unfold removeIds at ok ⊢
  rw [step] at ok ⊢
  cases hb : (removeBlock c s b).2 with
  | error e => rw [hb] at ok; simp [Except.map] at ok
  | ok entry =>
      have lt := length_removeBlock_lt mem hb
      have rest := length_removeIds_le c (removeBlock c s b).1 ids
      simp only [Except.map]
      split <;> rename_i h <;> rw [h] at rest <;> simp only at rest ⊢ <;> omega

/-! ### Passes -/

/-- The folders that hold neither loose files nor entries, in order. -/
def emptyFolders (lines : List Text) : List EntryId :=
  let parents := (NestingLine.scan lines (nestingSection? lines)).map (·.parent)
  ((Block.scan lines).filter fun b =>
    b.isFolder && !b.hasItems && !parents.contains b.id).map (·.id)

/-- An empty folder is registered. -/
theorem find?_of_mem_emptyFolders {lines : List Text} (id : EntryId)
    (mem : id ∈ emptyFolders lines) : ∃ b, Block.find? (Block.scan lines) id = some b := by
  simp only [emptyFolders, List.mem_map, List.mem_filter] at mem
  obtain ⟨b, ⟨mem, -⟩, rfl⟩ := mem
  exact Option.isSome_iff_exists.1 (List.find?_isSome.2 ⟨b, mem, by simp⟩)

/-- Takes out empty folders in passes until a pass finds none. -/
def pruneFolders (c : Conventions) (s : Surgery) :
    Surgery × Except LongNumeral (List RemovedEntry) :=
  match _empty : emptyFolders s.lines with
  | [] => (s, .ok [])
  | id :: ids =>
      match _pass : removeIds c s (id :: ids) with
      | (after, .error e) => (after, .error e)
      | (after, .ok removed) =>
          match pruneFolders c after with
          | (done, .error e) => (done, .error e)
          | (done, .ok more) => (done, .ok (removed ++ more))
termination_by s.lines.length
decreasing_by
  obtain ⟨b, found⟩ := find?_of_mem_emptyFolders id (_empty ▸ List.mem_cons_self)
  have lt := length_removeIds_lt ids found (congrArg Prod.snd _pass)
  rw [_pass] at lt
  exact lt

end SolutionSweep.Surgery
