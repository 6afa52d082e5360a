import SolutionSweep.Manifest.Pruning

/-!
# Pruning as a run of removals

Pruning takes out empty folders in passes, and each pass takes out several entries one after
another. Put together this is one run of removals.

* `Surgery.removeIds_cons_of_ok`, `Surgery.removeIds_cons_eq_ok`, `Surgery.removeIds_append`: a run
  of removals in two parts;
* `Surgery.pruneTrace`, `Surgery.pruneFolders_eq`: the entries that pruning takes out, in order.
-/

namespace SolutionSweep.Surgery

/-- What is left after some removals, and what they have taken out together with those before. -/
def continued (removed : List RemovedEntry) :
    Surgery × Except LongNumeral (List RemovedEntry) →
      Surgery × Except LongNumeral (List RemovedEntry)
  | (done, .error e) => (done, .error e)
  | (done, .ok more) => (done, .ok (removed ++ more))

/-- One removal that succeeds and others after it are a run. -/
theorem removeIds_cons_of_ok {c : Conventions} {s middle after : Surgery} {id : EntryId}
    {ids : List EntryId} {first : Option RemovedEntry} {more : List RemovedEntry}
    (one : removeId c s id = (middle, .ok first))
    (others : removeIds c middle ids = (after, .ok more)) :
    removeIds c s (id :: ids) = (after, .ok (first.toList ++ more)) := by
  rw [removeIds, one]
  dsimp only
  rw [others]

/-- A run of removals that succeeds, one removal and the others. -/
theorem removeIds_cons_eq_ok {c : Conventions} {s after : Surgery} {id : EntryId}
    {ids : List EntryId} {removed : List RemovedEntry}
    (ok : removeIds c s (id :: ids) = (after, .ok removed)) :
    ∃ middle first more, removeId c s id = (middle, .ok first) ∧
      removeIds c middle ids = (after, .ok more) ∧ removed = first.toList ++ more := by
  rw [removeIds] at ok
  rcases one : removeId c s id with ⟨middle, e | first⟩
  · rw [one] at ok
    cases ok
  · rw [one] at ok
    rcases others : removeIds c middle ids with ⟨done, e | more⟩
    · simp only [others] at ok
      cases ok
    · simp only [others] at ok
      cases ok
      exact ⟨middle, first, more, rfl, others, rfl⟩

/-- A run of removals in two parts. -/
theorem removeIds_append (c : Conventions) (s : Surgery) (xs ys : List EntryId) :
    removeIds c s (xs ++ ys) =
      match removeIds c s xs with
      | (after, .error e) => (after, .error e)
      | (after, .ok removed) => continued removed (removeIds c after ys) := by
  induction xs generalizing s with
  | nil =>
    simp only [List.nil_append, removeIds]
    rcases removeIds c s ys with ⟨done, _ | more⟩
    · rfl
    · rfl
  | cons id ids ih =>
    rw [List.cons_append, removeIds, removeIds]
    rcases removeId c s id with ⟨after, _ | removed⟩
    · rfl
    · dsimp only
      rw [ih]
      rcases removeIds c after ids with ⟨middle, _ | more⟩
      · rfl
      · dsimp only
        rcases removeIds c middle ys with ⟨done, _ | rest⟩
        · rfl
        · simp [continued]

/-- The entries that pruning takes out, one after another. -/
def pruneTrace (c : Conventions) (s : Surgery) : List EntryId :=
  match _empty : emptyFolders s.lines with
  | [] => []
  | id :: ids =>
      match _pass : removeIds c s (id :: ids) with
      | (_, .error _) => id :: ids
      | (after, .ok _) => (id :: ids) ++ pruneTrace c after
termination_by s.lines.length
decreasing_by
  obtain ⟨b, found⟩ := find?_of_mem_emptyFolders id (_empty ▸ List.mem_cons_self)
  have lt := length_removeIds_lt ids found (congrArg Prod.snd _pass)
  rw [_pass] at lt
  exact lt

theorem pruneTrace_nil (c : Conventions) {s : Surgery} (empty : emptyFolders s.lines = []) :
    pruneTrace c s = [] := by
  rw [pruneTrace]
  split
  · rfl
  · rename_i folders
    rw [empty] at folders
    cases folders

theorem pruneTrace_error {c : Conventions} {s after : Surgery} {id : EntryId} {ids : List EntryId}
    {e : LongNumeral} (empty : emptyFolders s.lines = id :: ids)
    (pass : removeIds c s (id :: ids) = (after, .error e)) : pruneTrace c s = id :: ids := by
  rw [pruneTrace]
  split
  · rename_i none
    rw [empty] at none
    cases none
  · rename_i folders
    obtain ⟨rfl, rfl⟩ := List.cons.inj (empty.symm.trans folders)
    split
    · rfl
    · rename_i ok
      rw [pass] at ok
      cases ok

theorem pruneTrace_ok {c : Conventions} {s after : Surgery} {id : EntryId} {ids : List EntryId}
    {removed : List RemovedEntry} (empty : emptyFolders s.lines = id :: ids)
    (pass : removeIds c s (id :: ids) = (after, .ok removed)) :
    pruneTrace c s = (id :: ids) ++ pruneTrace c after := by
  rw [pruneTrace]
  split
  · rename_i none
    rw [empty] at none
    cases none
  · rename_i folders
    obtain ⟨rfl, rfl⟩ := List.cons.inj (empty.symm.trans folders)
    split
    · rename_i error
      rw [pass] at error
      cases error
    · rename_i ok
      obtain ⟨rfl, -⟩ := Prod.mk.inj (pass.symm.trans ok)
      rfl

/-- **Pruning is a run of removals.** -/
theorem pruneFolders_eq (c : Conventions) (s : Surgery) :
    pruneFolders c s = removeIds c s (pruneTrace c s) := by
  fun_induction pruneFolders c s with
  | case1 s empty => rw [pruneTrace_nil c empty, removeIds]
  | case2 s id ids empty after e pass => rw [pruneTrace_error empty pass, pass]
  | case3 s id ids empty after removed pass done e rest ih =>
    rw [pruneTrace_ok empty pass, removeIds_append, pass]
    dsimp only
    rw [← ih, rest, continued]
  | case4 s id ids empty after removed pass done more rest ih =>
    rw [pruneTrace_ok empty pass, removeIds_append, pass]
    dsimp only
    rw [← ih, rest, continued]

end SolutionSweep.Surgery
