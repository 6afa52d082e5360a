import SolutionSweep.Proofs.Manifest.Book
import SolutionSweep.Proofs.Manifest.Thinning
import Mathlib.Data.List.Forall2

/-!
# Renumbering

When an index of version control is released, the lines of its section are rewritten: a line of a
higher index moves down by one, and the first counting line counts one less. A line that has been
rewritten is of the same kind as before and differs from it in its number only.

* `Renumbered`: a line and what it may become;
* `released`: the lines of a section after the release of an index;
* `indexedLines_linesExcept_released`, `countLines_linesExcept_released`: what is read off them once
  some lines are deleted.
-/

namespace SolutionSweep

open Line (initial? indexed? count? nesting? IndexedLine CountLine indexed?_text_renumbered
  count?_text_renumbered)
open Document (linesExcept)

/-- The second line is the first one, perhaps with another number in place of the one it carries. -/
inductive Renumbered (l : Text) : Text → Prop
  | same : Renumbered l l
  | index {x : IndexedLine} (n : Nat) : indexed? l = some x → Renumbered l (x.renumbered n).text
  | count {x : CountLine} (n : Nat) : count? l = some x → Renumbered l (x.renumbered n).text

namespace Renumbered

variable {l l' : Text}

/-- A line that is rewritten is a line of version control, before and after. -/
theorem eq_or_initial? (h : Renumbered l l') :
    l' = l ∨ initial? l = some 'S' ∧ initial? l' = some 'S' := by
  cases h with
  | same => exact Or.inl rfl
  | index n read =>
    exact Or.inr ⟨Line.initial?_of_indexed? read,
      Line.initial?_of_indexed? (indexed?_text_renumbered read n)⟩
  | count n read =>
    exact Or.inr ⟨Line.initial?_of_count? read,
      Line.initial?_of_count? (count?_text_renumbered read n)⟩

/-- What inert lines are not, rewriting does not make a line. -/
theorem apply_eq {α : Type} {f : Text → α} {a : α} (h : Renumbered l l')
    (inert : ∀ l, initial? l = some 'S' → f l = a) : f l' = f l := by
  rcases h.eq_or_initial? with rfl | ⟨old, new⟩
  · rfl
  · rw [inert l old, inert l' new]

/-- Lines that are not inert are not rewritten. -/
theorem eq_of_isInert_eq_false (h : Renumbered l l') (structural : Line.isInert l = false) :
    l' = l := by
  rcases h.eq_or_initial? with rfl | ⟨scc, -⟩
  · rfl
  · rw [isInert_of_initial? scc] at structural
    cases structural

theorem nesting?_eq (h : Renumbered l l') : nesting? l' = nesting? l :=
  h.apply_eq fun _ scc => Line.nesting?_eq_none (by simp [scc])

/-- The only characters that rewriting brings in are digits. -/
theorem isDigit_of_mem (h : Renumbered l l') {c : Char} (mem : c ∈ l') :
    c ∈ l ∨ c.isDigit = true := by
  cases h with
  | same => exact Or.inl mem
  | @index x n read =>
    obtain ⟨-, rfl⟩ := Line.indexed?_eq_some_iff.1 read
    simp only [IndexedLine.text, IndexedLine.renumbered, List.mem_append] at mem ⊢
    rcases mem with mem | mem | mem | mem
    · exact Or.inl (Or.inl mem)
    · exact Or.inl (Or.inr (Or.inl mem))
    · exact Or.inr (isDigit_of_mem_ofNat mem)
    · exact Or.inl (Or.inr (Or.inr (Or.inr mem)))
  | @count x n read =>
    obtain ⟨-, rfl⟩ := Line.count?_eq_some_iff.1 read
    simp only [CountLine.text, CountLine.renumbered, List.mem_append] at mem ⊢
    rcases mem with mem | mem | mem
    · exact Or.inl (Or.inl mem)
    · exact Or.inr (isDigit_of_mem_ofNat mem)
    · exact Or.inl (Or.inr (Or.inr mem))

end Renumbered

/-! ### Lists of lines -/

/-- Lines that are rewritten one by one and of which inert ones are deleted are thinned. -/
theorem thinned_of_renumbered {doomed : List Nat} {first : Nat} {xs ys : List Text}
    (h : List.Forall₂ Renumbered xs ys)
    (inert : ∀ i l, xs[i]? = some l → first + i ∈ doomed → Line.isInert l = true) :
    Thinned xs (linesExcept doomed first ys) := by
  induction h generalizing first with
  | nil => exact .nil
  | @cons l l' xs ys pair _ ih =>
    have tail := @ih (first + 1) fun i l' hl mem => by
      refine inert (i + 1) l' (by simpa using hl) ?_
      rwa [show first + (i + 1) = first + 1 + i by omega]
    by_cases mem : first ∈ doomed
    · rw [Document.linesExcept_cons_of_mem mem]
      exact .drop (inert 0 l rfl mem) tail
    · rw [Document.linesExcept_cons_of_not_mem mem]
      rcases pair.eq_or_initial? with rfl | ⟨old, new⟩
      · exact .keep tail
      · exact .rewrite old new tail

/-- Each rewritten line comes from the line at the same place. -/
theorem exists_of_renumbered {xs ys : List Text} (h : List.Forall₂ Renumbered xs ys) {i : Nat}
    {l' : Text} (at_ : ys[i]? = some l') : ∃ l, xs[i]? = some l ∧ Renumbered l l' := by
  induction h generalizing i with
  | nil => cases at_
  | @cons l _ _ _ pair _ ih =>
    cases i with
    | zero =>
      obtain rfl := Option.some.inj at_
      exact ⟨l, rfl, pair⟩
    | succ i => exact ih at_

theorem exists_mem_of_renumbered {xs ys : List Text} (h : List.Forall₂ Renumbered xs ys) {l' : Text}
    (mem : l' ∈ ys) : ∃ l ∈ xs, Renumbered l l' := by
  obtain ⟨i, at_⟩ := List.mem_iff_getElem?.1 mem
  obtain ⟨l, at', pair⟩ := exists_of_renumbered h at_
  exact ⟨l, List.mem_of_getElem? at', pair⟩

theorem renumbered_append_inv {xs ys zs : List Text} (h : List.Forall₂ Renumbered (xs ++ ys) zs) :
    ∃ xs' ys', zs = xs' ++ ys' ∧ List.Forall₂ Renumbered xs xs' ∧ List.Forall₂ Renumbered ys ys' :=
  ⟨zs.take xs.length, zs.drop xs.length, (List.take_append_drop _ _).symm,
    by simpa using List.forall₂_take xs.length h, by simpa using List.forall₂_drop xs.length h⟩

theorem forall₂_renumbered_refl (xs : List Text) : List.Forall₂ Renumbered xs xs :=
  List.forall₂_same.2 fun _ _ => .same

/-! ### The release of an index -/

/-- A line of a section after the release of an index: a higher index moves down by one. -/
def Line.IndexedLine.lowered (k : Nat) (x : IndexedLine) : IndexedLine :=
  if k < x.number then x.renumbered (x.number - 1) else x

/-- A counting line that counts one less. -/
def Line.CountLine.decreased (x : CountLine) : CountLine := x.renumbered (x.number - 1)

/-- A line of a section after the release of an index. -/
def lowerLine (k : Nat) (l : Text) : Text :=
  match indexed? l with
  | none => l
  | some x => (x.lowered k).text

/-- The lines of a section after the release of an index, those of the index itself still in
place. -/
def released (k : Nat) : List Text → List Text
  | [] => []
  | l :: rest =>
      match count? l with
      | some x => x.decreased.text :: rest.map (lowerLine k)
      | none => lowerLine k l :: released k rest

theorem indexed?_lowerLine (k : Nat) (l : Text) :
    indexed? (lowerLine k l) = (indexed? l).map (·.lowered k) := by
  unfold lowerLine
  cases read : indexed? l with
  | none => exact read
  | some x =>
    simp only [IndexedLine.lowered, Option.map_some]
    split
    · exact indexed?_text_renumbered read _
    · exact Line.indexed?_text (Line.indexed?_eq_some_iff.1 read).1

theorem renumbered_lowerLine (k : Nat) (l : Text) : Renumbered l (lowerLine k l) := by
  unfold lowerLine
  cases read : indexed? l with
  | none => exact .same
  | some x =>
    simp only [IndexedLine.lowered]
    split
    · exact .index _ read
    · rw [← (Line.indexed?_eq_some_iff.1 read).2]
      exact .same

/-- Lowering an index makes and loses no counting line. -/
theorem count?_lowerLine (k : Nat) (l : Text) : count? (lowerLine k l) = count? l := by
  cases read : indexed? l with
  | none => rw [lowerLine, read]
  | some x =>
    have lowered : indexed? (lowerLine k l) = some (x.lowered k) := by
      rw [indexed?_lowerLine, read, Option.map_some]
    rw [Line.count?_eq_none_of_indexed? read, Line.count?_eq_none_of_indexed? lowered]

/-- A counting line has no index. -/
theorem indexed?_eq_none_of_count? {l : Text} {x : CountLine} (h : count? l = some x) :
    indexed? l = none := by
  by_contra other
  obtain ⟨y, read⟩ := Option.ne_none_iff_exists'.1 other
  rw [Line.count?_eq_none_of_indexed? read] at h
  cases h

theorem lowerLine_eq_self {l : Text} {x : CountLine} (h : count? l = some x) (k : Nat) :
    lowerLine k l = l := by
  rw [lowerLine, indexed?_eq_none_of_count? h]

theorem forall₂_map_lowerLine (k : Nat) (xs : List Text) :
    List.Forall₂ Renumbered xs (xs.map (lowerLine k)) := by
  rw [List.forall₂_map_right_iff]
  exact List.forall₂_same.2 fun l _ => renumbered_lowerLine k l

theorem forall₂_released (k : Nat) (xs : List Text) :
    List.Forall₂ Renumbered xs (released k xs) := by
  induction xs with
  | nil => exact .nil
  | cons l rest ih =>
    cases read : count? l with
    | some x =>
      simp only [released, read]
      exact .cons (.count _ read) (forall₂_map_lowerLine k rest)
    | none =>
      simp only [released, read]
      exact .cons (renumbered_lowerLine k l) ih

/-- Lines in front of the first counting line are only lowered. -/
theorem released_append {before : List Text} (absent : countLines before = []) {l : Text}
    {x : CountLine} (read : count? l = some x) (k : Nat) (after : List Text) :
    released k (before ++ l :: after) =
      before.map (lowerLine k) ++ x.decreased.text :: after.map (lowerLine k) := by
  induction before with
  | nil => simp [released, read]
  | cons l' before ih =>
    cases read' : count? l' with
    | some y =>
      rw [countLines, List.filterMap_cons_some read'] at absent
      cases absent
    | none =>
      rw [countLines, List.filterMap_cons_none read'] at absent
      simp only [List.cons_append, released, read', ih absent, List.map_cons]

theorem released_of_countLines_eq_nil {xs : List Text} (absent : countLines xs = []) (k : Nat) :
    released k xs = xs.map (lowerLine k) := by
  induction xs with
  | nil => rfl
  | cons l rest ih =>
    cases read : count? l with
    | some x =>
      rw [countLines, List.filterMap_cons_some read] at absent
      cases absent
    | none =>
      rw [countLines, List.filterMap_cons_none read] at absent
      simp only [released, read, ih absent, List.map_cons]

/-! ### What is read off released lines -/

theorem indexedLines_map_lowerLine (k : Nat) (xs : List Text) :
    indexedLines (xs.map (lowerLine k)) = (indexedLines xs).map (·.lowered k) := by
  unfold indexedLines
  rw [List.filterMap_map, List.map_filterMap]
  exact List.filterMap_congr fun l _ => indexed?_lowerLine k l

theorem countLines_map_lowerLine (k : Nat) (xs : List Text) :
    countLines (xs.map (lowerLine k)) = countLines xs := by
  unfold countLines
  rw [List.filterMap_map]
  exact List.filterMap_congr fun l _ => count?_lowerLine k l

/-- **The lines of the released index are gone, and higher indices are lower by one.** -/
theorem indexedLines_linesExcept_released {k : Nat} {doomed : List Nat} {first : Nat}
    {xs : List Text}
    (h : ∀ i l x, xs[i]? = some l → indexed? l = some x → (first + i ∈ doomed ↔ x.number = k)) :
    indexedLines (linesExcept doomed first (released k xs)) =
      ((indexedLines xs).filter (·.number ≠ k)).map (·.lowered k) := by
  -- Which lines are deleted does not matter to the lowering of the others.
  have general : indexedLines (linesExcept doomed first (released k xs)) =
      (indexedLines (linesExcept doomed first xs)).map (·.lowered k) := by
    clear h
    induction xs generalizing first with
    | nil => rfl
    | cons l rest ih =>
      cases read : count? l with
      | none =>
        simp only [released, read]
        by_cases mem : first ∈ doomed
        · rw [Document.linesExcept_cons_of_mem mem, Document.linesExcept_cons_of_mem mem, ih]
        · rw [Document.linesExcept_cons_of_not_mem mem, Document.linesExcept_cons_of_not_mem mem,
            ← indexedLines_map_lowerLine, List.map_cons, indexedLines, indexedLines,
            List.filterMap_cons, List.filterMap_cons, ← indexedLines, ← indexedLines, ih,
            ← indexedLines_map_lowerLine]
      | some x =>
        have old : indexed? l = none := indexed?_eq_none_of_count? read
        have new : indexed? x.decreased.text = none :=
          indexed?_eq_none_of_count? (count?_text_renumbered read _)
        simp only [released, read]
        by_cases mem : first ∈ doomed
        · rw [Document.linesExcept_cons_of_mem mem, Document.linesExcept_cons_of_mem mem,
            Document.linesExcept_map, indexedLines_map_lowerLine]
        · rw [Document.linesExcept_cons_of_not_mem mem, Document.linesExcept_cons_of_not_mem mem,
            Document.linesExcept_map, indexedLines, indexedLines, List.filterMap_cons_none new,
            List.filterMap_cons_none old, ← indexedLines, ← indexedLines,
            indexedLines_map_lowerLine]
  rw [general, indexedLines, Document.filterMap_linesExcept
    fun x => decide (x.number = k)]
  · simp [indexedLines]
  · simpa using h

/-- **The first counting line counts one less.** -/
theorem countLines_linesExcept_released {k : Nat} {doomed : List Nat} {first : Nat} {xs : List Text}
    (h : ∀ i l, xs[i]? = some l → first + i ∈ doomed → count? l = none) :
    countLines (linesExcept doomed first (released k xs)) =
      (countLines xs).modifyHead (·.decreased) := by
  induction xs generalizing first with
  | nil => rfl
  | cons l rest ih =>
    have tail : ∀ i l, rest[i]? = some l → first + 1 + i ∈ doomed → count? l = none := by
      intro i l' hl mem
      refine h (i + 1) l' (by simpa using hl) ?_
      rwa [show first + (i + 1) = first + 1 + i by omega]
    cases read : count? l with
    | none =>
      have new : count? (lowerLine k l) = none := by rw [count?_lowerLine, read]
      simp only [released, read]
      rw [show countLines (l :: rest) = countLines rest from List.filterMap_cons_none read]
      by_cases mem : first ∈ doomed
      · rw [Document.linesExcept_cons_of_mem mem, ih tail]
      · rw [Document.linesExcept_cons_of_not_mem mem, countLines, List.filterMap_cons_none new,
          ← countLines, ih tail]
    | some x =>
      -- The first counting line: it is not deleted, and the lines behind it are only lowered.
      have keep : first ∉ doomed := fun mem => by
        rw [h 0 l rfl mem] at read
        cases read
      have new : count? x.decreased.text = some x.decreased := count?_text_renumbered read _
      simp only [released, read]
      rw [Document.linesExcept_cons_of_not_mem keep, Document.linesExcept_map, countLines,
        List.filterMap_cons_some new, ← countLines, countLines_map_lowerLine, countLines,
        Document.filterMap_linesExcept_eq tail, countLines, List.filterMap_cons_some read]
      rfl

end SolutionSweep
