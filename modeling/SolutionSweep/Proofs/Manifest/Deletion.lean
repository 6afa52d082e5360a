import SolutionSweep.Manifest.Document
import Mathlib.Data.List.Basic

/-!
# Laws of deleting lines

Lines are deleted by their indices. These laws say what that does to a part of a document, to what
can be read off its lines, and to lines that are rewritten one by one.
-/

namespace SolutionSweep.Document

@[simp] theorem linesExcept_nil (doomed : List Nat) (first : Nat) :
    linesExcept doomed first [] = [] := rfl

theorem linesExcept_cons_of_mem {doomed : List Nat} {first : Nat} (h : first ∈ doomed) (l : Text)
    (rest : List Text) :
    linesExcept doomed first (l :: rest) = linesExcept doomed (first + 1) rest :=
  if_pos h

theorem linesExcept_cons_of_not_mem {doomed : List Nat} {first : Nat} (h : first ∉ doomed)
    (l : Text) (rest : List Text) :
    linesExcept doomed first (l :: rest) = l :: linesExcept doomed (first + 1) rest :=
  if_neg h

/-- What a deletion leaves of two parts. -/
theorem linesExcept_append (doomed : List Nat) (first : Nat) (xs ys : List Text) :
    linesExcept doomed first (xs ++ ys) =
      linesExcept doomed first xs ++ linesExcept doomed (first + xs.length) ys := by
  induction xs generalizing first with
  | nil => simp
  | cons l rest ih =>
    have shift : first + 1 + rest.length = first + (l :: rest).length := by simp; omega
    by_cases h : first ∈ doomed
    · rw [List.cons_append, linesExcept_cons_of_mem h, linesExcept_cons_of_mem h, ih, shift]
    · rw [List.cons_append, linesExcept_cons_of_not_mem h, linesExcept_cons_of_not_mem h, ih, shift,
        List.cons_append]

/-- A part all of which is deleted leaves nothing. -/
theorem linesExcept_eq_nil {doomed : List Nat} {first : Nat} {xs : List Text}
    (all : ∀ i < xs.length, first + i ∈ doomed) : linesExcept doomed first xs = [] := by
  induction xs generalizing first with
  | nil => rfl
  | cons l rest ih =>
    rw [linesExcept_cons_of_mem (by simpa using all 0 (by simp))]
    refine ih fun i hi => ?_
    have := all (i + 1) (by simpa using hi)
    rwa [show first + 1 + i = first + (i + 1) by omega]

theorem linesExcept_sublist (doomed : List Nat) (first : Nat) (xs : List Text) :
    (linesExcept doomed first xs).Sublist xs := by
  induction xs generalizing first with
  | nil => exact List.Sublist.refl _
  | cons l rest ih =>
    by_cases h : first ∈ doomed
    · rw [linesExcept_cons_of_mem h]
      exact (ih _).cons l
    · rw [linesExcept_cons_of_not_mem h]
      exact (ih _).cons_cons l

/-- A line that a deletion leaves stood at an index that it keeps. -/
theorem exists_of_mem_linesExcept {doomed : List Nat} {first : Nat} {xs : List Text} {l : Text}
    (mem : l ∈ linesExcept doomed first xs) : ∃ i, xs[i]? = some l ∧ first + i ∉ doomed := by
  induction xs generalizing first with
  | nil => cases mem
  | cons x rest ih =>
    have later : l ∈ linesExcept doomed (first + 1) rest →
        ∃ i, (x :: rest)[i]? = some l ∧ first + i ∉ doomed := by
      intro mem
      obtain ⟨i, at_, kept⟩ := ih mem
      exact ⟨i + 1, at_, by rwa [Nat.add_assoc, Nat.add_comm 1 i] at kept⟩
    by_cases h : first ∈ doomed
    · rw [linesExcept_cons_of_mem h] at mem
      exact later mem
    · rw [linesExcept_cons_of_not_mem h] at mem
      rcases List.mem_cons.1 mem with rfl | mem
      · exact ⟨0, rfl, h⟩
      · exact later mem

/-- Deleting and rewriting line by line do not interfere. -/
theorem linesExcept_map (doomed : List Nat) (first : Nat) (f : Text → Text) (xs : List Text) :
    linesExcept doomed first (xs.map f) = (linesExcept doomed first xs).map f := by
  induction xs generalizing first with
  | nil => rfl
  | cons l rest ih =>
    by_cases h : first ∈ doomed
    · rw [List.map_cons, linesExcept_cons_of_mem h, linesExcept_cons_of_mem h, ih]
    · rw [List.map_cons, linesExcept_cons_of_not_mem h, linesExcept_cons_of_not_mem h, ih,
        List.map_cons]

/-- What is read off the lines that a deletion leaves. The lines that nothing is read off do not
matter. -/
theorem filterMap_linesExcept {α : Type} {f : Text → Option α} (gone : α → Bool)
    {doomed : List Nat} {first : Nat} {xs : List Text}
    (h : ∀ i l a, xs[i]? = some l → f l = some a → (first + i ∈ doomed ↔ gone a = true)) :
    (linesExcept doomed first xs).filterMap f = (xs.filterMap f).filter fun a => !gone a := by
  induction xs generalizing first with
  | nil => rfl
  | cons l rest ih =>
    have tail := @ih (first + 1) fun i l' a hl ha => by
      have := h (i + 1) l' a (by simpa using hl) ha
      rwa [show first + 1 + i = first + (i + 1) by omega]
    have head := fun a => h 0 l a rfl
    cases read : f l with
    | none =>
      by_cases mem : first ∈ doomed
      · rw [linesExcept_cons_of_mem mem, tail, List.filterMap_cons_none read]
      · rw [linesExcept_cons_of_not_mem mem, List.filterMap_cons_none read, tail,
          List.filterMap_cons_none read]
    | some a =>
      have mem : first ∈ doomed ↔ gone a = true := head a read
      by_cases lost : gone a = true
      · rw [linesExcept_cons_of_mem (mem.2 lost), tail, List.filterMap_cons_some read,
          List.filter_cons_of_neg (by simp [lost])]
      · rw [linesExcept_cons_of_not_mem (fun hm => lost (mem.1 hm)), List.filterMap_cons_some read,
          tail, List.filterMap_cons_some read, List.filter_cons_of_pos (by simp [lost])]

/-- What is read off the lines that a deletion leaves, if it only takes lines without it. -/
theorem filterMap_linesExcept_eq {α : Type} {f : Text → Option α} {doomed : List Nat} {first : Nat}
    {xs : List Text} (h : ∀ i l, xs[i]? = some l → first + i ∈ doomed → f l = none) :
    (linesExcept doomed first xs).filterMap f = xs.filterMap f := by
  rw [filterMap_linesExcept fun _ => false, List.filter_eq_self.2 (by simp)]
  intro i l a hl ha
  refine ⟨fun mem => ?_, by simp⟩
  rw [h i l hl mem] at ha
  cases ha

end SolutionSweep.Document
