import Mathlib.Data.List.Forall2

/-!
# Traversals that may fail

A step that may fail is done on every element of a list, and the results are collected unless one of
the steps fails. So a traversal succeeds exactly with the results of the steps, element by element.

* `mapM_eq_ok_iff`: the elements and the results are related pairwise;
* `exists_mapM_iff`: a traversal succeeds if each step does;
* `mapM_eq_ok_iff_of_step`: the results of a step whose value can be named;
* `mapM_filter`, `mapM_filter_map`: the traversal of some of the elements.
-/

namespace SolutionSweep

variable {ε α β : Type} {f f' : α → Except ε β} {xs : List α} {ys : List β}

/-- What is done with a result does not decide whether there is one. -/
theorem exists_map_eq_ok_iff {g : α → β} {result : Except ε α} :
    (∃ y, result.map g = .ok y) ↔ ∃ x, result = .ok x := by
  cases result with
  | error e => simp [Except.map]
  | ok x => simp [Except.map]

theorem mapM_cons_eq_ok_iff {x : α} : (x :: xs).mapM f = .ok ys ↔
    ∃ y zs, f x = .ok y ∧ xs.mapM f = .ok zs ∧ ys = y :: zs := by
  rw [List.mapM_cons]
  constructor
  · intro h
    cases first : f x with
    | error e =>
      rw [first] at h
      cases h
    | ok y =>
      cases others : xs.mapM f with
      | error e =>
        rw [first, others] at h
        cases h
      | ok zs =>
        rw [first, others] at h
        exact ⟨y, zs, rfl, rfl, (Except.ok.inj h).symm⟩
  · rintro ⟨y, zs, first, others, rfl⟩
    rw [first, others]
    rfl

/-- **A traversal succeeds with the results of the steps.** -/
theorem mapM_eq_ok_iff : xs.mapM f = .ok ys ↔ List.Forall₂ (fun x y => f x = .ok y) xs ys := by
  induction xs generalizing ys with
  | nil =>
    rw [List.mapM_nil, List.forall₂_nil_left_iff]
    constructor
    · rintro ⟨⟩
      rfl
    · rintro rfl
      rfl
  | cons x rest ih =>
    rw [mapM_cons_eq_ok_iff, List.forall₂_cons_left_iff]
    constructor
    · rintro ⟨y, zs, first, others, rfl⟩
      exact ⟨y, zs, first, ih.1 others, rfl⟩
    · rintro ⟨y, zs, first, others, rfl⟩
      exact ⟨y, zs, first, ih.2 others, rfl⟩

/-- A traversal succeeds if each step does. -/
theorem exists_mapM_iff : (∃ ys, xs.mapM f = .ok ys) ↔ ∀ x ∈ xs, ∃ y, f x = .ok y := by
  induction xs with
  | nil => exact ⟨fun _ => nofun, fun _ => ⟨[], rfl⟩⟩
  | cons x rest ih =>
    rw [List.forall_mem_cons, ← ih]
    constructor
    · rintro ⟨ys, ok⟩
      obtain ⟨y, zs, first, others, -⟩ := mapM_cons_eq_ok_iff.1 ok
      exact ⟨⟨y, first⟩, zs, others⟩
    · rintro ⟨⟨y, first⟩, zs, others⟩
      exact ⟨y :: zs, mapM_cons_eq_ok_iff.2 ⟨y, zs, first, others, rfl⟩⟩

/-- If a step succeeds on some elements only, with a value that can be named, its traversal succeeds
if all elements are of this kind. -/
theorem mapM_eq_ok_iff_of_step {fine : α → Prop} {value : α → β}
    (step : ∀ x y, f x = .ok y ↔ fine x ∧ y = value x) :
    xs.mapM f = .ok ys ↔ (∀ x ∈ xs, fine x) ∧ ys = xs.map value := by
  rw [mapM_eq_ok_iff]
  constructor
  · intro h
    induction h with
    | nil => exact ⟨nofun, rfl⟩
    | @cons x y xs ys first _ ih =>
      obtain ⟨head, rfl⟩ := (step x y).1 first
      obtain ⟨tail, rfl⟩ := ih
      exact ⟨List.forall_mem_cons.2 ⟨head, tail⟩, rfl⟩
  · rintro ⟨all, rfl⟩
    rw [List.forall₂_map_right_iff, List.forall₂_same]
    exact fun x mem => (step x _).2 ⟨all x mem, rfl⟩

/-- Each result is that of an element. -/
theorem exists_of_mem_mapM (ok : xs.mapM f = .ok ys) {y : β} (mem : y ∈ ys) :
    ∃ x ∈ xs, f x = .ok y := by
  rw [mapM_eq_ok_iff] at ok
  induction ok with
  | nil => cases mem
  | @cons x y' xs ys first _ ih =>
    rcases List.mem_cons.1 mem with rfl | mem
    · exact ⟨x, List.mem_cons_self, first⟩
    · obtain ⟨x', mem', ok'⟩ := ih mem
      exact ⟨x', List.mem_cons_of_mem x mem', ok'⟩

/-- Some of the elements can be traversed with another step if it has results where the first step
has. Then their results are those of the other elements left out, changed by what the steps differ
in. -/
theorem mapM_filter_map {γ : Type} {f' : α → Except ε γ} {keep : α → Bool} {keep' : β → Bool}
    {change : β → γ} (kept : ∀ x y, f x = .ok y → keep' y = keep x)
    (step : ∀ x y, keep x = true → f x = .ok y → f' x = .ok (change y)) (ok : xs.mapM f = .ok ys) :
    (xs.filter keep).mapM f' = .ok ((ys.filter keep').map change) := by
  rw [mapM_eq_ok_iff] at ok ⊢
  induction ok with
  | nil => exact .nil
  | @cons x y xs ys first _ ih =>
    by_cases stays : keep x = true
    · rw [List.filter_cons_of_pos stays, List.filter_cons_of_pos (by rw [kept x y first, stays])]
      exact .cons (step x y stays first) ih
    · rw [List.filter_cons_of_neg stays, List.filter_cons_of_neg (by rwa [kept x y first])]
      exact ih

/-- Taking elements out before each of them is worked on is taking out the results. -/
theorem mapM_filter {keep : α → Bool} {keep' : β → Bool}
    (same : ∀ x, keep x = true → f' x = f x) (kept : ∀ x y, f x = .ok y → keep' y = keep x)
    (ok : xs.mapM f = .ok ys) : (xs.filter keep).mapM f' = .ok (ys.filter keep') := by
  have changed : (xs.filter keep).mapM f' = .ok ((ys.filter keep').map id) :=
    mapM_filter_map kept (fun x y stays ok => (same x stays).trans ok) ok
  rwa [List.map_id] at changed

end SolutionSweep
