import SolutionSweep.Text.Basic
import Mathlib.Data.List.Basic

/-!
# Pieces between separators

A text is the pieces between its separators, joined with them again; pieces that are joined are
found again if none of them holds a separator.

* `splitOn_append`: the pieces of two texts with a separator between them;
* `splitOn_append_of_not_mem`: the pieces of a text with more behind its last piece;
* `mem_splitOn`: what the pieces consist of;
* `join_splitOn`, `splitOn_join`: pieces joined, and joined pieces cut.
-/

namespace SolutionSweep.Text

variable {sep : Char}

theorem splitOn_ne_nil (sep : Char) (t : Text) : splitOn sep t ≠ [] := by
  cases t with
  | nil => exact List.cons_ne_nil _ _
  | cons c cs =>
    rw [splitOn]
    split
    · exact List.cons_ne_nil _ _
    · split <;> exact List.cons_ne_nil _ _

/-- A separator ends one piece and begins the next. -/
theorem splitOn_append (s t : Text) :
    splitOn sep (s ++ sep :: t) = splitOn sep s ++ splitOn sep t := by
  induction s with
  | nil => simp [splitOn]
  | cons c cs ih =>
    rw [List.cons_append, splitOn, splitOn, ih]
    split
    · rfl
    · obtain ⟨piece, pieces, parts⟩ := List.exists_cons_of_ne_nil (splitOn_ne_nil sep cs)
      rw [parts]
      rfl

theorem splitOn_eq_singleton {t : Text} (h : sep ∉ t) : splitOn sep t = [t] := by
  induction t with
  | nil => rfl
  | cons c cs ih =>
    rw [List.mem_cons, not_or] at h
    rw [splitOn, if_neg (Ne.symm h.1), ih h.2]

/-- The pieces consist of characters of the text other than the separator. -/
theorem mem_splitOn {t piece : Text} (h : piece ∈ splitOn sep t) {c : Char} (mem : c ∈ piece) :
    c ∈ t ∧ c ≠ sep := by
  induction t generalizing piece with
  | nil =>
    obtain rfl := List.mem_singleton.1 h
    cases mem
  | cons d ds ih =>
    unfold splitOn at h
    split at h
    · rcases List.mem_cons.1 h with rfl | h
      · cases mem
      · exact (ih h mem).imp_left (List.mem_cons_of_mem d)
    · rename_i other
      split at h
      · obtain rfl := List.mem_singleton.1 h
        obtain rfl := List.mem_singleton.1 mem
        exact ⟨List.mem_cons_self, other⟩
      · rename_i piece' pieces parts
        rcases List.mem_cons.1 h with rfl | h
        · rcases List.mem_cons.1 mem with rfl | mem
          · exact ⟨List.mem_cons_self, other⟩
          · have first : piece' ∈ splitOn sep ds := by simp [parts]
            exact (ih first mem).imp_left (List.mem_cons_of_mem d)
        · have later : piece ∈ splitOn sep ds := by simp [parts, h]
          exact (ih later mem).imp_left (List.mem_cons_of_mem d)

/-! ### Joining -/

theorem join_cons_cons (between p q : Text) (pieces : List Text) :
    join between (p :: q :: pieces) = p ++ (between ++ join between (q :: pieces)) := by
  rw [join, List.intercalate_cons_cons, List.append_assoc, join]

theorem join_append {between : Text} {front back : List Text} (hf : front ≠ []) (hb : back ≠ []) :
    join between (front ++ back) = join between front ++ (between ++ join between back) := by
  obtain ⟨q, back, rfl⟩ := List.exists_cons_of_ne_nil hb
  induction front with
  | nil => exact absurd rfl hf
  | cons p front ih =>
    cases front with
    | nil => simp [join]
    | cons p' front =>
      rw [List.cons_append, List.cons_append, join_cons_cons, ← List.cons_append,
        ih (List.cons_ne_nil _ _), join_cons_cons]
      simp only [List.append_assoc]

/-- A text is its pieces and the separators between them. -/
theorem join_splitOn (t : Text) : join [sep] (splitOn sep t) = t := by
  induction t with
  | nil => rfl
  | cons c cs ih =>
    obtain ⟨piece, pieces, parts⟩ := List.exists_cons_of_ne_nil (splitOn_ne_nil sep cs)
    rw [splitOn]
    split
    · rename_i same
      rw [parts, join_cons_cons, ← parts, ih, same]
      rfl
    · rw [parts] at ih ⊢
      cases pieces with
      | nil => simpa [join] using ih
      | cons q pieces =>
        rw [join_cons_cons] at ih ⊢
        rw [List.cons_append, ih]

/-- Pieces without separators are found again. -/
theorem splitOn_join {pieces : List Text} (some_piece : pieces ≠ [])
    (clean : ∀ p ∈ pieces, sep ∉ p) : splitOn sep (join [sep] pieces) = pieces := by
  induction pieces with
  | nil => exact absurd rfl some_piece
  | cons p pieces ih =>
    have head := splitOn_eq_singleton (clean p List.mem_cons_self)
    cases pieces with
    | nil => simpa [join] using head
    | cons q pieces =>
      have tail := ih (by simp) fun p mem => clean p (List.mem_cons_of_mem _ mem)
      rw [join_cons_cons, List.singleton_append, splitOn_append, head, tail]
      rfl

/-- Text without separators goes on with the last piece. -/
theorem splitOn_append_of_not_mem {t r last : Text} {front : List Text}
    (parts : splitOn sep t = front ++ [last]) (clean : sep ∉ r) :
    splitOn sep (t ++ r) = front ++ [last ++ r] := by
  have pieces {p : Text} (mem : p ∈ front ++ [last]) : sep ∉ p := fun here =>
    (mem_splitOn (parts ▸ mem) here).2 rfl
  have whole : t ++ r = join [sep] (front ++ [last ++ r]) := by
    have pieces_of_t : join [sep] (splitOn sep t) = t := join_splitOn t
    rw [← pieces_of_t, parts]
    cases front with
    | nil => simp [join]
    | cons p front =>
      rw [join_append (List.cons_ne_nil p front) (List.cons_ne_nil _ _),
        join_append (List.cons_ne_nil p front) (List.cons_ne_nil _ _)]
      simp [join]
  rw [whole, splitOn_join (by simp)]
  intro p mem
  rcases List.mem_append.1 mem with mem | mem
  · exact pieces (List.mem_append_left _ mem)
  · rw [List.mem_singleton.1 mem, List.mem_append, not_or]
    exact ⟨pieces (by simp), clean⟩

theorem splitOn_join_append {pieces : List Text} (some_piece : pieces ≠ [])
    (clean : ∀ p ∈ pieces, sep ∉ p) :
    splitOn sep (join [sep] pieces ++ [sep]) = pieces ++ [[]] := by
  rw [splitOn_append, splitOn_join some_piece clean, splitOn]

/-- The characters of joined pieces are those of the pieces and of what stands between them. -/
theorem mem_join {between : Text} {pieces : List Text} {c : Char} (h : c ∈ join between pieces) :
    (∃ p ∈ pieces, c ∈ p) ∨ c ∈ between := by
  induction pieces with
  | nil => simp [join] at h
  | cons p pieces ih =>
    cases pieces with
    | nil => exact Or.inl ⟨p, List.mem_cons_self, by simpa [join] using h⟩
    | cons q pieces =>
      rw [join_cons_cons, List.mem_append, List.mem_append] at h
      rcases h with h | h | h
      · exact Or.inl ⟨p, List.mem_cons_self, h⟩
      · exact Or.inr h
      · exact (ih h).imp_left fun ⟨p', mem, hc⟩ => ⟨p', List.mem_cons_of_mem p mem, hc⟩

end SolutionSweep.Text
