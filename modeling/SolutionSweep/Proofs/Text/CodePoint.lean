import SolutionSweep.Text.CodePoint
import Mathlib.Data.List.Chain
import Mathlib.Data.List.Sort

/-!
# Laws of code points

Sequences of code points are ordered as in a dictionary, so there is one way to sort them. A code
point above the basic plane is spelled by two surrogates; a sequence comes back from its spelling
unless it holds two surrogates that make a pair themselves.

* `CodePoints.le_total`, `CodePoints.le_trans`, `CodePoints.le_antisymm`: a total order;
* `CodePoints.sorted_eq_of_perm`: sequences are sorted in one way;
* `CodePoints.spelled`: the units that a sequence is spelled with;
* `CodePoints.joinSurrogates_spelled`: a sequence without split pairs comes back from its units.
-/

namespace SolutionSweep.CodePoints

/-! ### The order -/

theorem le_total (s t : CodePoints) : (le s t || le t s) = true := by
  induction s generalizing t with
  | nil => rfl
  | cons a s ih =>
    cases t with
    | nil => rfl
    | cons b t =>
      rcases Nat.lt_trichotomy a b with lt | rfl | gt
      · simp [le, lt]
      · simpa [le] using ih t
      · simp [le, gt]

theorem le_trans {s t u : CodePoints} (hst : le s t = true) (htu : le t u = true) :
    le s u = true := by
  induction s generalizing t u with
  | nil => rfl
  | cons a s ih =>
    cases t with
    | nil => cases hst
    | cons b t =>
      cases u with
      | nil => cases htu
      | cons c u =>
        simp only [le, Bool.or_eq_true, Bool.and_eq_true, decide_eq_true_eq, beq_iff_eq]
          at hst htu ⊢
        rcases hst with lt | ⟨rfl, hst⟩
        · exact .inl (by omega)
        · rcases htu with lt | ⟨rfl, htu⟩
          · exact .inl lt
          · exact .inr ⟨rfl, ih hst htu⟩

theorem le_antisymm {s t : CodePoints} (hst : le s t = true) (hts : le t s = true) : s = t := by
  induction s generalizing t with
  | nil =>
    cases t with
    | nil => rfl
    | cons b t => cases hts
  | cons a s ih =>
    cases t with
    | nil => cases hst
    | cons b t =>
      simp only [le, Bool.or_eq_true, Bool.and_eq_true, decide_eq_true_eq, beq_iff_eq] at hst hts
      rcases hst with lt | ⟨rfl, hst⟩
      · omega
      · rw [ih hst (hts.resolve_left (Nat.lt_irrefl a)).2]

/-- Sequences of code points are sorted in one way, in whichever order they come. -/
theorem sorted_eq_of_perm {ss ts : List CodePoints} (h : ss.Perm ts) :
    ss.mergeSort le = ts.mergeSort le := by
  have sorted (us : List CodePoints) : (us.mergeSort le).Pairwise fun s t => le s t = true :=
    List.pairwise_mergeSort (fun s t u => le_trans (s := s) (t := t) (u := u)) le_total us
  refine List.Perm.eq_of_pairwise (fun s t _ _ => le_antisymm) (sorted ss) (sorted ts) ?_
  exact (List.mergeSort_perm ss le).trans (h.trans (List.mergeSort_perm ts le).symm)

/-! ### Surrogates -/

/-- The units that spell a code point: itself, or a pair of surrogates. -/
def units (n : Nat) : CodePoints :=
  if n < 0x10000 then [n] else [0xd800 + (n - 0x10000) / 0x400, 0xdc00 + (n - 0x10000) % 0x400]

/-- The units that spell a sequence of code points. -/
def spelled (s : CodePoints) : CodePoints := s.flatMap units

/-- A sequence in which surrogates may stand alone, but no two of them make a pair. -/
def IsLegible (s : CodePoints) : Prop :=
  (∀ n ∈ s, n < 0x110000) ∧
    s.IsChain fun m n => ¬ (isHighSurrogate m = true ∧ isLowSurrogate n = true)

instance (s : CodePoints) : Decidable s.IsLegible :=
  inferInstanceAs (Decidable (_ ∧ _))

theorem units_ne_nil (n : Nat) : units n ≠ [] := by
  unfold units
  split <;> exact List.cons_ne_nil _ _

theorem joinSurrogates_cons {m : Nat} {s : CodePoints}
    (apart : ∀ n, s.head? = some n → ¬ (isHighSurrogate m = true ∧ isLowSurrogate n = true)) :
    joinSurrogates (m :: s) = m :: joinSurrogates s := by
  cases s with
  | nil => rfl
  | cons n s =>
    rw [joinSurrogates, if_neg (by simpa using apart n rfl)]

/-- The first unit of a code point is a low surrogate only if the code point is. -/
theorem isLowSurrogate_of_head?_units {n u : Nat} (small : n < 0x110000)
    (head : (units n).head? = some u) (low : isLowSurrogate u = true) : isLowSurrogate n = true := by
  unfold units at head
  split at head
  · cases head
    exact low
  · cases head
    simp only [isLowSurrogate, Bool.and_eq_true, decide_eq_true_eq] at low
    omega

/-- **A sequence without split pairs comes back from its units.** -/
theorem joinSurrogates_spelled {s : CodePoints} (h : s.IsLegible) :
    joinSurrogates (spelled s) = s := by
  obtain ⟨small, apart⟩ := h
  induction s with
  | nil => rfl
  | cons m s ih =>
    have rest := ih (fun n mem => small n (List.mem_cons_of_mem m mem)) apart.tail
    have bound := small m List.mem_cons_self
    rw [spelled, List.flatMap_cons, ← spelled, units]
    split
    case isTrue basic =>
      rw [List.singleton_append, joinSurrogates_cons, rest]
      rintro u head ⟨high, low⟩
      cases s with
      | nil => cases head
      | cons n s =>
        have first : (units n).head? = some u := by
          rw [spelled, List.flatMap_cons, List.head?_append] at head
          cases found : (units n).head? with
          | none => exact absurd (List.head?_eq_none_iff.1 found) (units_ne_nil n)
          | some v => rwa [found] at head
        refine (List.isChain_cons_cons.1 apart).1 ⟨high, ?_⟩
        exact isLowSurrogate_of_head?_units (small n (by simp)) first low
    case isFalse above =>
      have pair : (isHighSurrogate (0xd800 + (m - 0x10000) / 0x400) &&
          isLowSurrogate (0xdc00 + (m - 0x10000) % 0x400)) = true := by
        simp only [isHighSurrogate, isLowSurrogate, Bool.and_eq_true, decide_eq_true_eq]
        omega
      have whole : 0x10000 + (0xd800 + (m - 0x10000) / 0x400 - 0xd800) * 0x400 +
          (0xdc00 + (m - 0x10000) % 0x400 - 0xdc00) = m := by omega
      rw [List.cons_append, List.singleton_append, joinSurrogates, if_pos pair, rest, whole]

/-- Characters make no surrogates, so a text has no split pairs. -/
theorem isLegible_ofText (t : Text) : (ofText t).IsLegible := by
  have char {n : Nat} (mem : n ∈ ofText t) : n.isValidChar := by
    obtain ⟨c, -, rfl⟩ := List.mem_map.1 mem
    exact c.valid
  refine ⟨fun n mem => ?_, ?_⟩
  · rcases char mem with h | h <;> omega
  · refine List.Pairwise.isChain (List.pairwise_of_forall_mem_list fun m hm n _ => ?_)
    rintro ⟨high, -⟩
    simp only [isHighSurrogate, Bool.and_eq_true, decide_eq_true_eq] at high
    rcases char hm with h | h <;> omega

end SolutionSweep.CodePoints
