import SolutionSweep.Proofs.Table
import SolutionSweep.Proofs.Text.Marks

/-!
# Text without letter case

Folding forgets the case of letters, that of ASCII letters among others. It neither makes nor takes
away slashes, so a path is folded segment by segment.

* `fold_map_toLower`: a text in ASCII lower case is folded to the same text;
* `CaseMapping.apply_cases`: what a mapping of letter case makes of a character;
* `slash_mem_foldChar`: only a slash is folded to a slash.
-/

namespace SolutionSweep

/-- Only the character itself has a given ASCII lower case that is no lower-case letter. -/
theorem eq_of_toLower {c d : Char} (h : c.toLower = d) (other : d.isLower = false) : c = d := by
  have table : ∀ n < 128, (Char.ofNat n).toLower.isLower = false →
      (Char.ofNat n).toLower = Char.ofNat n := by decide +kernel
  by_cases small : c.toNat < 128
  · have entry := table c.toNat small
    rw [Char.ofNat_toNat, h] at entry
    exact (entry other).symm
  · exact (toLower_eq_self small).symm.trans h

theorem foldChar_toLower (c : Char) : foldChar c.toLower = foldChar c := by
  have table : ∀ n < 128, (Char.ofNat n).toLower.toNat < 128 ∧
      (Char.ofNat n).toLower.toLower = (Char.ofNat n).toLower := by decide +kernel
  by_cases small : c.toNat < 128
  · obtain ⟨smaller, twice⟩ := table c.toNat small
    rw [Char.ofNat_toNat] at smaller twice
    rw [foldChar, foldChar, if_pos smaller, if_pos small, twice]
  · rw [toLower_eq_self small]

/-! ### Mappings of letter case -/

/-- A code point is that of a character, or stands for the null character. -/
theorem toNat_ofNat (n : Nat) : (Char.ofNat n).toNat = n ∨ Char.ofNat n = '\x00' := by
  unfold Char.ofNat
  by_cases valid : n.isValidChar
  · rw [dif_pos valid]
    exact .inl rfl
  · rw [dif_neg valid]
    exact .inr rfl

/-- What stands for a character: a character of a run is shifted, one with an expansion expanded,
and any other stands for itself. -/
theorem CaseMapping.apply_cases (m : CaseMapping) (c : Char) :
    (∃ r ∈ m.runs, r.covers c.toNat = true ∧
      m.apply c = [Char.ofNat (c.toNat + r.shift).toNat]) ∨
    (∃ codes, (c.toNat, codes) ∈ m.expansions ∧ m.apply c = codes.map Char.ofNat) ∨
    m.apply c = [c] := by
  unfold apply
  split
  · rename_i r found
    exact .inl ⟨r, List.mem_of_find?_eq_some found,
      List.find?_some (p := fun r : CaseRun => r.covers c.toNat) found, rfl⟩
  · split
    · rename_i codes listed
      exact .inr (.inl ⟨codes, mem_of_lookup listed, rfl⟩)
    · exact .inr (.inr rfl)

/-! ### Slashes -/

theorem eq_of_ofNat_eq_slash {n : Nat} (h : Char.ofNat n = '/') : n = 47 := by
  rcases toNat_ofNat n with same | null
  · rw [← same, h]
    rfl
  · rw [null] at h
    cases h

/-- No character outside of ASCII is folded to nothing or to a text with a slash. -/
theorem foldMapping_apply (c : Char) (large : ¬ c.toNat < 128) :
    foldMapping.apply c ≠ [] ∧ '/' ∉ foldMapping.apply c := by
  have runs : ∀ r ∈ foldMapping.runs, 47 < (r.first : Int) + r.shift := by decide +kernel
  have expansions : ∀ e ∈ foldMapping.expansions, e.2 ≠ [] ∧ 47 ∉ e.2 := by decide +kernel
  obtain ⟨r, run, covers, eq⟩ | ⟨codes, listed, eq⟩ | eq := foldMapping.apply_cases c
  · rw [eq]
    refine ⟨List.cons_ne_nil _ _, fun mem => ?_⟩
    have code := eq_of_ofNat_eq_slash (List.mem_singleton.1 mem).symm
    have first := runs r run
    simp only [CaseRun.covers, Bool.and_eq_true, decide_eq_true_eq] at covers
    omega
  · rw [eq]
    obtain ⟨filled, absent⟩ := expansions _ listed
    refine ⟨fun none => filled (List.map_eq_nil_iff.1 none), fun mem => ?_⟩
    obtain ⟨code, inside, eq⟩ := List.mem_map.1 mem
    exact absent (eq_of_ofNat_eq_slash eq ▸ inside)
  · rw [eq]
    refine ⟨List.cons_ne_nil _ _, fun mem => ?_⟩
    rw [← List.mem_singleton.1 mem] at large
    exact large (by decide)

theorem foldChar_ne_nil (c : Char) : foldChar c ≠ [] := by
  unfold foldChar
  split
  · exact List.cons_ne_nil _ _
  · rename_i large
    exact (foldMapping_apply c large).1

/-- Only a slash is folded to a slash. -/
theorem slash_mem_foldChar {c : Char} : '/' ∈ foldChar c ↔ c = '/' := by
  unfold foldChar
  split
  · constructor
    · intro mem
      exact eq_of_toLower (List.mem_singleton.1 mem).symm (by decide)
    · rintro rfl
      decide
  · rename_i large
    refine ⟨fun mem => absurd mem (foldMapping_apply c large).2, ?_⟩
    rintro rfl
    exact absurd (by decide) large

namespace Text

theorem fold_append (s t : Text) : fold (s ++ t) = fold s ++ fold t := List.flatMap_append

theorem slashed_append (s t : Text) : slashed (s ++ t) = slashed s ++ slashed t := List.map_append

theorem fold_map_toLower (t : Text) : fold (t.map Char.toLower) = fold t := by
  rw [fold, List.flatMap_map]
  exact congrArg (t.flatMap ·) (funext foldChar_toLower)

theorem slashed_map_toLower (t : Text) :
    slashed (t.map Char.toLower) = (slashed t).map Char.toLower := by
  rw [slashed, slashed, List.map_map, List.map_map]
  refine List.map_congr_left fun c _ => ?_
  by_cases back : c = '\\'
  · subst back
    rfl
  · have lower : c.toLower ≠ '\\' := fun eq => back (eq_of_toLower eq (by decide))
    simp [back, lower]

end Text

end SolutionSweep
