import SolutionSweep.Proofs.Manifest.Deletion
import SolutionSweep.Proofs.Manifest.LineKinds

/-!
# Thinning

A removal treats the lines outside of the block that it takes out in two ways: it drops inert
lines, and it rewrites lines of version control into lines of version control. Both leave alone
everything that the structure of a manifest is read off.

* `Thinned`: the relation between lines and what such a treatment leaves of them;
* `Thinned.find?_eq`, `Thinned.suffix_inv`: lines that are not inert stay where they are;
* `Framed`: every line of some kind is closed before it is broken off, which thinning preserves.
-/

namespace SolutionSweep

open Line (isInert initial?)

/-- The second list is the first one without some inert lines and with some lines of version control
rewritten. -/
inductive Thinned : List Text → List Text → Prop
  | nil : Thinned [] []
  | keep {l : Text} {xs ys : List Text} : Thinned xs ys → Thinned (l :: xs) (l :: ys)
  | drop {l : Text} {xs ys : List Text} : isInert l = true → Thinned xs ys → Thinned (l :: xs) ys
  | rewrite {l l' : Text} {xs ys : List Text} : initial? l = some 'S' → initial? l' = some 'S' →
      Thinned xs ys → Thinned (l :: xs) (l' :: ys)

theorem isInert_of_initial? {l : Text} (h : initial? l = some 'S') : isInert l = true := by
  simp [Line.isInert_iff, h]

namespace Thinned

variable {xs ys zs : List Text} {l : Text}

theorem append {xs' ys' : List Text} (h : Thinned xs xs') (h' : Thinned ys ys') :
    Thinned (xs ++ ys) (xs' ++ ys') := by
  induction h with
  | nil => exact h'
  | keep _ ih => exact .keep ih
  | drop inert _ ih => exact .drop inert ih
  | rewrite old new _ ih => exact .rewrite old new ih

/-- A line that is not inert stays. -/
theorem cons_inv (h : Thinned (l :: xs) zs) (structural : isInert l = false) :
    ∃ xs', zs = l :: xs' ∧ Thinned xs xs' := by
  cases h with
  | keep h => exact ⟨_, rfl, h⟩
  | drop inert _ =>
    rw [inert] at structural
    cases structural
  | rewrite old _ _ =>
    rw [isInert_of_initial? old] at structural
    cases structural

theorem append_inv (h : Thinned (xs ++ ys) zs) :
    ∃ xs' ys', zs = xs' ++ ys' ∧ Thinned xs xs' ∧ Thinned ys ys' := by
  induction xs generalizing zs with
  | nil => exact ⟨[], zs, rfl, .nil, h⟩
  | cons l rest ih =>
    cases h with
    | keep h =>
      obtain ⟨xs', ys', rfl, left, right⟩ := ih h
      exact ⟨l :: xs', ys', rfl, .keep left, right⟩
    | drop inert h =>
      obtain ⟨xs', ys', rfl, left, right⟩ := ih h
      exact ⟨xs', ys', rfl, .drop inert left, right⟩
    | @rewrite _ l' _ _ old new h =>
      obtain ⟨xs', ys', rfl, left, right⟩ := ih h
      exact ⟨l' :: xs', ys', rfl, .rewrite old new left, right⟩

theorem find?_eq {p : Text → Bool} (h : Thinned xs ys)
    (inert : ∀ l, isInert l = true → p l = false) : ys.find? p = xs.find? p := by
  induction h with
  | nil => rfl
  | keep _ ih => simp [List.find?_cons, ih]
  | drop hl _ ih => rw [ih, List.find?_cons_of_neg (by simp [inert _ hl])]
  | rewrite old new _ ih =>
    have noOld := inert _ (isInert_of_initial? old)
    have noNew := inert _ (isInert_of_initial? new)
    simp [noOld, noNew, ih]

/-- If no line is of some kind that inert lines are not of, no thinned line is. -/
theorem forall_eq_false {p : Text → Bool} (h : Thinned xs ys)
    (inert : ∀ l, isInert l = true → p l = false) (none : ∀ l ∈ xs, p l = false) :
    ∀ l ∈ ys, p l = false := by
  have found : ys.find? p = Option.none := by
    rw [h.find?_eq inert]
    simpa using none
  simpa using found

theorem any_eq {p : Text → Bool} (h : Thinned xs ys) (inert : ∀ l, isInert l = true → p l = false) :
    ys.any p = xs.any p := by
  rw [← List.isSome_find?, ← List.isSome_find?, h.find?_eq inert]

/-- A structural line of the thinned lines, with what follows it, comes from the same line. -/
theorem suffix_inv (h : Thinned xs ys) {rest : List Text} (suffix : l :: rest <:+ ys)
    (structural : isInert l = false) : ∃ rest', l :: rest' <:+ xs ∧ Thinned rest' rest := by
  induction h with
  | nil => simp at suffix
  | @keep l' xs ys h ih =>
    rcases List.suffix_cons_iff.1 suffix with eq | suffix
    · obtain ⟨rfl, rfl⟩ := List.cons.inj eq
      exact ⟨xs, List.suffix_rfl, h⟩
    · obtain ⟨rest', suffix', h'⟩ := ih suffix
      exact ⟨rest', suffix'.trans (List.suffix_cons _ _), h'⟩
  | drop _ _ ih =>
    obtain ⟨rest', suffix', h'⟩ := ih suffix
    exact ⟨rest', suffix'.trans (List.suffix_cons _ _), h'⟩
  | rewrite _ new _ ih =>
    rcases List.suffix_cons_iff.1 suffix with eq | suffix
    · obtain ⟨rfl, -⟩ := List.cons.inj eq
      rw [isInert_of_initial? new] at structural
      cases structural
    · obtain ⟨rest', suffix', h'⟩ := ih suffix
      exact ⟨rest', suffix'.trans (List.suffix_cons _ _), h'⟩

end Thinned

/-! ### Frames -/

/-- After each line that opens something, a line that closes it comes before the next line that
breaks it off. -/
def Framed (opens closes breaks : Text → Bool) (lines : List Text) : Prop :=
  ∀ l rest, l :: rest <:+ lines → opens l = true →
    ∃ close, rest.find? (fun x => closes x || breaks x) = some close ∧ closes close = true

theorem framed_cons {opens closes breaks : Text → Bool} {l : Text} {rest : List Text} :
    Framed opens closes breaks (l :: rest) ↔
      (opens l = true → ∃ close, rest.find? (fun x => closes x || breaks x) = some close ∧
        closes close = true) ∧ Framed opens closes breaks rest := by
  constructor
  · intro h
    exact ⟨h l rest List.suffix_rfl, fun l' rest' suffix => h l' rest' (suffix.trans
      (List.suffix_cons _ _))⟩
  · rintro ⟨head, tail⟩ l' rest' suffix
    rcases List.suffix_cons_iff.1 suffix with eq | suffix
    · obtain ⟨rfl, rfl⟩ := List.cons.inj eq
      exact head
    · exact tail l' rest' suffix

instance decidableFramed (opens closes breaks : Text → Bool) :
    (lines : List Text) → Decidable (Framed opens closes breaks lines)
  | [] => isTrue fun l rest suffix => by simp at suffix
  | _ :: rest =>
      have := decidableFramed opens closes breaks rest
      have := fun found : Option Text =>
        (match found with
        | none => isFalse (by simp)
        | some close => decidable_of_iff (closes close = true) (by simp) :
          Decidable (∃ close, found = some close ∧ closes close = true))
      decidable_of_iff _ framed_cons.symm

namespace Framed

variable {opens closes breaks : Text → Bool} {xs ys : List Text}

theorem suffix (h : Framed opens closes breaks xs) (suffix : ys <:+ xs) :
    Framed opens closes breaks ys :=
  fun l rest hl => h l rest (hl.trans suffix)

/-- Lines of which none opens anything. -/
theorem of_forall (none : ∀ l ∈ xs, opens l = false) : Framed opens closes breaks xs := by
  intro l rest suffix open_
  rw [none l (suffix.subset List.mem_cons_self)] at open_
  cases open_

/-- What an opening line opens: the lines up to the first line that closes it. -/
theorem split (h : Framed opens closes breaks xs) {l : Text} {rest : List Text}
    (suffix : l :: rest <:+ xs) (open_ : opens l = true) :
    ∃ inner close after, rest = inner ++ close :: after ∧ closes close = true ∧
      ∀ x ∈ inner, closes x = false ∧ breaks x = false := by
  obtain ⟨close, found, closing⟩ := h l rest suffix open_
  obtain ⟨-, inner, after, eq, none⟩ := List.find?_eq_some_iff_append.1 found
  exact ⟨inner, close, after, eq, closing, by simpa using none⟩

theorem append (h : Framed opens closes breaks xs) (h' : Framed opens closes breaks ys) :
    Framed opens closes breaks (xs ++ ys) := by
  intro l rest suffix open_
  obtain ⟨before, eq⟩ := suffix
  rcases List.append_eq_append_iff.1 eq with ⟨zs, rfl, tail⟩ | ⟨zs, rfl, rfl⟩
  · cases zs with
    | nil =>
      obtain rfl : l :: rest = ys := tail
      exact h' l rest List.suffix_rfl open_
    | cons l' zs =>
      obtain ⟨rfl, rfl⟩ := List.cons.inj tail
      obtain ⟨close, found, closing⟩ := h l zs (List.suffix_append _ _) open_
      exact ⟨close, by simp [List.find?_append, found], closing⟩
  · exact h' l rest (List.suffix_append _ _) open_

/-- What stands in front of a line that breaks things off is framed on its own. -/
theorem front {b : Text} (h : Framed opens closes breaks (xs ++ b :: ys)) (break_ : breaks b = true)
    (noClose : closes b = false) : Framed opens closes breaks xs := by
  intro l rest suffix open_
  obtain ⟨before, rfl⟩ := suffix
  obtain ⟨close, found, closing⟩ := h l (rest ++ b :: ys) ⟨before, by simp⟩ open_
  refine ⟨close, ?_, closing⟩
  rw [List.find?_append] at found
  cases inside : rest.find? (fun x => closes x || breaks x) with
  | some x => rwa [inside, Option.some_or] at found
  | none =>
    rw [inside, Option.none_or, List.find?_cons_of_pos (by simp [break_])] at found
    obtain rfl := Option.some.inj found
    rw [noClose] at closing
    cases closing

/-- Thinning keeps frames, if inert lines neither open, close nor break. -/
theorem thinned (h : Framed opens closes breaks xs) (thin : Thinned xs ys)
    (openInert : ∀ l, isInert l = true → opens l = false)
    (inert : ∀ l, isInert l = true → (closes l || breaks l) = false) :
    Framed opens closes breaks ys := by
  intro l rest suffix open_
  have structural : isInert l = false := by
    by_contra other
    rw [openInert l (by simpa using other)] at open_
    cases open_
  obtain ⟨rest', suffix', thin'⟩ := thin.suffix_inv suffix structural
  obtain ⟨close, found, closing⟩ := h l rest' suffix' open_
  exact ⟨close, by rw [thin'.find?_eq inert, found], closing⟩

end Framed

end SolutionSweep
