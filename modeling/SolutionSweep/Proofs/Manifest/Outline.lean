import SolutionSweep.Proofs.Manifest.Removal

/-!
# The outline of a manifest

The blocks of a manifest without the places where they stand. A removal takes exactly one block out
of the outline, and inert lines do not show in it.

* `outline`: the blocks without their places;
* `outline_append`, `outline_thinned`: the outline of two parts, and of thinned lines;
* `Excised.outline_eq`: taking a block out.
-/

namespace SolutionSweep

/-- A block without the place where it stands. -/
def Block.unplaced (b : Block) : Block := { b with span := ⟨0, 0⟩ }

/-- The blocks of a manifest without the places where they stand. -/
def outline (lines : List Text) : List Block := (Block.scan lines).map (·.unplaced)

/-- The block of a registration line in front of its inner lines. -/
def Block.ofRegistration (r : Line.Registration) (inner : List Text) : Block where
  id := canonicalId r.id
  typeId := canonicalId r.typeId
  name := r.name
  path := r.path
  span := ⟨0, 0⟩
  hasItems := inner.any Line.isItemsHeader

theorem unplaced_scanFrom (i : Nat) (lines : List Text) :
    (Block.scanFrom i lines).map (·.unplaced) = outline lines := by
  have general : ∀ i j, (Block.scanFrom i lines).map (·.unplaced) =
      (Block.scanFrom j lines).map (·.unplaced) := by
    induction lines with
    | nil => exact fun _ _ => rfl
    | cons l rest ih =>
      intro i j
      cases read : Line.registration? l with
      | none =>
        simp only [Block.scanFrom, read]
        exact ih _ _
      | some r =>
        simp only [Block.scanFrom, read, List.map_cons]
        rw [ih (i + 1) (j + 1)]
        rfl
  exact general i 0

theorem outline_cons_of_none {l : Text} (none : Line.registration? l = none) (rest : List Text) :
    outline (l :: rest) = outline rest := by
  rw [← unplaced_scanFrom 1 rest, outline, Block.scan, Block.scanFrom, none]

theorem outline_cons_of_some {l : Text} {r : Line.Registration}
    (read : Line.registration? l = some r) {inner back : List Text} {closing : Text}
    (closes : Line.isBlockEnd closing = true)
    (open_ : ∀ l ∈ inner, Line.isBlockEnd l = false ∧
      (Line.isRegistration l || Line.isGlobalBoundary l) = false) :
    outline (l :: (inner ++ closing :: back)) =
      Block.ofRegistration r inner :: outline (inner ++ closing :: back) := by
  rw [← unplaced_scanFrom 1 (inner ++ closing :: back), outline, Block.scan]
  simp only [Block.scanFrom, read, Block.ofLine_eq closes open_, List.map_cons]
  rfl

/-- A registration line with the lines of its block. -/
theorem BlocksClosed.cons_cases {l : Text} {rest : List Text} (h : BlocksClosed (l :: rest))
    {r : Line.Registration} (read : Line.registration? l = some r) :
    ∃ inner closing back, rest = inner ++ closing :: back ∧ Line.isBlockEnd closing = true ∧
      ∀ l ∈ inner, Line.isBlockEnd l = false ∧
        (Line.isRegistration l || Line.isGlobalBoundary l) = false :=
  Framed.split h List.suffix_rfl (by simp [Line.isRegistration, read])

/-- The outline of two parts, if no block of the first one reaches into the second one. -/
theorem outline_append {xs : List Text} (closed : BlocksClosed xs) (ys : List Text) :
    outline (xs ++ ys) = outline xs ++ outline ys := by
  induction xs with
  | nil => rfl
  | cons l rest ih =>
    have tail := ih (Framed.suffix closed (List.suffix_cons _ _))
    cases read : Line.registration? l with
    | none =>
      rw [List.cons_append, outline_cons_of_none read, outline_cons_of_none read, tail]
    | some r =>
      obtain ⟨inner, closing, back, rfl, closes, open_⟩ := closed.cons_cases read
      rw [List.append_assoc, List.cons_append] at tail
      rw [outline_cons_of_some read closes open_, List.cons_append, List.append_assoc,
        List.cons_append, outline_cons_of_some read closes open_, tail, List.cons_append]

/-- Inert lines do not show in the outline. -/
theorem outline_thinned {xs ys : List Text} (thin : Thinned xs ys) (closed : BlocksClosed xs) :
    outline ys = outline xs := by
  induction thin with
  | nil => rfl
  | @keep l xs ys thin ih =>
    have tail := ih (Framed.suffix closed (List.suffix_cons _ _))
    cases read : Line.registration? l with
    | none => rw [outline_cons_of_none read, outline_cons_of_none read, tail]
    | some r =>
      -- The end line of the block stays, so the block ends where it did; only its inner lines are
      -- thinned, and whether it has items does not depend on inert lines.
      obtain ⟨inner, closing, back, rfl, closes, open_⟩ := closed.cons_cases read
      obtain ⟨inner', rest, rfl, thinInner, thinRest⟩ := thin.append_inv
      obtain ⟨back', rfl, -⟩ := thinRest.cons_inv (Line.isInert_eq_false_of_isBlockEnd closes)
      have open' : ∀ l ∈ inner', Line.isBlockEnd l = false ∧
          (Line.isRegistration l || Line.isGlobalBoundary l) = false := by
        intro l mem
        refine ⟨thinInner.forall_eq_false (fun _ => Line.isBlockEnd_eq_false)
          (fun l mem => (open_ l mem).1) l mem, ?_⟩
        refine thinInner.forall_eq_false (p := fun l =>
          Line.isRegistration l || Line.isGlobalBoundary l) (fun l inert => ?_)
          (fun l mem => (open_ l mem).2) l mem
        simp [Line.isRegistration_eq_false inert, Line.isGlobalBoundary_eq_false inert]
      rw [outline_cons_of_some read closes open_, outline_cons_of_some read closes open', tail,
        Block.ofRegistration, Block.ofRegistration,
        thinInner.any_eq fun _ => Line.isItemsHeader_eq_false]
  | drop inert _ ih =>
    rw [ih (Framed.suffix closed (List.suffix_cons _ _)),
      outline_cons_of_none (Line.registration?_eq_none inert)]
  | rewrite old new _ ih =>
    rw [outline_cons_of_none (Line.registration?_eq_none (isInert_of_initial? new)),
      outline_cons_of_none (Line.registration?_eq_none (isInert_of_initial? old)),
      ih (Framed.suffix closed (List.suffix_cons _ _))]

/-- Lines that register nothing do not show in the outline. -/
theorem outline_append_of_forall {xs : List Text}
    (none : ∀ l ∈ xs, Line.isRegistration l = false) (ys : List Text) :
    outline (xs ++ ys) = outline ys := by
  induction xs with
  | nil => rfl
  | cons l rest ih =>
    have read : Line.registration? l = Option.none := by
      simpa [Line.isRegistration] using none l List.mem_cons_self
    rw [List.cons_append, outline_cons_of_none read,
      ih fun x mem => none x (List.mem_cons_of_mem l mem)]

/-- **Taking a block out takes it out of the outline.** -/
theorem Excised.outline_eq {b : Block} {lines lines' front inner back front' back' : List Text}
    {opening closing : Text}
    (h : Excised b lines lines' front opening inner closing back front' back')
    (closed : BlocksClosed lines) :
    outline lines = outline front ++ b.unplaced :: outline back ∧
      outline lines' = outline front ++ outline back := by
  have closedFront : BlocksClosed front := h.block.blocksClosed_front closed
  have closedBack : BlocksClosed back := Framed.suffix closed h.block.suffix_back
  obtain ⟨r, read, here⟩ := h.block.block
  have unplaced : Block.ofRegistration r inner = b.unplaced := by
    rw [← here, Block.ofLine_eq h.block.closes h.block.inner]
    rfl
  -- What follows the registration line registers nothing up to the end of the block.
  have noBlock : ∀ l ∈ inner ++ [closing], Line.isRegistration l = false := by
    intro l mem
    rcases List.mem_append.1 mem with mem | mem
    · have := (h.block.inner l mem).2
      rw [Bool.or_eq_false_iff] at this
      exact this.1
    · obtain rfl := List.mem_singleton.1 mem
      exact Line.eq_false_of_initial? Line.initial?_of_isRegistration
        (Line.initial?_of_isBlockEnd h.block.closes) (by decide)
  constructor
  · rw [h.block.lines_eq, outline_append closedFront,
      outline_cons_of_some read h.block.closes h.block.inner, unplaced,
      show inner ++ closing :: back = (inner ++ [closing]) ++ back by simp,
      outline_append_of_forall noBlock]
  · rw [h.lines_eq, outline_append (closedFront.thinned h.front),
      outline_thinned h.front closedFront, outline_thinned h.back closedBack]

end SolutionSweep
