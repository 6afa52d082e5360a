import SolutionSweep.Proofs.Manifest.Orderly

/-!
# Dropping blank lines

Nothing is read off a blank line, so a manifest says the same without its blank lines.

* `lines_stripBlankLines`: the lines that are left are those that are not blank;
* `Orderly.nonblank`: they are orderly if the lines were;
* `filterMap_linesOf_nonblank`: what is read off the lines of a section stays.
-/

namespace SolutionSweep

/-- The lines that are not blank. -/
def nonblank (lines : List Text) : List Text := lines.filter fun l => !Text.isBlank l

theorem Document.mem_blankIndices {d : Document} {i : Nat} :
    i ∈ d.blankIndices ↔ ∃ l, d.lines[i]? = some l ∧ Text.isBlank l = true := by
  simp only [Document.blankIndices, List.mem_map, List.mem_filter, List.mem_zipIdx_iff_getElem?]
  constructor
  · rintro ⟨⟨l, i⟩, ⟨at_, blank⟩, rfl⟩
    exact ⟨l, at_, blank⟩
  · rintro ⟨l, at_, blank⟩
    exact ⟨(l, i), ⟨at_, blank⟩, rfl⟩

/-- The lines that are left are those that are not blank. -/
theorem Document.lines_stripBlankLines (d : Document) :
    d.stripBlankLines.lines = nonblank d.lines := by
  have kept : (Document.linesExcept d.blankIndices 0 d.lines).filterMap some =
      (d.lines.filterMap some).filter fun l => !Text.isBlank l := by
    refine Document.filterMap_linesExcept Text.isBlank ?_
    rintro i l l' at_ ⟨⟩
    rw [Nat.zero_add, Document.mem_blankIndices]
    constructor
    · rintro ⟨l', at', blank⟩
      rwa [Option.some.inj (at_.symm.trans at')]
    · intro blank
      exact ⟨l, at_, blank⟩
  rwa [List.filterMap_some, List.filterMap_some] at kept

theorem nonblank_append (xs ys : List Text) : nonblank (xs ++ ys) = nonblank xs ++ nonblank ys :=
  List.filter_append xs ys

theorem mem_of_mem_nonblank {l : Text} {lines : List Text} (h : l ∈ nonblank lines) : l ∈ lines :=
  List.mem_of_mem_filter h

theorem thinned_nonblank (lines : List Text) : Thinned lines (nonblank lines) := by
  induction lines with
  | nil => exact .nil
  | cons l rest ih =>
    unfold nonblank at ih ⊢
    cases blank : Text.isBlank l with
    | true =>
      rw [List.filter_cons_of_neg (by simp [blank])]
      exact .drop (Line.isInert_of_isBlank blank) ih
    | false =>
      rw [List.filter_cons_of_pos (by simp [blank])]
      exact .keep ih

/-- Dropping blank lines keeps a manifest orderly. -/
theorem Orderly.nonblank {lines : List Text} (h : Orderly lines) :
    Orderly (nonblank lines) := h.thinned (thinned_nonblank lines)

theorem nonblank_cons {l : Text} (structural : Line.isInert l = false) (rest : List Text) :
    nonblank (l :: rest) = l :: nonblank rest := by
  refine List.filter_cons_of_pos ?_
  rw [Bool.not_eq_true', Bool.eq_false_iff]
  intro blank
  rw [Line.isInert_of_isBlank blank] at structural
  cases structural

/-- A section keeps its place when blank lines are dropped. -/
theorem Section.At.nonblank {names lines front inner back : List Text} {opening closing : Text}
    (h : Section.At names lines front opening inner closing back) :
    Section.At names (nonblank lines) (nonblank front) opening (nonblank inner)
      closing (nonblank back) := by
  have structural :=
    Line.isInert_eq_false_of_isSectionHeader (Line.isSectionHeader_of_opensSection h.opens)
  have structural' := Line.isInert_eq_false_of_isSectionEnd h.closes
  refine ⟨?_, h.opens, h.closes, fun l mem => h.inner l (mem_of_mem_nonblank mem),
    fun l mem => h.first l (mem_of_mem_nonblank mem)⟩
  rw [h.lines_eq, nonblank_append, nonblank_cons structural, nonblank_append,
    nonblank_cons structural']

theorem Section.isSome_find?_nonblank {lines : List Text} (orderly : Orderly lines)
    (names : List Text) :
    (Section.find? (Section.scan (nonblank lines)) names).isSome =
      (Section.find? (Section.scan lines) names).isSome := by
  rcases Section.exists_at orderly.sections names with absent | ⟨_, _, _, _, _, h⟩
  · rw [Section.find?_eq_none absent,
      Section.find?_eq_none fun l mem => absent l (mem_of_mem_nonblank mem)]
  · obtain ⟨_, found, -⟩ := h.find?_eq
    obtain ⟨_, found', -⟩ := h.nonblank.find?_eq
    rw [found, found']
    rfl

/-- What is read off the lines of a section does not depend on blank lines. -/
theorem filterMap_linesOf_nonblank {α : Type} {f : Text → Option α} {lines : List Text}
    (orderly : Orderly lines) (names : List Text)
    (blank : ∀ l, Text.isBlank l = true → f l = none) :
    (Section.linesOf names (nonblank lines)).filterMap f =
      (Section.linesOf names lines).filterMap f := by
  rcases Section.exists_at orderly.sections names with absent | ⟨_, _, inner, _, _, h⟩
  · rw [Section.linesOf_eq_nil absent,
      Section.linesOf_eq_nil fun l mem => absent l (mem_of_mem_nonblank mem)]
  · rw [h.linesOf_eq, h.nonblank.linesOf_eq, nonblank, List.filterMap_filter]
    refine List.filterMap_congr fun l _ => ?_
    cases isBlank : Text.isBlank l with
    | true => simp [blank l isBlank]
    | false => simp

end SolutionSweep
