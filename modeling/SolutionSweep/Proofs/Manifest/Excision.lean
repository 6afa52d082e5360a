import SolutionSweep.Proofs.Manifest.Release

/-!
# Taking a block out

A removal deletes the lines of one block and, outside of it, only inert lines. What is left is the
manifest without the block and thinned on both sides of it, and this is again orderly. Every section
keeps its header and its end line, so it is found again; the lines inside of it are those that have
not been deleted.

* `keyedIndices_cases`: the lines that are deleted besides the block are inert;
* `Excised`: the manifest without a block, thinned on both sides of it;
* `Orderly.excised`: what is left is orderly;
* `Section.At.linesExcept`: where a section stands afterwards.
-/

namespace SolutionSweep

open Document (linesExcept)

/-! ### The lines keyed by an entry -/

theorem mem_body {s : Section} {lines : List Text} {p : Text × Nat} (h : p ∈ s.body lines) :
    lines[p.2]? = some p.1 :=
  List.mem_zipIdx_iff_getElem?.1 (List.mem_of_mem_drop (List.mem_of_mem_take h))

theorem mem_bodyOf {s : Option Section} {lines : List Text} {p : Text × Nat}
    (h : p ∈ Section.bodyOf s lines) : lines[p.2]? = some p.1 := by
  cases s with
  | none => cases h
  | some s => exact mem_body h

theorem mem_configIndices {lines : List Text} {id : EntryId} {i : Nat} :
    i ∈ configIndices lines id ↔ ∃ l, lines[i]? = some l ∧ Line.buildConfigId? l = some id := by
  simp only [configIndices, List.mem_map, List.mem_filter, List.mem_zipIdx_iff_getElem?,
    beq_iff_eq]
  constructor
  · rintro ⟨⟨l, i⟩, ⟨at_, config⟩, rfl⟩
    exact ⟨l, at_, config⟩
  · rintro ⟨l, at_, config⟩
    exact ⟨(l, i), ⟨at_, config⟩, rfl⟩

theorem mem_childIndices {lines : List Text} {id : EntryId} {i : Nat} :
    i ∈ childIndices lines id ↔ ∃ l parent,
      (l, i) ∈ Section.bodyOf (nestingSection? lines) lines ∧
        Line.nesting? l = some (id, parent) := by
  simp only [childIndices, NestingLine.scan, List.mem_map, List.mem_filter, List.mem_filterMap,
    Option.map_eq_some_iff, beq_iff_eq]
  constructor
  · rintro ⟨n, ⟨⟨⟨l, i⟩, mem, ⟨child, parent⟩, read, rfl⟩, rfl⟩, rfl⟩
    exact ⟨l, parent, mem, read⟩
  · rintro ⟨l, parent, mem, read⟩
    exact ⟨⟨i, id, parent⟩, ⟨⟨(l, i), mem, (id, parent), read, rfl⟩, rfl⟩, rfl⟩

/-- The lines that an entry is keyed by are those of its block and lines that begin with its
identifier in braces. -/
theorem keyedIndices_cases {lines : List Text} {b : Block} {i : Nat} {l : Text}
    (mem : i ∈ keyedIndices lines b) (at_ : lines[i]? = some l) :
    i ∈ b.span.indices ∨ Line.buildConfigId? l = some b.id ∨
      ∃ parent, Line.nesting? l = some (b.id, parent) := by
  simp only [keyedIndices, List.mem_append] at mem
  rcases mem with (mem | mem) | mem
  · exact Or.inl mem
  · obtain ⟨l', at', config⟩ := mem_configIndices.1 mem
    obtain rfl : l = l' := Option.some.inj (at_.symm.trans at')
    exact Or.inr (Or.inl config)
  · obtain ⟨l', parent, body, read⟩ := mem_childIndices.1 mem
    obtain rfl : l = l' := Option.some.inj (at_.symm.trans (mem_bodyOf body))
    exact Or.inr (Or.inr ⟨parent, read⟩)

theorem initial?_of_mem_keyedIndices {lines : List Text} {b : Block} {i : Nat} {l : Text}
    (mem : i ∈ keyedIndices lines b) (at_ : lines[i]? = some l) :
    i ∈ b.span.indices ∨ Line.initial? l = some '{' := by
  rcases keyedIndices_cases mem at_ with block | config | ⟨parent, read⟩
  · exact Or.inl block
  · exact Or.inr (Line.initial?_of_buildConfigId? config)
  · exact Or.inr (Line.initial?_of_nesting? read)

/-! ### The block -/

/-- What is said of the entry of a block once it has been taken out. -/
def Block.entry (b : Block) : RemovedEntry := ⟨b.id, b.name, b.path, !b.isFolder⟩

/-- The second list is the first one without a block, thinned on both sides of it. -/
structure Excised (b : Block) (lines lines' front : List Text) (opening : Text) (inner : List Text)
    (closing : Text) (back front' back' : List Text) : Prop where
  block : b.At lines front opening inner closing back
  lines_eq : lines' = front' ++ back'
  front : Thinned front front'
  back : Thinned back back'

/-- A deletion of the lines of a block and of inert lines takes the block out. -/
theorem excised_linesExcept {b : Block} {lines left front inner back : List Text}
    {opening closing : Text} (h : b.At lines front opening inner closing back)
    (pairs : List.Forall₂ Renumbered lines left) (doomed : List Nat)
    (all : ∀ i ∈ b.span.indices, i ∈ doomed)
    (inert : ∀ i l, lines[i]? = some l → i ∈ doomed →
      i ∈ b.span.indices ∨ Line.isInert l = true) :
    ∃ front' back', Excised b lines (linesExcept doomed 0 left) front opening inner closing back
      front' back' := by
  have eq : lines = front ++ ((opening :: (inner ++ [closing])) ++ back) := by simp [h.lines_eq]
  rw [eq] at pairs
  obtain ⟨front', rest, rfl, pairsFront, pairs⟩ := renumbered_append_inv pairs
  obtain ⟨middle, back', rfl, pairsMiddle, pairsBack⟩ := renumbered_append_inv pairs
  have lengthFront := pairsFront.length_eq
  have lengthMiddle : middle.length = inner.length + 2 := by
    rw [← pairsMiddle.length_eq]
    simp
  -- Rewriting keeps the length, so the indices of the block are those of `middle`.
  have gone : linesExcept doomed front'.length middle = [] := by
    refine Document.linesExcept_eq_nil fun i hi => all _ (h.mem_indices.2 ?_)
    omega
  refine ⟨linesExcept doomed 0 front', linesExcept doomed (front'.length + middle.length) back', h,
    ?_, thinned_of_renumbered pairsFront ?_, thinned_of_renumbered pairsBack ?_⟩
  · rw [Document.linesExcept_append, Document.linesExcept_append, Nat.zero_add, gone,
      List.nil_append]
  · intro i l at_ mem
    have lt : i < front.length := (List.getElem?_eq_some_iff.1 at_).1
    rw [Nat.zero_add] at mem
    refine (inert i l ?_ mem).resolve_left fun block => ?_
    · rw [eq, List.getElem?_append_left lt, at_]
    · have := h.mem_indices.1 block
      omega
  · intro i l at_ mem
    refine (inert _ l ?_ mem).resolve_left fun block => ?_
    · rw [eq, ← List.append_assoc, List.getElem?_append_right (by simp; omega)]
      rw [← at_]
      congr 1
      simp
      omega
    · have := h.mem_indices.1 block
      omega

/-! ### Order -/

variable {b : Block} {lines left front inner back : List Text} {opening closing : Text}

/-- The global part opens behind each block, and no section opens before that. -/
theorem Orderly.back_eq (orderly : Orderly lines)
    (h : b.At lines front opening inner closing back) :
    ∃ between boundary rest, back = between ++ boundary :: rest ∧
      Line.isGlobalOpening boundary = true ∧ (∀ l ∈ rest, Line.isRegistration l = false) ∧
      ∀ l ∈ front ++ opening :: (inner ++ closing :: between), Line.isSectionHeader l = false := by
  obtain ⟨before, boundary, rest, eq, opens, noHeader, noBlock⟩ := orderly.global
  -- The boundary is none of the lines of the block.
  have notOpening : boundary ≠ opening := by
    rintro rfl
    have := Line.isGlobalOpening_eq_false_of_isRegistration h.isRegistration
    rw [opens] at this
    cases this
  have notClosing : boundary ≠ closing := by
    rintro rfl
    have := Line.isGlobalOpening_eq_false_of_isBlockEnd h.closes
    rw [opens] at this
    cases this
  have notInner : boundary ∉ inner := by
    intro mem
    have noBreak := (h.inner boundary mem).2
    rw [Line.isGlobalBoundary_of_isGlobalOpening opens, Bool.or_true] at noBreak
    cases noBreak
  -- It does not stand in front of the block either, since the block is registered before it.
  rcases List.append_eq_append_iff.1 (eq.symm.trans h.lines_eq) with
    ⟨zs, rfl, tail⟩ | ⟨zs, rfl, tail⟩
  · cases zs with
    | nil => exact absurd (List.cons.inj tail).1 notOpening
    | cons z zs =>
      obtain ⟨-, rfl⟩ := List.cons.inj tail
      have := noBlock opening (by simp)
      rw [h.isRegistration] at this
      cases this
  · cases zs with
    | nil => exact absurd (List.cons.inj tail).1.symm notOpening
    | cons z zs =>
      obtain ⟨rfl, behind⟩ := List.cons.inj tail
      rcases List.append_eq_append_iff.1 behind with ⟨ys, rfl, last⟩ | ⟨ys, rfl, last⟩
      · cases ys with
        | nil => exact absurd (List.cons.inj last).1.symm notClosing
        | cons y ys =>
          obtain ⟨rfl, rfl⟩ := List.cons.inj last
          exact ⟨ys, boundary, rest, rfl, opens, noBlock, by simpa using noHeader⟩
      · cases ys with
        | nil => exact absurd (List.cons.inj last).1 notClosing
        | cons y ys =>
          obtain ⟨rfl, -⟩ := List.cons.inj last
          exact absurd (by simp) notInner

/-- **Without the block the manifest is orderly again.** -/
theorem Orderly.excised (orderly : Orderly lines) {lines' front' back' : List Text}
    (h : Excised b lines lines' front opening inner closing back front' back') :
    Orderly lines' := by
  obtain ⟨between, boundary, rest, rfl, opens, noBlock, noHeader⟩ := orderly.back_eq h.block
  have suffix := h.block.suffix_back
  have structural : Line.isInert boundary = false :=
    Line.isInert_eq_false_of_isGlobalBoundary (Line.isGlobalBoundary_of_isGlobalOpening opens)
  obtain ⟨between', tail, rfl, thinBetween, thinTail⟩ := h.back.append_inv
  obtain ⟨rest', rfl, thinRest⟩ := thinTail.cons_inv structural
  have noHeader' : ∀ l ∈ front' ++ between', Line.isSectionHeader l = false :=
    (h.front.append thinBetween).forall_eq_false (fun _ => Line.isSectionHeader_eq_false)
      fun l mem => noHeader l (by
        rcases List.mem_append.1 mem with mem | mem
        · exact List.mem_append_left _ mem
        · simp [mem])
  refine ⟨?_, ?_, ?_⟩
  · rw [h.lines_eq]
    exact Framed.append ((h.block.blocksClosed_front orderly.blocks).thinned h.front)
      (BlocksClosed.thinned (Framed.suffix orderly.blocks suffix) h.back)
  · -- In front of the boundary no section opens, so those that do all stand behind the block.
    rw [h.lines_eq]
    exact Framed.append (Framed.of_forall fun l mem => noHeader' l (List.mem_append_left _ mem))
      (SectionsClosed.thinned (Framed.suffix orderly.sections suffix) h.back)
  · exact ⟨front' ++ between', boundary, rest', by simp [h.lines_eq], opens, noHeader',
      thinRest.forall_eq_false (fun _ => Line.isRegistration_eq_false) noBlock⟩

/-! ### Sections -/

/-- Every section stands behind each block. -/
theorem Orderly.section_behind (orderly : Orderly lines)
    (h : b.At lines front opening inner closing back) {names before body after : List Text}
    {header ending : Text} (s : Section.At names lines before header body ending after) :
    front.length + (inner.length + 2) ≤ before.length := by
  obtain ⟨between, boundary, rest, rfl, -, -, noHeader⟩ := orderly.back_eq h
  by_contra lt
  have at_ : lines[before.length]? = some header := by simp [s.lines_eq]
  have parts : lines =
      (front ++ opening :: (inner ++ closing :: between)) ++ boundary :: rest := by
    simp [h.lines_eq]
  rw [parts, List.getElem?_append_left (by simp; omega)] at at_
  have := noHeader header (List.mem_of_getElem? at_)
  rw [Line.isSectionHeader_of_opensSection s.opens] at this
  cases this

/-- A line that is rewritten is no header, neither before nor after. -/
theorem opensSection_of_renumbered {names : List Text} {l l' : Text} (h : Renumbered l l') :
    Line.opensSection names l' = Line.opensSection names l :=
  h.apply_eq fun _ scc =>
    Line.opensSection_eq_false (Line.isSectionHeader_eq_false (isInert_of_initial? scc))

/-- Where no section of some names opens, none does after lines have been rewritten and deleted. -/
theorem opensSection_linesExcept {names : List Text}
    (absent : ∀ l ∈ lines, Line.opensSection names l = false)
    (pairs : List.Forall₂ Renumbered lines left) (doomed : List Nat) (first : Nat) :
    ∀ l ∈ linesExcept doomed first left, Line.opensSection names l = false := by
  intro l' mem
  obtain ⟨l, mem, pair⟩ :=
    exists_mem_of_renumbered pairs ((Document.linesExcept_sublist _ _ _).subset mem)
  rw [opensSection_of_renumbered pair, absent l mem]

/-- Rewriting keeps the header and the end line of a section. -/
theorem Section.At.renumbered_inv {names before body after : List Text} {header ending : Text}
    (h : Section.At names lines before header body ending after)
    (pairs : List.Forall₂ Renumbered lines left) :
    ∃ before' body' after', left = before' ++ header :: (body' ++ ending :: after') ∧
      List.Forall₂ Renumbered before before' ∧ List.Forall₂ Renumbered body body' := by
  have structural : Line.isInert header = false :=
    Line.isInert_eq_false_of_isSectionHeader (Line.isSectionHeader_of_opensSection h.opens)
  have structural' : Line.isInert ending = false := Line.isInert_eq_false_of_isSectionEnd h.closes
  rw [h.lines_eq] at pairs
  obtain ⟨before', rest, rfl, pairsBefore, pairsRest⟩ := renumbered_append_inv pairs
  cases pairsRest with
  | @cons _ header' _ rest pairHeader pairsRest =>
    obtain rfl := pairHeader.eq_of_isInert_eq_false structural
    obtain ⟨body', rest', rfl, pairsBody, pairsEnd⟩ := renumbered_append_inv pairsRest
    cases pairsEnd with
    | @cons _ ending' _ after' pairEnding _ =>
      obtain rfl := pairEnding.eq_of_isInert_eq_false structural'
      exact ⟨before', body', after', rfl, pairsBefore, pairsBody⟩

/-- **A section keeps its place if from its header on only inert lines are deleted.** -/
theorem Section.At.linesExcept {names before body after before' body' : List Text}
    {header ending : Text} (h : Section.At names lines before header body ending after)
    (pairsBefore : List.Forall₂ Renumbered before before')
    (pairsBody : List.Forall₂ Renumbered body body') (doomed : List Nat)
    (inert : ∀ i l, lines[i]? = some l → before.length ≤ i → i ∈ doomed →
      Line.isInert l = true) (after' : List Text) :
    Section.At names
      (linesExcept doomed 0 (before' ++ header :: (body' ++ ending :: after')))
      (linesExcept doomed 0 before') header (linesExcept doomed (before.length + 1) body') ending
      (linesExcept doomed (before.length + 1 + body.length + 1) after') := by
  have keepsHeader : before.length ∉ doomed := fun mem => by
    have structural :=
      Line.isInert_eq_false_of_isSectionHeader (Line.isSectionHeader_of_opensSection h.opens)
    rw [inert _ header (by simp [h.lines_eq]) (Nat.le_refl _) mem] at structural
    cases structural
  have keepsEnding : before.length + 1 + body.length ∉ doomed := fun mem => by
    have structural := Line.isInert_eq_false_of_isSectionEnd h.closes
    have at_ : lines[before.length + 1 + body.length]? = some ending := by
      rw [h.lines_eq, List.getElem?_append_right (by omega),
        show before.length + 1 + body.length - before.length = body.length + 1 by omega,
        List.getElem?_cons_succ, List.getElem?_append_right (Nat.le_refl _), Nat.sub_self]
      rfl
    rw [inert _ ending at_ (by omega) mem] at structural
    cases structural
  refine ⟨?_, h.opens, h.closes, ?_, opensSection_linesExcept h.first pairsBefore doomed 0⟩
  · rw [Document.linesExcept_append, Nat.zero_add, ← pairsBefore.length_eq,
      Document.linesExcept_cons_of_not_mem keepsHeader, Document.linesExcept_append,
      ← pairsBody.length_eq, Document.linesExcept_cons_of_not_mem keepsEnding]
  · intro l' mem
    obtain ⟨l, mem, pair⟩ :=
      exists_mem_of_renumbered pairsBody ((Document.linesExcept_sublist _ _ _).subset mem)
    obtain ⟨noEnd, noBreak⟩ := h.inner l mem
    refine ⟨(pair.apply_eq (a := false) fun l scc => ?_).trans noEnd,
      (pair.apply_eq (f := fun l => Line.isSectionHeader l || Line.isGlobalBoundary l)
        (a := false) fun l scc => ?_).trans noBreak⟩
    · exact Line.isSectionEnd_eq_false (isInert_of_initial? scc)
    · simp [Line.isSectionHeader_eq_false (isInert_of_initial? scc),
        Line.isGlobalBoundary_eq_false (isInert_of_initial? scc)]

end SolutionSweep
