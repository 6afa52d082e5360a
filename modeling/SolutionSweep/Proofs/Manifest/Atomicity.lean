import SolutionSweep.Proofs.Manifest.Bookkeeping
import SolutionSweep.Proofs.Manifest.Numerals

/-!
# Removals that fail

A removal fails at a numeral that is too long, and nowhere else. The indices of version control are
read before a line is rewritten, but the count is read after the lines of higher indices have been
moved down. So a removal that fails leaves everything as it was, unless it fails at the count.

* `countLine?_renumber`: moving indices down does not touch the counting line;
* `Surgery.Fails`: where a removal fails, and what it leaves;
* `Surgery.removeEntry_eq_error_iff`: a removal fails there and nowhere else;
* `Surgery.removeEntry_atomic`: what a removal that fails leaves alone.
-/

namespace SolutionSweep

open Line (count?)

/-! ### Renumbered lines -/

/-- Lines that are rewritten one by one stand where they did. -/
theorem Section.body_mapIdx (s : Section) (f : Nat → Text → Text) (lines : List Text) :
    s.body (lines.mapIdx f) = (s.body lines).map fun p => (f p.2 p.1, p.2) := by
  have whole : (lines.mapIdx f).zipIdx = lines.zipIdx.map fun p => (f p.2 p.1, p.2) := by
    refine List.ext_getElem? fun i => ?_
    simp [List.getElem?_zipIdx, List.getElem?_mapIdx, Function.comp_def]
  rw [body, body, whole, ← List.map_drop, List.map_take]

variable {lines : List Text} {s : Section} {properties : List Property}

/-- A line of the section that is renumbered counts what it did. -/
theorem count?_renumberLine (ok : Property.scan lines (some s) = .ok properties) (k : Nat) {i : Nat}
    {l : Text} (at_ : lines[i]? = some l) : count? (renumberLine properties k i l) = count? l := by
  obtain ⟨inner, base, body, -⟩ := Section.exists_bodyOf_eq (some s) lines
  obtain ⟨-, rfl⟩ := (Property.scan_eq_ok_iff body).1 ok
  have here : base ≤ i → ∀ l', inner[i - base]? = some l' → l' = l := fun le l' at' => by
    have mem : (l', i) ∈ Section.bodyOf (some s) lines := by
      rw [body]
      exact List.mem_zipIdx_iff_le_and_getElem?_sub.2 ⟨le, at'⟩
    exact Option.some.inj ((mem_bodyOf mem).symm.trans at_)
  rw [← propertiesOf, renumberLine_propertiesOf base inner k i l here]
  split
  · exact count?_lowerLine k l
  · rfl

/-- The counting line is the same after renumbering. -/
theorem countLine?_renumber (ok : Property.scan lines (some s) = .ok properties) (k : Nat) :
    countLine? (renumber properties k lines) (some s) = countLine? lines (some s) := by
  unfold countLine?
  rw [← List.head?_filterMap, ← List.head?_filterMap, Section.bodyOf, renumber,
    Section.body_mapIdx, List.filterMap_map]
  refine congrArg List.head? (List.filterMap_congr fun p mem => ?_)
  simp only [Function.comp_apply, count?_renumberLine ok k (mem_body mem)]

theorem findCount_eq_error_iff {s : Option Section} {e : LongNumeral} :
    findCount lines s = .error e ↔
      ∃ i x, countLine? lines s = some (i, x) ∧ ¬ x.Short ∧ e = ⟨x.digits.length⟩ := by
  unfold findCount
  cases counting : countLine? lines s with
  | none => simp
  | some found =>
    obtain ⟨i, x⟩ := found
    by_cases short : x.Short
    · simp [readNumeral_digits short, Except.map, short]
    · have long : maxDigits < x.digits.length := Nat.lt_of_not_le short
      simp [readNumeral, long, Except.map, short, eq_comm]

theorem countDown_eq_error_iff {e : LongNumeral} :
    countDown s lines = .error e ↔ findCount lines (some s) = .error e := by
  unfold countDown
  cases findCount lines (some s) <;> simp [Except.map]

namespace Surgery

/-! ### Where a removal fails -/

/-- Where the removal of an entry fails, with the numeral that is too long and with what is left. -/
inductive Fails (c : Conventions) (s : Surgery) (id : EntryId) : LongNumeral → Surgery → Prop
  | index {b : Block} {book : Section} {e : LongNumeral} :
      Block.find? (Block.scan s.lines) id = some b → bookOf? c s.lines b = some book →
      Property.scan s.lines (some book) = .error e → Fails c s id e s
  | count {b : Block} {book : Section} {properties : List Property} {k i : Nat}
      {x : Line.CountLine} :
      Block.find? (Block.scan s.lines) id = some b → bookOf? c s.lines b = some book →
      Property.scan s.lines (some book) = .ok properties → indexOf? properties b.path = some k →
      countLine? s.lines (some book) = some (i, x) → ¬ x.Short →
      Fails c s id ⟨x.digits.length⟩ (s.withLines (renumber properties k s.lines))

variable {c : Conventions} {s after : Surgery} {e : LongNumeral}

/-- The release of an index fails at an index or at the count. -/
theorem releaseIndex_eq_error_iff {book : Section} {b : Block} {lines left : List Text} :
    releaseIndex book b lines = (left, .error e) ↔
      (Property.scan lines (some book) = .error e ∧ left = lines) ∨
      ∃ properties k, Property.scan lines (some book) = .ok properties ∧
        indexOf? properties b.path = some k ∧ findCount lines (some book) = .error e ∧
        left = renumber properties k lines := by
  unfold releaseIndex
  cases scan : Property.scan lines (some book) with
  | error e' => simp [eq_comm, and_comm]
  | ok properties =>
    cases resolved : indexOf? properties b.path with
    | none => simp [resolved]
    | some k =>
      -- The count is read off the renumbered lines, which count what the lines before do.
      have same : findCount (renumber properties k lines) (some book) =
          findCount lines (some book) := by
        rw [findCount, countLine?_renumber scan, ← findCount]
      simp only [resolved, reduceCtorEq, false_and, false_or]
      cases count : countDown book (renumber properties k lines) with
      | error e' =>
        have failed := countDown_eq_error_iff.1 count
        rw [same] at failed
        simp [failed, resolved, eq_comm, and_comm]
      | ok counted =>
        have read : findCount lines (some book) ≠ .error e := fun failed => by
          rw [← same, ← countDown_eq_error_iff, count] at failed
          cases failed
        simp [read]

theorem removeBlock_eq_error_iff {b : Block} :
    removeBlock c s b = (after, .error e) ↔ ∃ book left, bookOf? c s.lines b = some book ∧
      releaseIndex book b s.lines = (left, .error e) ∧ after = s.withLines left := by
  unfold removeBlock
  cases bookOf? c s.lines b with
  | none => simp
  | some book =>
    rcases release : releaseIndex book b s.lines with ⟨left, e' | none | doomed⟩
    · simp [release, eq_comm, and_comm]
    · simp [release]
    · simp [release]

/-- **A removal fails at an index that is too long, or else at a count that is.** -/
theorem removeEntry_eq_error_iff {written : Text} :
    removeEntry c s written = (after, .error e) ↔ Fails c s (canonicalId written) e after := by
  unfold removeEntry removeId
  constructor
  · intro failed
    cases found : Block.find? (Block.scan s.lines) (canonicalId written) with
    | none =>
      rw [found] at failed
      cases failed
    | some b =>
      rw [found] at failed
      have stopped : removeBlock c s b = (after, .error e) := by
        rcases removal : removeBlock c s b with ⟨after', e' | removed⟩
        · simp only [removal] at failed
          cases failed
          rfl
        · simp only [removal] at failed
          cases failed
      obtain ⟨book, left, section_, released, rfl⟩ := removeBlock_eq_error_iff.1 stopped
      rcases releaseIndex_eq_error_iff.1 released with
        ⟨long, rfl⟩ | ⟨properties, k, read, resolved, count, rfl⟩
      · exact .index found section_ long
      · obtain ⟨i, x, counting, long, rfl⟩ := findCount_eq_error_iff.1 count
        exact .count found section_ read resolved counting long
  · intro fails
    cases fails with
    | index found section_ long =>
      have stopped := removeBlock_eq_error_iff.2
        ⟨_, s.lines, section_, releaseIndex_eq_error_iff.2 (.inl ⟨long, rfl⟩), rfl⟩
      simp only [found, stopped]
      rfl
    | count found section_ read resolved counting long =>
      have stopped := removeBlock_eq_error_iff.2 ⟨_, _, section_, releaseIndex_eq_error_iff.2
        (.inr ⟨_, _, read, resolved, findCount_eq_error_iff.2 ⟨_, _, counting, long, rfl⟩, rfl⟩),
        rfl⟩
      simp only [found, stopped]
      rfl

/-- The count of the projects under version control can be read. -/
def CountFits (c : Conventions) (lines : List Text) : Prop :=
  ∀ book i x, Section.find? (Section.scan lines) c.versionControlSections = some book →
    countLine? lines (some book) = some (i, x) → x.Short

/-- **What a removal that fails leaves alone.** The warnings are those before, and so is the
document if the count can be read. If it fails at the count, no line has been deleted, and the lines
of higher indices than that of the entry have moved down. -/
theorem removeEntry_atomic {written : Text}
    (failed : removeEntry c s written = (after, .error e)) :
    after.warnings = s.warnings ∧ (CountFits c s.lines → after = s) ∧
      Fails c s (canonicalId written) e after := by
  have fails := removeEntry_eq_error_iff.1 failed
  refine ⟨?_, fun fits => ?_, fails⟩
  · cases fails <;> rfl
  · cases fails with
    | index => rfl
    | @count b book _ _ i x _ section_ _ _ counting long =>
      rw [bookOf?] at section_
      split at section_
      · cases section_
      · exact absurd (fits book i x section_ counting) long

/-! ### Samples -/

/-- A numeral of one digit too many. -/
def longDigits : Text := List.replicate (maxDigits + 1) '1'

/-- The sample with an index that is too long. -/
def longIndexSurgery : Surgery :=
  let line := "SccLocalPath".toList ++ longDigits ++ " = B".toList
  ⟨⟨bookSample.set 6 line, .lineFeed, false, true⟩, []⟩

/-- The sample with a count that is too long. -/
def longCountSurgery : Surgery :=
  let line := "SccNumberOfProjects = ".toList ++ longDigits
  ⟨⟨bookSample.set 4 line, .lineFeed, false, true⟩, []⟩

/-- The identifier of the project in the samples. -/
def bookedId : Text := "11111111-1111-1111-1111-111111111111".toList

theorem countFits_longIndexSurgery : CountFits .standard longIndexSurgery.lines := by
  have found : Section.find? (Section.scan longIndexSurgery.lines)
      Conventions.standard.versionControlSections =
        some ⟨"TeamFoundationVersionControl".toList, "preSolution".toList, ⟨3, 7⟩⟩ := by
    decide +kernel
  have counting : countLine? longIndexSurgery.lines
      (some ⟨"TeamFoundationVersionControl".toList, "preSolution".toList, ⟨3, 7⟩⟩) =
        some (4, ⟨"SccNumberOfProjects = ".toList, ['2'], []⟩) := by
    decide +kernel
  intro book i x section_ count
  cases found.symm.trans section_
  cases counting.symm.trans count
  simp [Line.CountLine.Short, maxDigits]

/-- The index that is too long stops the removal, and nothing has changed. -/
theorem removeEntry_atomic_longIndexSurgery : CountFits .standard longIndexSurgery.lines ∧
    removeEntry .standard longIndexSurgery bookedId =
      (longIndexSurgery, .error ⟨maxDigits + 1⟩) := by
  have result : (removeEntry .standard longIndexSurgery bookedId).2 = .error ⟨maxDigits + 1⟩ := by
    decide +kernel
  refine ⟨countFits_longIndexSurgery, ?_⟩
  cases run : removeEntry .standard longIndexSurgery bookedId with
  | mk after failure =>
    rw [run] at result
    obtain rfl : failure = .error ⟨maxDigits + 1⟩ := result
    obtain ⟨-, unchanged, -⟩ := removeEntry_atomic run
    rw [unchanged countFits_longIndexSurgery]

/-- The count that is too long stops the removal, and the other project has the index of the one
that was to go. -/
theorem removeEntry_atomic_longCountSurgery :
    let failed := removeEntry .standard longCountSurgery bookedId
    failed.2 = .error ⟨maxDigits + 1⟩ ∧
      longCountSurgery.lines[6]? = some "SccLocalPath1 = B".toList ∧
      failed.1.lines[6]? = some "SccLocalPath0 = B".toList := by
  decide +kernel

end Surgery

end SolutionSweep
