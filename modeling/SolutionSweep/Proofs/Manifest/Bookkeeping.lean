import SolutionSweep.Proofs.Manifest.Pruning
import SolutionSweep.Proofs.Manifest.Removal

/-!
# The book of version control stays in order

A manifest whose projects have the indices from zero on and whose count is their number stays so
through every sequence of edits. Each removal that resolves an index closes the gap that it leaves,
and every other edit leaves the book alone.

* `Booked`: the indices of the book are those below the count;
* `resolvedIndex?`: the index that a removal resolves, as the removal itself finds it;
* `Edit`, `performAll`: sequences of removals, prunings and droppings of blank lines, with the
  number of removals among them that have resolved an index;
* `bookkeeping`: the book after any sequence of edits, and after one more removal.
-/

namespace SolutionSweep

open Line (IndexedLine CountLine)

/-! ### The book -/

/-- The indices in the section of version control are those below `n`, and `n` is its count. -/
def Booked (c : Conventions) (lines : List Text) (n : Nat) : Prop :=
  ∃ book properties line, Section.find? (Section.scan lines) c.versionControlSections = some book ∧
    Property.scan lines (some book) = .ok properties ∧
    (∀ j, j ∈ properties.map (·.index) ↔ j < n) ∧
    findCount lines (some book) = .ok (some (line, n))

/-- The same in terms of the lines inside the section. -/
structure InOrder (c : Conventions) (lines : List Text) (n : Nat) : Prop where
  found : (Section.find? (Section.scan lines) c.versionControlSections).isSome = true
  readable : Readable (bookLines c lines)
  indices : ∀ j, j ∈ (indexedLines (bookLines c lines)).map (·.number) ↔ j < n
  count : (countLines (bookLines c lines)).head?.map (·.number) = some n

theorem map_index_propertiesOf (base : Nat) (inner : List Text) :
    (propertiesOf base inner).map (·.index) = (indexedLines inner).map (·.number) := by
  induction inner generalizing base with
  | nil => rfl
  | cons l rest ih =>
    rw [propertiesOf_cons, List.map_append, ih, Property.at?]
    cases read : Line.indexed? l with
    | none =>
      rw [indexedLines, indexedLines, List.filterMap_cons_none read]
      rfl
    | some x =>
      rw [indexedLines, indexedLines, List.filterMap_cons_some read]
      rfl

theorem booked_iff {c : Conventions} {lines : List Text} (orderly : Orderly lines) {n : Nat} :
    Booked c lines n ↔ InOrder c lines n := by
  rcases Section.exists_at orderly.sections c.versionControlSections with
    absent | ⟨before, header, body, ending, after, sec⟩
  · have none := Section.find?_eq_none absent
    constructor
    · rintro ⟨book, _, _, found, -⟩
      rw [none] at found
      cases found
    · intro h
      have found := h.found
      rw [none] at found
      cases found
  · obtain ⟨book, found, at_⟩ := sec.exists_bodyOf
    have inner : bookLines c lines = body := sec.linesOf_eq
    constructor
    · rintro ⟨book', properties, line, found', scan, indices, count⟩
      obtain rfl : book = book' := Option.some.inj (found.symm.trans found')
      obtain ⟨short, rfl⟩ := (Property.scan_eq_ok_iff at_).1 scan
      obtain ⟨short', head⟩ := findCount_inv at_ count
      refine ⟨by rw [found]; rfl, ?_, ?_, ?_⟩
      · rw [inner]
        exact ⟨short, short'⟩
      · rw [inner, ← map_index_propertiesOf (before.length + 1)]
        exact indices
      · rw [inner, ← head]
        rfl
    · intro h
      have readable := h.readable
      have indices := h.indices
      have count := h.count
      rw [inner] at readable indices count
      obtain ⟨_, result, read⟩ := exists_findCount at_ readable.counting
      rw [count] at read
      obtain ⟨⟨line, m⟩, rfl, rfl⟩ := Option.map_eq_some_iff.1 read
      refine ⟨book, propertiesOf (before.length + 1) body, line, found,
        (Property.scan_eq_ok_iff at_).2 ⟨readable.indexed, rfl⟩, ?_, result⟩
      rw [map_index_propertiesOf]
      exact indices

/-! ### One removal -/

/-- The index that a removal resolves: that of the first entry registered under the identifier. -/
def resolvedIndex? (c : Conventions) (lines : List Text) (id : EntryId) : Option Nat := do
  let b ← Block.find? (Block.scan lines) id
  let book ← Surgery.bookOf? c lines b
  match Property.scan lines (some book) with
  | .error _ => none
  | .ok properties => indexOf? properties b.path

theorem resolvedIndex?_eq {c : Conventions} {lines : List Text} (orderly : Orderly lines)
    (readable : Readable (bookLines c lines)) (id : EntryId) :
    resolvedIndex? c lines id =
      (Block.find? (Block.scan lines) id).bind (releasedIndex? c lines) := by
  unfold resolvedIndex?
  cases Block.find? (Block.scan lines) id with
  | none => rfl
  | some b =>
    simp only [Option.bind_eq_bind, Option.bind_some, Surgery.bookOf?, releasedIndex?]
    split
    · rfl
    · rcases Section.exists_at orderly.sections c.versionControlSections with
        absent | ⟨before, header, body, ending, after, sec⟩
      · rw [Section.find?_eq_none absent, bookLines, Section.linesOf_eq_nil absent]
        rfl
      · obtain ⟨book, found, at_⟩ := sec.exists_bodyOf
        rw [bookLines, sec.linesOf_eq] at readable ⊢
        rw [found, Option.bind_some, (Property.scan_eq_ok_iff at_).2 ⟨readable.indexed, rfl⟩]
        exact indexOf?_propertiesOf (before.length + 1) body b.path

theorem mem_of_releasedIndex? {c : Conventions} {lines : List Text} {b : Block} {k : Nat}
    (h : releasedIndex? c lines b = some k) :
    k ∈ (indexedLines (bookLines c lines)).map (·.number) := by
  unfold releasedIndex? at h
  split at h
  · cases h
  · obtain ⟨x, found, rfl⟩ := Option.map_eq_some_iff.1 h
    exact List.mem_map_of_mem (List.mem_of_find?_eq_some found)

theorem number_lowered (k : Nat) (x : IndexedLine) :
    (x.lowered k).number = if k < x.number then x.number - 1 else x.number := by
  unfold IndexedLine.lowered
  split
  · exact x.number_renumbered _
  · rfl

/-- Releasing an index below the count leaves the indices below one less. -/
theorem mem_indexedAfter {xs : List IndexedLine} {n k : Nat}
    (indices : ∀ j, j ∈ xs.map (·.number) ↔ j < n) (lt : k < n) (j : Nat) :
    j ∈ (indexedAfter (some k) xs).map (·.number) ↔ j < n - 1 := by
  simp only [indexedAfter, List.map_map, List.mem_map, List.mem_filter, decide_eq_true_eq,
    Function.comp_apply, number_lowered]
  constructor
  -- Every index that is left is below the count, and lower by one if it was above `k`.
  · rintro ⟨x, ⟨mem, ne⟩, rfl⟩
    have := (indices x.number).1 (List.mem_map_of_mem mem)
    split <;> omega
  -- The other way round, an index from `k` on comes from the one above it.
  · intro lt'
    rcases Nat.lt_or_ge j k with below | above
    · obtain ⟨x, mem, rfl⟩ := List.mem_map.1 ((indices j).2 (by omega))
      exact ⟨x, ⟨mem, by omega⟩, if_neg (by omega)⟩
    · obtain ⟨x, mem, number⟩ := List.mem_map.1 ((indices (j + 1)).2 (by omega))
      exact ⟨x, ⟨mem, by omega⟩, by rw [if_pos (by omega), number, Nat.add_sub_cancel]⟩

/-- The indexed lines of one index, in order. -/
def indexedAt (c : Conventions) (lines : List Text) (j : Nat) : List IndexedLine :=
  (indexedLines (bookLines c lines)).filter (·.number = j)

/-- What an indexed line says apart from its index. -/
def Line.IndexedLine.contents (x : IndexedLine) : Text × Text × Text × Text :=
  (x.indent, x.key, x.rest, x.value)

theorem contents_lowered (k : Nat) (x : IndexedLine) : (x.lowered k).contents = x.contents := by
  unfold IndexedLine.lowered
  split
  · rfl
  · rfl

/-- Lower indices keep their lines. -/
theorem filter_indexedAfter_of_lt {j k : Nat} (lt : j < k) (xs : List IndexedLine) :
    (indexedAfter (some k) xs).filter (·.number = j) = xs.filter (·.number = j) := by
  rw [indexedAfter, List.filter_map, List.filter_filter]
  have same : xs.filter (fun x => (decide ((x.lowered k).number = j) && decide (x.number ≠ k))) =
      xs.filter (·.number = j) := by
    refine List.filter_congr fun x _ => ?_
    rw [number_lowered, ← Bool.decide_and, decide_eq_decide]
    split <;> omega
  have fixed : ∀ x ∈ xs.filter (·.number = j), x.lowered k = id x := by
    intro x mem
    have number : x.number = j := by simpa using (List.mem_filter.1 mem).2
    exact if_neg (by omega)
  rw [Function.comp_def, same, List.map_congr_left fixed, List.map_id]

/-- Higher indices get the lines of the next index. -/
theorem filter_indexedAfter_of_le {j k : Nat} (le : k ≤ j) (xs : List IndexedLine) :
    ((indexedAfter (some k) xs).filter (·.number = j)).map (·.contents) =
      (xs.filter (·.number = j + 1)).map (·.contents) := by
  rw [indexedAfter, List.filter_map, List.filter_filter, List.map_map]
  have same : xs.filter (fun x => (decide ((x.lowered k).number = j) && decide (x.number ≠ k))) =
      xs.filter (·.number = j + 1) := by
    refine List.filter_congr fun x _ => ?_
    rw [number_lowered, ← Bool.decide_and, decide_eq_decide]
    split <;> omega
  simp only [Function.comp_def]
  rw [same]
  exact List.map_congr_left fun x _ => contents_lowered k x

/-- How many indices a removal releases. -/
def released? : Option Nat → Nat
  | none => 0
  | some _ => 1

theorem InOrder.removes {c : Conventions} {b : Block} {lines lines' : List Text} {n : Nat}
    (h : InOrder c lines n) (effect : Removes c b lines lines') :
    (∀ k, releasedIndex? c lines b = some k → k < n) ∧
      InOrder c lines' (n - released? (releasedIndex? c lines b)) := by
  have below : ∀ k, releasedIndex? c lines b = some k → k < n :=
    fun k releases => (h.indices k).1 (mem_of_releasedIndex? releases)
  refine ⟨below, (effect.sections _).trans h.found, effect.readable h.readable, ?_, ?_⟩
  · rw [effect.indexed]
    cases releases : releasedIndex? c lines b with
    | none => exact h.indices
    | some k => exact mem_indexedAfter h.indices (below k releases)
  · rw [effect.counted]
    cases releases : releasedIndex? c lines b with
    | none => exact h.count
    | some k =>
      obtain ⟨x, head, rfl⟩ := Option.map_eq_some_iff.1 h.count
      rw [countedAfter, List.head?_modifyHead, head]
      simp [CountLine.decreased, released?]

/-- Blank lines do not matter to the book. -/
theorem InOrder.dropBlanks {c : Conventions} {lines : List Text} {n : Nat} (h : InOrder c lines n)
    (orderly : Orderly lines) : InOrder c (nonblank lines) n := by
  refine ⟨(Section.isSome_find?_nonblank orderly _).trans h.found, h.readable.nonblank orderly,
    ?_, ?_⟩
  · rw [indexedLines_nonblank orderly]
    exact h.indices
  · rw [countLines_nonblank orderly]
    exact h.count

/-! ### Runs -/

namespace Surgery

/-- What may be done to a document, one thing after another. -/
inductive Edit
  | remove (id : EntryId)
  | prune
  | strip
  deriving DecidableEq, Repr

/-- Does one thing to a document. -/
def perform (c : Conventions) (s : Surgery) : Edit → Surgery × Except LongNumeral Unit
  | .remove id => ((removeId c s id).1, (removeId c s id).2.map fun _ => ())
  | .prune => ((pruneFolders c s).1, (pruneFolders c s).2.map fun _ => ())
  | .strip => ({ s with document := s.document.stripBlankLines }, .ok ())

/-- The entries that an edit takes out, one after another. -/
def targets (c : Conventions) (s : Surgery) : Edit → List EntryId
  | .remove id => [id]
  | .prune => pruneTrace c s
  | .strip => []

/-- How many of some removals, one after another, resolve an index. -/
def resolutions (c : Conventions) : Surgery → List EntryId → Nat
  | _, [] => 0
  | s, id :: ids =>
      released? (resolvedIndex? c s.lines id) + resolutions c (removeId c s id).1 ids

/-- Does several things to a document and counts the removals that have resolved an index. -/
def performAll (c : Conventions) : Surgery → List Edit → Surgery × Except LongNumeral Nat
  | s, [] => (s, .ok 0)
  | s, edit :: edits =>
      match perform c s edit with
      | (after, .error e) => (after, .error e)
      | (after, .ok ()) =>
          ((performAll c after edits).1,
            (performAll c after edits).2.map (resolutions c s (targets c s edit) + ·))

variable {c : Conventions} {s : Surgery} {n : Nat}

/-- One removal. -/
theorem removeId_step (orderly : Orderly s.lines) (h : InOrder c s.lines n) (id : EntryId) :
    ∃ after removed, removeId c s id = (after, .ok removed) ∧ Orderly after.lines ∧
      (∀ k, resolvedIndex? c s.lines id = some k → k < n) ∧
      InOrder c after.lines (n - released? (resolvedIndex? c s.lines id)) ∧
      indexedLines (bookLines c after.lines) =
        indexedAfter (resolvedIndex? c s.lines id) (indexedLines (bookLines c s.lines)) ∧
      countLines (bookLines c after.lines) =
        countedAfter (resolvedIndex? c s.lines id) (countLines (bookLines c s.lines)) := by
  rw [resolvedIndex?_eq orderly h.readable]
  obtain ⟨after, removed, eq, ⟨absent, -, same⟩ | ⟨b, found, -, effect⟩⟩ :=
    removeId_cases c orderly h.readable id
  · refine ⟨after, removed, eq, same ▸ orderly, ?_, ?_, ?_, ?_⟩
    · rw [absent]
      nofun
    · rw [absent, same]
      exact h
    · rw [absent, same]
      rfl
    · rw [absent, same]
      rfl
  · obtain ⟨below, inOrder⟩ := h.removes effect
    rw [found, Option.bind_some]
    exact ⟨after, removed, eq, effect.orderly, below, inOrder, effect.indexed, effect.counted⟩

theorem released?_le {k? : Option Nat} (below : ∀ k, k? = some k → k < n) : released? k? ≤ n := by
  cases k? with
  | none => exact Nat.zero_le n
  | some k => exact Nat.succ_le_of_lt (Nat.zero_lt_of_lt (below k rfl))

/-- Several removals. -/
theorem removeIds_run (orderly : Orderly s.lines) (h : InOrder c s.lines n) (ids : List EntryId) :
    ∃ after removed, removeIds c s ids = (after, .ok removed) ∧ Orderly after.lines ∧
      resolutions c s ids ≤ n ∧ InOrder c after.lines (n - resolutions c s ids) := by
  induction ids generalizing s n with
  | nil => exact ⟨s, [], rfl, orderly, Nat.zero_le n, h⟩
  | cons id ids ih =>
    obtain ⟨middle, first, eq, orderly', below, h', -, -⟩ := removeId_step orderly h id
    obtain ⟨after, more, eq', orderly'', le, h''⟩ := ih orderly' h'
    have := released?_le below
    have total : resolutions c s (id :: ids) =
        released? (resolvedIndex? c s.lines id) + resolutions c middle ids := by
      rw [resolutions, eq]
    refine ⟨after, first.toList ++ more, removeIds_cons_of_ok eq eq', orderly'', by omega, ?_⟩
    rwa [total, ← Nat.sub_sub]

/-- One edit. -/
theorem perform_step (orderly : Orderly s.lines) (h : InOrder c s.lines n) (edit : Edit) :
    ∃ after, perform c s edit = (after, .ok ()) ∧ Orderly after.lines ∧
      resolutions c s (targets c s edit) ≤ n ∧
      InOrder c after.lines (n - resolutions c s (targets c s edit)) := by
  cases edit with
  | remove id =>
    obtain ⟨after, removed, eq, orderly', le, h'⟩ := removeIds_run orderly h [id]
    obtain ⟨after', removed', eq', -⟩ := removeId_step orderly h id
    obtain rfl : after' = after := by
      rw [removeIds, eq'] at eq
      exact congrArg Prod.fst eq
    exact ⟨after', by rw [perform, eq']; rfl, orderly', le, h'⟩
  | prune =>
    obtain ⟨after, removed, eq, orderly', le, h'⟩ := removeIds_run orderly h (pruneTrace c s)
    rw [← pruneFolders_eq] at eq
    exact ⟨after, by rw [perform, eq]; rfl, orderly', le, h'⟩
  | strip =>
    have lines : ({ s with document := s.document.stripBlankLines } : Surgery).lines =
        nonblank s.lines := s.document.lines_stripBlankLines
    refine ⟨_, rfl, ?_, Nat.zero_le n, ?_⟩
    · rw [lines]
      exact orderly.nonblank
    · rw [lines]
      exact h.dropBlanks orderly

/-- A sequence of edits. -/
theorem performAll_run (orderly : Orderly s.lines) (h : InOrder c s.lines n) (edits : List Edit) :
    ∃ after m, performAll c s edits = (after, .ok m) ∧ Orderly after.lines ∧ m ≤ n ∧
      InOrder c after.lines (n - m) := by
  induction edits generalizing s n with
  | nil => exact ⟨s, 0, rfl, orderly, Nat.zero_le n, h⟩
  | cons edit edits ih =>
    obtain ⟨middle, eq, orderly', le, h'⟩ := perform_step orderly h edit
    obtain ⟨after, m, eq', orderly'', le', h''⟩ := ih orderly' h'
    refine ⟨after, resolutions c s (targets c s edit) + m, ?_, orderly'', by omega, ?_⟩
    · rw [performAll, eq]
      dsimp only
      rw [eq']
      rfl
    · rwa [← Nat.sub_sub]

/-- **The book of version control stays in order.** A run of edits succeeds, and the indices and the
count go down by the number of removals that have resolved an index. One more removal, if it
resolves an index, leaves lower indices alone and gives each index from there on the lines of the
next one; if it resolves none, it leaves the book alone. -/
theorem bookkeeping (orderly : Orderly s.lines) (booked : Booked c s.lines n) (edits : List Edit) :
    ∃ after m, performAll c s edits = (after, .ok m) ∧ m ≤ n ∧ Orderly after.lines ∧
      Booked c after.lines (n - m) ∧
      ∀ id, ∃ done removed, removeId c after id = (done, .ok removed) ∧
        match resolvedIndex? c after.lines id with
        | some k => k < n - m ∧
            (∀ j < k, indexedAt c done.lines j = indexedAt c after.lines j) ∧
            ∀ j, k ≤ j → (indexedAt c done.lines j).map (·.contents) =
              (indexedAt c after.lines (j + 1)).map (·.contents)
        | none =>
            indexedLines (bookLines c done.lines) = indexedLines (bookLines c after.lines) ∧
              countLines (bookLines c done.lines) = countLines (bookLines c after.lines) := by
  obtain ⟨after, m, run, orderly', le, inOrder⟩ :=
    performAll_run orderly ((booked_iff orderly).1 booked) edits
  refine ⟨after, m, run, le, orderly', (booked_iff orderly').2 inOrder, fun id => ?_⟩
  obtain ⟨done, removed, eq, -, below, -, indexed, counted⟩ := removeId_step orderly' inOrder id
  refine ⟨done, removed, eq, ?_⟩
  cases resolved : resolvedIndex? c after.lines id with
  | none =>
    rw [resolved] at indexed counted
    exact ⟨indexed, counted⟩
  | some k =>
    rw [resolved] at indexed
    refine ⟨below k resolved, fun j lt => ?_, fun j le => ?_⟩
    · rw [indexedAt, indexed, filter_indexedAfter_of_lt lt, indexedAt]
    · rw [indexedAt, indexed, filter_indexedAfter_of_le le, indexedAt]

/-- A manifest with one project, which has the first of two indices. -/
def bookSample : List Text :=
  ["Project(\"\x7bFAE04EC0-301F-11D3-BF4B-00C04F79EFBC\x7d\") = \"A\", \"A.csproj\", ".toList ++
      "\"\x7b11111111-1111-1111-1111-111111111111\x7d\"".toList,
    "EndProject".toList,
    "Global".toList,
    "GlobalSection(TeamFoundationVersionControl) = preSolution".toList,
    "SccNumberOfProjects = 2".toList,
    "SccProjectUniqueName0 = A.csproj".toList,
    "SccLocalPath1 = B".toList,
    "EndGlobalSection".toList,
    "EndGlobal".toList]

theorem orderly_bookSample : Orderly bookSample where
  blocks := by
    unfold BlocksClosed
    decide +kernel
  sections := by
    unfold SectionsClosed
    decide +kernel
  global := ⟨bookSample.take 2, "Global".toList, bookSample.drop 3, rfl, by decide +kernel,
    by decide +kernel, by decide +kernel⟩

theorem indexedLines_bookSample : indexedLines (bookLines .standard bookSample) =
    [⟨[], "SccProjectUniqueName".toList, ['0'], " = A.csproj".toList, "A.csproj".toList⟩,
      ⟨[], "SccLocalPath".toList, ['1'], " = B".toList, "B".toList⟩] := by
  decide +kernel

theorem countLines_bookSample : countLines (bookLines .standard bookSample) =
    [⟨"SccNumberOfProjects = ".toList, ['2'], []⟩] := by
  decide +kernel

theorem inOrder_bookSample : InOrder .standard bookSample 2 := by
  refine ⟨by decide +kernel, ⟨?_, ?_⟩, ?_, ?_⟩
  · rw [indexedLines_bookSample]
    simp [IndexedLine.Short, maxDigits]
  · rw [countLines_bookSample]
    simp [CountLine.Short, maxDigits]
  · intro j
    rw [indexedLines_bookSample, show ([_, _] : List IndexedLine).map (·.number) = [0, 1] by decide]
    simp
    omega
  · rw [countLines_bookSample]
    decide

/-- The removal of the project of the sample, a pruning and a dropping of blank lines in turn. -/
def bookEdits : List Edit :=
  [.remove "11111111-1111-1111-1111-111111111111".toList, .prune, .strip]

/-- What these edits leave of the sample. -/
def bookRest : List Text :=
  ["Global".toList,
    "GlobalSection(TeamFoundationVersionControl) = preSolution".toList,
    "SccNumberOfProjects = 1".toList,
    "SccLocalPath0 = B".toList,
    "EndGlobalSection".toList,
    "EndGlobal".toList]

/-- The removal resolves an index; then there is no folder to prune and no blank line to drop. -/
theorem performAll_bookSample :
    performAll .standard ⟨⟨bookSample, .lineFeed, false, true⟩, []⟩ bookEdits =
      (⟨⟨bookRest, .lineFeed, false, true⟩, []⟩, .ok 1) := by
  have removes : perform .standard ⟨⟨bookSample, .lineFeed, false, true⟩, []⟩
      (.remove "11111111-1111-1111-1111-111111111111".toList) =
        (⟨⟨bookRest, .lineFeed, false, true⟩, []⟩, .ok ()) := by
    decide +kernel
  have resolved : resolvedIndex? .standard bookSample
      "11111111-1111-1111-1111-111111111111".toList = some 0 := by
    decide +kernel
  have settled : emptyFolders bookRest = [] := by decide +kernel
  have traces : pruneTrace .standard ⟨⟨bookRest, .lineFeed, false, true⟩, []⟩ = [] :=
    pruneTrace_nil .standard settled
  have prunes : perform .standard ⟨⟨bookRest, .lineFeed, false, true⟩, []⟩ .prune =
      (⟨⟨bookRest, .lineFeed, false, true⟩, []⟩, .ok ()) := by
    rw [perform, pruneFolders_eq, traces]
    rfl
  have strips : perform .standard ⟨⟨bookRest, .lineFeed, false, true⟩, []⟩ .strip =
      (⟨⟨bookRest, .lineFeed, false, true⟩, []⟩, .ok ()) := by
    decide +kernel
  simp only [bookEdits, performAll, removes, prunes, strips, targets, traces, resolutions,
    Surgery.lines, resolved, released?]
  rfl

/-- These edits resolve one index, and leave a book with one index, on the line that had the next
one. -/
theorem bookkeeping_bookSample :
    Orderly bookSample ∧ Booked .standard bookSample 2 ∧
      performAll .standard ⟨⟨bookSample, .lineFeed, false, true⟩, []⟩ bookEdits =
        (⟨⟨bookRest, .lineFeed, false, true⟩, []⟩, .ok 1) ∧
      Booked .standard bookRest 1 ∧
      indexedLines (bookLines .standard bookRest) =
        [⟨[], "SccLocalPath".toList, ['0'], " = B".toList, "B".toList⟩] ∧
      countLines (bookLines .standard bookRest) =
        [⟨"SccNumberOfProjects = ".toList, ['1'], []⟩] := by
  have booked := (booked_iff orderly_bookSample).2 inOrder_bookSample
  obtain ⟨after, m, run, -, -, booked', -⟩ :=
    bookkeeping (c := .standard) (s := ⟨⟨bookSample, .lineFeed, false, true⟩, []⟩) (n := 2)
      orderly_bookSample booked bookEdits
  rw [performAll_bookSample] at run
  cases run
  exact ⟨orderly_bookSample, booked, performAll_bookSample, booked', by decide +kernel,
    by decide +kernel⟩

end Surgery

end SolutionSweep
