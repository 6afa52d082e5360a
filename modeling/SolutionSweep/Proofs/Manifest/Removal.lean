import SolutionSweep.Proofs.Manifest.Blanks
import SolutionSweep.Proofs.Manifest.Excision

/-!
# What a removal does

The effect of the removal of one block on everything that is read off a manifest: which sections are
there, which entry lies in which folder, and what version control keeps. The effects are stated
without line indices, so that those of several removals can be put together.

* `nestingPairs`, `bookLines`: the nesting lines, and the lines that version control keeps;
* `releasedIndex?`: the index that a removal releases;
* `Removes`: the effect of a removal;
* `removes_linesExcept`: deleting the lines keyed by an entry and those of its index has this
  effect;
* `removeBlock_isOk`, `removeBlock_shape`: when a removal succeeds, and what it then deletes and
  rewrites.
-/

namespace SolutionSweep

open Document (linesExcept)
open Line (IndexedLine CountLine indexed? count? nesting?)

/-- The child and the parent on each nesting line, in order. -/
def nestingPairs (lines : List Text) : List (EntryId × EntryId) :=
  (Section.linesOf [nestingSectionName] lines).filterMap nesting?

/-- The lines inside the section of version control. -/
def bookLines (c : Conventions) (lines : List Text) : List Text :=
  Section.linesOf c.versionControlSections lines

/-- The index that the removal of a block releases. -/
def releasedIndex? (c : Conventions) (lines : List Text) (b : Block) : Option Nat :=
  if b.isFolder then none else indexIn? (bookLines c lines) b.path

/-- The indexed lines once an index has been released, or none. -/
def indexedAfter : Option Nat → List IndexedLine → List IndexedLine
  | none, xs => xs
  | some k, xs => (xs.filter (·.number ≠ k)).map (·.lowered k)

/-- The counting lines once an index has been released, or none. -/
def countedAfter : Option Nat → List CountLine → List CountLine
  | none, xs => xs
  | some _, xs => xs.modifyHead (·.decreased)

/-- The effect of the removal of a block. -/
structure Removes (c : Conventions) (b : Block) (lines lines' : List Text) : Prop where
  orderly : Orderly lines'
  excised : ∃ front opening inner closing back front' back',
    Excised b lines lines' front opening inner closing back front' back'
  sections : ∀ names, (Section.find? (Section.scan lines') names).isSome =
    (Section.find? (Section.scan lines) names).isSome
  nesting : nestingPairs lines' = (nestingPairs lines).filter (·.1 ≠ b.id)
  indexed : indexedLines (bookLines c lines') =
    indexedAfter (releasedIndex? c lines b) (indexedLines (bookLines c lines))
  counted : countLines (bookLines c lines') =
    countedAfter (releasedIndex? c lines b) (countLines (bookLines c lines))
  characters : ∀ l' ∈ lines', ∃ l ∈ lines, Renumbered l l'

/-! ### The lines of a section afterwards -/

/-- In an orderly manifest a section keeps its place through a deletion of inert lines. -/
theorem sections_linesExcept {lines left : List Text} (orderly : Orderly lines)
    (pairs : List.Forall₂ Renumbered lines left) {doomed : List Nat}
    (inert : ∀ names before header body ending after,
      Section.At names lines before header body ending after →
        ∀ i l, lines[i]? = some l → before.length ≤ i → i ∈ doomed → Line.isInert l = true)
    (names : List Text) :
    (Section.find? (Section.scan (linesExcept doomed 0 left)) names).isSome =
      (Section.find? (Section.scan lines) names).isSome := by
  rcases Section.exists_at orderly.sections names with absent | ⟨_, _, _, _, _, h⟩
  · rw [Section.find?_eq_none absent,
      Section.find?_eq_none (opensSection_linesExcept absent pairs doomed 0)]
  · obtain ⟨_, _, after', rfl, pairsBefore, pairsBody⟩ := h.renumbered_inv pairs
    obtain ⟨_, found, -⟩ := h.find?_eq
    obtain ⟨_, found', -⟩ :=
      (h.linesExcept pairsBefore pairsBody doomed (inert _ _ _ _ _ _ h) after').find?_eq
    rw [found, found']
    rfl

/-- What is read off the lines of a section after lines have been rewritten and deleted. -/
theorem filterMap_linesOf {α : Type} {f : Text → Option α} (gone : α → Bool)
    {lines left : List Text} (orderly : Orderly lines)
    (pairs : List.Forall₂ Renumbered lines left) {doomed : List Nat} {names : List Text}
    (inert : ∀ before header body ending after,
      Section.At names lines before header body ending after →
        ∀ i l, lines[i]? = some l → before.length ≤ i → i ∈ doomed → Line.isInert l = true)
    (same : ∀ l l', Renumbered l l' → f l' = f l)
    (mem : ∀ before header body ending after,
      Section.At names lines before header body ending after →
        ∀ i l a, body[i]? = some l → f l = some a →
          (before.length + 1 + i ∈ doomed ↔ gone a = true)) :
    (Section.linesOf names (linesExcept doomed 0 left)).filterMap f =
      ((Section.linesOf names lines).filterMap f).filter fun a => !gone a := by
  rcases Section.exists_at orderly.sections names with absent | ⟨_, _, _, _, _, h⟩
  · rw [Section.linesOf_eq_nil absent,
      Section.linesOf_eq_nil (opensSection_linesExcept absent pairs doomed 0)]
    rfl
  · obtain ⟨_, body', after', rfl, pairsBefore, pairsBody⟩ := h.renumbered_inv pairs
    rw [h.linesOf_eq,
      (h.linesExcept pairsBefore pairsBody doomed (inert _ _ _ _ _ h) after').linesOf_eq,
      Document.filterMap_linesExcept gone]
    · congr 1
      clear h mem inert pairs
      induction pairsBody with
      | nil => rfl
      | cons pair _ ih => rw [List.filterMap_cons, List.filterMap_cons, same _ _ pair, ih]
    · intro i l' a at_ read
      obtain ⟨l, at', pair⟩ := exists_of_renumbered pairsBody at_
      rw [same l l' pair] at read
      exact mem _ _ _ _ _ h i l a at' read

/-! ### The lines that a removal deletes -/

section Deletion

variable {c : Conventions} {b : Block} {lines left front inner back : List Text}
  {opening closing : Text} {doomed : List Nat}

/-- Outside of the block only inert lines are deleted. -/
theorem inert_of_mem_doomed
    (marked : ∀ i ∈ doomed, ∃ l x, lines[i]? = some l ∧ indexed? l = some x) {i : Nat} {l : Text}
    (at_ : lines[i]? = some l) (mem : i ∈ keyedIndices lines b ++ doomed) :
    i ∈ b.span.indices ∨ Line.isInert l = true := by
  rcases List.mem_append.1 mem with mem | mem
  · refine (initial?_of_mem_keyedIndices mem at_).imp_right fun brace => ?_
    exact Line.isInert_iff.2 (Or.inr (Or.inl brace))
  · obtain ⟨l', x, at', read⟩ := marked i mem
    obtain rfl : l = l' := Option.some.inj (at_.symm.trans at')
    exact Or.inr (Line.isInert_of_indexed? read)

/-- From the header of a section on only inert lines are deleted. -/
theorem inert_of_section (orderly : Orderly lines)
    (h : b.At lines front opening inner closing back)
    (marked : ∀ i ∈ doomed, ∃ l x, lines[i]? = some l ∧ indexed? l = some x)
    {names before body after : List Text} {header ending : Text}
    (s : Section.At names lines before header body ending after) {i : Nat} {l : Text}
    (at_ : lines[i]? = some l) (le : before.length ≤ i)
    (mem : i ∈ keyedIndices lines b ++ doomed) : Line.isInert l = true := by
  refine (inert_of_mem_doomed marked at_ mem).resolve_left fun block => ?_
  have := h.mem_indices.1 block
  have := orderly.section_behind h s
  omega

/-- A nesting line is deleted if its child is the entry. -/
theorem mem_doomed_iff_child (orderly : Orderly lines)
    (h : b.At lines front opening inner closing back)
    (marked : ∀ i ∈ doomed, ∃ l x, lines[i]? = some l ∧ indexed? l = some x)
    {before body after : List Text} {header ending : Text}
    (s : Section.At [nestingSectionName] lines before header body ending after) {i : Nat} {l : Text}
    {pair : EntryId × EntryId} (at_ : body[i]? = some l) (read : nesting? l = some pair) :
    before.length + 1 + i ∈ keyedIndices lines b ++ doomed ↔ pair.1 = b.id := by
  have atLine := s.getElem?_eq at_
  constructor
  · intro mem
    rcases List.mem_append.1 mem with mem | mem
    · rcases keyedIndices_cases mem atLine with block | config | ⟨parent, read'⟩
      · have := h.mem_indices.1 block
        have := orderly.section_behind h s
        omega
      · rw [Line.nesting?_eq_none_of_buildConfigId? config] at read
        cases read
      · rw [read] at read'
        exact congrArg Prod.fst (Option.some.inj read')
    · obtain ⟨l', x, at', indexed⟩ := marked _ mem
      obtain rfl : l = l' := Option.some.inj (atLine.symm.trans at')
      rw [Line.nesting?_eq_none (by simp [Line.initial?_of_indexed? indexed])] at read
      cases read
  · intro same
    refine List.mem_append_left _ (List.mem_append_right _ (mem_childIndices.2 ?_))
    refine ⟨l, pair.2, ?_, by rw [read, ← same]⟩
    rw [nestingSection?, s.bodyOf_eq]
    exact List.mem_zipIdx_iff_le_and_getElem?_sub.2 ⟨by simp, by simpa using at_⟩

/-- Everything that the removal of a block has to do with version control aside. -/
theorem removes_linesExcept (orderly : Orderly lines)
    (h : b.At lines front opening inner closing back)
    (pairs : List.Forall₂ Renumbered lines left)
    (marked : ∀ i ∈ doomed, ∃ l x, lines[i]? = some l ∧ indexed? l = some x)
    (indexed : indexedLines (bookLines c (linesExcept (keyedIndices lines b ++ doomed) 0 left)) =
      indexedAfter (releasedIndex? c lines b) (indexedLines (bookLines c lines)))
    (counted : countLines (bookLines c (linesExcept (keyedIndices lines b ++ doomed) 0 left)) =
      countedAfter (releasedIndex? c lines b) (countLines (bookLines c lines))) :
    Removes c b lines (linesExcept (keyedIndices lines b ++ doomed) 0 left) := by
  obtain ⟨front', back', excised⟩ := excised_linesExcept h pairs
    (keyedIndices lines b ++ doomed)
    (fun i mem => List.mem_append_left _ (List.mem_append_left _ (List.mem_append_left _ mem)))
    fun i l at_ mem => inert_of_mem_doomed marked at_ mem
  refine ⟨orderly.excised excised, ⟨_, _, _, _, _, _, _, excised⟩, ?_, ?_, indexed, counted, ?_⟩
  · exact sections_linesExcept orderly pairs fun names before header body ending after s i l =>
      inert_of_section orderly h marked s
  · unfold nestingPairs
    rw [filterMap_linesOf (fun pair => decide (pair.1 = b.id)) orderly pairs
      (fun before header body ending after s i l => inert_of_section orderly h marked s)
      (fun l l' pair => pair.nesting?_eq)
      fun before header body ending after s i l pair at_ read => by
        rw [mem_doomed_iff_child orderly h marked s at_ read, decide_eq_true_eq]]
    simp
  · intro l' mem
    exact exists_mem_of_renumbered pairs ((Document.linesExcept_sublist _ _ _).subset mem)

/-- A line inside of a section that is deleted begins with a brace or belongs to the index. -/
theorem initial?_of_mem_body (orderly : Orderly lines)
    (h : b.At lines front opening inner closing back) {names before body after : List Text}
    {header ending : Text} (s : Section.At names lines before header body ending after) {i : Nat}
    {l : Text} (at_ : body[i]? = some l) (mem : before.length + 1 + i ∈ keyedIndices lines b) :
    Line.initial? l = some '{' := by
  refine (initial?_of_mem_keyedIndices mem (s.getElem?_eq at_)).resolve_left fun block => ?_
  have := h.mem_indices.1 block
  have := orderly.section_behind h s
  omega

/-- The removal of a block that releases no index. -/
theorem removes_of_releasedIndex?_eq_none (orderly : Orderly lines)
    (h : b.At lines front opening inner closing back) (quiet : releasedIndex? c lines b = none) :
    Removes c b lines (linesExcept (keyedIndices lines b) 0 lines) := by
  -- Inside of the section only lines that begin with a brace are deleted.
  have untouched {α : Type} {f : Text → Option α}
      (brace : ∀ l, Line.initial? l = some '{' → f l = none) :
      (bookLines c (linesExcept (keyedIndices lines b) 0 lines)).filterMap f =
        (bookLines c lines).filterMap f := by
    unfold bookLines
    rcases Section.exists_at orderly.sections c.versionControlSections with
      absent | ⟨before, header, body, ending, after, s⟩
    · rw [Section.linesOf_eq_nil absent, Section.linesOf_eq_nil (opensSection_linesExcept absent
        (forall₂_renumbered_refl _) _ 0)]
    · have s' := s.linesExcept (forall₂_renumbered_refl _) (forall₂_renumbered_refl _)
        (keyedIndices lines b ++ []) (fun i l => inert_of_section orderly h (by simp) s) after
      rw [← s.lines_eq, List.append_nil] at s'
      rw [s.linesOf_eq, s'.linesOf_eq]
      exact Document.filterMap_linesExcept_eq fun i l at_ mem =>
        brace l (initial?_of_mem_body orderly h s at_ mem)
  have removes : Removes c b lines (linesExcept (keyedIndices lines b ++ []) 0 lines) := by
    refine removes_linesExcept orderly h (forall₂_renumbered_refl _) (by simp) ?_ ?_
    · rw [quiet, List.append_nil]
      exact untouched fun l brace => Line.indexed?_eq_none (by simp [brace])
    · rw [quiet, List.append_nil]
      exact untouched fun l brace => Line.count?_eq_none (by simp [brace])
  rwa [List.append_nil] at removes

/-- The removal of a block that releases an index. -/
theorem removes_of_releasedIndex?_eq_some (orderly : Orderly lines)
    (h : b.At lines front opening inner closing back) {k : Nat}
    (releases : releasedIndex? c lines b = some k) {before body after : List Text}
    {header ending : Text}
    (s : Section.At c.versionControlSections lines before header body ending after)
    (marked : ∀ i, i ∈ doomed ↔ ∃ j l x, i = before.length + 1 + j ∧ body[j]? = some l ∧
      indexed? l = some x ∧ x.number = k) :
    Removes c b lines (linesExcept (keyedIndices lines b ++ doomed) 0
      (before ++ header :: (released k body ++ ending :: after))) := by
  have marked' : ∀ i ∈ doomed, ∃ l x, lines[i]? = some l ∧ indexed? l = some x := by
    intro i mem
    obtain ⟨j, l, x, rfl, at_, read, -⟩ := (marked i).1 mem
    exact ⟨l, x, s.getElem?_eq at_, read⟩
  have pairs : List.Forall₂ Renumbered lines
      (before ++ header :: (released k body ++ ending :: after)) := by
    rw [s.lines_eq]
    exact List.rel_append (forall₂_renumbered_refl _) (.cons .same
      (List.rel_append (forall₂_released k body) (forall₂_renumbered_refl _)))
  have s' := s.linesExcept (forall₂_renumbered_refl _) (forall₂_released k body)
    (keyedIndices lines b ++ doomed) (fun i l => inert_of_section orderly h marked' s) after
  refine removes_linesExcept orderly h pairs marked' ?_ ?_
  · rw [releases, bookLines, bookLines, s.linesOf_eq, s'.linesOf_eq,
      indexedLines_linesExcept_released]
    · rfl
    · -- An indexed line begins with a letter, so it is not deleted for the sake of the entry.
      intro i l x at_ read
      rw [List.mem_append, marked]
      constructor
      · rintro (mem | ⟨j, l', x', eq, at', read', number⟩)
        · have brace := initial?_of_mem_body orderly h s at_ mem
          rw [Line.initial?_of_indexed? read] at brace
          cases brace
        · obtain rfl : i = j := by omega
          obtain rfl : l = l' := Option.some.inj (at_.symm.trans at')
          obtain rfl : x = x' := Option.some.inj (read.symm.trans read')
          exact number
      · intro number
        exact Or.inr ⟨i, l, x, rfl, at_, read, number⟩
  · rw [releases, bookLines, bookLines, s.linesOf_eq, s'.linesOf_eq,
      countLines_linesExcept_released]
    · rfl
    · intro i l at_ mem
      rcases List.mem_append.1 mem with mem | mem
      · have brace := initial?_of_mem_body orderly h s at_ mem
        exact Line.count?_eq_none (by simp [brace])
      · obtain ⟨l', x, at', read⟩ := marked' _ mem
        obtain rfl : l = l' := Option.some.inj ((s.getElem?_eq at_).symm.trans at')
        exact Line.count?_eq_none_of_indexed? read

end Deletion

/-! ### One removal -/

/-- The removal of an entry does not touch the book of version control: the entry is a folder, or
its path has no index in the book, and the indices can be read. -/
def Harmless (c : Conventions) (lines : List Text) (e : RemovedEntry) : Prop :=
  e.isProject = true → (∀ x ∈ indexedLines (bookLines c lines), x.Short) ∧
    indexIn? (bookLines c lines) e.relativePath = none

theorem Harmless.releasedIndex?_eq_none {c : Conventions} {lines : List Text} {b : Block}
    (h : Harmless c lines b.entry) :
    releasedIndex? c lines b = none := by
  rw [releasedIndex?]
  cases folder : b.isFolder with
  | true => rfl
  | false => exact (h (by simp [Block.entry, folder])).2

namespace Surgery

variable {c : Conventions} {s after : Surgery}

/-- A removal succeeds if the numerals of version control can be read, or need not be. -/
theorem removeBlock_isOk (orderly : Orderly s.lines) {b : Block}
    (fine : Readable (bookLines c s.lines) ∨ Harmless c s.lines b.entry) :
    ∃ after, removeBlock c s b = (after, .ok b.entry) := by
  unfold removeBlock bookOf?
  cases folder : b.isFolder with
  | true => exact ⟨_, by simp [Block.entry, folder]; rfl⟩
  | false =>
    have entry : (⟨b.id, b.name, b.path, !false⟩ : RemovedEntry) = b.entry := by
      rw [Block.entry, folder]
    rcases Section.exists_at orderly.sections c.versionControlSections with
      absent | ⟨before, header, body, ending, behind, sec⟩
    · rw [Section.find?_eq_none absent, entry]
      exact ⟨_, rfl⟩
    · obtain ⟨book, found, -⟩ := sec.find?_eq
      rw [Harmless, bookLines, sec.linesOf_eq] at fine
      rw [found, if_neg (by decide), entry]
      dsimp only
      rcases fine with readable | harmless
      · rcases releaseIndex_cases sec found readable b with ⟨-, quiet⟩ | ⟨k, doomed, -, loud, -⟩
        · rw [quiet]
          exact ⟨_, rfl⟩
        · rw [loud]
          exact ⟨_, rfl⟩
      · obtain ⟨short, unresolved⟩ := harmless (by simp [Block.entry, folder])
        rw [releaseIndex_of_unresolved sec found short unresolved]
        exact ⟨_, rfl⟩

/-- A removal that succeeds deletes the lines that are keyed by the entry, and with them perhaps the
lines of an index that it has released. -/
theorem removeBlock_shape (orderly : Orderly s.lines) {b : Block} {e : RemovedEntry}
    (ok : removeBlock c s b = (after, .ok e)) :
    (Harmless c s.lines b.entry ∧
      after.lines = linesExcept (keyedIndices s.lines b) 0 s.lines) ∨
    Readable (bookLines c s.lines) ∧ ∃ k before header body ending behind doomed,
      releasedIndex? c s.lines b = some k ∧
      Section.At c.versionControlSections s.lines before header body ending behind ∧
      (∀ i, i ∈ doomed ↔ ∃ j l x, i = before.length + 1 + j ∧ body[j]? = some l ∧
        indexed? l = some x ∧ x.number = k) ∧
      after.lines = linesExcept (keyedIndices s.lines b ++ doomed) 0
        (before ++ header :: (released k body ++ ending :: behind)) := by
  unfold removeBlock bookOf? at ok
  cases folder : b.isFolder with
  | true =>
    rw [folder] at ok
    cases ok
    exact Or.inl ⟨fun project => by simp [Block.entry, folder] at project, rfl⟩
  | false =>
    have releases : releasedIndex? c s.lines b = indexIn? (bookLines c s.lines) b.path := by
      rw [releasedIndex?, folder]
      rfl
    rw [folder] at ok
    rcases Section.exists_at orderly.sections c.versionControlSections with
      absent | ⟨before, header, body, ending, behind, sec⟩
    · rw [Section.find?_eq_none absent] at ok
      cases ok
      refine Or.inl ⟨fun _ => ?_, rfl⟩
      rw [bookLines, Section.linesOf_eq_nil absent]
      exact ⟨nofun, rfl⟩
    · obtain ⟨book, found, -⟩ := sec.find?_eq
      rw [bookLines, sec.linesOf_eq] at releases
      rw [Harmless, bookLines, sec.linesOf_eq]
      rw [found] at ok
      rw [if_neg (by decide)] at ok
      dsimp only at ok
      rcases result : releaseIndex book b s.lines with ⟨left, e' | doomed⟩
      · rw [result] at ok
        cases ok
      · rw [result] at ok
        rcases releaseIndex_eq_ok sec found result with
          ⟨short, unresolved, rfl, rfl⟩ | ⟨readable, k, marked, resolved, rfl, rfl, mem⟩
        · cases ok
          exact Or.inl ⟨fun _ => ⟨short, unresolved⟩, rfl⟩
        · cases ok
          exact Or.inr ⟨readable, k, _, _, _, _, _, marked, releases.trans resolved, sec, mem, rfl⟩

/-- **What a removal does that succeeds.** -/
theorem removes_of_removeBlock (orderly : Orderly s.lines) {id : EntryId} {b : Block}
    (found : Block.find? (Block.scan s.lines) id = some b) {e : RemovedEntry}
    (ok : removeBlock c s b = (after, .ok e)) : Removes c b s.lines after.lines := by
  obtain ⟨-, front, opening, inner, closing, back, h⟩ :=
    Block.exists_at_of_find? orderly.blocks found
  rcases removeBlock_shape orderly ok with
    ⟨harmless, eq⟩ | ⟨-, k, before, header, body, ending, behind, doomed, loud, sec, marked, eq⟩
  · rw [eq]
    exact removes_of_releasedIndex?_eq_none orderly h harmless.releasedIndex?_eq_none
  · rw [eq]
    exact removes_of_releasedIndex?_eq_some orderly h loud sec marked

end Surgery

/-- **What the removal of a block does.** If the numerals of version control can be read, the
removal succeeds. -/
theorem removes_removeBlock (c : Conventions) {s : Surgery} (orderly : Orderly s.lines)
    {id : EntryId} {b : Block} (found : Block.find? (Block.scan s.lines) id = some b)
    (readable : Readable (bookLines c s.lines)) :
    ∃ after, Surgery.removeBlock c s b = (after, .ok b.entry) ∧
      Removes c b s.lines after.lines := by
  obtain ⟨after, ok⟩ := Surgery.removeBlock_isOk orderly (Or.inl readable)
  exact ⟨after, ok, Surgery.removes_of_removeBlock orderly found ok⟩

/-- The removal of the first entry registered under an identifier: nothing happens if there is
none. -/
theorem removeId_cases (c : Conventions) {s : Surgery} (orderly : Orderly s.lines)
    (readable : Readable (bookLines c s.lines)) (id : EntryId) :
    ∃ after removed, Surgery.removeId c s id = (after, .ok removed) ∧
      ((Block.find? (Block.scan s.lines) id = none ∧ removed = none ∧ after.lines = s.lines) ∨
        ∃ b, Block.find? (Block.scan s.lines) id = some b ∧
          removed = some b.entry ∧
            Removes c b s.lines after.lines) := by
  unfold Surgery.removeId
  cases found : Block.find? (Block.scan s.lines) id with
  | none => exact ⟨_, _, rfl, Or.inl ⟨rfl, rfl, rfl⟩⟩
  | some b =>
    obtain ⟨after, removes, effect⟩ := removes_removeBlock c orderly found readable
    simp only [removes]
    exact ⟨after, _, rfl, Or.inr ⟨b, rfl, rfl, effect⟩⟩

/-! ### Numerals stay readable -/

theorem Line.IndexedLine.Short.lowered {l : Text} {x : IndexedLine} (read : indexed? l = some x)
    (short : x.Short) (k : Nat) : (x.lowered k).Short := by
  unfold IndexedLine.lowered
  split
  · exact short.renumbered read (Nat.sub_le _ _)
  · exact short

/-- A removal makes no numeral too long. -/
theorem Removes.readable {c : Conventions} {b : Block} {lines lines' : List Text}
    (h : Removes c b lines lines') (readable : Readable (bookLines c lines)) :
    Readable (bookLines c lines') := by
  refine ⟨?_, ?_⟩
  · rw [h.indexed]
    cases releasedIndex? c lines b with
    | none => exact readable.indexed
    | some k =>
      intro x' mem
      obtain ⟨x, kept, rfl⟩ := List.mem_map.1 mem
      have old := List.mem_of_mem_filter kept
      obtain ⟨l, -, read⟩ := List.mem_filterMap.1 old
      exact (readable.indexed x old).lowered read k
  · rw [h.counted]
    cases releasedIndex? c lines b with
    | none => exact readable.counting
    | some k =>
      intro x' head
      rw [countedAfter, List.head?_modifyHead] at head
      obtain ⟨x, old, rfl⟩ := Option.map_eq_some_iff.1 head
      obtain ⟨l, -, read⟩ := List.mem_filterMap.1 (List.mem_of_mem_head? old)
      exact (readable.counting x old).renumbered read (Nat.sub_le _ _)

/-! ### Blank lines -/

theorem indexedLines_nonblank {c : Conventions} {lines : List Text} (orderly : Orderly lines) :
    indexedLines (bookLines c (nonblank lines)) = indexedLines (bookLines c lines) :=
  filterMap_linesOf_nonblank orderly _ fun l blank =>
    Line.indexed?_eq_none (by simp [Line.initial?_eq_none blank])

theorem countLines_nonblank {c : Conventions} {lines : List Text} (orderly : Orderly lines) :
    countLines (bookLines c (nonblank lines)) = countLines (bookLines c lines) :=
  filterMap_linesOf_nonblank orderly _ fun l blank =>
    Line.count?_eq_none (by simp [Line.initial?_eq_none blank])

theorem Readable.nonblank {c : Conventions} {lines : List Text}
    (readable : Readable (bookLines c lines)) (orderly : Orderly lines) :
    Readable (bookLines c (nonblank lines)) := by
  refine ⟨?_, ?_⟩
  · rw [indexedLines_nonblank orderly]
    exact readable.indexed
  · rw [countLines_nonblank orderly]
    exact readable.counting

end SolutionSweep
