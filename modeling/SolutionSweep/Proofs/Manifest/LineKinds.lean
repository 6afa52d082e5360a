import SolutionSweep.Manifest.Line
import SolutionSweep.Proofs.Text.Basic

/-!
# Kinds of lines are told apart

Every kind of line that a manifest is read for shows in the first character that is no white space,
and in what follows it. Lines that are blank, that begin with an opening brace or that begin with
the letter of version control are *inert*: they neither open nor close a block, a section or the
global part, so they may come and go without changing where those begin and end.

* `initial?`: the first character of a line that is no white space;
* `isInert`: the lines without a part in the structure of a manifest;
* `registration?_eq_none` and its kin: an inert line is of no structural kind;
* `nesting?_eq_none_of_buildConfigId?`, `count?_eq_none_of_indexed?`: inert kinds told apart;
* `scan_eq_drop`: a scan may pass over lines that open nothing.
-/

namespace SolutionSweep.Line

/-- The first character of a line that is no white space. -/
def initial? (l : Text) : Option Char := (Text.skipWhite l).head?

/-- Blank lines, lines that begin with an opening brace, and lines of version control. -/
def isInert (l : Text) : Bool :=
  match initial? l with
  | none => true
  | some c => c == '{' || c == 'S'

variable {l : Text}

theorem initial?_eq_of_after? {c : Char} {mark rest : Text}
    (h : Text.after? (c :: mark) (Text.skipWhite l) = some rest) : initial? l = some c := by
  simp [initial?, Text.after?_eq_some_iff.1 h]

theorem initial?_eq_of_strip {c : Char} {rest : Text} (h : Text.strip l = c :: rest) :
    initial? l = some c := by
  obtain ⟨blanks, eq⟩ := Text.skipWhite_eq_strip_append l
  simp [initial?, eq, h]

/-! ### The initial of each kind of line -/

theorem initial?_of_registration? {r : Registration} (h : registration? l = some r) :
    initial? l = some 'P' := by
  obtain ⟨rest, beginning, -⟩ := Option.bind_eq_some_iff.1 h
  exact initial?_eq_of_after? beginning

theorem initial?_of_isRegistration (h : isRegistration l = true) : initial? l = some 'P' := by
  obtain ⟨r, found⟩ := Option.isSome_iff_exists.1 h
  exact initial?_of_registration? found

theorem initial?_of_isBlockEnd (h : isBlockEnd l = true) : initial? l = some 'E' :=
  initial?_eq_of_strip (beq_iff_eq.1 h)

theorem initial?_of_isItemsHeader (h : isItemsHeader l = true) :
    ∃ c, initial? l = some c ∧ isLetterIgnoringCase 'p' c = true := by
  obtain ⟨rest, found⟩ := Option.isSome_iff_exists.1 h
  obtain ⟨rest, beginning, -⟩ := Option.bind_eq_some_iff.1 found
  unfold initial?
  cases skipped : Text.skipWhite l with
  | nil =>
    rw [skipped] at beginning
    cases beginning
  | cons c cs =>
    refine ⟨c, rfl, ?_⟩
    by_contra other
    rw [skipped, show blockSectionWord = 'p' :: "rojectsection(".toList from rfl,
      Text.afterIgnoringCase?, if_neg other] at beginning
    cases beginning

theorem initial?_of_isGlobalBoundary (h : isGlobalBoundary l = true) :
    initial? l = some 'G' ∨ initial? l = some 'E' := by
  rcases Bool.or_eq_true_iff.1 h with h | h
  · exact Or.inl (initial?_eq_of_strip (beq_iff_eq.1 h))
  · exact Or.inr (initial?_eq_of_strip (beq_iff_eq.1 h))

theorem initial?_of_sectionHeader? {h : SectionHeader} (found : sectionHeader? l = some h) :
    initial? l = some 'G' := by
  obtain ⟨rest, beginning, -⟩ := Option.bind_eq_some_iff.1 found
  exact initial?_eq_of_after? beginning

theorem initial?_of_isSectionEnd (h : isSectionEnd l = true) : initial? l = some 'E' :=
  initial?_eq_of_strip (beq_iff_eq.1 h)

theorem initial?_of_takeBracedId? {id rest : Text}
    (h : takeBracedId? (Text.skipWhite l) = some (id, rest)) : initial? l = some '{' := by
  obtain ⟨_, beginning, -⟩ := Option.bind_eq_some_iff.1 h
  exact initial?_eq_of_after? beginning

theorem initial?_of_nesting? {pair : EntryId × EntryId} (h : nesting? l = some pair) :
    initial? l = some '{' := by
  obtain ⟨⟨id, rest⟩, braced, -⟩ := Option.bind_eq_some_iff.1 h
  exact initial?_of_takeBracedId? braced

theorem initial?_of_buildConfigId? {id : EntryId} (h : buildConfigId? l = some id) :
    initial? l = some '{' := by
  obtain ⟨⟨id, rest⟩, braced, -⟩ := Option.bind_eq_some_iff.1 h
  exact initial?_of_takeBracedId? braced

theorem initial?_of_indexed? {x : IndexedLine} (h : indexed? l = some x) :
    initial? l = some 'S' := by
  obtain ⟨rest, beginning, -⟩ := Option.bind_eq_some_iff.1 h
  exact initial?_eq_of_after? beginning

theorem initial?_of_count? {x : CountLine} (h : count? l = some x) : initial? l = some 'S' := by
  obtain ⟨rest, beginning, -⟩ := Option.bind_eq_some_iff.1 h
  exact initial?_eq_of_after? beginning

/-! ### Inert lines -/

theorem isInert_iff : isInert l = true ↔
    initial? l = none ∨ initial? l = some '{' ∨ initial? l = some 'S' := by
  unfold isInert
  cases initial? l <;> simp

theorem isInert_of_isBlank (h : Text.isBlank l = true) : isInert l = true := by
  simp [isInert_iff, initial?, Text.isBlank_iff_skipWhite_eq_nil.1 h]

theorem isInert_of_indexed? {x : IndexedLine} (h : indexed? l = some x) : isInert l = true := by
  simp [isInert_iff, initial?_of_indexed? h]

/-- A line whose initial is not that of an inert line is not inert. -/
theorem isInert_eq_false_of_initial? {c : Char} (h : initial? l = some c) (brace : c ≠ '{')
    (scc : c ≠ 'S') : isInert l = false := by
  simp [isInert, h, brace, scc]

theorem isInert_eq_false_of_isRegistration (h : isRegistration l = true) : isInert l = false :=
  isInert_eq_false_of_initial? (initial?_of_isRegistration h) (by decide) (by decide)

theorem isInert_eq_false_of_isBlockEnd (h : isBlockEnd l = true) : isInert l = false :=
  isInert_eq_false_of_initial? (initial?_of_isBlockEnd h) (by decide) (by decide)

theorem isInert_eq_false_of_isItemsHeader (h : isItemsHeader l = true) : isInert l = false := by
  obtain ⟨c, initial, letter⟩ := initial?_of_isItemsHeader h
  refine isInert_eq_false_of_initial? initial ?_ ?_
  · rintro rfl
    revert letter
    decide +kernel
  · rintro rfl
    revert letter
    decide +kernel

theorem isInert_eq_false_of_isGlobalBoundary (h : isGlobalBoundary l = true) :
    isInert l = false := by
  rcases initial?_of_isGlobalBoundary h with h | h
  · exact isInert_eq_false_of_initial? h (by decide) (by decide)
  · exact isInert_eq_false_of_initial? h (by decide) (by decide)

theorem isInert_eq_false_of_isSectionHeader (h : isSectionHeader l = true) : isInert l = false := by
  obtain ⟨header, found⟩ := Option.isSome_iff_exists.1 h
  exact isInert_eq_false_of_initial? (initial?_of_sectionHeader? found) (by decide) (by decide)

theorem isInert_eq_false_of_isSectionEnd (h : isSectionEnd l = true) : isInert l = false :=
  isInert_eq_false_of_initial? (initial?_of_isSectionEnd h) (by decide) (by decide)

/-- An inert line is of no kind of lines that are not inert. -/
theorem eq_false_of_isInert {kind : Text → Bool} (own : kind l = true → isInert l = false)
    (h : isInert l = true) : kind l = false := by
  by_contra other
  rw [own (by simpa using other)] at h
  cases h

theorem isRegistration_eq_false (h : isInert l = true) : isRegistration l = false :=
  eq_false_of_isInert isInert_eq_false_of_isRegistration h

theorem registration?_eq_none (h : isInert l = true) : registration? l = none := by
  simpa [isRegistration] using isRegistration_eq_false h

theorem isBlockEnd_eq_false (h : isInert l = true) : isBlockEnd l = false :=
  eq_false_of_isInert isInert_eq_false_of_isBlockEnd h

theorem isItemsHeader_eq_false (h : isInert l = true) : isItemsHeader l = false :=
  eq_false_of_isInert isInert_eq_false_of_isItemsHeader h

theorem isGlobalBoundary_eq_false (h : isInert l = true) : isGlobalBoundary l = false :=
  eq_false_of_isInert isInert_eq_false_of_isGlobalBoundary h

theorem isSectionHeader_eq_false (h : isInert l = true) : isSectionHeader l = false :=
  eq_false_of_isInert isInert_eq_false_of_isSectionHeader h

theorem isSectionEnd_eq_false (h : isInert l = true) : isSectionEnd l = false :=
  eq_false_of_isInert isInert_eq_false_of_isSectionEnd h

/-! ### Kinds told apart by their initials -/

/-- A kind of lines is ruled out by another initial than its own. -/
theorem eq_false_of_initial? {kind : Text → Bool} {c d : Char}
    (own : kind l = true → initial? l = some c) (other : initial? l = some d) (ne : c ≠ d) :
    kind l = false := by
  rw [Bool.eq_false_iff]
  intro h
  exact ne (Option.some.inj ((own h).symm.trans other))

theorem isBlockEnd_eq_false_of_isRegistration (h : isRegistration l = true) :
    isBlockEnd l = false :=
  eq_false_of_initial? initial?_of_isBlockEnd (initial?_of_isRegistration h) (by decide)

theorem isRegistration_eq_false_of_isBlockEnd (h : isBlockEnd l = true) :
    isRegistration l = false :=
  eq_false_of_initial? initial?_of_isRegistration (initial?_of_isBlockEnd h) (by decide)

theorem isGlobalBoundary_eq_false_of_isRegistration (h : isRegistration l = true) :
    isGlobalBoundary l = false := by
  have begins := initial?_of_isRegistration h
  refine Bool.eq_false_iff.2 fun boundary => ?_
  rcases initial?_of_isGlobalBoundary boundary with other | other <;> simp [begins] at other

/-- A line that closes a block is no boundary, though both may begin alike. -/
theorem isGlobalBoundary_eq_false_of_isBlockEnd (h : isBlockEnd l = true) :
    isGlobalBoundary l = false := by
  rw [isGlobalBoundary, beq_iff_eq.1 h]
  decide

/-- Nothing is read off a line with another initial than the one it takes. -/
theorem eq_none_of_initial? {α : Type} {f : Text → Option α} {c : Char}
    (own : ∀ a, f l = some a → initial? l = some c) (other : initial? l ≠ some c) : f l = none := by
  cases read : f l with
  | none => rfl
  | some a => exact absurd (own a read) other

theorem nesting?_eq_none (h : initial? l ≠ some '{') : nesting? l = none :=
  eq_none_of_initial? (fun _ => initial?_of_nesting?) h

theorem indexed?_eq_none (h : initial? l ≠ some 'S') : indexed? l = none :=
  eq_none_of_initial? (fun _ => initial?_of_indexed?) h

theorem count?_eq_none (h : initial? l ≠ some 'S') : count? l = none :=
  eq_none_of_initial? (fun _ => initial?_of_count?) h

theorem initial?_eq_none (h : Text.isBlank l = true) : initial? l = none := by
  rw [initial?, Text.isBlank_iff_skipWhite_eq_nil.1 h]
  rfl

/-- After the identifier a build configuration line goes on with a dot, a nesting line does not. -/
theorem nesting?_eq_none_of_buildConfigId? {id : EntryId} (h : buildConfigId? l = some id) :
    nesting? l = none := by
  obtain ⟨⟨written, rest⟩, braced, h⟩ := Option.bind_eq_some_iff.1 h
  obtain ⟨after, dot, -⟩ := Option.bind_eq_some_iff.1 h
  obtain rfl : rest = '.' :: after := Text.after?_eq_some_iff.1 dot
  unfold nesting?
  simp [braced, takeSpaced?, Text.skipWhite_cons (c := '.') (by decide), Text.after?]

/-- A scan that passes over each line that opens nothing may pass over several of them at once. -/
theorem scan_eq_drop {β : Type} {opens : Text → Bool} {scan : Nat → List Text → List β}
    (passes : ∀ i l rest, opens l = false → scan i (l :: rest) = scan (i + 1) rest) {n i : Nat}
    {lines : List Text} (le : n ≤ lines.length)
    (plain : ∀ k l, k < n → lines[k]? = some l → opens l = false) :
    scan i lines = scan (i + n) (lines.drop n) := by
  induction n generalizing i lines with
  | zero => rfl
  | succ n ih =>
    cases lines with
    | nil => cases le
    | cons l rest =>
      rw [passes i l rest (plain 0 l n.succ_pos rfl), List.drop_succ_cons, ← Nat.add_assoc,
        Nat.add_right_comm]
      exact ih (Nat.le_of_succ_le_succ le) fun k l lt at_ =>
        plain (k + 1) l (Nat.succ_lt_succ lt) at_

end SolutionSweep.Line
