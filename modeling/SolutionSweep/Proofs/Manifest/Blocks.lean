import SolutionSweep.Manifest.Block
import SolutionSweep.Proofs.Manifest.LineKinds
import Mathlib.Order.Bounds.Defs

/-!
# Where blocks begin and end

Every registration line opens a block. The block ends at the first line behind it that closes a
block, unless another registration or a boundary of the global part comes first; then it stands
alone. So blocks do not overlap, and nothing is lost if the scan goes on behind each block that it
has found.

* `Block.Closes`: a line that closes the block of a registration line;
* `Block.extent_cases`, `Block.closes_cases`: what a block takes, and where it ends;
* `Block.scanSkipping`: the scan that passes over the lines of each block;
* `Block.scan_delimits`: the blocks of a manifest.
-/

namespace SolutionSweep

open Line (isBlockEnd isRegistration isGlobalBoundary isItemsHeader)

namespace Block

/-- The indices of registration lines. -/
def openings (lines : List Text) : List Nat :=
  (lines.zipIdx.filter fun (l, _) => isRegistration l).map (·.2)

/-- The line at `last` closes a block that is opened at `first`: no registration and no boundary of
the global part stands between them. -/
structure Closes (lines : List Text) (first last : Nat) : Prop where
  behind : first < last
  closing : ∃ l, lines[last]? = some l ∧ isBlockEnd l = true
  between : ∀ i l, first < i → i < last → lines[i]? = some l →
    (isRegistration l || isGlobalBoundary l) = false

/-! ### How far a block extends -/

/-- Either a block takes the lines up to the first one that closes it, or none closes it. -/
theorem extent_cases (rest : List Text) :
    (extent rest = none ∧ ∀ n l, rest[n]? = some l → isBlockEnd l = true →
      ∃ (i : Nat) (l : Text), i < n ∧ rest[i]? = some l ∧
        (isRegistration l || isGlobalBoundary l) = true) ∨
    ∃ n, extent rest = some (n + 1) ∧ (∃ l, rest[n]? = some l ∧ isBlockEnd l = true) ∧
      ∀ (i : Nat) (l : Text), i < n → rest[i]? = some l →
        isBlockEnd l = false ∧ (isRegistration l || isGlobalBoundary l) = false := by
  induction rest with
  | nil => exact .inl ⟨rfl, nofun⟩
  | cons x rest ih =>
    rw [extent]
    split
    case isTrue closes => exact .inr ⟨0, rfl, ⟨x, rfl, closes⟩, nofun⟩
    case isFalse noEnd =>
      split
      case isTrue breaks =>
        refine .inl ⟨rfl, fun n l at_ closes => ?_⟩
        cases n with
        | zero =>
          obtain rfl : x = l := Option.some.inj at_
          exact absurd closes noEnd
        | succ n => exact ⟨0, x, n.succ_pos, rfl, breaks⟩
      case isFalse noBreak =>
        rcases ih with ⟨none, broken⟩ | ⟨n, some, ⟨l, at_, closes⟩, open_⟩
        · refine .inl ⟨by rw [none]; rfl, fun n l at_ closes => ?_⟩
          cases n with
          | zero =>
            obtain rfl : x = l := Option.some.inj at_
            exact absurd closes noEnd
          | succ n =>
            obtain ⟨i, l', lt, at', breaks⟩ := broken n l at_ closes
            exact ⟨i + 1, l', Nat.succ_lt_succ lt, at', breaks⟩
        · refine .inr ⟨n + 1, by rw [some]; rfl, ⟨l, at_, closes⟩, fun i l' lt at' => ?_⟩
          cases i with
          | zero =>
            obtain rfl : x = l' := Option.some.inj at'
            exact ⟨Bool.eq_false_iff.2 noEnd, Bool.eq_false_iff.2 noBreak⟩
          | succ i => exact open_ i l' (Nat.lt_of_succ_lt_succ lt) at'

/-- The lines that a block takes register nothing. -/
theorem isRegistration_eq_false_of_lt_extent {rest : List Text} {i : Nat} {l : Text}
    (lt : i < (extent rest).getD 0) (at_ : rest[i]? = some l) : isRegistration l = false := by
  rcases extent_cases rest with ⟨none, -⟩ | ⟨n, some, ⟨l', at', closes⟩, open_⟩
  · rw [none] at lt
    cases lt
  · rw [some, Option.getD_some] at lt
    rcases Nat.lt_succ_iff_lt_or_eq.1 lt with lt | rfl
    · exact (Bool.or_eq_false_iff.1 (open_ i l lt at_).2).1
    · obtain rfl : l = l' := Option.some.inj (at_.symm.trans at')
      exact Line.isRegistration_eq_false_of_isBlockEnd closes

/-- The lines that a block takes are there. -/
theorem extent_le_length (rest : List Text) : (extent rest).getD 0 ≤ rest.length := by
  rcases extent_cases rest with ⟨none, -⟩ | ⟨n, some, ⟨l, at_, -⟩, -⟩
  · rw [none]
    exact Nat.zero_le _
  · rw [some]
    exact (List.getElem?_eq_some_iff.1 at_).1

/-- Where the block of a registration line ends: on its own line if no line closes it, and else at
the first line that does. -/
theorem closes_cases (lines : List Text) (first : Nat) :
    (extent (lines.drop (first + 1)) = none ∧ ∀ j, ¬ Closes lines first j) ∨
    ∃ n, extent (lines.drop (first + 1)) = some (n + 1) ∧
      IsLeast {j | Closes lines first j} (first + (n + 1)) := by
  have at_drop (i : Nat) : (lines.drop (first + 1))[i]? = lines[first + (i + 1)]? := by
    rw [List.getElem?_drop, Nat.add_assoc, Nat.add_comm 1 i]
  -- Every line behind the registration line is one of those that are left when it is dropped.
  have behind {j : Nat} (lt : first < j) : ∃ i, j = first + (i + 1) :=
    ⟨j - (first + 1), by omega⟩
  rcases extent_cases (lines.drop (first + 1)) with
    ⟨none, broken⟩ | ⟨n, some, ⟨l, at_, closes⟩, open_⟩
  · refine .inl ⟨none, fun j closed => ?_⟩
    obtain ⟨i, rfl⟩ := behind closed.behind
    obtain ⟨l, at_, closes⟩ := closed.closing
    obtain ⟨k, l', lt, at', breaks⟩ := broken i l ((at_drop i).trans at_) closes
    rw [closed.between (first + (k + 1)) l' (by omega) (by omega)
      ((at_drop k).symm.trans at')] at breaks
    cases breaks
  · refine .inr ⟨n, some, ⟨by omega, ⟨l, (at_drop n).symm.trans at_, closes⟩, ?_⟩, ?_⟩
    · intro i l' low high at'
      obtain ⟨k, rfl⟩ := behind low
      exact (open_ k l' (by omega) ((at_drop k).trans at')).2
    · intro j closed
      obtain ⟨i, rfl⟩ := behind closed.behind
      obtain ⟨l', at', closes'⟩ := closed.closing
      by_contra lt
      rw [(open_ i l' (by omega) ((at_drop i).trans at')).1] at closes'
      cases closes'

/-! ### The scan -/

/-- A block is opened by one of the lines. -/
theorem mem_scanFrom {b : Block} {i : Nat} {lines : List Text} (mem : b ∈ scanFrom i lines) :
    ∃ k l r, lines[k]? = some l ∧ Line.registration? l = some r ∧
      b = ofLine (i + k) r (lines.drop (k + 1)) := by
  induction lines generalizing i with
  | nil => cases mem
  | cons x rest ih =>
    have later : b ∈ scanFrom (i + 1) rest → ∃ k l r, (x :: rest)[k]? = some l ∧
        Line.registration? l = some r ∧ b = ofLine (i + k) r ((x :: rest).drop (k + 1)) := by
      intro mem
      obtain ⟨k, l, r, at_, read, rfl⟩ := ih mem
      exact ⟨k + 1, l, r, at_, read, by rw [List.drop_succ_cons, Nat.add_right_comm, Nat.add_assoc]⟩
    rw [scanFrom] at mem
    cases read : Line.registration? x with
    | none =>
      rw [read] at mem
      exact later mem
    | some r =>
      rw [read] at mem
      rcases List.mem_cons.1 mem with rfl | mem
      · exact ⟨0, x, r, rfl, read, rfl⟩
      · exact later mem

theorem mem_scan {b : Block} {lines : List Text} (mem : b ∈ scan lines) :
    ∃ l r, lines[b.span.first]? = some l ∧ Line.registration? l = some r ∧
      b = ofLine b.span.first r (lines.drop (b.span.first + 1)) := by
  obtain ⟨k, l, r, at_, read, rfl⟩ := mem_scanFrom mem
  rw [Nat.zero_add]
  exact ⟨l, r, at_, read, rfl⟩

/-- Every registration line opens a block, in order. -/
theorem map_first_scan (lines : List Text) :
    (scan lines).map (·.span.first) = openings lines := by
  have general : ∀ i, (scanFrom i lines).map (·.span.first) =
      ((lines.zipIdx i).filter fun (l, _) => isRegistration l).map (·.2) := by
    induction lines with
    | nil => exact fun _ => rfl
    | cons x rest ih =>
      intro i
      cases read : Line.registration? x with
      | none => simp [scanFrom, isRegistration, read, ih]
      | some r => simp [scanFrom, isRegistration, read, ih, ofLine]
  exact general 0

/-- Blocks do not overlap. -/
theorem pairwise_scan (lines : List Text) :
    (scan lines).Pairwise fun b b' => b.span.last < b'.span.first := by
  have general : ∀ i, (scanFrom i lines).Pairwise fun b b' => b.span.last < b'.span.first := by
    induction lines with
    | nil => exact fun _ => List.Pairwise.nil
    | cons x rest ih =>
      intro i
      rw [scanFrom]
      split
      · refine List.pairwise_cons.2 ⟨fun b' mem => ?_, ih (i + 1)⟩
        obtain ⟨k, l, r, at_, read, rfl⟩ := mem_scanFrom mem
        have beyond : (extent rest).getD 0 ≤ k := by
          by_contra lt
          have := isRegistration_eq_false_of_lt_extent (Nat.lt_of_not_le lt) at_
          simp [isRegistration, read] at this
        simp only [ofLine]
        omega
      · exact ih (i + 1)
  exact general 0

/-- The blocks of the lines from index `i` on, found by going on behind each block. -/
def scanSkipping (i : Nat) (lines : List Text) : List Block :=
  match lines with
  | [] => []
  | l :: rest =>
      match Line.registration? l with
      | some r =>
          let taken := (extent rest).getD 0
          ofLine i r rest :: scanSkipping (i + taken + 1) (rest.drop taken)
      | none => scanSkipping (i + 1) rest
termination_by lines.length
decreasing_by
  · simp only [List.length_drop, List.length_cons]
    omega
  · exact Nat.lt_succ_self _

theorem scanFrom_cons_of_not_isRegistration (i : Nat) (l : Text) (rest : List Text)
    (plain : isRegistration l = false) : scanFrom i (l :: rest) = scanFrom (i + 1) rest := by
  have read : Line.registration? l = none := by simpa [isRegistration] using plain
  rw [scanFrom, read]

/-- Nothing is lost by going on behind each block. -/
theorem scanSkipping_eq (i : Nat) (lines : List Text) :
    scanSkipping i lines = scanFrom i lines := by
  fun_induction scanSkipping i lines with
  | case1 i => rfl
  | case2 i l rest r read taken ih =>
    rw [scanFrom, read, ih, Nat.add_right_comm,
      ← Line.scan_eq_drop scanFrom_cons_of_not_isRegistration (extent_le_length rest)
        fun k l => isRegistration_eq_false_of_lt_extent]
  | case3 i l rest read ih =>
    rw [scanFrom, read, ih]

/-- What a block of a manifest is: a registration line and the lines that it takes. -/
theorem span_last_of_mem_scan {b : Block} {lines : List Text} (mem : b ∈ scan lines) :
    b.span.first < lines.length ∧
      b.span.last = b.span.first + (extent (lines.drop (b.span.first + 1))).getD 0 := by
  obtain ⟨l, r, at_, -, eq⟩ := mem_scan mem
  refine ⟨(List.getElem?_eq_some_iff.1 at_).1, ?_⟩
  rw [eq]
  rfl

/-- A block holds no registration but its own and no boundary of the global part. -/
theorem eq_first_iff_of_mem_scan {b : Block} {lines : List Text} (mem : b ∈ scan lines) (i : Nat)
    (l : Text) (low : b.span.first ≤ i) (high : i ≤ b.span.last) (at_ : lines[i]? = some l) :
    (isRegistration l = true ↔ i = b.span.first) ∧ isGlobalBoundary l = false := by
  rcases low.eq_or_lt with rfl | low
  · obtain ⟨l', r, at', read, -⟩ := mem_scan mem
    obtain rfl : l = l' := Option.some.inj (at_.symm.trans at')
    have opens : isRegistration l = true := by rw [isRegistration, read, Option.isSome_some]
    exact ⟨iff_of_true opens rfl, Line.isGlobalBoundary_eq_false_of_isRegistration opens⟩
  · obtain ⟨-, last⟩ := span_last_of_mem_scan mem
    suffices plain : isRegistration l = false ∧ isGlobalBoundary l = false from
      ⟨iff_of_false (by simp [plain.1]) low.ne', plain.2⟩
    rcases closes_cases lines b.span.first with ⟨none, -⟩ | ⟨n, some, least⟩
    · -- The block stands alone, so no line of it is behind its first one.
      rw [none, Option.getD_none] at last
      omega
    · rw [some, Option.getD_some] at last
      rw [← last] at least
      rcases high.lt_or_eq with lt | rfl
      · exact Bool.or_eq_false_iff.1 (least.1.between i l low lt at_)
      · obtain ⟨l', at', closes⟩ := least.1.closing
        obtain rfl : l = l' := Option.some.inj (at_.symm.trans at')
        exact ⟨Line.isRegistration_eq_false_of_isBlockEnd closes,
          Line.isGlobalBoundary_eq_false_of_isBlockEnd closes⟩

/-- A block has loose files if a line between its first and its last one opens a list of them. -/
theorem hasItems_iff {b : Block} {lines : List Text} (mem : b ∈ scan lines) :
    b.hasItems = true ↔ ∃ i l, b.span.first < i ∧ i < b.span.last ∧ lines[i]? = some l ∧
      isItemsHeader l = true := by
  obtain ⟨l, r, at_, -, eq⟩ := mem_scan mem
  obtain ⟨-, last⟩ := span_last_of_mem_scan mem
  have inner : b.hasItems = ((lines.drop (b.span.first + 1)).take
      (b.span.last - b.span.first - 1)).any isItemsHeader := by
    rw [last, Nat.add_sub_cancel_left, eq]
    rfl
  rw [inner, List.any_eq_true]
  constructor
  · rintro ⟨l, among, header⟩
    obtain ⟨k, at_⟩ := List.mem_iff_getElem?.1 among
    rw [List.getElem?_take] at at_
    split at at_
    · rw [List.getElem?_drop] at at_
      exact ⟨_, l, by omega, by omega, at_, header⟩
    · cases at_
  · rintro ⟨i, l, low, high, at_, header⟩
    refine ⟨l, List.mem_iff_getElem?.2 ⟨i - (b.span.first + 1), ?_⟩, header⟩
    rw [List.getElem?_take_of_lt (by omega), List.getElem?_drop, Nat.add_sub_cancel' low, at_]

/-- **The blocks of a manifest.** Every registration line opens a block, in order, and the blocks do
not overlap; the scan may go on behind each of them. A block lies within the manifest and holds
neither another registration nor a boundary of the global part. It has more than one line exactly if
a line closes it, and then it ends at the first such line. It has loose files exactly if a line
between its first and its last one opens a list of them. -/
theorem scan_delimits (lines : List Text) :
    (scan lines).map (·.span.first) = openings lines ∧
    (scan lines).Pairwise (fun b b' => b.span.last < b'.span.first) ∧
    scanSkipping 0 lines = scan lines ∧
    ∀ b ∈ scan lines, b.span.first ≤ b.span.last ∧ b.span.last < lines.length ∧
      (∀ i l, b.span.first ≤ i → i ≤ b.span.last → lines[i]? = some l →
        (isRegistration l = true ↔ i = b.span.first) ∧ isGlobalBoundary l = false) ∧
      (b.span.first < b.span.last ↔ ∃ j, Closes lines b.span.first j) ∧
      (b.span.first < b.span.last → IsLeast {j | Closes lines b.span.first j} b.span.last) ∧
      (b.hasItems = true ↔ ∃ i l, b.span.first < i ∧ i < b.span.last ∧ lines[i]? = some l ∧
        isItemsHeader l = true) := by
  refine ⟨map_first_scan lines, pairwise_scan lines, scanSkipping_eq 0 lines, fun b mem => ?_⟩
  obtain ⟨first, last⟩ := span_last_of_mem_scan mem
  have within := eq_first_iff_of_mem_scan mem
  rcases closes_cases lines b.span.first with ⟨none, never⟩ | ⟨n, some, least⟩
  · rw [none, Option.getD_none, Nat.add_zero] at last
    refine ⟨by omega, by omega, within, ?_, by omega, hasItems_iff mem⟩
    exact ⟨fun lt => by omega, fun ⟨j, closed⟩ => absurd closed (never j)⟩
  · rw [some, Option.getD_some] at last
    rw [← last] at least
    have behind := least.1.behind
    obtain ⟨l, at_, -⟩ := least.1.closing
    exact ⟨behind.le, (List.getElem?_eq_some_iff.1 at_).1, within,
      ⟨fun _ => ⟨_, least.1⟩, fun _ => behind⟩, fun _ => least, hasItems_iff mem⟩

end Block

end SolutionSweep
