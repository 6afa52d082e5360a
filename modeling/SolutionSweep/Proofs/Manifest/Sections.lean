import SolutionSweep.Proofs.Manifest.Refinement

/-!
# What lies inside a section

A section stops at the first line behind its header that ends a section, opens one or bounds the
global part, or with the manifest. The scan reports every header once, and the sections do not
overlap, so nothing is lost if the scan goes on behind each of them. Of the lines inside a section
all are read if it stops at its end line; if it does not, the last of them is left out.

* `Section.inside`: the lines inside a section, `Section.seen`: those that are read;
* `Section.extent_eq_inside`, `Section.body_eq_seen`: what a section takes, and what is read of it;
* `Section.scanSkipping`: the scan that passes over the lines of each section;
* `Section.scan_covers`: the sections of a manifest, and the lines that are read in each.
-/

namespace SolutionSweep

open Line (isSectionEnd isSectionHeader isGlobalBoundary)
open Removal (nestedLines sampleFolderId sampleProjectId)

/-- The lines at which a section stops. -/
def Line.isStop (l : Text) : Bool := isSectionEnd l || isSectionHeader l || isGlobalBoundary l

namespace Section

/-- The lines behind a header up to the first one at which its section stops. -/
def inside (lines : List Text) (header : Nat) : List Text :=
  (lines.drop (header + 1)).takeWhile fun l => !Line.isStop l

/-- Whether the first line at which the section of a header stops is an end line. -/
def isTerminated (lines : List Text) (header : Nat) : Bool :=
  ((lines.drop (header + 1)).find? Line.isStop).any isSectionEnd

/-- The lines inside a section that are read. -/
def seen (lines : List Text) (header : Nat) : List Text :=
  if isTerminated lines header then inside lines header else (inside lines header).dropLast

/-- The headers of sections among lines, each with its index. -/
def headers (lines : List Text) : List (Line.SectionHeader × Nat) :=
  lines.zipIdx.filterMap fun (l, i) => (Line.sectionHeader? l).map (·, i)

/-! ### How far a section extends -/

theorem isSectionEnd_eq_false {l : Text} (h : isSectionHeader l = true) :
    isSectionEnd l = false := by
  obtain ⟨header, read⟩ := Option.isSome_iff_exists.1 h
  exact Line.eq_false_of_initial? Line.initial?_of_isSectionEnd
    (Line.initial?_of_sectionHeader? read) (by decide)

/-- A section takes the lines inside of it, and the line at which it stops if that is an end
line. -/
theorem extent_eq_inside (rest : List Text) :
    extent rest = (rest.takeWhile fun l => !Line.isStop l).length +
      if (rest.find? Line.isStop).any isSectionEnd then 1 else 0 := by
  induction rest with
  | nil => rfl
  | cons l rest ih =>
    rw [extent]
    split
    case isTrue ends => simp [Line.isStop, ends]
    case isFalse noEnd =>
      split
      case isTrue stops =>
        have stop : Line.isStop l = true := by simp [Line.isStop, Bool.or_assoc, stops]
        simp [stop, noEnd]
      case isFalse open_ =>
        have noStop : Line.isStop l = false := by simpa [Line.isStop, noEnd] using open_
        simp only [noStop, Bool.not_false, List.takeWhile_cons_of_pos, List.length_cons, ih,
          List.find?_cons_of_neg, Bool.false_eq_true, not_false_eq_true]
        omega

theorem extent_le_length (rest : List Text) : extent rest ≤ rest.length := by
  induction rest with
  | nil => exact Nat.le_refl _
  | cons l rest ih =>
    rw [extent, List.length_cons]
    split <;> [skip; split] <;> omega

/-- A section does not extend to the next header. -/
theorem extent_le_of_header {rest : List Text} {k : Nat} {l : Text} (at_ : rest[k]? = some l)
    (header : isSectionHeader l = true) : extent rest ≤ k := by
  induction rest generalizing k with
  | nil => cases at_
  | cons x rest ih =>
    rw [extent]
    cases k with
    | zero =>
      obtain rfl : x = l := Option.some.inj at_
      simp [isSectionEnd_eq_false header, header]
    | succ k =>
      have tail := ih at_
      split <;> [skip; split] <;> omega

/-! ### The scan -/

/-- A section is opened by one of the lines. -/
theorem mem_scanFrom {s : Section} {i : Nat} {lines : List Text} (mem : s ∈ scanFrom i lines) :
    ∃ k l, lines[k]? = some l ∧ isSectionHeader l = true ∧
      s.span = ⟨i + k, i + k + extent (lines.drop (k + 1))⟩ := by
  induction lines generalizing i with
  | nil => cases mem
  | cons l rest ih =>
    have later : s ∈ scanFrom (i + 1) rest → ∃ k l', (l :: rest)[k]? = some l' ∧
        isSectionHeader l' = true ∧
          s.span = ⟨i + k, i + k + extent ((l :: rest).drop (k + 1))⟩ := by
      intro mem
      obtain ⟨k, l', at_, header, span⟩ := ih mem
      exact ⟨k + 1, l', at_, header, by rw [span, List.drop_succ_cons, Nat.add_right_comm i 1 k,
        Nat.add_assoc i k 1]⟩
    rw [scanFrom] at mem
    cases read : Line.sectionHeader? l with
    | none =>
      rw [read] at mem
      exact later mem
    | some h =>
      rw [read] at mem
      rcases List.mem_cons.1 mem with rfl | mem
      · exact ⟨0, l, rfl, by simp [isSectionHeader, read], rfl⟩
      · exact later mem

theorem mem_scan {s : Section} {lines : List Text} (mem : s ∈ scan lines) :
    s.span.first < lines.length ∧
      s.span.last = s.span.first + extent (lines.drop (s.span.first + 1)) := by
  obtain ⟨k, l, at_, -, span⟩ := mem_scanFrom mem
  rw [Nat.zero_add] at span
  rw [span]
  exact ⟨(List.getElem?_eq_some_iff.1 at_).1, rfl⟩

/-- Every header opens one section, in order. -/
theorem headers_eq (lines : List Text) :
    (scan lines).map (fun s => (⟨s.name, s.timing⟩, s.span.first)) = headers lines := by
  have general : ∀ i, (scanFrom i lines).map
      (fun s => ((⟨s.name, s.timing⟩ : Line.SectionHeader), s.span.first)) =
        (lines.zipIdx i).filterMap fun (l, i) => (Line.sectionHeader? l).map (·, i) := by
    induction lines with
    | nil => exact fun _ => rfl
    | cons l rest ih =>
      intro i
      cases read : Line.sectionHeader? l with
      | none => simp [scanFrom, read, ih]
      | some h => simp [scanFrom, read, ih]
  exact general 0

/-- Sections do not overlap. -/
theorem pairwise_scan (lines : List Text) :
    (scan lines).Pairwise fun s t => s.span.last < t.span.first := by
  have general : ∀ i, (scanFrom i lines).Pairwise fun s t => s.span.last < t.span.first := by
    induction lines with
    | nil => exact fun _ => List.Pairwise.nil
    | cons l rest ih =>
      intro i
      rw [scanFrom]
      split
      · refine List.pairwise_cons.2 ⟨fun t mem => ?_, ih (i + 1)⟩
        obtain ⟨k, l', at_, header, span⟩ := mem_scanFrom mem
        have := extent_le_of_header at_ header
        rw [span]
        show i + extent rest < i + 1 + k
        omega
      · exact ih (i + 1)
  exact general 0

/-- The sections of the lines from index `i` on, found by going on behind each section. -/
def scanSkipping (i : Nat) (lines : List Text) : List Section :=
  match lines with
  | [] => []
  | l :: rest =>
      match Line.sectionHeader? l with
      | some h =>
          let taken := extent rest
          ⟨h.name, h.timing, ⟨i, i + taken⟩⟩ :: scanSkipping (i + taken + 1) (rest.drop taken)
      | none => scanSkipping (i + 1) rest
termination_by lines.length
decreasing_by
  · simp only [List.length_drop, List.length_cons]
    omega
  · exact Nat.lt_succ_self _

theorem scanFrom_cons_of_not_isSectionHeader (i : Nat) (l : Text) (rest : List Text)
    (plain : isSectionHeader l = false) : scanFrom i (l :: rest) = scanFrom (i + 1) rest := by
  have read : Line.sectionHeader? l = none := by simpa [isSectionHeader] using plain
  rw [scanFrom, read]

/-- Nothing is lost by going on behind each section. -/
theorem scanSkipping_eq_scanFrom (i : Nat) (lines : List Text) :
    scanSkipping i lines = scanFrom i lines := by
  have plain (rest : List Text) (k : Nat) (l : Text) (lt : k < extent rest)
      (at_ : rest[k]? = some l) : isSectionHeader l = false := by
    rw [← Bool.not_eq_true]
    exact fun header => absurd (extent_le_of_header at_ header) (Nat.not_le_of_lt lt)
  fun_induction scanSkipping i lines with
  | case1 i => rfl
  | case2 i l rest h read taken ih =>
    rw [scanFrom, read, ih, Nat.add_right_comm,
      ← Line.scan_eq_drop scanFrom_cons_of_not_isSectionHeader (extent_le_length rest) (plain rest)]
  | case3 i l rest read ih =>
    rw [scanFrom, read, ih]

/-! ### What is read of a section -/

/-- Of the lines inside a section all are read if it is terminated, and all but the last one if it
is not. -/
theorem take_extent_sub_one (rest : List Text) :
    rest.take (extent rest - 1) =
      if (rest.find? Line.isStop).any isSectionEnd then rest.takeWhile fun l => !Line.isStop l
      else (rest.takeWhile fun l => !Line.isStop l).dropLast := by
  have front : ∀ n ≤ (rest.takeWhile fun l => !Line.isStop l).length,
      rest.take n = (rest.takeWhile fun l => !Line.isStop l).take n := fun n le => by
    obtain ⟨back, eq⟩ := List.takeWhile_prefix (l := rest) fun l => !Line.isStop l
    conv_lhs => rw [← eq]
    rw [List.take_append_of_le_length le]
  rw [extent_eq_inside]
  split
  · rw [Nat.add_sub_cancel, front _ (Nat.le_refl _), List.take_length]
  · rw [Nat.add_zero, front _ (Nat.sub_le _ _), List.dropLast_eq_take]

theorem body_eq_seen {s : Section} {lines : List Text} (mem : s ∈ scan lines) :
    s.body lines = (seen lines s.span.first).zipIdx (s.span.first + 1) := by
  obtain ⟨-, last⟩ := mem_scan mem
  rw [body_eq_zipIdx, last, show ∀ n, s.span.first + n - (s.span.first + 1) = n - 1 by omega,
    take_extent_sub_one]
  rfl

/-- An indexed line that is read gives a property. -/
theorem mem_properties {s : Section} {lines : List Text} {l : Text} {i : Nat}
    (mem : (l, i) ∈ s.body lines) {x : Line.IndexedLine} (read : Line.indexed? l = some x)
    {properties : List Property} (ok : Property.scan lines (some s) = .ok properties) :
    ⟨i, x, x.number⟩ ∈ properties := by
  have body : bodyOf (some s) lines = _ := s.body_eq_zipIdx lines
  obtain ⟨-, rfl⟩ := (Property.scan_eq_ok_iff body).1 ok
  rw [← body]
  exact List.mem_filterMap.2 ⟨(l, i), mem, by simp [Property.at?, read]⟩

/-- A nesting line of a section is seen. -/
theorem mem_nestingLines {s : Section} {lines : List Text} {l : Text} {i : Nat}
    (mem : (l, i) ∈ s.body lines) {child parent : EntryId}
    (read : Line.nesting? l = some (child, parent)) :
    ⟨i, child, parent⟩ ∈ NestingLine.scan lines (some s) :=
  List.mem_filterMap.2 ⟨(l, i), mem, by simp [read]⟩

/-- A folder with a nesting line is not taken for empty. -/
theorem not_mem_emptyFolders {s : Section} {lines : List Text} {n : NestingLine}
    (mem : n ∈ NestingLine.scan lines (some s)) (nesting : nestingSection? lines = some s) :
    n.parent ∉ Surgery.emptyFolders lines := by
  intro empty
  refine Surgery.not_parent_of_mem_emptyFolders empty (n.child, n.parent) ?_ rfl
  rw [← Surgery.map_parent_scan, nesting]
  exact List.mem_map_of_mem mem

/-- **The sections of a manifest, and what is read of each.** Every header opens one section, in
order; the sections do not overlap and end within the manifest, and the scan may go on behind each
of them. The body of a section is the lines behind the header up to the first one at which the
section stops, without the last of them if that is no end line. A nesting line or an indexed line
among them is seen, and a folder with such a nesting line is not taken for empty. -/
theorem scan_covers (lines : List Text) :
    (scan lines).map (fun s => (⟨s.name, s.timing⟩, s.span.first)) = headers lines ∧
    (scan lines).Pairwise (fun s t => s.span.last < t.span.first) ∧
    scanSkipping 0 lines = scan lines ∧
    ∀ s ∈ scan lines, s.span.first ≤ s.span.last ∧ s.span.last < lines.length ∧
      s.body lines = (seen lines s.span.first).zipIdx (s.span.first + 1) ∧
      ∀ l i, (l, i) ∈ (seen lines s.span.first).zipIdx (s.span.first + 1) →
        (∀ child parent, Line.nesting? l = some (child, parent) →
          ⟨i, child, parent⟩ ∈ NestingLine.scan lines (some s) ∧
          (nestingSection? lines = some s → parent ∉ Surgery.emptyFolders lines)) ∧
        ∀ x properties, Line.indexed? l = some x → Property.scan lines (some s) = .ok properties →
          ⟨i, x, x.number⟩ ∈ properties := by
  refine ⟨headers_eq lines, pairwise_scan lines, scanSkipping_eq_scanFrom 0 lines, fun s mem => ?_⟩
  obtain ⟨first, last⟩ := mem_scan mem
  have extent := extent_le_length (lines.drop (s.span.first + 1))
  rw [List.length_drop] at extent
  refine ⟨by omega, by omega, body_eq_seen mem, fun l i read => ?_⟩
  rw [← body_eq_seen mem] at read
  refine ⟨fun child parent nesting => ?_, fun x properties indexed ok => ?_⟩
  · have seen := mem_nestingLines read nesting
    exact ⟨seen, not_mem_emptyFolders seen⟩
  · exact mem_properties read indexed ok

/-- In the sample the nesting line is seen, and the folder stays. -/
theorem scan_covers_nestedLines : ∃ s ∈ scan nestedLines, nestingSection? nestedLines = some s ∧
    NestingLine.scan nestedLines (some s) = [⟨6, sampleProjectId, sampleFolderId⟩] ∧
    sampleFolderId ∉ Surgery.emptyFolders nestedLines := by
  have found : nestingSection? nestedLines =
      some ⟨"NestedProjects".toList, "preSolution".toList, ⟨5, 7⟩⟩ := by decide +kernel
  have mem := List.mem_of_find?_eq_some found
  obtain ⟨-, -, -, covered⟩ := scan_covers nestedLines
  obtain ⟨-, -, -, read⟩ := covered _ mem
  obtain ⟨-, kept⟩ := (read (nestedLines.getD 6 []) 6 (by decide +kernel)).1 sampleProjectId
    sampleFolderId (by decide +kernel)
  exact ⟨_, mem, found, by decide +kernel, kept found⟩

/-- The lines of the sample up to the nesting line. -/
def openLines : List Text := nestedLines.take 7

/-- Without an end line the nesting line lies inside the section and is not seen, and the folder is
taken for empty. -/
theorem scan_covers_openLines : ∃ s ∈ scan openLines, nestingSection? openLines = some s ∧
    (inside openLines s.span.first).filterMap Line.nesting? = [(sampleProjectId, sampleFolderId)] ∧
    s.body openLines = [] ∧ NestingLine.scan openLines (some s) = [] ∧
    Surgery.emptyFolders openLines = [sampleFolderId] :=
  ⟨⟨"NestedProjects".toList, "preSolution".toList, ⟨5, 6⟩⟩, by decide +kernel, by decide +kernel,
    by decide +kernel, by decide +kernel, by decide +kernel, by decide +kernel⟩

end Section

end SolutionSweep
