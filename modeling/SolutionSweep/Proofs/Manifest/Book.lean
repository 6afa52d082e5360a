import SolutionSweep.Manifest.VersionControl
import SolutionSweep.Proofs.Manifest.NumberedLines
import SolutionSweep.Proofs.Traversal

/-!
# Reading the book of version control

What version control keeps is read in two steps: the lines of its section are taken apart, and the
numerals in them are read. Only the second step can fail, and it fails on numerals that are too
long. So the book is a matter of the lines inside the section alone, wherever the section stands.

* `indexedLines`, `countLines`: the lines of either kind, taken apart;
* `Readable`: the numerals that are read are not too long;
* `Property.scan_eq_ok_iff`, `findCount_eq_ok_iff`: what is read, in terms of these;
* `VersionControl.read_isOk_iff`: when the records can be read.
-/

namespace SolutionSweep

namespace Line

/-- The number that an indexed line carries. -/
def IndexedLine.number (x : IndexedLine) : Nat := digitsValue x.digits

/-- The number that a counting line carries. -/
def CountLine.number (x : CountLine) : Nat := digitsValue x.digits

@[simp] theorem IndexedLine.number_renumbered (x : IndexedLine) (n : Nat) :
    (x.renumbered n).number = n := digitsValue_ofNat n

@[simp] theorem CountLine.number_renumbered (x : CountLine) (n : Nat) :
    (x.renumbered n).number = n := digitsValue_ofNat n

/-- Whether the number that an indexed line carries can be read. -/
def IndexedLine.Short (x : IndexedLine) : Prop := x.digits.length ≤ maxDigits

/-- Whether the number that a counting line carries can be read. -/
def CountLine.Short (x : CountLine) : Prop := x.digits.length ≤ maxDigits

/-- A number that is not greater than one that can be read can be read. -/
theorem IndexedLine.Short.renumbered {l : Text} {x : IndexedLine} (read : indexed? l = some x)
    (h : x.Short) {n : Nat} (le : n ≤ x.number) : (x.renumbered n).Short :=
  (length_ofNat_le (indexed?_eq_some_iff.1 read).1.digits_ne_nil le).trans h

theorem CountLine.Short.renumbered {l : Text} {x : CountLine} (read : count? l = some x)
    (h : x.Short) {n : Nat} (le : n ≤ x.number) : (x.renumbered n).Short :=
  (length_ofNat_le (count?_eq_some_iff.1 read).1.digits_ne_nil le).trans h

end Line

/-- The indexed lines among the lines of a section, taken apart. -/
def indexedLines (inner : List Text) : List Line.IndexedLine := inner.filterMap Line.indexed?

/-- The counting lines among the lines of a section, taken apart. -/
def countLines (inner : List Text) : List Line.CountLine := inner.filterMap Line.count?

/-- Every index can be read, and so can the count. -/
structure Readable (inner : List Text) : Prop where
  indexed : ∀ x ∈ indexedLines inner, x.Short
  counting : ∀ x, (countLines inner).head? = some x → x.Short

/-- The property on the line at an index. -/
def Property.at? (i : Nat) (l : Text) : Option Property :=
  (Line.indexed? l).map fun x => ⟨i, x, x.number⟩

/-- **Reading the properties succeeds if every index can be read.** -/
theorem Property.scan_eq_ok_iff {lines inner : List Text} {s : Option Section} {base : Nat}
    (body : Section.bodyOf s lines = inner.zipIdx base) {properties : List Property} :
    Property.scan lines s = .ok properties ↔ (∀ x ∈ indexedLines inner, x.Short) ∧
      properties = (inner.zipIdx base).filterMap fun p => Property.at? p.2 p.1 := by
  have taken : ((inner.zipIdx base).filterMap fun p => (Line.indexed? p.1).map (p.2, ·)).map
      (·.2) = indexedLines inner := by
    rw [List.map_filterMap, indexedLines]
    conv_rhs => rw [← List.zipIdx_map_fst base inner, List.filterMap_map]
    refine List.filterMap_congr fun p _ => ?_
    cases read : Line.indexed? p.1 <;> simp [read]
  have step : ∀ (p : Nat × Line.IndexedLine) (y : Property),
      (readNumeral p.2.digits).map (fun n => (⟨p.1, p.2, n⟩ : Property)) = .ok y ↔
        p.2.Short ∧ y = ⟨p.1, p.2, p.2.number⟩ := by
    rintro ⟨i, x⟩ y
    dsimp only
    cases read : readNumeral x.digits with
    | error e =>
      constructor
      · intro h
        cases h
      · rintro ⟨short, -⟩
        rw [readNumeral_eq_ok_iff.2 ⟨short, rfl⟩] at read
        cases read
    | ok n =>
      obtain ⟨short, rfl⟩ := readNumeral_eq_ok_iff.1 read
      simp [Line.IndexedLine.Short, short, Line.IndexedLine.number, eq_comm, Except.map]
  unfold Property.scan
  rw [body]
  show ((inner.zipIdx base).filterMap fun p => (Line.indexed? p.1).map (p.2, ·)).mapM _ = _ ↔ _
  rw [mapM_eq_ok_iff_of_step step, ← taken, List.forall_mem_map, List.map_filterMap]
  refine and_congr_right fun _ => ?_
  simp [Property.at?, Function.comp_def]

theorem readNumeral_digits {x : Line.CountLine} (short : x.Short) :
    readNumeral x.digits = .ok x.number := readNumeral_eq_ok_iff.2 ⟨short, rfl⟩

/-- Where the first counting line is, if there is one. -/
theorem countLine?_cases {lines inner : List Text} {s : Option Section} {base : Nat}
    (body : Section.bodyOf s lines = inner.zipIdx base) :
    (countLines inner = [] ∧ countLine? lines s = none) ∨
      ∃ before l x after, inner = before ++ l :: after ∧ countLines before = [] ∧
        Line.count? l = some x ∧ countLine? lines s = some (base + before.length, x) := by
  unfold countLine?
  rw [body]
  clear body
  induction inner generalizing base with
  | nil => exact Or.inl ⟨rfl, rfl⟩
  | cons l rest ih =>
    rw [List.zipIdx_cons]
    cases read : Line.count? l with
    | some x => exact Or.inr ⟨[], l, x, rest, rfl, rfl, read, by simp [read]⟩
    | none =>
      have skip : countLines (l :: rest) = countLines rest := List.filterMap_cons_none read
      rw [List.findSome?_cons_of_isNone (by simp [read]), skip]
      rcases @ih (base + 1) with h | ⟨before, l', x, after, rfl, absent, read', found⟩
      · exact Or.inl h
      · refine Or.inr ⟨l :: before, l', x, after, rfl, ?_, read', ?_⟩
        · rwa [countLines, List.filterMap_cons_none read]
        · rw [found, List.length_cons, Nat.add_assoc, Nat.add_comm 1]

/-- **Reading the count succeeds if the number on the first counting line can be read.** -/
theorem findCount_eq_ok_iff {lines inner : List Text} {s : Option Section} {base : Nat}
    (body : Section.bodyOf s lines = inner.zipIdx base) {count : Option Nat} :
    (findCount lines s).map (·.map (·.2)) = .ok count ↔
      (∀ x, (countLines inner).head? = some x → x.Short) ∧
        count = (countLines inner).head?.map (·.number) := by
  unfold findCount
  rcases countLine?_cases body with
    ⟨absent, found⟩ | ⟨before, l, x, after, rfl, absent, read, found⟩
  · rw [found, absent]
    simp [Except.map, eq_comm]
  · have head : (countLines (before ++ l :: after)).head? = some x := by
      rw [countLines, List.filterMap_append, ← countLines, absent, List.nil_append,
        List.filterMap_cons_some read]
      rfl
    rw [found, head]
    dsimp only
    by_cases short : x.Short
    · rw [readNumeral_digits short]
      simp [Except.map, short, eq_comm]
    · have long : maxDigits < x.digits.length := Nat.lt_of_not_le short
      rw [readNumeral, if_pos long]
      refine ⟨nofun, fun h => absurd (h.1 x rfl) short⟩

theorem findCount_inv {lines inner : List Text} {s : Option Section} {base : Nat}
    (body : Section.bodyOf s lines = inner.zipIdx base) {found : Option (Nat × Nat)}
    (h : findCount lines s = .ok found) :
    (∀ x, (countLines inner).head? = some x → x.Short) ∧
      found.map (·.2) = (countLines inner).head?.map (·.number) := by
  rw [← findCount_eq_ok_iff body, h]
  rfl

theorem exists_findCount {lines inner : List Text} {s : Option Section} {base : Nat}
    (body : Section.bodyOf s lines = inner.zipIdx base)
    (short : ∀ x, (countLines inner).head? = some x → x.Short) :
    ∃ found, findCount lines s = .ok found ∧
      found.map (·.2) = (countLines inner).head?.map (·.number) := by
  have count := (findCount_eq_ok_iff body).2 ⟨short, rfl⟩
  cases result : findCount lines s with
  | error e =>
    rw [result] at count
    cases count
  | ok found =>
    rw [result] at count
    exact ⟨found, rfl, Except.ok.inj count⟩

/-- **The records of a section can be read if its numerals can.** -/
theorem VersionControl.read_isOk_iff {lines inner : List Text} {s : Section} {base : Nat}
    (body : Section.bodyOf (some s) lines = inner.zipIdx base) :
    (∃ records, VersionControl.read lines s = .ok records) ↔ Readable inner := by
  unfold VersionControl.read
  constructor
  · rintro ⟨records, ok⟩
    cases scan : Property.scan lines (some s) with
    | error e =>
      rw [scan] at ok
      cases ok
    | ok properties =>
      cases count : findCount lines (some s) with
      | error e =>
        rw [scan, count] at ok
        cases ok
      | ok found =>
        exact ⟨((Property.scan_eq_ok_iff body).1 scan).1, (findCount_inv body count).1⟩
  · intro readable
    obtain ⟨_, count, -⟩ := exists_findCount body readable.counting
    rw [(Property.scan_eq_ok_iff body).2 ⟨readable.indexed, rfl⟩, count]
    exact ⟨_, rfl⟩

end SolutionSweep
