import SolutionSweep.Proofs.Manifest.Atomicity
import SolutionSweep.Proofs.Manifest.Registered

/-!
# Lines of version control written under another number

A line of version control that is written under another number is read again with that number, and
otherwise as before. Neither kind of line is read as the other one or as a line of any other kind,
before or after. So in a section one number changes and everything else that is read stays.

* `Line.OfNoOtherKind`: lines that say nothing outside the book of version control;
* `Section.bodyOf_modify`: the lines of a section when one of them is rewritten;
* `Property.scan_set`, `findCount_modify_recount`: what is read when a number is rewritten;
* `Property.scan_modify_recount`, `countLine?_set`: what is read of the other kind;
* `Line.numbers_rescan`: all of this in one law.
-/

namespace SolutionSweep

open Line (indexed? count? recount initial?)

/-! ### Kinds of lines -/

/-- A line that is of none of the kinds that have nothing to do with version control. -/
structure Line.OfNoOtherKind (l : Text) : Prop where
  registration : registration? l = none
  blockEnd : isBlockEnd l = false
  items : isItemsHeader l = false
  boundary : isGlobalBoundary l = false
  header : sectionHeader? l = none
  sectionEnd : isSectionEnd l = false
  nesting : nesting? l = none
  config : buildConfigId? l = none

theorem Line.ofNoOtherKind {l : Text} (scc : initial? l = some 'S') : OfNoOtherKind l := by
  have inert : isInert l = true := isInert_of_initial? scc
  have noBrace : initial? l ≠ some '{' := by simp [scc]
  exact
    { registration := registration?_eq_none inert
      blockEnd := isBlockEnd_eq_false inert
      items := isItemsHeader_eq_false inert
      boundary := isGlobalBoundary_eq_false inert
      header := by simpa [isSectionHeader] using isSectionHeader_eq_false inert
      sectionEnd := isSectionEnd_eq_false inert
      nesting := nesting?_eq_none noBrace
      config := eq_none_of_initial? (fun _ => initial?_of_buildConfigId?) noBrace }

/-- A line under another count carries an index as little as it did. -/
theorem Line.indexed?_recount (l : Text) (m : Nat) : indexed? (recount l m) = indexed? l := by
  cases read : count? l with
  | none => rw [recount, read]
  | some x =>
    rw [indexed?_eq_none_of_count? read, indexed?_eq_none_of_count? (count?_recount read m)]

/-- A line under another count is read with that count, if it counts at all. -/
theorem Line.count?_recount_eq (l : Text) (m : Nat) :
    count? (recount l m) = (count? l).map (·.renumbered m) := by
  cases read : count? l with
  | none => rw [recount, read, read, Option.map_none]
  | some x => rw [count?_recount read m, Option.map_some]

/-! ### One line of a section rewritten -/

variable {lines : List Text} {s : Option Section} {i m : Nat}

theorem modify_eq_mapIdx (f : Text → Text) (lines : List Text) (i : Nat) :
    lines.modify i f = lines.mapIdx fun j l => if j = i then f l else l := by
  refine List.ext_getElem? fun j => ?_
  rw [List.getElem?_modify, List.getElem?_mapIdx]
  by_cases here : i = j
  · simp [here]
  · simp [here, Ne.symm here]

/-- The lines of a section stay, except for the one that is rewritten. -/
theorem Section.bodyOf_modify (s : Option Section) (f : Text → Text) (lines : List Text) (i : Nat) :
    bodyOf s (lines.modify i f) =
      (bodyOf s lines).map fun p => (if p.2 = i then f p.1 else p.1, p.2) := by
  cases s with
  | none => rfl
  | some s => rw [modify_eq_mapIdx, bodyOf, bodyOf, body_mapIdx]

/-- What is read off the lines of a section, each with the index of its line. -/
def Section.readOff {α : Type} (read : Text → Option α) (lines : List Text) (s : Option Section) :
    List (Nat × α) :=
  (bodyOf s lines).filterMap fun (l, i) => (read l).map (i, ·)

theorem Property.scan_eq (lines : List Text) (s : Option Section) :
    scan lines s = (Section.readOff indexed? lines s).mapM fun (i, l) =>
      (readNumeral l.digits).map (⟨i, l, ·⟩) :=
  rfl

theorem countLine?_eq (lines : List Text) (s : Option Section) :
    countLine? lines s = (Section.readOff count? lines s).head? :=
  (List.head?_filterMap ..).symm

/-- If rewriting a line changes what is read off it, this is all that changes. -/
theorem Section.readOff_modify {α : Type} {read : Text → Option α} {f : Text → Text} {g : α → α}
    (h : ∀ l, (l, i) ∈ bodyOf s lines → read (f l) = (read l).map g) :
    readOff read (lines.modify i f) s =
      (readOff read lines s).map fun (j, x) => (j, if j = i then g x else x) := by
  rw [readOff, readOff, bodyOf_modify, List.filterMap_map, List.map_filterMap]
  refine List.filterMap_congr fun (l, j) mem => ?_
  by_cases here : j = i
  · subst here
    simp [h l mem, Function.comp_def]
  · simp [here, Function.comp_def]

/-- If rewriting a line does not change what is read off it, nothing changes. -/
theorem Section.readOff_modify_eq {α : Type} {read : Text → Option α} {f : Text → Text}
    (h : ∀ l, (l, i) ∈ bodyOf s lines → read (f l) = read l) :
    readOff read (lines.modify i f) s = readOff read lines s := by
  rw [readOff_modify (g := id) fun l mem => by rw [h l mem, Option.map_id]; rfl]
  simp

/-! ### Another index -/

/-- A property under another index. -/
def Property.renumbered (p : Property) (m : Nat) : Property :=
  ⟨p.lineIndex, p.line.renumbered m, m⟩

/-- A property is read off each line that bears its index. -/
theorem Property.indexed?_of_mem {properties : List Property} (ok : scan lines s = .ok properties)
    {p : Property} (mem : p ∈ properties) {l : Text}
    (at_ : (l, p.lineIndex) ∈ Section.bodyOf s lines) : indexed? l = some p.line := by
  cases s with
  | none => cases at_
  | some s =>
    obtain ⟨l', at', read⟩ := property_of_scan ok mem
    obtain rfl : l = l' := Option.some.inj ((mem_bodyOf at_).symm.trans at')
    exact read

/-- **An indexed line that is written under another index is read with that index, and the other
properties are read as before.** -/
theorem Property.scan_set {properties : List Property} (ok : scan lines s = .ok properties)
    {p : Property} (mem : p ∈ properties) (short : (Text.ofNat m).length ≤ maxDigits) :
    scan (lines.set p.lineIndex (p.line.withIndex m)) s =
      .ok (properties.map fun q => if q.lineIndex = p.lineIndex then q.renumbered m else q) := by
  have readable : readNumeral (Text.ofNat m) = .ok m :=
    readNumeral_eq_ok_iff.2 ⟨short, (digitsValue_ofNat m).symm⟩
  rw [List.set_eq_modify, scan_eq, Section.readOff_modify (g := (·.renumbered m))
    fun l at_ => by rw [indexed?_of_mem ok mem at_, Option.map_some,
      Line.indexed?_withIndex (indexed?_of_mem ok mem at_)]]
  rw [scan_eq, mapM_eq_ok_iff] at ok
  rw [mapM_eq_ok_iff, List.forall₂_map_left_iff, List.forall₂_map_right_iff]
  refine ok.imp fun (j, x) q read => ?_
  obtain ⟨n, number, rfl⟩ : ∃ n, readNumeral x.digits = .ok n ∧ ⟨j, x, n⟩ = q := by
    cases number : readNumeral x.digits with
    | error e => simp [number, Except.map] at read
    | ok n => exact ⟨n, rfl, by simpa [number, Except.map] using read⟩
  by_cases here : j = p.lineIndex
  · simp [here, Property.renumbered, Line.IndexedLine.renumbered, readable, Except.map]
  · simp [here, number, Except.map]

/-- The count is read as before. -/
theorem countLine?_set {properties : List Property} (ok : Property.scan lines s = .ok properties)
    {p : Property} (mem : p ∈ properties) (m : Nat) :
    countLine? (lines.set p.lineIndex (p.line.withIndex m)) s = countLine? lines s := by
  rw [List.set_eq_modify, countLine?_eq, countLine?_eq, Section.readOff_modify_eq fun l at_ => ?_]
  have read := Property.indexed?_of_mem ok mem at_
  rw [Line.count?_eq_none_of_indexed? read,
    Line.count?_eq_none_of_indexed? (Line.indexed?_withIndex read m)]

/-! ### Another count -/

/-- **The counting line that is written with another count is read with that count.** -/
theorem findCount_modify_recount {n : Nat} (ok : findCount lines s = .ok (some (i, n)))
    (short : (Text.ofNat m).length ≤ maxDigits) :
    findCount (lines.modify i fun l => recount l m) s = .ok (some (i, m)) := by
  have counting : countLine? (lines.modify i fun l => recount l m) s =
      (countLine? lines s).map fun (j, x) => (j, if j = i then x.renumbered m else x) := by
    rw [countLine?_eq, countLine?_eq,
      Section.readOff_modify fun l _ => Line.count?_recount_eq l m, List.head?_map]
  rw [findCount] at ok ⊢
  rw [counting]
  cases found : countLine? lines s with
  | none => simp [found] at ok
  | some first =>
    obtain ⟨j, x⟩ := first
    rw [found] at ok
    obtain rfl : j = i := by
      cases number : readNumeral x.digits with
      | error e => simp [number, Except.map] at ok
      | ok n => simpa [number, Except.map] using congrArg (·.map (·.map (·.1))) ok
    have readable : readNumeral (Text.ofNat m) = .ok m :=
      readNumeral_eq_ok_iff.2 ⟨short, (digitsValue_ofNat m).symm⟩
    simp [Line.CountLine.renumbered, readable, Except.map]

/-- The properties are read as before. -/
theorem Property.scan_modify_recount (lines : List Text) (s : Option Section) (i m : Nat) :
    scan (lines.modify i fun l => recount l m) s = scan lines s := by
  rw [scan_eq, scan_eq, Section.readOff_modify_eq fun l _ => Line.indexed?_recount l m]

/-- **Numbers are written and read again.** A line of version control that is written under another
number is read with that number and is otherwise the same, and neither kind of line is of another
kind, before or after. In a section one number changes and all other numbers are read as before. -/
theorem Line.numbers_rescan {m : Nat} (short : (Text.ofNat m).length ≤ maxDigits) :
    readNumeral (Text.ofNat m) = .ok m ∧
    (∀ l x, indexed? l = some x →
      l = x.text ∧ count? l = none ∧ OfNoOtherKind l ∧
      indexed? (x.withIndex m) = some { x with digits := Text.ofNat m } ∧
      count? (x.withIndex m) = none ∧ OfNoOtherKind (x.withIndex m)) ∧
    (∀ l x, count? l = some x →
      l = x.text ∧ indexed? l = none ∧ OfNoOtherKind l ∧
      recount l m = x.before ++ (Text.ofNat m ++ x.after) ∧
      count? (recount l m) = some { x with digits := Text.ofNat m } ∧
      indexed? (recount l m) = none ∧ OfNoOtherKind (recount l m)) ∧
    (∀ lines s properties p, Property.scan lines s = .ok properties → p ∈ properties →
      Property.scan (lines.set p.lineIndex (p.line.withIndex m)) s =
        .ok (properties.map fun q => if q.lineIndex = p.lineIndex then q.renumbered m else q) ∧
      findCount (lines.set p.lineIndex (p.line.withIndex m)) s = findCount lines s) ∧
    ∀ lines s i n, findCount lines s = .ok (some (i, n)) →
      findCount (lines.modify i fun l => recount l m) s = .ok (some (i, m)) ∧
      Property.scan (lines.modify i fun l => recount l m) s = Property.scan lines s := by
  refine ⟨readNumeral_eq_ok_iff.2 ⟨short, (digitsValue_ofNat m).symm⟩, fun l x read => ?_,
    fun l x read => ?_, fun lines s properties p ok mem => ⟨Property.scan_set ok mem short, ?_⟩,
    fun lines s i n ok => ⟨findCount_modify_recount ok short,
      Property.scan_modify_recount lines s i m⟩⟩
  · have read' := indexed?_withIndex read m
    exact ⟨(indexed?_eq_some_iff.1 read).2, count?_eq_none_of_indexed? read,
      ofNoOtherKind (initial?_of_indexed? read), read', count?_eq_none_of_indexed? read',
      ofNoOtherKind (initial?_of_indexed? read')⟩
  · have read' := count?_recount read m
    exact ⟨(count?_eq_some_iff.1 read).2, indexed?_eq_none_of_count? read,
      ofNoOtherKind (initial?_of_count? read), recount_eq read m, read',
      indexed?_eq_none_of_count? read', ofNoOtherKind (initial?_of_count? read')⟩
  · rw [findCount, findCount, countLine?_set ok mem]

/-- A section whose numbers are written with leading zeros and in digits of another script. -/
def mixedLines : List Text :=
  ["GlobalSection(SourceCodeControl) = preSolution".toList,
    "\tSccNumberOfProjects = 0\u0662 ".toList,
    "  SccLocalPath00\u0663 = a b ".toList,
    "EndGlobalSection".toList]

/-- In the sample the index 3 becomes 12 and the count 2 becomes 12. -/
theorem Line.numbers_rescan_mixedLines :
    let s := Section.find? (Section.scan mixedLines) ["SourceCodeControl".toList]
    let x : IndexedLine := ⟨[' ', ' '], "SccLocalPath".toList, "00\u0663".toList,
      " = a b ".toList, "a b".toList⟩
    (Text.ofNat 12).length ≤ maxDigits ∧
      Property.scan mixedLines s = .ok [⟨2, x, 3⟩] ∧ findCount mixedLines s = .ok (some (1, 2)) ∧
      Property.scan (mixedLines.set 2 "  SccLocalPath12 = a b ".toList) s =
        .ok [⟨2, x.renumbered 12, 12⟩] ∧
      findCount (mixedLines.modify 1 fun l => recount l 12) s = .ok (some (1, 12)) := by
  intro s x
  have short : (Text.ofNat 12).length ≤ maxDigits := by decide
  have indices : Property.scan mixedLines s = .ok [⟨2, x, 3⟩] := by decide +kernel
  have count : findCount mixedLines s = .ok (some (1, 2)) := by decide +kernel
  obtain ⟨-, -, -, reindexed, recounted⟩ := numbers_rescan short
  exact ⟨short, indices, count,
    (reindexed mixedLines s _ ⟨2, x, 3⟩ indices (List.mem_singleton_self _)).1,
    (recounted mixedLines s 1 2 count).1⟩

end SolutionSweep
