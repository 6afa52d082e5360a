import SolutionSweep.Manifest.Surgery
import SolutionSweep.Proofs.Manifest.Orderly
import SolutionSweep.Proofs.Manifest.Renumbering

/-!
# Releasing an index

The release of an index works with line indices: it finds the properties and the counting line by
theirs and rewrites the lines that stand there. In terms of the lines inside the section of version
control this is the rewriting `released`, and nothing outside of the section changes.

* `indexIn?`: the index of the project that is registered under a path;
* `releaseIndex_cases`: either there is none and nothing changes, or the lines of the section become
  the released ones and exactly the lines of the index are marked for deletion.
-/

namespace SolutionSweep

open Line (indexed? count?)

/-- The index of the project that is registered under a path, found in the lines of a section. -/
def indexIn? (inner : List Text) (path : Text) : Option Nat :=
  ((indexedLines inner).find? fun x =>
    x.key == uniqueNameProperty &&
      uniqueNameKey? x.value == some (registeredPathKey path)).map (·.number)

/-- The properties on the lines of a section. -/
def propertiesOf (base : Nat) (inner : List Text) : List Property :=
  (inner.zipIdx base).filterMap fun p => Property.at? p.2 p.1

theorem propertiesOf_cons (base : Nat) (l : Text) (rest : List Text) :
    propertiesOf base (l :: rest) =
      (Property.at? base l).toList ++ propertiesOf (base + 1) rest := by
  rw [propertiesOf, List.zipIdx_cons, List.filterMap_cons]
  cases Property.at? base l <;> rfl

theorem mem_propertiesOf {base : Nat} {inner : List Text} {p : Property} :
    p ∈ propertiesOf base inner ↔ ∃ j l x, p = ⟨base + j, x, x.number⟩ ∧ inner[j]? = some l ∧
      indexed? l = some x := by
  constructor
  · intro mem
    obtain ⟨⟨l, i⟩, hl, here⟩ := List.mem_filterMap.1 mem
    obtain ⟨x, read, rfl⟩ : ∃ x, indexed? l = some x ∧ ⟨i, x, x.number⟩ = p :=
      Option.map_eq_some_iff.1 here
    obtain ⟨le, at_⟩ := List.mem_zipIdx_iff_le_and_getElem?_sub.1 hl
    exact ⟨i - base, l, x, by simp [Nat.add_sub_cancel' le], at_, read⟩
  · rintro ⟨j, l, x, rfl, at_, read⟩
    refine List.mem_filterMap.2 ⟨(l, base + j), ?_, by simp [Property.at?, read]⟩
    exact List.mem_zipIdx_iff_le_and_getElem?_sub.2 ⟨Nat.le_add_right _ _, by simpa using at_⟩

theorem indexOf?_propertiesOf (base : Nat) (inner : List Text) (path : Text) :
    indexOf? (propertiesOf base inner) path = indexIn? inner path := by
  induction inner generalizing base with
  | nil => rfl
  | cons l rest ih =>
    rw [propertiesOf_cons]
    have tail := ih (base + 1)
    unfold indexOf? indexIn? indexedLines at tail ⊢
    cases read : indexed? l with
    | none => simpa [Property.at?, read, List.filterMap_cons_none read] using tail
    | some x =>
      rw [List.filterMap_cons_some read]
      simp only [Property.at?, read, Option.map_some, Option.toList_some, List.singleton_append]
      cases hit : x.key == uniqueNameProperty &&
          uniqueNameKey? x.value == some (registeredPathKey path) with
      | true => simp only [List.find?_cons, hit, Option.map_some]
      | false => simpa only [List.find?_cons, hit] using tail

/-- The property on a line is found by the index of the line. -/
theorem find?_propertiesOf (base : Nat) (inner : List Text) (i : Nat) :
    (propertiesOf base inner).find? (·.lineIndex == i) =
      if base ≤ i then inner[i - base]?.bind (Property.at? i) else none := by
  induction inner generalizing base with
  | nil => simp [propertiesOf]
  | cons l rest ih =>
    have head : (Property.at? base l).toList.find? (·.lineIndex == i) =
        if base = i then Property.at? base l else none := by
      cases read : indexed? l with
      | none => simp [Property.at?, read]
      | some x =>
        by_cases eq : base = i
        · simp [Property.at?, read, eq]
        · simp [Property.at?, read, eq]
    rw [propertiesOf_cons, List.find?_append, ih, head]
    rcases Nat.lt_trichotomy i base with lt | rfl | gt
    · rw [if_neg (by omega), if_neg (by omega), if_neg (by omega), Option.none_or]
    · rw [if_pos rfl, if_neg (by omega), if_pos (Nat.le_refl _), Option.or_none, Nat.sub_self]
      rfl
    · rw [if_neg (by omega), if_pos (by omega), if_pos (by omega), Option.none_or,
        show i - base = i - (base + 1) + 1 by omega, List.getElem?_cons_succ]

/-- What renumbering makes of the line at an index. -/
theorem renumberLine_propertiesOf (base : Nat) (inner : List Text) (k i : Nat) (l : Text)
    (here : base ≤ i → ∀ l', inner[i - base]? = some l' → l' = l) :
    renumberLine (propertiesOf base inner) k i l =
      if base ≤ i ∧ i < base + inner.length then lowerLine k l else l := by
  unfold renumberLine
  rw [find?_propertiesOf]
  by_cases inside : base ≤ i ∧ i < base + inner.length
  · obtain ⟨l', at_⟩ : ∃ l', inner[i - base]? = some l' :=
      ⟨_, List.getElem?_eq_getElem (by omega)⟩
    obtain rfl := here inside.1 l' at_
    rw [if_pos inside.1, if_pos inside, at_, Option.bind_some, Property.at?, lowerLine]
    cases read : indexed? l' with
    | none => rfl
    | some x =>
      simp only [Option.map_some, Line.IndexedLine.lowered]
      split
      · exact (x.text_renumbered _).symm
      · exact (Line.indexed?_eq_some_iff.1 read).2
  · rw [if_neg inside]
    by_cases le : base ≤ i
    · rw [if_pos le, List.getElem?_eq_none (by omega)]
      rfl
    · rw [if_neg le]

/-- Renumbering touches the lines inside the section only. -/
theorem renumber_propertiesOf {front inner back : List Text} {opening closing : Text} (k : Nat) :
    renumber (propertiesOf (front.length + 1) inner) k
        (front ++ opening :: (inner ++ closing :: back)) =
      front ++ opening :: (inner.map (lowerLine k) ++ closing :: back) := by
  have split (xs : List Text) : front ++ opening :: (xs ++ closing :: back) =
      (front ++ [opening]) ++ (xs ++ closing :: back) := by simp
  have length : (front ++ [opening]).length = front.length + 1 := by simp
  rw [split, split, renumber]
  generalize front ++ [opening] = before at length ⊢
  rw [← length]
  -- Line by line: in front of the section, inside of it, behind it.
  refine List.ext_getElem? fun i => ?_
  rw [List.getElem?_mapIdx]
  rcases Nat.lt_or_ge i before.length with lt | ge
  · rw [List.getElem?_append_left lt, List.getElem?_append_left lt]
    cases before[i]? with
    | none => rfl
    | some l =>
      rw [Option.map_some, renumberLine_propertiesOf _ _ _ _ _ (by omega), if_neg (by omega)]
  · rw [List.getElem?_append_right ge, List.getElem?_append_right ge]
    rcases Nat.lt_or_ge (i - before.length) inner.length with lt | ge'
    · rw [List.getElem?_append_left lt, List.getElem?_append_left (by simpa using lt),
        List.getElem?_map, List.getElem?_eq_getElem lt, Option.map_some, Option.map_some,
        renumberLine_propertiesOf _ _ _ _ _ (by simp [lt]), if_pos (by omega)]
    · rw [List.getElem?_append_right ge', List.getElem?_append_right (by simpa using ge'),
        List.length_map]
      cases (closing :: back)[i - before.length - inner.length]? with
      | none => rfl
      | some l =>
        have outside : inner[i - before.length]? = none := List.getElem?_eq_none (by omega)
        rw [Option.map_some, renumberLine_propertiesOf _ _ _ _ _ (by simp [outside]),
          if_neg (by omega)]

theorem modify_append_cons {α : Type} (f : α → α) (xs : List α) (x : α) (ys : List α) :
    (xs ++ x :: ys).modify xs.length f = xs ++ f x :: ys := by
  induction xs with
  | nil => rfl
  | cons y xs ih => simpa using ih

/-- Lowered lines stand where the lines of the section do. -/
theorem bodyOf_map_lowerLine {s : Section} {front inner back : List Text} {opening closing : Text}
    (span : s.span = ⟨front.length, front.length + inner.length + 1⟩) (k : Nat) :
    Section.bodyOf (some s)
      (front ++ opening :: (inner.map (lowerLine k) ++ closing :: back)) =
        (inner.map (lowerLine k)).zipIdx (front.length + 1) :=
  Section.body_eq (by rw [span, List.length_map])

/-- Counting down after renumbering completes the release of an index. -/
theorem countDown_renumbered {s : Section} {front inner back : List Text} {opening closing : Text}
    (span : s.span = ⟨front.length, front.length + inner.length + 1⟩) (k : Nat)
    (short : ∀ x, (countLines inner).head? = some x → x.Short) :
    countDown s (front ++ opening :: (inner.map (lowerLine k) ++ closing :: back)) =
      .ok (front ++ opening :: (released k inner ++ closing :: back)) := by
  unfold countDown findCount
  rcases countLine?_cases (bodyOf_map_lowerLine span k) with
    ⟨absent, found⟩ | ⟨before, l, x, after, parts, absent, read, found⟩
  · rw [countLines_map_lowerLine] at absent
    rw [found, released_of_countLines_eq_nil absent]
    rfl
  · -- The counting line is found among the lowered lines; it stands at the same place before.
    obtain ⟨before, rest, rfl, rfl, tail⟩ := List.map_eq_append_iff.1 parts
    obtain ⟨l, after, rfl, rfl, rfl⟩ := List.map_eq_cons_iff.1 tail
    rw [countLines_map_lowerLine] at absent
    rw [count?_lowerLine] at read
    have head : (countLines (before ++ l :: after)).head? = some x := by
      rw [countLines, List.filterMap_append, ← countLines, absent, List.nil_append,
        List.filterMap_cons_some read]
      rfl
    rw [found, released_append absent read]
    simp only [readNumeral_digits (short x head), Except.map]
    have at_ : front.length + 1 + (before.map (lowerLine k)).length =
        (front ++ opening :: before.map (lowerLine k)).length := by simp; omega
    have split (l' : Text) : front ++ opening :: (before.map (lowerLine k) ++
        l' :: after.map (lowerLine k) ++ closing :: back) =
      (front ++ opening :: before.map (lowerLine k)) ++
        l' :: (after.map (lowerLine k) ++ closing :: back) := by simp
    rw [parts, lowerLine_eq_self read, split, split, at_, modify_append_cons, Line.recount_eq read]
    rfl

/-- **The release of an index in terms of the lines of the section.** -/
theorem releaseIndex_cases {names : List Text} {lines front inner back : List Text}
    {opening closing : Text} (h : Section.At names lines front opening inner closing back)
    {s : Section} (found : Section.find? (Section.scan lines) names = some s)
    (readable : Readable inner) (b : Block) :
    (indexIn? inner b.path = none ∧ releaseIndex s b lines = (lines, .ok none)) ∨
      ∃ k doomed, indexIn? inner b.path = some k ∧
        releaseIndex s b lines =
          (front ++ opening :: (released k inner ++ closing :: back), .ok (some doomed)) ∧
        ∀ i, i ∈ doomed ↔ ∃ j l x, i = front.length + 1 + j ∧ inner[j]? = some l ∧
          indexed? l = some x ∧ x.number = k := by
  obtain ⟨s', found', span⟩ := h.find?_eq
  obtain rfl : s = s' := Option.some.inj (found.symm.trans found')
  have scan : Property.scan lines (some s) = .ok (propertiesOf (front.length + 1) inner) :=
    (Property.scan_eq_ok_iff (found ▸ h.bodyOf_eq)).2 ⟨readable.indexed, rfl⟩
  unfold releaseIndex
  rw [scan]
  dsimp only
  rw [indexOf?_propertiesOf]
  cases resolved : indexIn? inner b.path with
  | none => exact Or.inl ⟨rfl, rfl⟩
  | some k =>
    refine Or.inr ⟨k, ((propertiesOf (front.length + 1) inner).filter (·.index == k)).map
      (·.lineIndex), rfl, ?_, ?_⟩
    · dsimp only
      rw [h.lines_eq, renumber_propertiesOf, countDown_renumbered span k readable.counting]
    · intro i
      simp only [List.mem_map, List.mem_filter, mem_propertiesOf, beq_iff_eq]
      constructor
      · rintro ⟨p, ⟨⟨j, l, x, rfl, at_, read⟩, number⟩, rfl⟩
        exact ⟨j, l, x, rfl, at_, read, number⟩
      · rintro ⟨j, l, x, rfl, at_, read, number⟩
        exact ⟨_, ⟨⟨j, l, x, rfl, at_, read⟩, number⟩, rfl⟩

/-- Without an index under the path nothing is released, and the count need not be read. -/
theorem releaseIndex_of_unresolved {names : List Text} {lines front inner back : List Text}
    {opening closing : Text} (h : Section.At names lines front opening inner closing back)
    {s : Section} (found : Section.find? (Section.scan lines) names = some s) {b : Block}
    (short : ∀ x ∈ indexedLines inner, x.Short) (unresolved : indexIn? inner b.path = none) :
    releaseIndex s b lines = (lines, .ok none) := by
  have scan : Property.scan lines (some s) = .ok (propertiesOf (front.length + 1) inner) :=
    (Property.scan_eq_ok_iff (found ▸ h.bodyOf_eq)).2 ⟨short, rfl⟩
  unfold releaseIndex
  rw [scan]
  dsimp only
  rw [indexOf?_propertiesOf, unresolved]

/-- A release that succeeds has found no index, or it has read all numerals. -/
theorem readable_of_releaseIndex {names : List Text} {lines front inner back : List Text}
    {opening closing : Text} (h : Section.At names lines front opening inner closing back)
    {s : Section} (found : Section.find? (Section.scan lines) names = some s) {b : Block}
    {left : List Text} {doomed : Option (List Nat)}
    (ok : releaseIndex s b lines = (left, .ok doomed)) :
    ((∀ x ∈ indexedLines inner, x.Short) ∧ indexIn? inner b.path = none ∧ left = lines ∧
      doomed = none) ∨ Readable inner := by
  obtain ⟨s', found', span⟩ := h.find?_eq
  obtain rfl : s = s' := Option.some.inj (found.symm.trans found')
  unfold releaseIndex at ok
  cases scan : Property.scan lines (some s) with
  | error e =>
    rw [scan] at ok
    cases ok
  | ok properties =>
    obtain ⟨indexed, rfl⟩ := (Property.scan_eq_ok_iff (found ▸ h.bodyOf_eq)).1 scan
    rw [scan] at ok
    dsimp only at ok
    rw [show (inner.zipIdx (front.length + 1)).filterMap (fun p => Property.at? p.2 p.1) =
      propertiesOf (front.length + 1) inner from rfl, indexOf?_propertiesOf] at ok
    cases resolved : indexIn? inner b.path with
    | none =>
      rw [resolved] at ok
      cases ok
      exact Or.inl ⟨indexed, rfl, rfl, rfl⟩
    | some k =>
      rw [resolved] at ok
      dsimp only at ok
      rw [h.lines_eq, renumber_propertiesOf] at ok
      -- The count is read off the lowered lines, which count what the lines before do.
      cases count : findCount
          (front ++ opening :: (inner.map (lowerLine k) ++ closing :: back)) (some s) with
      | error e => simp [countDown, count, Except.map] at ok
      | ok read =>
        refine Or.inr ⟨indexed, ?_⟩
        rw [← countLines_map_lowerLine k]
        exact (findCount_inv (bodyOf_map_lowerLine span k) count).1

/-- **What a release has done that succeeds.** -/
theorem releaseIndex_eq_ok {names : List Text} {lines front inner back : List Text}
    {opening closing : Text} (h : Section.At names lines front opening inner closing back)
    {s : Section} (found : Section.find? (Section.scan lines) names = some s) {b : Block}
    {left : List Text} {doomed : Option (List Nat)}
    (ok : releaseIndex s b lines = (left, .ok doomed)) :
    ((∀ x ∈ indexedLines inner, x.Short) ∧ indexIn? inner b.path = none ∧ left = lines ∧
      doomed = none) ∨
      Readable inner ∧ ∃ k marked, indexIn? inner b.path = some k ∧
        left = front ++ opening :: (released k inner ++ closing :: back) ∧ doomed = some marked ∧
        ∀ i, i ∈ marked ↔ ∃ j l x, i = front.length + 1 + j ∧ inner[j]? = some l ∧
          indexed? l = some x ∧ x.number = k := by
  rcases readable_of_releaseIndex h found ok with unresolved | readable
  · exact Or.inl unresolved
  · rcases releaseIndex_cases h found readable b with
      ⟨unresolved, eq⟩ | ⟨k, marked, resolved, eq, mem⟩
    · rw [eq] at ok
      cases ok
      exact Or.inl ⟨readable.indexed, unresolved, rfl, rfl⟩
    · rw [eq] at ok
      cases ok
      exact Or.inr ⟨readable, k, marked, resolved, rfl, rfl, mem⟩

end SolutionSweep
