import SolutionSweep.Manifest.Nesting
import SolutionSweep.Proofs.Table
import Mathlib.Logic.Relation

/-!
# Climbing from parent to parent

The climb through the folders around an entry is bounded by the number of parents. It never meets
that bound: the entries on the way are pairwise distinct, and each of them but the last has a
parent. So the climb is described by a relation without a bound, and it does not depend on entries
that it does not meet.

* `Climbs`: the climb as a relation;
* `climbs_climb`: the climb with the bound is the one without it;
* `nestedPath_filter`: the nested path of an entry does not change when entries are taken out that
  are not the parents of any other;
* `exists_nestedPath_filter`: whatever is taken out, there is a nested path if there was one;
* `exists_nestedPath_iff`: there is none exactly if the parents lead into a circle.
-/

namespace SolutionSweep

variable {parents : List (EntryId × EntryId)} {names : List (EntryId × Text)}

/-- The climb from the last entry of a chain, with the names of the folders met so far. -/
inductive Climbs (parents : List (EntryId × EntryId)) (names : List (EntryId × Text)) :
    List EntryId → EntryId → List Text → Except NestingCycle (List Text) → Prop
  | top {chain : List EntryId} {current : EntryId} {above : List Text} :
      parents.lookup current = none → Climbs parents names chain current above (.ok above)
  | circle {chain : List EntryId} {current parent : EntryId} {above : List Text} :
      parents.lookup current = some parent → parent ∈ chain →
      Climbs parents names chain current above (.error ⟨chain ++ [parent]⟩)
  | unnamed {chain : List EntryId} {current parent : EntryId} {above : List Text} :
      parents.lookup current = some parent → parent ∉ chain → names.lookup parent = none →
      Climbs parents names chain current above (.ok above)
  | step {chain : List EntryId} {current parent : EntryId} {above : List Text} {name : Text}
      {result : Except NestingCycle (List Text)} :
      parents.lookup current = some parent → parent ∉ chain → names.lookup parent = some name →
      Climbs parents names (chain ++ [parent]) parent (name :: above) result →
      Climbs parents names chain current above result

/-- With as much fuel as there are parents that may still be met, the bound is not met. -/
theorem climbs_climb {fuel : Nat} {chain : List EntryId} {current : EntryId} {above : List Text}
    (distinct : chain.Nodup) (mem : current ∈ chain)
    (nested : ∀ x ∈ chain, x ≠ current → x ∈ parents.map (·.1))
    (enough : parents.length + 2 ≤ fuel + chain.length) :
    Climbs parents names chain current above (climb parents names fuel chain current above) := by
  induction fuel generalizing chain current above with
  | zero =>
    -- All entries of the chain but one are children, so there are not more of them than parents.
    have others : ∀ x ∈ chain.erase current, x ∈ parents.map (·.1) := by
      intro x hx
      rw [distinct.mem_erase_iff] at hx
      exact nested x hx.2 hx.1
    have short := List.Nodup.length_le_of_subset (distinct.erase current) others
    rw [List.length_erase_of_mem mem, List.length_map] at short
    omega
  | succ fuel ih =>
    rw [climb]
    cases climbed : parents.lookup current with
    | none => exact .top climbed
    | some parent =>
      dsimp only
      split
      · rename_i again
        exact .circle climbed (List.contains_iff_mem.1 again)
      · rename_i new
        have new : parent ∉ chain := fun h => new (List.contains_iff_mem.2 h)
        cases named : names.lookup parent with
        | none => exact .unnamed climbed new named
        | some name =>
          -- The chain grows by the parent, and the entry that it grew from has a parent now.
          refine .step climbed new named (ih ?_ (by simp) ?_ (by simp; omega))
          · rw [List.nodup_append]
            refine ⟨distinct, List.nodup_singleton parent, ?_⟩
            rintro x hx y hy rfl
            exact new (List.mem_singleton.1 hy ▸ hx)
          · intro x hx other
            have hx : x ∈ chain := by
              rcases List.mem_append.1 hx with hx | hx
              · exact hx
              · exact absurd (List.mem_singleton.1 hx) other
            by_cases same : x = current
            · subst same
              exact List.mem_map_of_mem (mem_of_lookup climbed)
            · exact nested x hx same

/-- A climb has one result only. -/
theorem Climbs.unique {chain : List EntryId} {current : EntryId} {above : List Text}
    {result result' : Except NestingCycle (List Text)}
    (h : Climbs parents names chain current above result)
    (h' : Climbs parents names chain current above result') : result = result' := by
  induction h with
  | top none =>
    cases h' with
    | top => rfl
    | circle some => cases none.symm.trans some
    | unnamed some => cases none.symm.trans some
    | step some => cases none.symm.trans some
  | circle some again =>
    cases h' with
    | top none => cases none.symm.trans some
    | circle some' =>
      cases some.symm.trans some'
      rfl
    | unnamed some' new =>
      cases some.symm.trans some'
      exact absurd again new
    | step some' new =>
      cases some.symm.trans some'
      exact absurd again new
  | unnamed some new none =>
    cases h' with
    | top none' => cases none'.symm.trans some
    | circle some' again =>
      cases some.symm.trans some'
      exact absurd again new
    | unnamed => rfl
    | step some' _ named =>
      cases some.symm.trans some'
      cases none.symm.trans named
  | step some new named _ ih =>
    cases h' with
    | top none => cases none.symm.trans some
    | circle some' again =>
      cases some.symm.trans some'
      exact absurd again new
    | unnamed some' _ none =>
      cases some.symm.trans some'
      cases none.symm.trans named
    | step some' _ named' rest =>
      cases some.symm.trans some'
      cases named.symm.trans named'
      exact ih rest

/-- A climb that starts at an entry that stays does not meet those that are taken out, if they are
not the parents of any that stay. -/
theorem Climbs.filter {gone : EntryId → Bool} {chain : List EntryId} {current : EntryId}
    {above : List Text} {result : Except NestingCycle (List Text)}
    (h : Climbs parents names chain current above result) (kept : gone current = false)
    (leaves : ∀ p ∈ parents.filter (fun p => !gone p.1), gone p.2 = false) :
    Climbs (parents.filter fun p => !gone p.1) (names.filter fun p => !gone p.1) chain current above
      result := by
  have keeps {current parent : EntryId} (kept : gone current = false)
      (climbed : parents.lookup current = some parent) : gone parent = false :=
    leaves (current, parent) (List.mem_filter.2 ⟨mem_of_lookup climbed, by simp [kept]⟩)
  induction h with
  | top none => exact .top ((lookup_filter _ kept).trans none)
  | circle climbed again => exact .circle ((lookup_filter _ kept).trans climbed) again
  | unnamed climbed new none =>
    exact .unnamed ((lookup_filter _ kept).trans climbed) new
      ((lookup_filter _ (keeps kept climbed)).trans none)
  | step climbed new named _ ih =>
    exact .step ((lookup_filter _ kept).trans climbed) new
      ((lookup_filter _ (keeps kept climbed)).trans named) (ih (keeps kept climbed))

/-- A climb to the top meets no circle in a part of the tables: where a parent has been taken out it
has no name any more, and the climb stops below it. -/
theorem Climbs.exists_filter {gone : EntryId → Bool} {chain : List EntryId} {current : EntryId}
    {above path : List Text} (h : Climbs parents names chain current above (.ok path))
    (kept : gone current = false) :
    ∃ path', Climbs (parents.filter fun p => !gone p.1) (names.filter fun p => !gone p.1) chain
      current above (.ok path') := by
  generalize reached : (.ok path : Except NestingCycle (List Text)) = result at h
  induction h with
  | top none => exact ⟨_, .top ((lookup_filter _ kept).trans none)⟩
  | circle => cases reached
  | @unnamed chain current parent above climbed new none =>
    refine ⟨_, .unnamed ((lookup_filter _ kept).trans climbed) new ?_⟩
    cases lost : gone parent with
    | true => exact lookup_filter_eq_none _ lost
    | false => exact (lookup_filter _ lost).trans none
  | @step chain current parent above name result climbed new named _ ih =>
    cases lost : gone parent with
    | true =>
      exact ⟨_, .unnamed ((lookup_filter _ kept).trans climbed) new (lookup_filter_eq_none _ lost)⟩
    | false =>
      obtain ⟨path', rest⟩ := ih lost reached
      exact ⟨path', .step ((lookup_filter _ kept).trans climbed) new
        ((lookup_filter _ lost).trans named) rest⟩

/-- The chain of one entry is short enough for the fuel that a climb starts with. -/
theorem climbs_start (parents : List (EntryId × EntryId)) (names : List (EntryId × Text))
    (id : EntryId) :
    Climbs parents names [id] id [] (climb parents names (parents.length + 1) [id] id []) :=
  climbs_climb (List.nodup_singleton id) (by simp) (by simp) (by simp)

/-- **The nested path of an entry does not depend on entries that are not parents.** -/
theorem nestedPath_filter (gone : EntryId → Bool) {id : EntryId} (kept : gone id = false)
    (leaves : ∀ p ∈ parents.filter (fun p => !gone p.1), gone p.2 = false) :
    nestedPath (parents.filter fun p => !gone p.1) (names.filter fun p => !gone p.1) id =
      nestedPath parents names id := by
  rw [nestedPath, nestedPath,
    ((climbs_start parents names id).filter kept leaves).unique (climbs_start _ _ id)]

/-- **There is a nested path without some entries if there is one with them.** -/
theorem exists_nestedPath_filter (gone : EntryId → Bool) {id : EntryId} {path : Text}
    (kept : gone id = false) (ok : nestedPath parents names id = .ok path) :
    ∃ path', nestedPath (parents.filter fun p => !gone p.1) (names.filter fun p => !gone p.1) id =
      .ok path' := by
  have start := climbs_start parents names id
  rw [nestedPath] at ok
  cases climbed : climb parents names (parents.length + 1) [id] id [] with
  | error e =>
    rw [climbed] at ok
    cases ok
  | ok folders =>
    rw [climbed] at start
    obtain ⟨folders', start'⟩ := start.exists_filter kept
    rw [nestedPath, (climbs_start _ _ id).unique start']
    exact ⟨_, rfl⟩

/-! ### Circles -/

/-- An entry lies in another one that has a name. -/
def LiesIn (parents : List (EntryId × EntryId)) (names : List (EntryId × Text))
    (child parent : EntryId) : Prop :=
  parents.lookup child = some parent ∧ names.lookup parent ≠ none

/-- The entries around an entry, one after another, come to one that lies in itself, perhaps through
others. -/
def Circles (parents : List (EntryId × EntryId)) (names : List (EntryId × Text))
    (id : EntryId) : Prop :=
  ∃ x, Relation.ReflTransGen (LiesIn parents names) id x ∧
    Relation.TransGen (LiesIn parents names) x x

theorem LiesIn.unique {child parent parent' : EntryId} (h : LiesIn parents names child parent)
    (h' : LiesIn parents names child parent') : parent = parent' :=
  Option.some.inj (h.1.symm.trans h'.1)

/-- An entry that lies in no other one is on no way to a circle. -/
theorem not_circles {id : EntryId} (outermost : ∀ parent, ¬ LiesIn parents names id parent) :
    ¬ Circles parents names id := by
  rintro ⟨x, way, circle⟩
  rcases way.cases_head with rfl | ⟨parent, first, -⟩
  · obtain ⟨parent, first, -⟩ := Relation.TransGen.head'_iff.1 circle
    exact outermost parent first
  · exact outermost parent first

/-- The way from an entry to a circle goes through the parent. -/
theorem LiesIn.circles_iff {child parent : EntryId} (h : LiesIn parents names child parent) :
    Circles parents names child ↔ Circles parents names parent := by
  constructor
  · rintro ⟨x, way, circle⟩
    rcases way.cases_head with rfl | ⟨parent', first, rest⟩
    · obtain ⟨parent', first, back⟩ := Relation.TransGen.head'_iff.1 circle
      obtain rfl := h.unique first
      exact ⟨_, .refl, Relation.TransGen.tail' back h⟩
    · obtain rfl := h.unique first
      exact ⟨x, rest, circle⟩
  · rintro ⟨x, way, circle⟩
    exact ⟨x, .head h way, circle⟩

/-- A climb fails on the way to a circle. The entries of the chain are those met so far. -/
theorem Climbs.exists_ok_iff {chain : List EntryId} {current : EntryId} {above : List Text}
    {result : Except NestingCycle (List Text)}
    (h : Climbs parents names chain current above result)
    (met : ∀ x ∈ chain, names.lookup x ≠ none ∧
      Relation.ReflTransGen (LiesIn parents names) x current) :
    (∃ path, result = .ok path) ↔ ¬ Circles parents names current := by
  induction h with
  | top none =>
    refine ⟨fun _ => not_circles fun parent up => ?_, fun _ => ⟨_, rfl⟩⟩
    cases none.symm.trans up.1
  | @circle chain current parent above climbed again =>
    obtain ⟨named, way⟩ := met parent again
    have up : LiesIn parents names current parent := ⟨climbed, named⟩
    exact ⟨nofun, fun free => absurd ⟨current, .refl, Relation.TransGen.head' up way⟩ free⟩
  | unnamed climbed new none =>
    refine ⟨fun _ => not_circles fun parent' up => ?_, fun _ => ⟨_, rfl⟩⟩
    cases climbed.symm.trans up.1
    exact up.2 none
  | @step chain current parent above name result climbed new named _ ih =>
    have up : LiesIn parents names current parent := ⟨climbed, by simp [named]⟩
    rw [up.circles_iff]
    refine ih fun x mem => ?_
    rcases List.mem_append.1 mem with mem | mem
    · exact ⟨(met x mem).1, (met x mem).2.tail up⟩
    · obtain rfl := List.mem_singleton.1 mem
      exact ⟨up.2, .refl⟩

/-- **There is a nested path unless the parents lead into a circle.** -/
theorem exists_nestedPath_iff {id : EntryId} (named : names.lookup id ≠ none) :
    (∃ path, nestedPath parents names id = .ok path) ↔ ¬ Circles parents names id := by
  have start := (climbs_start parents names id).exists_ok_iff fun x mem => by
    obtain rfl := List.mem_singleton.1 mem
    exact ⟨named, .refl⟩
  rw [← start, nestedPath]
  cases climb parents names (parents.length + 1) [id] id [] <;> simp [Except.map]

end SolutionSweep
