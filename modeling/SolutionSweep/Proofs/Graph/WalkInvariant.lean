import SolutionSweep.Proofs.Graph.Usage
import Mathlib.Data.List.Chain

/-!
# What holds at every point of the walk

The walk keeps projects in three states: not met, being walked, and finished. The invariant `Sound`
ties the states to the references. The core of it is about the projects being walked: whatever one
of them refers to is still pending, is finished, or is the project walked inside of it (`Nested`).
So nothing is finished before everything that it refers to, and a project that is finished lies on
no circle: it is accessible along the references.

* `Walk.Finished`: a project has been met and is no longer being walked;
* `Nested`: what the projects being walked refer to;
* `Walk.Sound`: the invariant, which holds at the start and is kept by `enter`, `leave` and `skip`.
-/

namespace SolutionSweep.ProjectGraph

variable {g : ProjectGraph}

/-- A project has been met and is no longer being walked. -/
def Walk.Finished (w : Walk) (p : Project) : Prop := p ∈ w.visited ∧ p ∉ w.stack.map (·.project)

/-- Whatever a project being walked refers to is pending, is finished, or is walked inside of it. -/
def Nested (g : ProjectGraph) (finished : Project → Prop) :
    (inner : Option Project) → List Frame → Prop
  | _, [] => True
  | inner, f :: outer =>
      (∀ t, g.Refers f.project t → t ∈ f.pending ∨ finished t ∨ inner = some t) ∧
      (∀ t ∈ f.pending, g.Refers f.project t) ∧
      (∀ t, inner = some t → g.Refers f.project t) ∧
      Nested g finished (some f.project) outer

theorem Nested.mono {finished finished' : Project → Prop} (le : ∀ p, finished p → finished' p)
    {inner : Option Project} {stack : List Frame} (h : g.Nested finished inner stack) :
    g.Nested finished' inner stack := by
  induction stack generalizing inner with
  | nil => trivial
  | cons f outer ih =>
    obtain ⟨refs, pending, next, rest⟩ := h
    refine ⟨fun t ht => ?_, pending, next, ih rest⟩
    rcases refs t ht with h | h | h
    · exact Or.inl h
    · exact Or.inr (Or.inl (le t h))
    · exact Or.inr (Or.inr h)

/-- The next pending target becomes the project walked inside. -/
theorem Nested.inward {finished : Project → Prop} {current target : Project}
    {pending : List Project} {outer : List Frame}
    (h : g.Nested finished none (⟨current, target :: pending⟩ :: outer)) :
    g.Nested finished (some target) (⟨current, pending⟩ :: outer) := by
  obtain ⟨refs, isRef, -, rest⟩ := h
  refine ⟨fun t ht => ?_, fun t ht => isRef t (List.mem_cons_of_mem _ ht), ?_, rest⟩
  · rcases refs t ht with h | h | h
    · rcases List.mem_cons.1 h with rfl | h
      · exact Or.inr (Or.inr rfl)
      · exact Or.inl h
    · exact Or.inr (Or.inl h)
    · cases h
  · rintro t ⟨⟩
    exact isRef target List.mem_cons_self

/-- The projects being walked, from the outermost inwards, form a chain of references. -/
theorem Nested.isChain {finished : Project → Prop} {inner : Option Project} {stack : List Frame}
    (h : g.Nested finished inner stack) :
    List.IsChain g.Refers ((stack.map (·.project)).reverse ++ inner.toList) := by
  induction stack generalizing inner with
  | nil => cases inner <;> simp
  | cons f outer ih =>
    obtain ⟨-, -, next, rest⟩ := h
    have chain := ih rest
    cases inner with
    | none => simpa using chain
    | some t =>
      have last := next t rfl
      simp only [Option.toList_some, List.map_cons, List.reverse_cons] at chain ⊢
      rw [List.isChain_append]
      refine ⟨chain, by simp, fun x hx y hy => ?_⟩
      obtain rfl : f.project = x := by simpa using hx
      obtain rfl : t = y := by simpa using hy
      exact last

/-- Every project of a chain of references but the first is referred to. -/
theorem exists_refers_of_isChain {p : Project} {ps : List Project}
    (h : List.IsChain g.Refers (p :: ps)) {q : Project} (hq : q ∈ ps) : ∃ e, g.Refers e q := by
  induction ps generalizing p with
  | nil => cases hq
  | cons r rest ih =>
    obtain ⟨refers, tail⟩ := List.isChain_cons_cons.1 h
    rcases List.mem_cons.1 hq with rfl | hq
    · exact ⟨p, refers⟩
    · exact ih tail hq

/-! ### The invariant -/

/-- What holds of a walk with the given roots still to be walked. -/
structure Walk.Sound (g : ProjectGraph) (roots : List Project) (w : Walk) : Prop where
  inUse : ∀ p ∈ w.visited, g.InUse p
  fresh : ∀ p ∈ g.projects, p.id ∈ w.fresh ↔ p ∉ w.visited
  once : w.visited.Nodup
  readable : ∀ p ∈ w.visited, ∃ descriptor, g.read p.path = some descriptor
  nested : g.Nested w.Finished none w.stack
  walked : ∀ f ∈ w.stack, f.project ∈ w.visited
  walkedOnce : (w.stack.map (·.project)).Nodup
  finished : ∀ p, w.Finished p → Acc (fun t e => g.Refers e t) p ∧ ∀ t, g.Refers p t → w.Finished t
  covered : ∀ p ∈ g.roots, p ∈ w.visited ∨ p ∈ roots
  awaited : ∀ p ∈ roots, p ∈ g.roots ∧ p ∉ w.visited
  awaitedOnce : roots.Nodup

/-- The invariant holds before the first step. -/
theorem start_sound (distinct : g.Distinct) : g.start.Sound g g.roots where
  inUse := by simp [start]
  fresh p hp := by simpa [start] using ⟨p, hp, rfl⟩
  once := by simp [start]
  readable := by simp [start]
  nested := trivial
  walked := by simp [start]
  walkedOnce := by simp [start]
  finished p hp := by simp [Walk.Finished, start] at hp
  covered p hp := Or.inr hp
  awaited p hp := ⟨hp, by simp [start]⟩
  awaitedOnce := distinct.nodup.filter _

/-- Entering a project that has not been met finishes no other project and takes none up again. -/
theorem Walk.finished_enter {w : Walk} {outer : List Frame} {p : Project} (targets : List Project)
    (same : outer.map (·.project) = w.stack.map (·.project)) (new : p ∉ w.visited) (q : Project) :
    (({ w with stack := outer } : Walk).enter p targets).Finished q ↔ w.Finished q := by
  simp only [Walk.Finished, Walk.enter, List.map_cons, List.mem_cons, same, not_or]
  constructor
  · rintro ⟨rfl | visited, ne, unwalked⟩
    · exact absurd rfl ne
    · exact ⟨visited, unwalked⟩
  · rintro ⟨visited, unwalked⟩
    exact ⟨Or.inr visited, fun eq => new (eq ▸ visited), unwalked⟩

/-- The invariant is kept when the walk enters a project that it has not met. -/
theorem Walk.Sound.enter (distinct : g.Distinct) {w : Walk} {roots rest : List Project}
    {outer : List Frame} {p : Project} {descriptor : Text} (h : w.Sound g roots)
    (same : outer.map (·.project) = w.stack.map (·.project)) (inUse : g.InUse p)
    (new : p ∉ w.visited) (readable : g.read p.path = some descriptor)
    (nested : g.Nested w.Finished (some p) outer) (left : ∀ q ∈ roots, q = p ∨ q ∈ rest)
    (fewer : ∀ q ∈ rest, q ∈ roots ∧ q ≠ p) (once : rest.Nodup) :
    (({ w with stack := outer } : Walk).enter p (g.targets p descriptor)).Sound g rest := by
  have finished := Walk.finished_enter (g.targets p descriptor) same new
  have unwalked : p ∉ w.stack.map (·.project) := by
    intro mem
    obtain ⟨f, hf, rfl⟩ := List.mem_map.1 mem
    exact new (h.walked f hf)
  constructor
  case inUse =>
    intro q hq
    rcases List.mem_cons.1 hq with rfl | hq
    · exact inUse
    · exact h.inUse q hq
  case fresh =>
    -- Identifiers are taken off the list of fresh ones, so distinct projects must differ in them.
    intro q hq
    have ne : q.id ≠ p.id ↔ q ≠ p :=
      not_congr ⟨distinct.eq_of_id hq inUse.mem, fun eq => eq ▸ rfl⟩
    simp only [Walk.enter, List.mem_filter, bne_iff_ne, List.mem_cons, not_or, h.fresh q hq, ne]
    exact and_comm
  case once => exact List.nodup_cons.2 ⟨new, h.once⟩
  case readable =>
    intro q hq
    rcases List.mem_cons.1 hq with rfl | hq
    · exact ⟨descriptor, readable⟩
    · exact h.readable q hq
  case nested =>
    refine ⟨fun t ht => Or.inl ((mem_targets distinct readable).2 ht),
      fun t ht => (mem_targets distinct readable).1 ht, nofun, ?_⟩
    exact nested.mono fun q hq => (finished q).2 hq
  case walked =>
    intro f hf
    rcases List.mem_cons.1 hf with rfl | hf
    · exact List.mem_cons_self
    · have mem : f.project ∈ w.stack.map (·.project) := same ▸ List.mem_map_of_mem hf
      obtain ⟨f', hf', eq⟩ := List.mem_map.1 mem
      exact List.mem_cons_of_mem _ (eq ▸ h.walked f' hf')
  case walkedOnce =>
    rw [show (({ w with stack := outer } : Walk).enter p (g.targets p descriptor)).stack.map
      (·.project) = p :: w.stack.map (·.project) by simp [Walk.enter, same]]
    exact List.nodup_cons.2 ⟨unwalked, h.walkedOnce⟩
  case finished =>
    intro q hq
    obtain ⟨acc, closed⟩ := h.finished q ((finished q).1 hq)
    exact ⟨acc, fun t ht => (finished t).2 (closed t ht)⟩
  case covered =>
    intro q hq
    rcases h.covered q hq with hq | hq
    · exact Or.inl (List.mem_cons_of_mem _ hq)
    · rcases left q hq with rfl | hq
      · exact Or.inl List.mem_cons_self
      · exact Or.inr hq
  case awaited =>
    intro q hq
    obtain ⟨mem, ne⟩ := fewer q hq
    obtain ⟨root, unmet⟩ := h.awaited q mem
    refine ⟨root, fun visited => ?_⟩
    rcases List.mem_cons.1 visited with rfl | visited
    · exact ne rfl
    · exact unmet visited
  case awaitedOnce => exact once

/-- The invariant is kept when the walk leaves a project without pending targets. Everything the
project refers to is finished by then, so it is accessible. -/
theorem Walk.Sound.leave {w : Walk} {roots : List Project} {p : Project} {outer : List Frame}
    (h : w.Sound g roots) (stack : w.stack = ⟨p, []⟩ :: outer) :
    ({ w with stack := outer } : Walk).Sound g roots := by
  have once := h.walkedOnce
  have nested := h.nested
  have visited : p ∈ w.visited := h.walked ⟨p, []⟩ (by simp [stack])
  rw [stack, List.map_cons, List.nodup_cons] at once
  rw [stack] at nested
  obtain ⟨refs, -, -, rest⟩ := nested
  have finishedOf : ∀ q, w.Finished q → ({ w with stack := outer } : Walk).Finished q := by
    rintro q ⟨met, unwalked⟩
    rw [stack, List.map_cons, List.mem_cons, not_or] at unwalked
    exact ⟨met, unwalked.2⟩
  have refsFinished : ∀ t, g.Refers p t → w.Finished t := by
    intro t ht
    rcases refs t ht with h | h | h
    · cases h
    · exact h
    · cases h
  have finishedCases : ∀ q, ({ w with stack := outer } : Walk).Finished q →
      q = p ∨ w.Finished q := by
    rintro q ⟨met, unwalked⟩
    by_cases eq : q = p
    · exact Or.inl eq
    · refine Or.inr ⟨met, ?_⟩
      rw [stack, List.map_cons, List.mem_cons, not_or]
      exact ⟨eq, unwalked⟩
  constructor
  case inUse => exact h.inUse
  case fresh => exact h.fresh
  case once => exact h.once
  case readable => exact h.readable
  case nested =>
    -- The frame outside of `p` waited for `p`, which is finished now.
    cases outer with
    | nil => trivial
    | cons f outer =>
      obtain ⟨refs', pending, -, rest⟩ := rest
      refine ⟨fun t ht => ?_, pending, nofun, rest.mono finishedOf⟩
      rcases refs' t ht with h | h | h
      · exact Or.inl h
      · exact Or.inr (Or.inl (finishedOf t h))
      · cases h
        exact Or.inr (Or.inl ⟨visited, once.1⟩)
  case walked =>
    intro f hf
    exact h.walked f (stack ▸ List.mem_cons_of_mem _ hf)
  case walkedOnce => exact once.2
  case finished =>
    -- `p` is new among the projects that are finished; it is accessible because its targets are.
    intro q hq
    rcases finishedCases q hq with rfl | hq
    · exact ⟨⟨q, fun t ht => (h.finished t (refsFinished t ht)).1⟩,
        fun t ht => finishedOf t (refsFinished t ht)⟩
    · obtain ⟨acc, closed⟩ := h.finished q hq
      exact ⟨acc, fun t ht => finishedOf t (closed t ht)⟩
  case covered => exact h.covered
  case awaited => exact h.awaited
  case awaitedOnce => exact h.awaitedOnce

/-- The invariant is kept when the walk passes a target that is finished. -/
theorem Walk.Sound.skip {w : Walk} {roots : List Project} {current target : Project}
    {pending : List Project} {outer : List Frame} (h : w.Sound g roots)
    (stack : w.stack = ⟨current, target :: pending⟩ :: outer) (finished : w.Finished target) :
    ({ w with stack := ⟨current, pending⟩ :: outer } : Walk).Sound g roots := by
  have nested := h.nested
  rw [stack] at nested
  obtain ⟨refs, isRef, -, rest⟩ := nested
  have same : ∀ q, ({ w with stack := ⟨current, pending⟩ :: outer } : Walk).Finished q ↔
      w.Finished q := by
    intro q
    simp [Walk.Finished, stack]
  constructor
  case inUse => exact h.inUse
  case fresh => exact h.fresh
  case once => exact h.once
  case readable => exact h.readable
  case nested =>
    -- The target moves from the pending ones to those that are finished.
    refine ⟨fun t ht => ?_, fun t ht => isRef t (List.mem_cons_of_mem _ ht), nofun,
      rest.mono fun q hq => (same q).2 hq⟩
    rcases refs t ht with h | h | h
    · rcases List.mem_cons.1 h with rfl | h
      · exact Or.inr (Or.inl ((same t).2 finished))
      · exact Or.inl h
    · exact Or.inr (Or.inl ((same t).2 h))
    · cases h
  case walked =>
    intro f hf
    rcases List.mem_cons.1 hf with rfl | hf
    · exact h.walked ⟨current, target :: pending⟩ (by simp [stack])
    · exact h.walked f (stack ▸ List.mem_cons_of_mem _ hf)
  case walkedOnce => simpa [stack] using h.walkedOnce
  case finished =>
    intro q hq
    obtain ⟨acc, closed⟩ := h.finished q ((same q).1 hq)
    exact ⟨acc, fun t ht => (same t).2 (closed t ht)⟩
  case covered => exact h.covered
  case awaited => exact h.awaited
  case awaitedOnce => exact h.awaitedOnce

/-- The target in front of the innermost pending ones is referred to by a project in use. -/
theorem Walk.Sound.refers_target {w : Walk} {roots : List Project} {current target : Project}
    {pending : List Project} {outer : List Frame} (h : w.Sound g roots)
    (stack : w.stack = ⟨current, target :: pending⟩ :: outer) :
    g.InUse current ∧ g.Refers current target := by
  have nested := h.nested
  rw [stack] at nested
  exact ⟨h.inUse _ (h.walked ⟨current, target :: pending⟩ (by simp [stack])),
    nested.2.1 target List.mem_cons_self⟩

end SolutionSweep.ProjectGraph
