import SolutionSweep.Graph.Reachability
import Mathlib.Logic.Relation
import Mathlib.Data.List.Nodup

/-!
# References between projects, and the projects in use

The walk follows lists of targets. Here the same references are a relation that does not mention
the walk, and the projects in use are its closure.

* `Distinct`: no two projects of a graph share an identifier;
* `StandsFirst`: a project is the first one in the list that stands for its file;
* `Refers e t`: the descriptor of `e` names the file of `t`, which stands first and is no root;
* `InUse`: the least set of projects that contains the roots and is closed under `Refers`;
* `mem_targets`: the targets of a descriptor are exactly the projects it refers to.
-/

namespace SolutionSweep.ProjectGraph

/-- No two projects share an identifier. -/
def Distinct (g : ProjectGraph) : Prop := (g.projects.map (·.id)).Nodup

/-- A project that is the first one in the list to stand for its file. -/
def StandsFirst (g : ProjectGraph) (p : Project) : Prop :=
  ∃ before after, g.projects = before ++ p :: after ∧ ∀ q ∈ before, q.path.key ≠ p.path.key

/-- The descriptor of `e` can be read and one of its references names the file of `t`. -/
def Names (g : ProjectGraph) (e t : Project) : Prop :=
  ∃ descriptor, g.read e.path = some descriptor ∧
    ∃ r ∈ ProjectReference.extract descriptor,
      (Reference.path g.cwd e.path.parent r.path).key = t.path.key

/-- The references that count: to the first project that stands for a file, unless it is a root. -/
structure Refers (g : ProjectGraph) (e t : Project) : Prop where
  names : g.Names e t
  first : g.StandsFirst t
  external : g.isRoot t = false

/-- The projects that the roots lead to. -/
inductive InUse (g : ProjectGraph) : Project → Prop
  | root {p : Project} : p ∈ g.roots → g.InUse p
  | step {e t : Project} : g.InUse e → g.Refers e t → g.InUse t

variable {g : ProjectGraph}

theorem mem_roots {p : Project} : p ∈ g.roots ↔ p ∈ g.projects ∧ g.isRoot p = true := by
  simp [roots]

theorem StandsFirst.mem {p : Project} (h : g.StandsFirst p) : p ∈ g.projects := by
  obtain ⟨before, after, eq, -⟩ := h
  simp [eq]

theorem InUse.mem {p : Project} (h : g.InUse p) : p ∈ g.projects := by
  cases h with
  | root h => exact (mem_roots.1 h).1
  | step _ h => exact h.first.mem

/-- Under distinct identifiers a project is told by its identifier. -/
theorem Distinct.eq_of_id (h : g.Distinct) {p q : Project} (hp : p ∈ g.projects)
    (hq : q ∈ g.projects) (eq : p.id = q.id) : p = q :=
  List.inj_on_of_nodup_map h hp hq eq

theorem Distinct.nodup (h : g.Distinct) : g.projects.Nodup := List.Nodup.of_map _ h

/-- The identifiers of roots tell roots from the other projects. -/
theorem Distinct.id_mem_rootIds (h : g.Distinct) {p : Project} (hp : p ∈ g.projects) :
    p.id ∈ g.rootIds ↔ g.isRoot p = true := by
  simp only [rootIds, List.mem_map, mem_roots]
  constructor
  · rintro ⟨q, ⟨hq, root⟩, eq⟩
    rwa [← h.eq_of_id hq hp eq]
  · intro root
    exact ⟨p, ⟨hp, root⟩, rfl⟩

/-- The project found for a file is the first one in the list that stands for it. -/
theorem projectAt?_eq_some_iff {file : Path} {p : Project} :
    g.projectAt? file = some p ↔ file.key = p.path.key ∧ g.StandsFirst p := by
  unfold projectAt? StandsFirst
  rw [List.find?_eq_some_iff_append]
  constructor
  · rintro ⟨key, before, after, eq, others⟩
    have key : p.path.key = file.key := by simpa using key
    refine ⟨key.symm, before, after, eq, fun q hq same => ?_⟩
    have := others q hq
    simp [same, key] at this
  · rintro ⟨key, before, after, eq, others⟩
    refine ⟨by simp [key], before, after, eq, fun q hq => ?_⟩
    simpa [key] using others q hq

/-- One project stands first for a file. -/
theorem StandsFirst.eq_of_key {p q : Project} (hp : g.StandsFirst p) (hq : g.StandsFirst q)
    (same : p.path.key = q.path.key) : p = q := by
  have found := projectAt?_eq_some_iff.2 ⟨same.symm, hp⟩
  exact Option.some.inj (found.symm.trans (projectAt?_eq_some_iff.2 ⟨rfl, hq⟩))

/-- Projects of one file are named by the same projects. -/
theorem Names.of_key {e p q : Project} (names : g.Names e p) (same : p.path.key = q.path.key) :
    g.Names e q := by
  obtain ⟨descriptor, readable, reference, mem, key⟩ := names
  exact ⟨descriptor, readable, reference, mem, key.trans same⟩

/-- Some project stands first for the file of a registered one. -/
theorem exists_standsFirst {p : Project} (mem : p ∈ g.projects) :
    ∃ q, q.path.key = p.path.key ∧ g.StandsFirst q := by
  obtain ⟨q, found⟩ : ∃ q, g.projectAt? p.path = some q := by
    rw [← Option.isSome_iff_exists, projectAt?, List.find?_isSome]
    exact ⟨p, mem, by simp⟩
  obtain ⟨key, first⟩ := projectAt?_eq_some_iff.1 found
  exact ⟨q, key.symm, first⟩

/-- **The targets of a descriptor are the projects that it refers to.** -/
theorem mem_targets (h : g.Distinct) {e t : Project} {descriptor : Text}
    (readable : g.read e.path = some descriptor) :
    t ∈ g.targets e descriptor ↔ g.Refers e t := by
  simp only [targets, List.mem_filter, List.mem_filterMap, projectAt?_eq_some_iff]
  constructor
  · rintro ⟨⟨r, hr, key, first⟩, noRoot⟩
    have noRoot : ¬ t.id ∈ g.rootIds := by simpa using noRoot
    rw [h.id_mem_rootIds first.mem] at noRoot
    exact ⟨⟨descriptor, readable, r, hr, key⟩, first, by simpa using noRoot⟩
  · rintro ⟨⟨d, hd, r, hr, key⟩, first, external⟩
    obtain rfl : d = descriptor := Option.some.inj (hd.symm.trans readable)
    refine ⟨⟨r, hr, key, first⟩, ?_⟩
    have noRoot : ¬ t.id ∈ g.rootIds := by rw [h.id_mem_rootIds first.mem]; simp [external]
    simpa using noRoot

end SolutionSweep.ProjectGraph
