import SolutionSweep.Proofs.Graph.Exactness
import Mathlib.Data.List.Perm.Basic

/-!
# The graph of the projects in use

If a graph keeps the projects that another one has in use, and no others, the references between
them are the same: a reference that leads to a project in use still leads there, since whatever
stood for the file before it would be in use as well. So every project of the smaller graph is in
use, and the walk along it asks for as many descriptors.

* `mem_unused_iff`: the unused projects are those that are not in use;
* `Restriction`: a graph with the projects that are in use in another one;
* `Restriction.reachability`: in such a graph nothing is unused.
-/

namespace SolutionSweep.ProjectGraph

/-! ### Classifications -/

section Classification

variable {g : ProjectGraph} {r : Reachability}

/-- A classification is that of a walk that comes to its end. -/
theorem exists_traverse (classified : g.reachability = .ok r) :
    ∃ asked, g.traverse = (asked, none) ∧ r.descriptorsRead = asked.length ∧
      r.unused = g.unusedGiven (firsts id (asked.map (·.id))) := by
  unfold ProjectGraph.reachability at classified
  split at classified
  · cases classified
  · rename_i asked done
    cases classified
    exact ⟨asked, done, rfl, rfl⟩

/-- A walk that comes to its end gives a classification. -/
theorem exists_reachability {asked : List Project} (done : g.traverse = (asked, none)) :
    ∃ r, g.reachability = .ok r ∧ r.descriptorsRead = asked.length ∧
      r.unused = g.unusedGiven (firsts id (asked.map (·.id))) := by
  unfold ProjectGraph.reachability
  rw [done]
  exact ⟨_, rfl, rfl, rfl⟩

/-- The projects that have been asked for their descriptors are in use, and all others unused. -/
theorem mem_unusedGiven_iff (distinct : g.Distinct) {asked : List Project}
    (mem : ∀ p, p ∈ asked ↔ g.InUse p) {p : Project} :
    p ∈ g.unusedGiven (firsts id (asked.map (·.id))) ↔ p ∈ g.projects ∧ ¬ g.InUse p := by
  rw [unusedGiven, List.mem_filter]
  refine and_congr_right fun hp => ?_
  simp only [Bool.and_eq_true, Bool.not_eq_true', ← Bool.not_eq_true, List.contains_iff_mem,
    distinct.id_mem_rootIds hp, mem_firsts_id, List.mem_map, mem]
  constructor
  · rintro ⟨-, unmet⟩ inUse
    exact unmet ⟨p, inUse, rfl⟩
  · intro unused
    refine ⟨fun root => unused (.root (mem_roots.2 ⟨hp, root⟩)), ?_⟩
    rintro ⟨q, inUse, same⟩
    exact unused (distinct.eq_of_id inUse.mem hp same ▸ inUse)

/-- **The unused projects are those that are not in use.** -/
theorem mem_unused_iff (distinct : g.Distinct) (classified : g.reachability = .ok r)
    {p : Project} : p ∈ r.unused ↔ p ∈ g.projects ∧ ¬ g.InUse p := by
  obtain ⟨asked, done, -, unused⟩ := exists_traverse classified
  rw [unused]
  exact mem_unusedGiven_iff distinct (traverse_complete distinct done).2.1

end Classification

/-! ### Restrictions -/

open Classical in
/-- The second graph has the projects that are in use in the first one, in their order. They may be
changed by `f` in what the walk does not look at. The descriptors of these projects are the same. -/
structure Restriction (g g' : ProjectGraph) (f : Project → Project) : Prop where
  cwd : g'.cwd = g.cwd
  directory : g'.directory = g.directory
  projects : g'.projects = (g.projects.filter fun p => g.InUse p).map f
  read : ∀ p, g.InUse p → g'.read p.path = g.read p.path
  id : ∀ p, (f p).id = p.id
  relativePath : ∀ p, (f p).relativePath = p.relativePath
  path : ∀ p, (f p).path = p.path

namespace Restriction

variable {g g' : ProjectGraph} {f : Project → Project} {p q e t : Project}

theorem mem_projects_iff (h : g.Restriction g' f) :
    q ∈ g'.projects ↔ ∃ p, g.InUse p ∧ f p = q := by
  simp only [h.projects, List.mem_map, List.mem_filter, decide_eq_true_eq]
  constructor
  · rintro ⟨p, ⟨-, inUse⟩, eq⟩
    exact ⟨p, inUse, eq⟩
  · rintro ⟨p, inUse, eq⟩
    exact ⟨p, ⟨inUse.mem, inUse⟩, eq⟩

/-- The change does not make projects equal. -/
theorem eq_of_map_eq (h : g.Restriction g' f) (distinct : g.Distinct) (hp : g.InUse p)
    (hq : g.InUse q) (eq : f p = f q) : p = q :=
  distinct.eq_of_id hp.mem hq.mem (by rw [← h.id p, ← h.id q, eq])

theorem distinct (h : g.Restriction g' f) (distinct : g.Distinct) : g'.Distinct := by
  have ids : (·.id) ∘ f = fun p : Project => p.id := funext h.id
  unfold Distinct at distinct ⊢
  rw [h.projects, List.map_map, ids]
  exact distinct.sublist (List.filter_sublist.map _)

theorem isRoot (h : g.Restriction g' f) (p : Project) : g'.isRoot (f p) = g.isRoot p := by
  rw [ProjectGraph.isRoot, ProjectGraph.isRoot, h.cwd, h.directory, h.relativePath]

/-! ### References -/

theorem names_iff (h : g.Restriction g' f) (inUse : g.InUse e) :
    g'.Names (f e) (f t) ↔ g.Names e t := by
  rw [Names, Names, h.path, h.path, h.cwd, h.read e inUse]

/-- A project in use that stands first still does. -/
theorem standsFirst (h : g.Restriction g' f) (inUse : g.InUse t) (first : g.StandsFirst t) :
    g'.StandsFirst (f t) := by
  classical
  obtain ⟨before, after, eq, others⟩ := first
  refine ⟨(before.filter fun p => g.InUse p).map f, (after.filter fun p => g.InUse p).map f, ?_, ?_⟩
  · rw [h.projects, eq, List.filter_append, List.filter_cons_of_pos (by simpa using inUse),
      List.map_append, List.map_cons]
  · intro q hq
    obtain ⟨p, hp, rfl⟩ := List.mem_map.1 hq
    rw [h.path, h.path]
    exact others p (List.mem_of_mem_filter hp)

/-- References between projects in use are there in both graphs. -/
theorem refers_iff (h : g.Restriction g' f) (distinct : g.Distinct) (he : g.InUse e)
    (ht : g.InUse t) : g'.Refers (f e) (f t) ↔ g.Refers e t := by
  constructor
  · rintro ⟨names, first, external⟩
    rw [h.names_iff he] at names
    rw [h.isRoot] at external
    -- The project that stands for the file from the start is in use, so it has not gone.
    obtain ⟨q, key, firstOld⟩ := exists_standsFirst ht.mem
    have inUse : g.InUse q := by
      by_cases root : g.isRoot q = true
      · exact .root (mem_roots.2 ⟨firstOld.mem, root⟩)
      · exact .step he ⟨names.of_key key.symm, firstOld, Bool.eq_false_iff.2 root⟩
    have same : f q = f t :=
      (h.standsFirst inUse firstOld).eq_of_key first (by rw [h.path, h.path, key])
    obtain rfl := h.eq_of_map_eq distinct inUse ht same
    exact ⟨names, firstOld, external⟩
  · rintro ⟨names, first, external⟩
    exact ⟨(h.names_iff he).2 names, h.standsFirst ht first, by rw [h.isRoot, external]⟩

/-- In the smaller graph every project is in use. -/
theorem inUse_iff (h : g.Restriction g' f) (distinct : g.Distinct) :
    g'.InUse q ↔ ∃ p, g.InUse p ∧ f p = q := by
  constructor
  · intro inUse
    exact h.mem_projects_iff.1 inUse.mem
  · rintro ⟨p, inUse, rfl⟩
    induction inUse with
    | root root =>
      refine .root (mem_roots.2 ⟨h.mem_projects_iff.2 ⟨_, .root root, rfl⟩, ?_⟩)
      rw [h.isRoot]
      exact (mem_roots.1 root).2
    | step inUse refers ih =>
      exact .step ih ((h.refers_iff distinct inUse (.step inUse refers)).2 refers)

/-- A chain of references in the smaller graph is one in the other graph. -/
theorem exists_transGen (h : g.Restriction g' f) (distinct : g.Distinct) (hp : g.InUse p)
    (chain : Relation.TransGen g'.Refers (f p) q) :
    ∃ t, g.InUse t ∧ f t = q ∧ Relation.TransGen g.Refers p t := by
  induction chain with
  | single refers =>
    obtain ⟨t, ht, rfl⟩ := h.mem_projects_iff.1 refers.first.mem
    exact ⟨t, ht, rfl, .single ((h.refers_iff distinct hp ht).1 refers)⟩
  | tail _ refers ih =>
    obtain ⟨e, he, rfl, front⟩ := ih
    obtain ⟨t, ht, rfl⟩ := h.mem_projects_iff.1 refers.first.mem
    exact ⟨t, ht, rfl, front.tail ((h.refers_iff distinct he ht).1 refers)⟩

/-! ### The classification -/

/-- The walk along the smaller graph comes to its end, with as many descriptors. -/
theorem exists_traverse_eq (h : g.Restriction g' f) (distinct : g.Distinct)
    {asked : List Project} (done : g.traverse = (asked, none)) :
    ∃ asked', g'.traverse = (asked', none) ∧ asked'.length = asked.length ∧
      ∀ q, q ∈ asked' ↔ g'.InUse q := by
  obtain ⟨once, mem, readable, acyclic⟩ := traverse_complete distinct done
  rcases traversed : g'.traverse with ⟨asked', _ | error⟩
  · obtain ⟨once', mem', -, -⟩ := traverse_complete (h.distinct distinct) traversed
    have images : (asked.map f).Nodup := List.Nodup.map_on (fun p hp q hq eq =>
      h.eq_of_map_eq distinct ((mem p).1 hp) ((mem q).1 hq) eq) once
    have perm : asked'.Perm (asked.map f) := by
      rw [List.perm_ext_iff_of_nodup once' images]
      intro q
      rw [mem', h.inUse_iff distinct, List.mem_map]
      simp only [mem]
    exact ⟨asked', rfl, by rw [perm.length_eq, List.length_map], mem'⟩
  · obtain ⟨-, -, justified, -⟩ := traverse_justified (h.distinct distinct) traversed
    refine absurd ⟨fun q hq => ?_, fun q hq circle => ?_⟩ justified.not_complete
    · obtain ⟨p, hp, rfl⟩ := (h.inUse_iff distinct).1 hq
      rw [h.path, h.read p hp]
      exact readable p hp
    · obtain ⟨p, hp, rfl⟩ := (h.inUse_iff distinct).1 hq
      obtain ⟨t, ht, eq, chain⟩ := h.exists_transGen distinct hp circle
      obtain rfl := h.eq_of_map_eq distinct ht hp eq
      exact acyclic t ht chain

/-- **Among the projects in use nothing is unused.** If a graph can be classified, so can its
restriction to the projects in use, with as many descriptors read. -/
theorem reachability (h : g.Restriction g' f) (distinct : g.Distinct) {r : Reachability}
    (classified : g.reachability = .ok r) :
    ∃ r', g'.reachability = .ok r' ∧ r'.unused = [] ∧ r'.descriptorsRead = r.descriptorsRead := by
  obtain ⟨asked, done, count, -⟩ := exists_traverse classified
  obtain ⟨asked', done', count', mem⟩ := h.exists_traverse_eq distinct done
  obtain ⟨r', classified', read, unused⟩ := exists_reachability done'
  refine ⟨r', classified', ?_, by rw [read, count', count]⟩
  rw [unused, List.eq_nil_iff_forall_not_mem]
  intro q hq
  obtain ⟨hq, unused⟩ := (mem_unusedGiven_iff (h.distinct distinct) mem).1 hq
  exact unused ((h.inUse_iff distinct).2 (h.mem_projects_iff.1 hq))

end Restriction

end SolutionSweep.ProjectGraph
