import SolutionSweep.Proofs.Graph.WalkInvariant
import SolutionSweep.Proofs.Table

/-!
# The walk decides usage

Every walk either comes to its end, with exactly the projects in use met, or stops with an error
that is justified by the graph.

* `Justified`: what an error says about the graph;
* `Reports`: a missing descriptor is reported exactly if it has been asked for;
* `walk_ends`: a walk that satisfies the invariant ends in one of the two ways;
* `reachability_exact`: the classification of a walk that comes to its end;
* `reachability_isOk_iff`: when there is a classification, and what the errors witness.
-/

namespace SolutionSweep.ProjectGraph

variable {g : ProjectGraph}

/-- Errors that name a project in use without a descriptor, or a circle of projects in use. -/
inductive Justified (g : ProjectGraph) : GraphError → Prop
  | root {p : Project} : p ∈ g.roots → g.read p.path = none →
      Justified g (.missing p.path p.id none)
  | target {e t : Project} : g.InUse e → g.Refers e t → g.read t.path = none →
      Justified g (.missing t.path t.id (some e.id))
  | cycle {t : Project} {rest : List Project} : (∀ p ∈ t :: rest, g.InUse p) →
      (t :: rest).Nodup → List.IsChain g.Refers (t :: rest ++ [t]) →
      Justified g (.cycle ((t :: rest ++ [t]).map (·.id)))

/-- A missing descriptor is reported exactly if it has been asked for: a walk that asks for one
ends there. -/
def Reports (g : ProjectGraph) (asked : List Project) (e : GraphError) : Prop :=
  ∀ path, (∃ p ∈ asked, p.path = path ∧ g.read path = none) ↔
    ∃ entry referencedFrom, e = .missing path entry referencedFrom

/-- How a walk may end: with every root finished, or with a justified error. Either way no project
has been asked for twice, and none that is not in use. -/
def Ends (g : ProjectGraph) : Walk × Option GraphError → Prop
  | (w, none) => w.Sound g [] ∧ w.stack = []
  | (w, some e) => w.visited.Nodup ∧ (∀ p ∈ w.visited, g.InUse p) ∧ g.Justified e ∧
      g.Reports w.visited e

/-- A walk that stops at a project without a descriptor has asked for it as for any other. -/
theorem Walk.Sound.enter_missing {w : Walk} {roots : List Project} (h : w.Sound g roots)
    {p : Project} (inUse : g.InUse p) (new : p ∉ w.visited) :
    (p :: w.visited).Nodup ∧ ∀ q ∈ p :: w.visited, g.InUse q := by
  refine ⟨List.nodup_cons.2 ⟨new, h.once⟩, fun q hq => ?_⟩
  rcases List.mem_cons.1 hq with rfl | hq
  · exact inUse
  · exact h.inUse q hq

/-- The project that a walk stops at is the only one without a descriptor. -/
theorem Walk.Sound.reports_missing {w : Walk} {roots : List Project} (h : w.Sound g roots)
    {p : Project} (missing : g.read p.path = none) (referencedFrom : Option EntryId) :
    g.Reports (p :: w.visited) (.missing p.path p.id referencedFrom) := by
  intro path
  constructor
  · rintro ⟨q, hq, rfl, unread⟩
    rcases List.mem_cons.1 hq with rfl | hq
    · exact ⟨_, _, rfl⟩
    · obtain ⟨descriptor, readable⟩ := h.readable q hq
      cases unread.symm.trans readable
  · rintro ⟨entry, referencedFrom', eq⟩
    cases eq
    exact ⟨p, List.mem_cons_self, rfl, missing⟩

/-- A walk that stops at a circle has found every descriptor. -/
theorem Walk.Sound.reports_cycle {w : Walk} {roots : List Project} (h : w.Sound g roots)
    (chain : List EntryId) : g.Reports w.visited (.cycle chain) := by
  intro path
  constructor
  · rintro ⟨q, hq, rfl, unread⟩
    obtain ⟨descriptor, readable⟩ := h.readable q hq
    cases unread.symm.trans readable
  · rintro ⟨entry, referencedFrom, eq⟩
    cases eq

/-- A reference to a project that is still being walked closes a circle. -/
theorem Walk.Sound.cycleTo (distinct : g.Distinct) {w : Walk} {roots : List Project}
    {current target : Project} {pending : List Project} {outer : List Frame}
    (h : w.Sound g roots) (stack : w.stack = ⟨current, target :: pending⟩ :: outer)
    (walked : target.id ∈ w.chain) : g.Justified (.cycle (w.cycleTo target.id)) := by
  obtain ⟨-, refers⟩ := h.refers_target stack
  have inUse : ∀ p ∈ (w.stack.map (·.project)).reverse, g.InUse p := by
    intro p hp
    obtain ⟨f, hf, rfl⟩ := List.mem_map.1 (List.mem_reverse.1 hp)
    exact h.inUse _ (h.walked f hf)
  have once : (w.stack.map (·.project)).reverse.Nodup := List.nodup_reverse.2 h.walkedOnce
  have chain : List.IsChain g.Refers ((w.stack.map (·.project)).reverse ++ [target]) := by
    have nested := h.nested
    rw [stack] at nested ⊢
    exact nested.inward.isChain
  have ids : w.chain = (w.stack.map (·.project)).reverse.map (·.id) := by simp [Walk.chain]
  have mem : target ∈ (w.stack.map (·.project)).reverse := by
    rw [ids] at walked
    obtain ⟨p, hp, eq⟩ := List.mem_map.1 walked
    rwa [distinct.eq_of_id refers.first.mem (inUse p hp).mem eq.symm]
  -- What is walked outside of the target does not belong to the circle.
  obtain ⟨before, rest, split⟩ := List.append_of_mem mem
  rw [split] at inUse once chain ids
  have outside : ∀ p ∈ before, p.id ≠ target.id := by
    intro p hp eq
    have same : p = target :=
      distinct.eq_of_id (inUse p (by simp [hp])).mem refers.first.mem eq
    exact (List.nodup_append.1 once).2.2 p hp target List.mem_cons_self same
  have dropped : w.cycleTo target.id = (target :: rest ++ [target]).map (·.id) := by
    unfold Walk.cycleTo
    rw [ids, List.map_append, List.dropWhile_append_of_pos]
    · simp
    · intro id hid
      obtain ⟨p, hp, rfl⟩ := List.mem_map.1 hid
      simpa using outside p hp
  rw [dropped]
  refine Justified.cycle (fun p hp => inUse p (List.mem_append_right _ hp))
    (List.nodup_append.1 once).2.1 ?_
  rw [List.append_assoc] at chain
  exact (List.isChain_append.1 chain).2.1

/-- **Every walk ends as it should.** -/
theorem walk_ends (distinct : g.Distinct) (roots : List Project) (w : Walk)
    (h : w.Sound g roots) : g.Ends (g.walk roots w) := by
  fun_induction ProjectGraph.walk g roots w with
  | case1 w stack => exact ⟨h, stack⟩
  -- A root comes next: its descriptor is missing, or it is entered.
  | case2 w stack root rest missing =>
    obtain ⟨isRoot, new⟩ := h.awaited root List.mem_cons_self
    obtain ⟨once, inUse⟩ := h.enter_missing (.root isRoot) new
    exact ⟨once, inUse, .root isRoot missing, h.reports_missing missing none⟩
  | case3 w stack root rest descriptor readable ih =>
    obtain ⟨isRoot, new⟩ := h.awaited root List.mem_cons_self
    obtain ⟨unlisted, once⟩ := List.nodup_cons.1 h.awaitedOnce
    have same : ([] : List Frame).map (·.project) = w.stack.map (·.project) := by simp [stack]
    have entered := h.enter distinct same (.root isRoot) new readable
      trivial (fun q hq => List.mem_cons.1 hq)
      (fun q hq => ⟨List.mem_cons_of_mem _ hq, fun eq => unlisted (eq ▸ hq)⟩) once
    rw [← stack] at entered
    exact ih entered
  | case4 roots w project outer stack ih => exact ih (h.leave stack)
  -- A target that has not been met comes next: again it is missing or entered.
  | case5 roots w current target pending outer stack next fresh missing =>
    obtain ⟨current_inUse, refers⟩ := h.refers_target stack
    have new := (h.fresh target refers.first.mem).1 fresh
    obtain ⟨once, inUse⟩ := h.enter_missing (.step current_inUse refers) new
    exact ⟨once, inUse, .target current_inUse refers missing, h.reports_missing missing _⟩
  | case6 roots w current target pending outer stack next fresh descriptor readable ih =>
    obtain ⟨current_inUse, refers⟩ := h.refers_target stack
    have new := (h.fresh target refers.first.mem).1 fresh
    -- Roots are no targets, so the roots still to be walked are the same as before.
    have unlisted : target ∉ roots := by
      intro listed
      have root := (mem_roots.1 (h.awaited target listed).1).2
      rw [refers.external] at root
      cases root
    have nested := h.nested
    rw [stack] at nested
    exact ih (h.enter distinct (by simp [stack]) (.step current_inUse refers) new readable
      nested.inward (fun q hq => Or.inr hq) (fun q hq => ⟨hq, fun eq => unlisted (eq ▸ hq)⟩)
      h.awaitedOnce)
  -- A target that has been met is still being walked, or it is finished.
  | case7 roots w current target pending outer stack met walked =>
    exact ⟨h.once, h.inUse, h.cycleTo distinct stack walked, h.reports_cycle _⟩
  | case8 roots w current target pending outer stack next met unwalked ih =>
    obtain ⟨-, refers⟩ := h.refers_target stack
    have visited : target ∈ w.visited := by
      by_contra new
      exact met ((h.fresh target refers.first.mem).2 new)
    refine ih (h.skip stack ⟨visited, fun mem => unwalked ?_⟩)
    obtain ⟨f, hf, eq⟩ := List.mem_map.1 mem
    simp only [Walk.chain, List.mem_reverse, List.mem_map]
    exact ⟨f, hf, congrArg Project.id eq⟩

/-! ### The whole walk -/

/-- A project that is accessible along the references lies on no circle. -/
theorem not_transGen_self {p : Project} (acc : Acc (fun t e => g.Refers e t) p) :
    ¬ Relation.TransGen g.Refers p p := by
  intro circle
  replace acc := acc.transGen
  induction acc with
  | intro q _ ih => exact ih q (Relation.transGen_swap.2 circle) circle

/-- A walk that comes to its end has asked once for each project in use and for no other; all of
their descriptors are there, and none of them lies on a circle. -/
theorem traverse_complete (distinct : g.Distinct) {asked : List Project}
    (h : g.traverse = (asked, none)) :
    asked.Nodup ∧ (∀ p, p ∈ asked ↔ g.InUse p) ∧
      (∀ p, g.InUse p → (g.read p.path).isSome) ∧
      ∀ p, g.InUse p → ¬ Relation.TransGen g.Refers p p := by
  have ends := walk_ends distinct _ _ (start_sound distinct)
  unfold traverse at h
  generalize walk g g.roots g.start = result at ends h
  obtain ⟨w, error⟩ := result
  obtain ⟨rfl, rfl⟩ : w.visited.reverse = asked ∧ error = none := by simpa using h
  obtain ⟨sound, stack⟩ := ends
  -- Nothing is being walked any more, so whatever has been met is finished.
  have finished : ∀ p, w.Finished p ↔ p ∈ w.visited := by simp [Walk.Finished, stack]
  have met : ∀ p, g.InUse p → p ∈ w.visited := by
    intro p hp
    induction hp with
    | root h => simpa using sound.covered _ h
    | step _ refers ih => exact (finished _).1 ((sound.finished _ ((finished _).2 ih)).2 _ refers)
  refine ⟨List.nodup_reverse.2 sound.once, fun p => ?_, fun p hp => ?_, fun p hp => ?_⟩
  · rw [List.mem_reverse]
    exact ⟨sound.inUse p, met p⟩
  · obtain ⟨descriptor, readable⟩ := sound.readable p (met p hp)
    simp [readable]
  · exact not_transGen_self (sound.finished p ((finished p).2 (met p hp))).1

/-- A walk that stops early does so for a reason, and at the first descriptor that is missing. -/
theorem traverse_justified (distinct : g.Distinct) {asked : List Project} {e : GraphError}
    (h : g.traverse = (asked, some e)) :
    asked.Nodup ∧ (∀ p ∈ asked, g.InUse p) ∧ g.Justified e ∧ g.Reports asked e := by
  have ends := walk_ends distinct _ _ (start_sound distinct)
  unfold traverse at h
  generalize walk g g.roots g.start = result at ends h
  obtain ⟨w, error⟩ := result
  obtain ⟨rfl, rfl⟩ : w.visited.reverse = asked ∧ error = some e := by simpa using h
  obtain ⟨once, inUse, justified, reports⟩ := ends
  refine ⟨List.nodup_reverse.2 once, fun p hp => inUse p (List.mem_reverse.1 hp), justified, ?_⟩
  simpa [Reports] using reports

/-- A chain of references that leads back to where it starts. -/
theorem transGen_of_isChain {t : Project} {rest : List Project}
    (chain : List.IsChain g.Refers (t :: rest ++ [t])) : Relation.TransGen g.Refers t t := by
  obtain ⟨next, others, eq⟩ := List.exists_cons_of_ne_nil (show rest ++ [t] ≠ [] by simp)
  rw [List.cons_append, eq] at chain
  obtain ⟨refers, chain⟩ := List.isChain_cons_cons.1 chain
  refine Relation.TransGen.head' refers
    (List.relationReflTransGen_of_exists_isChain_cons others chain ?_)
  simp [← eq]

/-- An error that is justified shows a project in use without a descriptor or on a circle. -/
theorem Justified.not_complete {e : GraphError} (h : g.Justified e) :
    ¬ ((∀ p, g.InUse p → (g.read p.path).isSome) ∧
      ∀ p, g.InUse p → ¬ Relation.TransGen g.Refers p p) := by
  rintro ⟨readable, acyclic⟩
  cases h with
  | root root missing => simpa [missing] using readable _ (.root root)
  | target inUse refers missing => simpa [missing] using readable _ (.step inUse refers)
  | cycle inUse once chain =>
    exact acyclic _ (inUse _ List.mem_cons_self) (transGen_of_isChain chain)

/-- A missing descriptor is that of a project in use, and the error tells how it got into use. -/
theorem Justified.missing {path : Path} {entry : EntryId} {referencedFrom : Option EntryId}
    (h : g.Justified (.missing path entry referencedFrom)) :
    ∃ p, g.InUse p ∧ p.id = entry ∧ p.path = path ∧ g.read path = none ∧
      (referencedFrom = none ↔ g.isRoot p = true) ∧
      ∀ id, referencedFrom = some id → ∃ e, g.InUse e ∧ e.id = id ∧ g.Refers e p := by
  cases h with
  | root root missing =>
    exact ⟨_, .root root, rfl, rfl, missing, by simp [(mem_roots.1 root).2], by simp⟩
  | target inUse refers missing =>
    refine ⟨_, .step inUse refers, rfl, rfl, missing, by simp [refers.external], ?_⟩
    intro id eq
    exact ⟨_, inUse, Option.some.inj eq, refers⟩

/-- A circle consists of projects in use that are no roots, and is not closed before its end. -/
theorem Justified.circle {circle : List EntryId} (distinct : g.Distinct)
    (h : g.Justified (.cycle circle)) :
    ∃ ps : List Project, circle = ps.map (·.id) ∧ 2 ≤ circle.length ∧
      circle.head? = circle.getLast? ∧ circle.dropLast.Nodup ∧
      List.IsChain g.Refers ps ∧ ∀ p ∈ ps, g.InUse p ∧ g.isRoot p = false := by
  obtain @⟨_, _, _⟩ | ⟨_, _, _⟩ | @⟨t, rest, inUse, once, chain⟩ := h
  have external : ∀ p ∈ rest ++ [t], g.isRoot p = false := by
    intro p hp
    obtain ⟨e, refers⟩ := exists_refers_of_isChain chain hp
    exact refers.external
  refine ⟨t :: rest ++ [t], rfl, by simp, ?_, ?_, chain, fun p hp => ?_⟩
  · rw [List.map_append, List.map_singleton, List.getLast?_concat]
    rfl
  · rw [List.map_append, List.map_singleton, List.dropLast_concat]
    refine List.Nodup.map_on (fun p hp q hq eq => ?_) once
    exact distinct.eq_of_id (inUse p hp).mem (inUse q hq).mem eq
  · have mem : p ∈ t :: rest ∧ p ∈ rest ++ [t] := by
      simp only [List.cons_append, List.mem_cons, List.mem_append, List.not_mem_nil] at hp ⊢
      tauto
    exact ⟨inUse p mem.1, external p mem.2⟩

/-! ### The classification -/

open Classical in
/-- **The classification is exact.** If there is one, the projects in use are those that the roots
lead to, the unused projects are the externals that they do not lead to, and each project in use,
and no other, has been asked for its descriptor, once. -/
theorem reachability_exact (distinct : g.Distinct) {r : Reachability}
    (classified : g.reachability = .ok r) :
    (∀ id, id ∈ r.reachable ↔ ∃ p, g.InUse p ∧ p.id = id) ∧
      r.unused = r.externals.filter (fun p => ¬ g.InUse p) ∧
      r.roots = g.projects.filter
        (fun p => !Reference.isExternal g.cwd g.directory p.relativePath) ∧
      r.externals = g.projects.filter
        (fun p => Reference.isExternal g.cwd g.directory p.relativePath) ∧
      (r.roots ++ r.externals).Perm g.projects ∧
      (∃ asked, g.traverse = (asked, none) ∧ asked.Nodup ∧ (∀ p, p ∈ asked ↔ g.InUse p) ∧
        r.descriptorsRead = asked.length) ∧
      r.reachable.Nodup ∧ r.descriptorsRead = r.reachable.length := by
  unfold reachability at classified
  split at classified
  · cases classified
  rename_i asked done
  obtain rfl := Except.ok.inj classified
  obtain ⟨once, mem, -, -⟩ := traverse_complete distinct done
  have ids : (asked.map (·.id)).Nodup := by
    refine List.Nodup.map_on (fun p hp q hq eq => ?_) once
    exact distinct.eq_of_id ((mem p).1 hp).mem ((mem q).1 hq).mem eq
  have reachable : ∀ id, id ∈ asked.map (·.id) ↔ ∃ p, g.InUse p ∧ p.id = id := by
    simp [mem]
  -- No identifier is met twice, so none is dropped from the result.
  have same : firsts id (asked.map (·.id)) = asked.map (·.id) := firsts_eq_self (by simpa using ids)
  refine ⟨by simpa using reachable, ?_, rfl, ?_, ?_, ⟨asked, done, once, mem, rfl⟩, ?_, ?_⟩
  · simp only [unusedGiven, externals, same, List.filter_filter]
    refine List.filter_congr fun p hp => ?_
    have root : g.rootIds.contains p.id = g.isRoot p := by
      rw [Bool.eq_iff_iff, List.contains_iff_mem, distinct.id_mem_rootIds hp]
    have used : (asked.map (·.id)).contains p.id = decide (g.InUse p) := by
      rw [Bool.eq_iff_iff, List.contains_iff_mem, reachable, decide_eq_true_iff]
      constructor
      · rintro ⟨q, hq, eq⟩
        exact distinct.eq_of_id hq.mem hp eq ▸ hq
      · intro h
        exact ⟨p, h, rfl⟩
    rw [root, used, Bool.and_comm, decide_not]
  · simp [externals, isRoot]
  · exact List.filter_append_perm g.isRoot g.projects
  · rwa [same]
  · simp [same]

/-! ### Short walks -/

/-- The walk from a first root without a descriptor. -/
theorem traverse_of_missing {root : Project} {rest : List Project} (roots : g.roots = root :: rest)
    (missing : g.read root.path = none) :
    g.traverse = ([root], some (.missing root.path root.id none)) := by
  unfold traverse
  rw [roots, ProjectGraph.walk]
  simp [start, missing, Walk.enter]

/-- The walk from a single root that leads nowhere. -/
theorem traverse_of_root {root : Project} {descriptor : Text} (roots : g.roots = [root])
    (readable : g.read root.path = some descriptor) (targets : g.targets root descriptor = []) :
    g.traverse = ([root], none) := by
  unfold traverse
  rw [roots, ProjectGraph.walk]
  simp [start, readable, targets, Walk.enter, ProjectGraph.walk]

/-- The walk from a single root that leads to one other project. -/
theorem traverse_of_reference {root target : Project} {descriptor descriptor' : Text}
    (roots : g.roots = [root]) (readable : g.read root.path = some descriptor)
    (targets : g.targets root descriptor = [target]) (registered : target ∈ g.projects)
    (other : target.id ≠ root.id) (readable' : g.read target.path = some descriptor')
    (targets' : g.targets target descriptor' = []) :
    g.traverse = ([root, target], none) := by
  have fresh : target.id ∈ (g.projects.map (·.id)).filter (· != root.id) := by
    simpa [other] using ⟨target, registered, rfl⟩
  unfold traverse
  rw [roots, start, ProjectGraph.walk]
  simp only [readable, targets, Walk.enter]
  rw [ProjectGraph.walk]
  simp only [fresh, readable', targets', Walk.enter]
  simp [ProjectGraph.walk]

/-! ### A solution of three projects -/

/-- The descriptor of a project that refers to `../b`. -/
def referenceToB : Text := "<ProjectReference Include='../b'/>".toList

/-- In the directory `/s` the root `a`, which refers to `b`; outside of it `b` and `c`. -/
def threeProjects : ProjectGraph where
  cwd := ⟨.single, ["s".toList]⟩
  directory := ⟨.single, ["s".toList]⟩
  projects := [
    ⟨"A".toList, "a".toList, "a".toList, ⟨.single, ["s".toList, "a".toList]⟩, []⟩,
    ⟨"B".toList, "b".toList, "../b".toList, ⟨.single, ["b".toList]⟩, []⟩,
    ⟨"C".toList, "c".toList, "../c".toList, ⟨.single, ["c".toList]⟩, []⟩]
  read p := if p.name = "a".toList then some referenceToB else some []

theorem distinct_threeProjects : threeProjects.Distinct := by
  unfold Distinct
  decide

/-- The walk asks for `a` and then for `b`. -/
theorem traverse_threeProjects :
    threeProjects.traverse = ([threeProjects.projects[0], threeProjects.projects[1]], none) := by
  have read_a : threeProjects.read threeProjects.projects[0].path = some referenceToB := by
    decide +kernel
  have read_b : threeProjects.read threeProjects.projects[1].path = some [] := by decide +kernel
  exact traverse_of_reference (by decide +kernel) read_a (by decide +kernel) (List.getElem_mem _)
    (by decide) read_b (by decide +kernel)

/-- Of the three projects, `c` is the one that is not in use. -/
theorem reachability_exact_threeProjects :
    ∃ r, threeProjects.Distinct ∧ threeProjects.reachability = .ok r ∧
      r.reachable = ["A".toList, "B".toList] ∧
      ∀ id, id ∈ ["A".toList, "B".toList] ↔ ∃ p, threeProjects.InUse p ∧ p.id = id := by
  have classified : ∃ r, threeProjects.reachability = .ok r ∧
      r.reachable = ["A".toList, "B".toList] := by
    unfold reachability
    rw [traverse_threeProjects]
    exact ⟨_, rfl, rfl⟩
  obtain ⟨r, classified, reachable⟩ := classified
  refine ⟨r, distinct_threeProjects, classified, reachable, ?_⟩
  rw [← reachable]
  exact (reachability_exact distinct_threeProjects classified).1

/-- **There is a classification exactly if every project in use has a descriptor and none of them
lies on a circle; otherwise the error shows one.** A missing descriptor is that of a project in use,
reported together with a project in use that refers to it, or with none exactly if it is a root. A
circle is a chain of references between projects in use, none of them a root, that leads back to
where it starts and nowhere else twice. Whichever way it ends, no project is asked twice for its
descriptor. -/
theorem reachability_isOk_iff (distinct : g.Distinct) :
    ((∃ r, g.reachability = .ok r) ↔
      (∀ p, g.InUse p → (g.read p.path).isSome) ∧
        ∀ p, g.InUse p → ¬ Relation.TransGen g.Refers p p) ∧
    (∀ path entry referencedFrom,
      g.reachability = .error (.missing path entry referencedFrom) →
        ∃ p, g.InUse p ∧ p.id = entry ∧ p.path = path ∧ g.read path = none ∧
          (referencedFrom = none ↔ g.isRoot p = true) ∧
          ∀ id, referencedFrom = some id → ∃ e, g.InUse e ∧ e.id = id ∧ g.Refers e p) ∧
    (∀ circle, g.reachability = .error (.cycle circle) →
      ∃ ps : List Project, circle = ps.map (·.id) ∧ 2 ≤ circle.length ∧
        circle.head? = circle.getLast? ∧ circle.dropLast.Nodup ∧
        List.IsChain g.Refers ps ∧ ∀ p ∈ ps, g.InUse p ∧ g.isRoot p = false) ∧
    g.traverse.1.Nodup ∧ ∀ p ∈ g.traverse.1, g.InUse p := by
  unfold reachability
  rcases traversed : g.traverse with ⟨asked, error⟩
  cases error with
  | none =>
    obtain ⟨once, mem, complete⟩ := traverse_complete distinct traversed
    exact ⟨⟨fun _ => complete, fun _ => ⟨_, rfl⟩⟩, by simp, by simp, once, fun p hp => (mem p).1 hp⟩
  | some e =>
    obtain ⟨once, mem, justified, -⟩ := traverse_justified distinct traversed
    refine ⟨⟨by simp, fun complete => absurd complete justified.not_complete⟩, ?_, ?_, once, mem⟩
    · intro path entry referencedFrom eq
      obtain rfl : e = _ := Except.error.inj eq
      exact justified.missing
    · intro circle eq
      obtain rfl : e = _ := Except.error.inj eq
      exact justified.circle distinct

/-- The three projects can be classified, so all that are in use have descriptors. -/
theorem reachability_isOk_iff_threeProjects :
    threeProjects.Distinct ∧ (∃ r, threeProjects.reachability = .ok r) ∧
      ∀ p, threeProjects.InUse p → (threeProjects.read p.path).isSome := by
  have classified : ∃ r, threeProjects.reachability = .ok r := by
    unfold reachability
    rw [traverse_threeProjects]
    exact ⟨_, rfl⟩
  exact ⟨distinct_threeProjects, classified,
    ((reachability_isOk_iff distinct_threeProjects).1.1 classified).1⟩

end SolutionSweep.ProjectGraph
