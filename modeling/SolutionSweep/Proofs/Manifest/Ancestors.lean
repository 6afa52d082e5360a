import SolutionSweep.Manifest.Registry
import SolutionSweep.Proofs.Manifest.Climbing
import SolutionSweep.Proofs.Traversal

/-!
# The ancestors of an entry

From an entry a chain leads up: its parent, the parent of that, and so on, until an entry has no
parent or an ancestor has no name. There are only so many parents, so a chain that does not end
comes back to an entry that it has met before. The nested path of an entry is read off its chain.

* `ancestor?`, `ancestors`, `Endless`: the chain of an entry;
* `endless_of_again`: a chain that meets an entry twice does not end;
* `Climbs.follows`: a climb goes up the chain;
* `nestedPath_cases`: what the nested path of an entry comes to;
* `nestedPath_follows_ancestors`: when there is none, and when there is no registry therefore.
-/

namespace SolutionSweep

variable {parents : List (EntryId × EntryId)} {names : List (EntryId × Text)} {id : EntryId}

/-- The entry behind another one in the chain of `id`: the parent, but nothing behind an ancestor
without a name. -/
def above? (parents : List (EntryId × EntryId)) (names : List (EntryId × Text))
    (id current : EntryId) : Option EntryId :=
  if current = id ∨ names.lookup current ≠ none then parents.lookup current else none

/-- The entry at a place of the chain of `id`, which begins with `id` itself. -/
def ancestor? (parents : List (EntryId × EntryId)) (names : List (EntryId × Text))
    (id : EntryId) : Nat → Option EntryId
  | 0 => some id
  | n + 1 => (ancestor? parents names id n).bind (above? parents names id)

/-- The first entries of the chain of `id`, at most `n` of them. -/
def ancestors (parents : List (EntryId × EntryId)) (names : List (EntryId × Text))
    (id : EntryId) (n : Nat) : List EntryId :=
  (List.range n).filterMap (ancestor? parents names id)

/-- The chain of `id` does not end. -/
def Endless (parents : List (EntryId × EntryId)) (names : List (EntryId × Text))
    (id : EntryId) : Prop :=
  ∀ n, ancestor? parents names id n ≠ none

/-! ### The chain -/

theorem ancestors_succ (n : Nat) : ancestors parents names id (n + 1) =
    ancestors parents names id n ++ (ancestor? parents names id n).toList := by
  rw [ancestors, List.range_succ, List.filterMap_append, ancestors]
  cases h : ancestor? parents names id n <;> simp [h]

theorem mem_ancestors {x : EntryId} {n : Nat} :
    x ∈ ancestors parents names id n ↔ ∃ i < n, ancestor? parents names id i = some x := by
  simp [ancestors]

/-- What comes behind an entry of the chain does not depend on its place. -/
theorem ancestor?_add_congr {i j : Nat}
    (same : ancestor? parents names id i = ancestor? parents names id j) (k : Nat) :
    ancestor? parents names id (i + k) = ancestor? parents names id (j + k) := by
  induction k with
  | zero => exact same
  | succ k ih => rw [← Nat.add_assoc, ← Nat.add_assoc, ancestor?, ancestor?, ih]

/-- Behind its end there is nothing in a chain. -/
theorem ancestor?_eq_none_of_le {m n : Nat} (le : m ≤ n)
    (ended : ancestor? parents names id m = none) : ancestor? parents names id n = none := by
  induction le with
  | refl => exact ended
  | step _ ih => rw [ancestor?, ih, Option.bind_none]

/-- **A chain that meets an entry again does not end.** -/
theorem endless_of_again {x : EntryId} {n : Nat} (again : ancestor? parents names id n = some x)
    (met : x ∈ ancestors parents names id n) : Endless parents names id := by
  obtain ⟨i, lt, same⟩ := mem_ancestors.1 met
  -- A chain that ends behind the second place would end as far behind the first one.
  intro m
  induction m using Nat.strongRecOn with
  | _ m ih =>
    intro ended
    by_cases before : m ≤ n
    · rw [ancestor?_eq_none_of_le before ended] at again
      cases again
    · have back := ancestor?_add_congr (same.trans again.symm) (m - n)
      rw [Nat.add_sub_cancel' (by omega), ended] at back
      exact ih _ (by omega) back

/-- Where all its entries have parents, a chain of distinct entries is not longer than the table. -/
theorem length_le_of_lookup {chain : List EntryId} (distinct : chain.Nodup)
    (nested : ∀ x ∈ chain, parents.lookup x ≠ none) : chain.length ≤ parents.length := by
  rw [← List.length_map (f := fun p : EntryId × EntryId => p.1)]
  exact distinct.length_le_of_subset fun x mem => lookup_ne_none_iff.1 (nested x mem)

/-! ### Climbing up the chain -/

/-- How far a climb from `id` has come at a place of the chain: all entries so far are distinct, and
those before have parents. -/
structure Climbed (parents : List (EntryId × EntryId)) (names : List (EntryId × Text))
    (id : EntryId) (n : Nat) (chain : List EntryId) (current : EntryId) (above : List Text) :
    Prop where
  chain_eq : chain = ancestors parents names id (n + 1)
  length : chain.length = n + 1
  at_ : ancestor? parents names id n = some current
  goesOn : current = id ∨ names.lookup current ≠ none
  nested : ∀ x ∈ chain, x ≠ current → parents.lookup x ≠ none
  distinct : chain.Nodup
  above_eq : above = (chain.tail.filterMap fun x => names.lookup x).reverse

/-- The chain of an entry comes back at a place: the entries before it are distinct, and the entry
there is one of them. -/
structure Returns (parents : List (EntryId × EntryId)) (names : List (EntryId × Text))
    (id : EntryId) (n : Nat) (again : EntryId) : Prop where
  at_ : ancestor? parents names id n = some again
  met : again ∈ ancestors parents names id n
  distinct : (ancestors parents names id n).Nodup

section Climbed

variable {n : Nat} {chain : List EntryId} {current parent : EntryId} {above : List Text}

theorem climbed_start (parents : List (EntryId × EntryId)) (names : List (EntryId × Text))
    (id : EntryId) : Climbed parents names id 0 [id] id [] where
  chain_eq := rfl
  length := rfl
  at_ := rfl
  goesOn := .inl rfl
  nested := by simp
  distinct := List.nodup_singleton id
  above_eq := rfl

theorem Climbed.mem_start (h : Climbed parents names id n chain current above) : id ∈ chain := by
  rw [h.chain_eq]
  exact mem_ancestors.2 ⟨0, Nat.succ_pos n, rfl⟩

theorem Climbed.mem_current (h : Climbed parents names id n chain current above) :
    current ∈ chain := by
  rw [h.chain_eq]
  exact mem_ancestors.2 ⟨n, Nat.lt_succ_self n, h.at_⟩

/-- Behind the current entry there is its parent. -/
theorem Climbed.ancestor?_succ (h : Climbed parents names id n chain current above) :
    ancestor? parents names id (n + 1) = parents.lookup current := by
  rw [ancestor?, h.at_, Option.bind_some, above?, if_pos h.goesOn]

/-- There are no more entries before the current one than there are parents. -/
theorem Climbed.le_length (h : Climbed parents names id n chain current above) :
    n ≤ parents.length := by
  have others := length_le_of_lookup (h.distinct.erase current) fun x mem => by
    rw [h.distinct.mem_erase_iff] at mem
    exact h.nested x mem.2 mem.1
  rwa [List.length_erase_of_mem h.mem_current, h.length, Nat.add_sub_cancel] at others

/-- If the current entry has a parent, the chain is not longer than the table of parents. -/
theorem Climbed.lt_length (h : Climbed parents names id n chain current above)
    (up : parents.lookup current = some parent) : n < parents.length := by
  have short := length_le_of_lookup h.distinct fun x mem => by
    by_cases here : x = current
    · rw [here, up]
      exact Option.some_ne_none parent
    · exact h.nested x mem here
  rw [h.length] at short
  exact short

/-- The climb goes on at a parent that has a name and has not been met. -/
theorem Climbed.step (h : Climbed parents names id n chain current above)
    (up : parents.lookup current = some parent) (new : parent ∉ chain) {name : Text}
    (named : names.lookup parent = some name) :
    Climbed parents names id (n + 1) (chain ++ [parent]) parent (name :: above) where
  chain_eq := by
    rw [ancestors_succ, ← h.chain_eq, h.ancestor?_succ, up]
    rfl
  length := by rw [List.length_append, h.length, List.length_singleton]
  at_ := h.ancestor?_succ.trans up
  goesOn := .inr (by simp [named])
  nested := by
    intro x mem other
    rcases List.mem_append.1 mem with mem | mem
    · by_cases here : x = current
      · rw [here, up]
        exact Option.some_ne_none parent
      · exact h.nested x mem here
    · exact absurd (List.mem_singleton.1 mem) other
  distinct := by
    rw [List.nodup_append]
    refine ⟨h.distinct, List.nodup_singleton parent, ?_⟩
    rintro x mem y here rfl
    exact new (List.mem_singleton.1 here ▸ mem)
  above_eq := by
    have filled : chain ≠ [] := List.ne_nil_of_mem h.mem_start
    rw [List.tail_append_of_ne_nil filled, List.filterMap_append, List.reverse_append, ← h.above_eq]
    simp [named]

end Climbed

/-- **A climb goes up the chain.** It fails where the chain comes back, with the chain so far.
Otherwise the chain ends, and the climb has come to the names of the entries around the first. -/
theorem Climbs.follows {n : Nat} {chain : List EntryId} {current : EntryId} {above : List Text}
    {result : Except NestingCycle (List Text)} (h : Climbs parents names chain current above result)
    (climbed : Climbed parents names id n chain current above) :
    (∃ m ≤ parents.length, ∃ again, Returns parents names id m again ∧
      result = .error ⟨ancestors parents names id m ++ [again]⟩) ∨
    ∃ m ≤ parents.length + 1, ancestor? parents names id m = none ∧
      result = .ok ((ancestors parents names id m).tail.filterMap fun x => names.lookup x).reverse := by
  induction h generalizing n with
  | top none =>
    refine .inr ⟨n + 1, Nat.succ_le_succ climbed.le_length, climbed.ancestor?_succ.trans none, ?_⟩
    rw [← climbed.chain_eq, climbed.above_eq]
  | circle up again =>
    refine .inl ⟨n + 1, climbed.lt_length up, _, ⟨climbed.ancestor?_succ.trans up, ?_, ?_⟩, ?_⟩
    · rwa [← climbed.chain_eq]
    · rw [← climbed.chain_eq]
      exact climbed.distinct
    · rw [← climbed.chain_eq]
  | @unnamed chain current parent above up new none =>
    -- The parent is the last entry of the chain, and adds no name.
    have next := climbed.ancestor?_succ.trans up
    have other : parent ≠ id := fun same => new (same ▸ climbed.mem_start)
    have filled : chain ≠ [] := List.ne_nil_of_mem climbed.mem_start
    refine .inr ⟨n + 2, Nat.succ_le_succ (climbed.lt_length up), ?_, ?_⟩
    · rw [ancestor?, next, Option.bind_some, above?, if_neg (by simp [other, none])]
    · rw [ancestors_succ, next, ← climbed.chain_eq, List.tail_append_of_ne_nil filled,
        climbed.above_eq, List.filterMap_append]
      simp [none]
  | step up new named _ ih => exact ih (climbed.step up new named)

/-! ### Nested paths -/

/-- **What the nested path of an entry comes to**: a circle where its chain comes back, or the names
of its ancestors, the outermost one first, where the chain ends. -/
theorem nestedPath_cases (parents : List (EntryId × EntryId)) (names : List (EntryId × Text))
    (id : EntryId) :
    (Endless parents names id ∧ ∃ n ≤ parents.length, ∃ again, Returns parents names id n again ∧
      nestedPath parents names id = .error ⟨ancestors parents names id n ++ [again]⟩) ∨
    (¬ Endless parents names id ∧ ∃ n ≤ parents.length + 1, ancestor? parents names id n = none ∧
      nestedPath parents names id = .ok (Text.join ['/']
        ((ancestors parents names id n).tail.filterMap fun x => names.lookup x).reverse)) := by
  unfold nestedPath
  rcases (climbs_start parents names id).follows (climbed_start parents names id) with
    ⟨n, le, again, returns, eq⟩ | ⟨n, le, ended, eq⟩
  · exact .inl ⟨endless_of_again returns.at_ returns.met, n, le, again, returns, by rw [eq]; rfl⟩
  · exact .inr ⟨fun endless => endless n ended, n, le, ended, by rw [eq]; rfl⟩

/-- There is a nested path unless the chain does not end. -/
theorem exists_nestedPath_iff_not_endless :
    (∃ path, nestedPath parents names id = .ok path) ↔ ¬ Endless parents names id := by
  rcases nestedPath_cases parents names id with
    ⟨endless, _, -, _, -, eq⟩ | ⟨ends, _, -, -, eq⟩
  · rw [eq]
    exact ⟨nofun, fun ends => absurd endless ends⟩
  · exact ⟨fun _ => ends, fun _ => ⟨_, eq⟩⟩

/-! ### Registries -/

namespace Registry

/-- Some project of a manifest has a chain that does not end. -/
def NestsEndlessly (c : Conventions) (lines : List Text) : Prop :=
  ∃ b ∈ projectBlocks c (Block.scan lines),
    Endless (parentsOf (NestingLine.scan lines (nestingSection? lines)))
      (namesOf (Block.scan lines)) b.id

/-- There are projects for the blocks unless a chain does not end. -/
theorem exists_projects_iff_not_endless (c : Conventions) (lines : List Text)
    (cwd directory : Path) :
    (∃ projects, (projectBlocks c (Block.scan lines)).mapM
      (projectOf cwd directory (parentsOf (NestingLine.scan lines (nestingSection? lines)))
        (namesOf (Block.scan lines))) = .ok projects) ↔ ¬ NestsEndlessly c lines := by
  rw [exists_mapM_iff, NestsEndlessly]
  simp only [not_exists, not_and]
  refine forall₂_congr fun b _ => ?_
  rw [← exists_nestedPath_iff_not_endless, projectOf]
  exact exists_map_eq_ok_iff

/-- **There is no registry for the nesting exactly if the chain of a project does not end.** -/
theorem parse_eq_nestingCycle_iff (cwd : Path) (c : Conventions) (manifest : Path) (text : Text) :
    (∃ e, parse cwd c manifest text = .error (.nestingCycle e)) ↔
      NestsEndlessly c (Document.ofText text).lines := by
  unfold parse
  dsimp only
  generalize (Document.ofText text).lines = lines
  have projects := exists_projects_iff_not_endless c lines cwd manifest.parent
  cases built : (projectBlocks c (Block.scan lines)).mapM (projectOf cwd manifest.parent
    (parentsOf (NestingLine.scan lines (nestingSection? lines)))
    (namesOf (Block.scan lines))) with
  | error e =>
    rw [built] at projects
    refine ⟨fun _ => ?_, fun _ => ⟨e, rfl⟩⟩
    by_contra ends
    obtain ⟨-, ⟨⟩⟩ := projects.2 ends
  | ok entries =>
    rw [built] at projects
    refine ⟨?_, fun endless => absurd endless (projects.1 ⟨entries, rfl⟩)⟩
    -- Past the projects only a numeral of version control can fail.
    rintro ⟨e, failed⟩
    cases read : versionControlOf c lines <;> rw [read] at failed <;> cases failed

end Registry

/-- **Nested paths follow the chains of ancestors.** The climb from an entry ends, without any
bound. It fails exactly if the chain of the entry does not end, and then with the chain up to the
first entry that is met again, where all entries before are distinct. Otherwise the nested path
consists of the names of the ancestors, the outermost one first. So the registry of a manifest fails
for its nesting exactly if the chain of one of its projects does not end. -/
theorem nestedPath_follows_ancestors :
    (∀ parents names id,
      (∃ result, Climbs parents names [id] id [] result ∧
        nestedPath parents names id = result.map (Text.join ['/'])) ∧
      ((∃ e, nestedPath parents names id = .error e) ↔ Endless parents names id) ∧
      (∀ e, nestedPath parents names id = .error e →
        ∃ n ≤ parents.length, ∃ again, Returns parents names id n again ∧
          e.chain = ancestors parents names id n ++ [again]) ∧
      (¬ Endless parents names id →
        ∃ n ≤ parents.length + 1, ancestor? parents names id n = none ∧
          nestedPath parents names id = .ok (Text.join ['/']
            ((ancestors parents names id n).tail.filterMap fun x => names.lookup x).reverse))) ∧
    ∀ cwd c manifest text,
      (∃ e, Registry.parse cwd c manifest text = .error (.nestingCycle e)) ↔
        Registry.NestsEndlessly c (Document.ofText text).lines := by
  refine ⟨fun parents names id => ⟨⟨_, climbs_start parents names id, rfl⟩, ?_⟩,
    Registry.parse_eq_nestingCycle_iff⟩
  rcases nestedPath_cases parents names id with
    ⟨endless, n, le, again, returns, eq⟩ | ⟨ends, n, le, ended, eq⟩
  · refine ⟨⟨fun _ => endless, fun _ => ⟨_, eq⟩⟩, fun e failed => ?_, fun ends => absurd endless ends⟩
    cases eq.symm.trans failed
    exact ⟨n, le, again, returns, rfl⟩
  · refine ⟨⟨?_, fun endless => absurd endless ends⟩, ?_, fun _ => ⟨n, le, ended, eq⟩⟩
    · rintro ⟨e, failed⟩
      cases eq.symm.trans failed
    · intro e failed
      cases eq.symm.trans failed

/-- An entry that lies in one of two folders that lie in each other. -/
def tailParents : List (EntryId × EntryId) := [(['A'], ['B']), (['B'], ['C']), (['C'], ['B'])]

/-- The names of the entry and of the folders. -/
def tailNames : List (EntryId × Text) :=
  [(['A'], "a".toList), (['B'], "b".toList), (['C'], "c".toList)]

/-- The chain comes back to the first folder and not to the entry. If the folders have no names, it
ends at the first of them. -/
theorem nestedPath_follows_ancestors_tail :
    (nestedPath tailParents tailNames ['A'] = .error ⟨[['A'], ['B'], ['C'], ['B']]⟩ ∧
      ∃ n ≤ tailParents.length, ∃ again, Returns tailParents tailNames ['A'] n again ∧
        [['A'], ['B'], ['C'], ['B']] = ancestors tailParents tailNames ['A'] n ++ [again]) ∧
    (¬ Endless tailParents [] ['A'] ∧
      ∃ n ≤ tailParents.length + 1, ancestor? tailParents [] ['A'] n = none ∧
        nestedPath tailParents [] ['A'] = .ok (Text.join ['/']
          ((ancestors tailParents [] ['A'] n).tail.filterMap fun x => List.lookup x []).reverse)) := by
  have circle : nestedPath tailParents tailNames ['A'] =
      .error ⟨[['A'], ['B'], ['C'], ['B']]⟩ := by rfl
  have ends : ¬ Endless tailParents [] ['A'] := fun endless => endless 2 rfl
  exact ⟨⟨circle, (nestedPath_follows_ancestors.1 tailParents tailNames ['A']).2.2.1 _ circle⟩,
    ends, (nestedPath_follows_ancestors.1 tailParents [] ['A']).2.2.2 ends⟩

end SolutionSweep
