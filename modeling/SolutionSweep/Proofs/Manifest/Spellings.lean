import SolutionSweep.Proofs.Manifest.Idempotence
import SolutionSweep.Proofs.Manifest.Identifier
import SolutionSweep.Proofs.Text.Case

/-!
# Identifiers in any spelling

A selection is turned into canonical spelling, each identifier once, and a removal turns what it is
given into canonical spelling again. The second time nothing changes unless the canonical spelling
begins or ends with a brace, which takes white space between braces.

* `canonicalId_canonicalId_iff`: which canonical spellings are canonical;
* `Surgery.removeIds_counts`: how often a run of removals finds an identifier;
* `Removal.apply_selected`: what a removal takes out of its selection, and what it misses;
* `Removal.apply_selected_spacedBraces`: a selection that is not spelled twice in the same way.
-/

namespace SolutionSweep

/-- A text neither begins nor ends with a brace. -/
def Unbraced (t : Text) : Prop :=
  (∀ c, t.head? = some c → isBrace c = false) ∧ ∀ c, t.getLast? = some c → isBrace c = false

theorem trim_isBrace_eq_self_iff {t : Text} : Text.trim isBrace t = t ↔ Unbraced t :=
  Text.trim_eq_self_iff

/-- A canonical spelling has no white space around it. -/
theorem strip_canonicalId (t : Text) : Text.strip (canonicalId t) = canonicalId t := by
  rw [canonicalId, Text.strip_upper]
  exact congrArg Text.upper (Text.trim_trim isWhite _)

/-- **A canonical spelling is canonical unless it begins or ends with a brace.** -/
theorem canonicalId_canonicalId_iff {t : Text} :
    canonicalId (canonicalId t) = canonicalId t ↔ Unbraced (canonicalId t) := by
  -- The second time there is no white space to strip, and there are no letters to turn.
  have twice : canonicalId (canonicalId t) =
      Text.strip (Text.trim isBrace (canonicalId t)) := by
    rw [canonicalId, strip_canonicalId]
    refine Text.upper_eq_self fun c mem => ?_
    have mem := (Text.trim_sublist isBrace _).subset ((Text.trim_sublist isWhite _).subset mem)
    exact Text.upperChar_of_mem_upper mem
  rw [twice, ← trim_isBrace_eq_self_iff]
  constructor
  · intro same
    have inner := (Text.trim_sublist isWhite (Text.trim isBrace (canonicalId t))).length_le
    rw [show Text.trim isWhite (Text.trim isBrace (canonicalId t)) = canonicalId t from same]
      at inner
    exact (Text.trim_sublist isBrace _).eq_of_length_le inner
  · intro unbraced
    rw [unbraced, strip_canonicalId]

/-! ### How often an identifier is found -/

/-- The identifiers of the registrations of a manifest, in order. -/
def registeredIds (lines : List Text) : List EntryId := (registered lines).map (·.id)

theorem registeredIds_eq (lines : List Text) :
    registeredIds lines = (Block.scan lines).map (·.id) := by
  rw [registeredIds, ← map_entry_scan, List.map_map]
  rfl

namespace Surgery

variable {c : Conventions} {s after : Surgery}

/-- How often a surgery has warned that an identifier is not found. -/
def missed (s : Surgery) (id : EntryId) : Nat := s.warnings.count (.entryNotFound id)

/-- Taking out a block gives no warning that something is not found. -/
theorem missed_removeBlock {b : Block} {e : RemovedEntry}
    (ok : removeBlock c s b = (after, .ok e)) (x : EntryId) : after.missed x = s.missed x := by
  unfold removeBlock at ok
  dsimp only at ok
  split at ok
  · cases ok
    rfl
  · split at ok
    · cases ok
    · cases ok
      simp [missed, delete, warn, withLines, List.count_append]
    · cases ok
      rfl

/-- One removal takes out one registration of its identifier, or warns that there is none. -/
theorem removeId_counts {id : EntryId} {removed : Option RemovedEntry}
    (ok : removeId c s id = (after, .ok removed)) :
    registeredIds after.lines = (registeredIds s.lines).erase id ∧
      (id ∈ registeredIds s.lines ∧ removed.toList.map (·.id) = [id] ∧
          (∀ x, after.missed x = s.missed x) ∨
        id ∉ registeredIds s.lines ∧ removed = none ∧
          ∀ x, after.missed x = s.missed x + [id].count x) := by
  refine ⟨?_, ?_⟩
  · rw [registeredIds, (removeId_registered ok).2, registeredIds, List.erase_eq_eraseP',
      List.eraseP_map]
    rfl
  · unfold removeId at ok
    cases found : Block.find? (Block.scan s.lines) id with
    | none =>
      rw [found] at ok
      cases ok
      refine .inr ⟨fun mem => ?_, rfl, fun x => ?_⟩
      · rw [registeredIds_eq] at mem
        obtain ⟨b, hb, same⟩ := List.mem_map.1 mem
        exact List.find?_eq_none.1 found b hb (by simpa using same)
      · simp [missed, warn, List.count_append, List.count_singleton]
    | some b =>
      rw [found] at ok
      dsimp only at ok
      rcases taken : removeBlock c s b with ⟨middle, e | e⟩
      · rw [taken] at ok
        cases ok
      · rw [taken] at ok
        cases ok
        obtain ⟨rfl, -⟩ := removeBlock_eq_ok taken
        have same : b.id = id := by simpa using List.find?_some found
        refine .inl ⟨?_, ?_, missed_removeBlock taken⟩
        · rw [registeredIds_eq, ← same]
          exact List.mem_map_of_mem (List.mem_of_find?_eq_some found)
        · simpa [Block.entry] using same

/-- **How often a run of removals finds an identifier.** It takes out as many registrations as it
looks for, as far as there are so many, and warns for each of the others. -/
theorem removeIds_counts {ids : List EntryId} {removed : List RemovedEntry}
    (ok : removeIds c s ids = (after, .ok removed)) (x : EntryId) :
    (removed.map (·.id)).count x = min (ids.count x) ((registeredIds s.lines).count x) ∧
      after.missed x = s.missed x + (ids.count x - (registeredIds s.lines).count x) := by
  induction ids generalizing s removed with
  | nil =>
    cases ok
    simp
  | cons id ids ih =>
    obtain ⟨middle, first, more, one, others, rfl⟩ := removeIds_cons_eq_ok ok
    obtain ⟨taken, missed⟩ := ih others
    obtain ⟨erased, step⟩ := removeId_counts one
    rw [erased, List.count_erase] at taken missed
    rw [List.map_append, List.count_append, taken, missed, List.count_cons]
    rcases step with ⟨here, first_eq, missed_eq⟩ | ⟨absent, rfl, missed_eq⟩
    · have some_there := List.count_pos_iff.2 here
      rw [first_eq, missed_eq, List.count_singleton]
      by_cases same : id = x
      · subst same
        simp only [beq_self_eq_true, if_true]
        omega
      · simp [same]
    · rw [missed_eq, List.count_singleton]
      by_cases same : id = x
      · subst same
        simp [List.count_eq_zero.2 absent]
        omega
      · simp [same]

/-- A pass looks for registered identifiers only, each as often as it is registered at most. -/
theorem count_emptyFolders_le (lines : List Text) (x : EntryId) :
    (emptyFolders lines).count x ≤ (registeredIds lines).count x := by
  rw [registeredIds_eq]
  exact (List.filter_sublist.map _).count_le x

/-- **Pruning finds everything that it looks for.** -/
theorem missed_pruneFolders {pruned : List RemovedEntry}
    (ok : pruneFolders c s = (after, .ok pruned)) (x : EntryId) : after.missed x = s.missed x := by
  fun_induction pruneFolders c s generalizing pruned with
  | case1 s empty =>
    cases ok
    rfl
  | case2 s id ids empty after e pass => cases ok
  | case3 s id ids empty after removed pass done e rest ih => cases ok
  | case4 s id ids empty middle removed pass done more rest ih =>
    cases ok
    have few := count_emptyFolders_le s.lines x
    rw [empty] at few
    rw [ih rest, (removeIds_counts pass x).2, Nat.sub_eq_zero_of_le few, Nat.add_zero]

/-- A removal on its own takes out the first registration of the identifier, if it returns. -/
theorem removeEntry_eq_ok {written : Text} {removed : Option RemovedEntry}
    (ok : (removeEntry c s written).2 = .ok removed) :
    removed = (registered s.lines).find? (·.id == canonicalId written) := by
  have run : removeId c s (canonicalId written) = ((removeEntry c s written).1, .ok removed) := by
    rw [← ok]
    rfl
  exact (removeId_registered run).1

end Surgery

namespace Removal

variable {c : Conventions} {text : Text} {selected : List Text} {prune : Bool} {removal : Removal}

/-- The removal of a single entry, named in some spelling, takes out this registration. -/
def TakesAlone (c : Conventions) (text written : Text) (e : RemovedEntry) : Prop :=
  (Surgery.removeEntry c (Surgery.ofText text) written).2 = .ok (some e)

/-- The removal of a single entry, named in some spelling, meets a numeral that is too long. -/
def FailsAlone (c : Conventions) (text written : Text) : Prop :=
  ∃ e, (Surgery.removeEntry c (Surgery.ofText text) written).2 = .error e

/-- How often a removal takes out an identifier, and warns that it is not found. -/
theorem apply_counts (applied : apply c text selected prune = .ok removal) (id : EntryId) :
    (removal.removed.map (·.id)).count id = min ((sought selected).count id)
        ((registeredIds (Document.ofText text).lines).count id) ∧
      removal.warnings.count (.entryNotFound id) = (sought selected).count id -
        (registeredIds (Document.ofText text).lines).count id := by
  obtain ⟨after, done, run, pruning, closed⟩ := apply_eq_ok applied
  obtain ⟨taken, missed⟩ := Surgery.removeIds_counts run id
  refine ⟨taken, ?_⟩
  have warned : done.missed id = after.missed id := by
    cases prune with
    | false =>
      obtain ⟨rfl, -⟩ := Prod.mk.inj pruning
      rfl
    | true => exact Surgery.missed_pruneFolders pruning id
  have nothing : (Surgery.ofText text).missed id = 0 := rfl
  rw [nothing, Nat.zero_add, ← warned] at missed
  rw [closed]
  exact missed

/-- If no canonical spelling in a selection begins or ends with a brace, what is looked for is the
selection in canonical spelling, each identifier once. -/
theorem sought_of_unbraced (unbraced : ∀ t ∈ selected, Unbraced (canonicalId t)) :
    sought selected = firsts id (selected.map canonicalId) := by
  have same : ∀ x ∈ firsts id (selected.map canonicalId), canonicalId x = x := by
    intro x mem
    obtain ⟨t, chosen, rfl⟩ := List.mem_map.1 (mem_firsts_id.1 mem)
    exact canonicalId_canonicalId_iff.2 (unbraced t chosen)
  rw [sought, List.map_congr_left same, List.map_id']

/-- **What a removal takes out of its selection.** An identifier is taken out as often as it is
looked for and registered, and the removal warns for every time that it is looked for in vain. If
the registered identifiers are distinct and no canonical spelling in the selection begins or ends
with a brace, this is one entry for each identifier that is selected in any spelling: what the
removal of it alone takes out, if it does not fail. Then no warning is about a registered
identifier. -/
theorem apply_selected (applied : apply c text selected prune = .ok removal) :
    (∀ id, (removal.removed.map (·.id)).count id = min ((sought selected).count id)
          ((registeredIds (Document.ofText text).lines).count id) ∧
        removal.warnings.count (.entryNotFound id) = (sought selected).count id -
          (registeredIds (Document.ofText text).lines).count id) ∧
      ((registeredIds (Document.ofText text).lines).Nodup →
        (∀ t ∈ selected, Unbraced (canonicalId t)) →
        (removal.removed.map (·.id)).Nodup ∧
        (∀ t ∈ selected, ∀ e, TakesAlone c text t e → e ∈ removal.removed) ∧
        (∀ e ∈ removal.removed, ∃ t ∈ selected, canonicalId t = e.id ∧
          (TakesAlone c text t e ∨ FailsAlone c text t)) ∧
        ∀ id, .entryNotFound id ∈ removal.warnings →
          id ∉ registeredIds (Document.ofText text).lines) := by
  refine ⟨apply_counts applied, fun distinct unbraced => ?_⟩
  obtain ⟨after, -, run, -, -⟩ := apply_eq_ok applied
  have once : (sought selected).Nodup := by
    rw [sought_of_unbraced unbraced]
    simpa using nodup_map_firsts id (selected.map canonicalId)
  have chosen {x : EntryId} : x ∈ sought selected ↔ ∃ t ∈ selected, canonicalId t = x := by
    rw [sought_of_unbraced unbraced, mem_firsts_id, List.mem_map]
  refine ⟨?_, ?_, ?_, ?_⟩
  · rw [List.nodup_iff_count_le_one] at distinct ⊢
    intro x
    rw [(apply_counts applied x).1]
    exact (Nat.min_le_right _ _).trans (distinct x)
  · intro t mem e alone
    have found := (Surgery.removeEntry_eq_ok alone).symm
    have same : e.id = canonicalId t := by simpa using List.find?_some found
    exact Surgery.mem_of_removeIds run distinct (List.mem_of_find?_eq_some found)
      (chosen.2 ⟨t, mem, same.symm⟩)
  · intro e mem
    obtain ⟨t, selects, same⟩ := chosen.1 ((Surgery.removeIds_registered run).2 e mem)
    refine ⟨t, selects, same, ?_⟩
    -- The identifier was registered from the start, so alone it is found as well.
    cases alone : (Surgery.removeEntry c (Surgery.ofText text) t).2 with
    | error x => exact .inr ⟨x, alone⟩
    | ok removed =>
      have found := Surgery.find?_of_mem_removeIds run once mem
      rw [← same, ← Surgery.removeEntry_eq_ok alone] at found
      exact .inl (alone.trans (congrArg _ found))
  · intro x warned here
    have there := List.count_pos_iff.2 here
    have sought_once := List.nodup_iff_count_le_one.1 once x
    have count := (apply_counts applied x).2
    have some_warning := List.count_pos_iff.2 warned
    omega

/-- A manifest with nothing but the registration of a project. -/
def loneSample : Text :=
  "Project(\"\") = \"A\", \"A\", \"\x7b".toList ++ sampleProjectId ++ "\x7d\"".toList

/-- The project of the sample is taken out once, though it is selected in two spellings. -/
theorem apply_selected_spacedSelection : ∃ removal,
    apply .standard loneSample spacedSelection false = .ok removal ∧
      (registeredIds (Document.ofText loneSample).lines).Nodup ∧
      (∀ t ∈ spacedSelection, Unbraced (canonicalId t)) ∧
      (removal.removed.map (·.id)).count sampleProjectId = 1 ∧
      ∀ e ∈ removal.removed, ∃ t ∈ spacedSelection, TakesAlone .standard loneSample t e := by
  obtain ⟨distinct, bare, returns, returned, once⟩ :
      (registeredIds (Document.ofText loneSample).lines).Nodup ∧
      (∀ t ∈ spacedSelection, Text.trim isBrace (canonicalId t) = canonicalId t) ∧
      (∀ t ∈ spacedSelection, (Surgery.removeEntry .standard
        (Surgery.ofText loneSample) t).2.toOption.isSome = true) ∧
      (apply .standard loneSample spacedSelection false).toOption.isSome = true ∧
      min ((sought spacedSelection).count sampleProjectId)
        ((registeredIds (Document.ofText loneSample).lines).count sampleProjectId) = 1 := by
    decide +kernel
  have unbraced : ∀ t ∈ spacedSelection, Unbraced (canonicalId t) :=
    fun t mem => trim_isBrace_eq_self_iff.1 (bare t mem)
  cases applied : apply .standard loneSample spacedSelection false with
  | error e =>
    rw [applied] at returned
    cases returned
  | ok removal =>
    obtain ⟨counts, exactly⟩ := apply_selected applied
    obtain ⟨-, -, taken, -⟩ := exactly distinct unbraced
    refine ⟨removal, rfl, distinct, unbraced, (counts sampleProjectId).1.trans once,
      fun e mem => ?_⟩
    obtain ⟨t, selects, -, alone | ⟨x, fails⟩⟩ := taken e mem
    · exact ⟨t, selects, alone⟩
    · have returns := returns t selects
      rw [fails] at returns
      cases returns

/-- An identifier between braces that white space keeps apart. -/
def spacedBraces (id : EntryId) : Text :=
  "\x7b \x7b".toList ++ id ++ "\x7d \x7d".toList

/-- What is looked for twice in canonical spelling is not what is selected. Selected between spaced
braces, the project of the sample is taken out, though the removal of this entry alone does not
find it. Selected in both spellings, it is taken out and not found afterwards. -/
theorem apply_selected_spacedBraces :
    (registeredIds (Document.ofText loneSample).lines).Nodup ∧
    sampleProjectId ∈ registeredIds (Document.ofText loneSample).lines ∧
    (Surgery.removeEntry .standard (Surgery.ofText loneSample)
      (spacedBraces sampleProjectId)).2 = .ok none ∧
    (apply .standard loneSample [spacedBraces sampleProjectId] false).toOption.map
        (fun r => r.removed.map (·.id)) = some [sampleProjectId] ∧
    (apply .standard loneSample [sampleProjectId, spacedBraces sampleProjectId]
        false).toOption.map (fun r => (r.removed.map (·.id), r.warnings)) =
      some ([sampleProjectId], [.entryNotFound sampleProjectId]) := by
  decide +kernel

end Removal

end SolutionSweep
