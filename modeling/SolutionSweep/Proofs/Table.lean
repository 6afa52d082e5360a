import SolutionSweep.Table
import Mathlib.Data.List.Nodup

/-!
# Laws of tables

* `firsts_eq_self`: a list whose elements have distinct keys is its own list of first elements;
* `mem_firsts_id`: the first occurrences of a list have the elements of the list;
* `find?_of_mem_firsts`, `nodup_map_firsts`: a first element is the one that is found by its key,
  and first elements have distinct keys;
* `lastValues_filter`: taking keys out of the pairs takes them out of the table;
* `mem_map_lastValues`: a table has the keys of its pairs;
* `lastValues_eq_self`: pairs with distinct keys are their own table.
-/

namespace SolutionSweep

variable {α β : Type} [DecidableEq α]

theorem mem_firstsAfter_id {x : α} {seen xs : List α} :
    x ∈ firstsAfter id seen xs ↔ x ∈ xs ∧ x ∉ seen := by
  induction xs generalizing seen with
  | nil => simp [firstsAfter]
  | cons y rest ih =>
    unfold firstsAfter
    split
    · rename_i h
      rw [ih, List.mem_cons]
      constructor
      · rintro ⟨mem, new⟩
        exact ⟨Or.inr mem, new⟩
      · rintro ⟨rfl | mem, new⟩
        · exact absurd h new
        · exact ⟨mem, new⟩
    · rename_i h
      by_cases eq : x = y
      · subst eq
        simpa using h
      · simp [ih, eq]

@[simp] theorem mem_firsts_id {x : α} {xs : List α} : x ∈ firsts id xs ↔ x ∈ xs := by
  simp [firsts, mem_firstsAfter_id]

theorem firstsAfter_eq_self {key : β → α} {seen : List α} {xs : List β}
    (distinct : (xs.map key).Nodup) (new : ∀ x ∈ xs, key x ∉ seen) :
    firstsAfter key seen xs = xs := by
  induction xs generalizing seen with
  | nil => rfl
  | cons x rest ih =>
    rw [List.map_cons, List.nodup_cons] at distinct
    rw [firstsAfter, if_neg (new x List.mem_cons_self), ih distinct.2]
    intro y hy
    rw [List.mem_cons, not_or]
    exact ⟨fun eq => distinct.1 (eq ▸ List.mem_map_of_mem hy), new y (List.mem_cons_of_mem x hy)⟩

/-- Elements with distinct keys are all first ones. -/
theorem firsts_eq_self {key : β → α} {xs : List β} (distinct : (xs.map key).Nodup) :
    firsts key xs = xs :=
  firstsAfter_eq_self distinct (by simp)

/-- A first element is found by its key, and its key is new. -/
theorem find?_of_mem_firstsAfter [BEq α] [LawfulBEq α] {key : β → α} {seen : List α}
    {xs : List β} {x : β} (mem : x ∈ firstsAfter key seen xs) :
    xs.find? (key · == key x) = some x ∧ key x ∉ seen := by
  induction xs generalizing seen with
  | nil => cases mem
  | cons y rest ih =>
    unfold firstsAfter at mem
    split at mem
    · rename_i old
      obtain ⟨found, new⟩ := ih mem
      refine ⟨?_, new⟩
      rw [List.find?_cons_of_neg, found]
      rw [beq_iff_eq]
      exact fun same => new (same ▸ old)
    · rename_i new
      rcases List.mem_cons.1 mem with rfl | mem
      · exact ⟨List.find?_cons_of_pos (by simp), new⟩
      · obtain ⟨found, new'⟩ := ih mem
        rw [List.mem_cons, not_or] at new'
        refine ⟨?_, new'.2⟩
        rw [List.find?_cons_of_neg, found]
        rw [beq_iff_eq]
        exact fun same => new'.1 same.symm

theorem find?_of_mem_firsts [BEq α] [LawfulBEq α] {key : β → α} {xs : List β} {x : β}
    (mem : x ∈ firsts key xs) :
    xs.find? (key · == key x) = some x :=
  (find?_of_mem_firstsAfter mem).1

theorem nodup_map_firstsAfter (key : β → α) (seen : List α) (xs : List β) :
    ((firstsAfter key seen xs).map key).Nodup := by
  induction xs generalizing seen with
  | nil => exact List.nodup_nil
  | cons x rest ih =>
    unfold firstsAfter
    split
    · exact ih seen
    · rw [List.map_cons, List.nodup_cons]
      refine ⟨fun mem => ?_, ih _⟩
      obtain ⟨y, hy, same⟩ := List.mem_map.1 mem
      exact (find?_of_mem_firstsAfter hy).2 (same ▸ List.mem_cons_self)

/-- First elements have distinct keys. -/
theorem nodup_map_firsts (key : β → α) (xs : List β) : ((firsts key xs).map key).Nodup :=
  nodup_map_firstsAfter key [] xs

/-! ### Tables of pairs -/

section Tables

variable {gone : α → Bool}

theorem assign_filter (key : α) (value : β) (table : List (α × β)) :
    (assign key value table).filter (fun p => !gone p.1) =
      if gone key = true then table.filter (fun p => !gone p.1)
      else assign key value (table.filter fun p => !gone p.1) := by
  induction table with
  | nil =>
    by_cases lost : gone key = true
    · simp [assign, lost]
    · simp [assign, lost]
  | cons entry rest ih =>
    by_cases same : entry.1 = key
    · rw [assign, if_pos same]
      by_cases lost : gone key = true
      · simp [lost, same]
      · simp [lost, same, assign]
    · rw [assign, if_neg same]
      by_cases out : gone entry.1 = true
      · rw [List.filter_cons_of_neg (by simp [out]), List.filter_cons_of_neg (by simp [out]), ih]
      · rw [List.filter_cons_of_pos (by simp [out]), List.filter_cons_of_pos (by simp [out]), ih]
        split
        · rfl
        · rw [assign, if_neg same]

/-- Taking keys out of the pairs takes them out of the table. -/
theorem lastValues_filter (gone : α → Bool) (pairs : List (α × β)) :
    lastValues (pairs.filter fun p => !gone p.1) =
      (lastValues pairs).filter fun p => !gone p.1 := by
  have general : ∀ table : List (α × β),
      (pairs.filter fun p => !gone p.1).foldl (fun table p => assign p.1 p.2 table)
          (table.filter fun p => !gone p.1) =
        (pairs.foldl (fun table p => assign p.1 p.2 table) table).filter fun p => !gone p.1 := by
    induction pairs with
    | nil => exact fun _ => rfl
    | cons pair rest ih =>
      intro table
      have next := ih (assign pair.1 pair.2 table)
      rw [assign_filter] at next
      by_cases lost : gone pair.1 = true
      · rw [if_pos lost] at next
        rw [List.filter_cons_of_neg (by simp [lost]), next, List.foldl_cons]
      · rw [if_neg lost] at next
        rw [List.filter_cons_of_pos (by simp [lost]), List.foldl_cons, next, List.foldl_cons]
  exact general []

theorem mem_assign {key : α} {value : β} {table : List (α × β)} {p : α × β}
    (h : p ∈ assign key value table) : p = (key, value) ∨ p ∈ table := by
  induction table with
  | nil => exact Or.inl (List.mem_singleton.1 h)
  | cons entry rest ih =>
    unfold assign at h
    split at h
    · rcases List.mem_cons.1 h with rfl | mem
      · exact Or.inl rfl
      · exact Or.inr (List.mem_cons_of_mem entry mem)
    · rcases List.mem_cons.1 h with rfl | mem
      · exact Or.inr List.mem_cons_self
      · exact (ih mem).imp_right (List.mem_cons_of_mem entry)

/-- Assigning adds the key. -/
theorem mem_map_assign {k key : α} {value : β} {table : List (α × β)} :
    k ∈ (assign key value table).map (·.1) ↔ k = key ∨ k ∈ table.map (·.1) := by
  induction table with
  | nil => simp [assign]
  | cons entry rest ih =>
    unfold assign
    split
    · rename_i same
      simp [same]
    · rw [List.map_cons, List.mem_cons, ih, List.map_cons, List.mem_cons]
      tauto

/-- A table has the keys of its pairs. -/
theorem mem_map_lastValues {k : α} {pairs : List (α × β)} :
    k ∈ (lastValues pairs).map (·.1) ↔ k ∈ pairs.map (·.1) := by
  have general : ∀ table : List (α × β),
      k ∈ (pairs.foldl (fun table p => assign p.1 p.2 table) table).map (·.1) ↔
        k ∈ pairs.map (·.1) ∨ k ∈ table.map (·.1) := by
    induction pairs with
    | nil => simp
    | cons pair rest ih =>
      intro table
      rw [List.foldl_cons, ih, mem_map_assign, List.map_cons, List.mem_cons]
      tauto
  rw [lastValues, general []]
  simp

/-- Every entry of a table is one of the pairs. -/
theorem mem_of_mem_lastValues {pairs : List (α × β)} {p : α × β} (h : p ∈ lastValues pairs) :
    p ∈ pairs := by
  have general : ∀ table : List (α × β),
      p ∈ pairs.foldl (fun table p => assign p.1 p.2 table) table → p ∈ pairs ∨ p ∈ table := by
    clear h
    induction pairs with
    | nil => exact fun _ mem => Or.inr mem
    | cons pair rest ih =>
      intro table mem
      rcases ih (assign pair.1 pair.2 table) mem with mem | mem
      · exact Or.inl (List.mem_cons_of_mem pair mem)
      · rcases mem_assign mem with rfl | mem
        · exact Or.inl List.mem_cons_self
        · exact Or.inr mem
  exact (general [] h).resolve_right (by simp)

theorem assign_of_not_mem {key : α} {value : β} {table : List (α × β)}
    (new : key ∉ table.map (·.1)) : assign key value table = table ++ [(key, value)] := by
  induction table with
  | nil => rfl
  | cons entry rest ih =>
    rw [List.map_cons, List.mem_cons, not_or] at new
    rw [assign, if_neg (Ne.symm new.1), ih new.2, List.cons_append]

/-- Pairs with distinct keys are their own table. -/
theorem lastValues_eq_self {pairs : List (α × β)} (distinct : (pairs.map (·.1)).Nodup) :
    lastValues pairs = pairs := by
  have general : ∀ table : List (α × β), ((table ++ pairs).map (·.1)).Nodup →
      pairs.foldl (fun table p => assign p.1 p.2 table) table = table ++ pairs := by
    clear distinct
    induction pairs with
    | nil => exact fun table _ => (List.append_nil table).symm
    | cons pair rest ih =>
      intro table distinct
      have new : pair.1 ∉ table.map (·.1) := by
        rw [List.map_append, List.map_cons] at distinct
        intro mem
        exact (List.disjoint_of_nodup_append distinct) mem List.mem_cons_self
      have parts : table ++ pair :: rest = (table ++ [pair]) ++ rest := by simp
      rw [List.foldl_cons, assign_of_not_mem new, parts]
      exact ih _ (parts ▸ distinct)
  exact general [] distinct

end Tables

section Lookup

variable {α β : Type} [BEq α] [LawfulBEq α]

theorem lookup_filter {gone : α → Bool} (table : List (α × β)) {key : α}
    (kept : gone key = false) :
    (table.filter fun p => !gone p.1).lookup key = table.lookup key := by
  induction table with
  | nil => rfl
  | cons entry rest ih =>
    cases same : key == entry.1 with
    | true =>
      obtain rfl : key = entry.1 := eq_of_beq same
      rw [List.filter_cons_of_pos (by simp [kept]), List.lookup_cons, List.lookup_cons, same]
    | false =>
      rw [List.lookup_cons, same, ← ih]
      by_cases out : gone entry.1 = true
      · rw [List.filter_cons_of_neg (by simp [out])]
      · rw [List.filter_cons_of_pos (by simp [out]), List.lookup_cons, same]

theorem lookup_filter_eq_none {gone : α → Bool} (table : List (α × β)) {key : α}
    (lost : gone key = true) : (table.filter fun p => !gone p.1).lookup key = none := by
  rw [List.lookup_eq_none_iff]
  intro entry mem
  rw [bne_iff_ne]
  rintro rfl
  have kept := (List.mem_filter.1 mem).2
  rw [lost] at kept
  cases kept

theorem lookup_ne_none_iff {table : List (α × β)} {key : α} :
    table.lookup key ≠ none ↔ key ∈ table.map (·.1) := by
  rw [ne_eq, List.lookup_eq_none_iff, List.mem_map]
  simp only [bne_iff_ne, not_forall, not_not, exists_prop]
  exact exists_congr fun entry => and_congr_right fun _ => eq_comm

theorem mem_of_lookup {table : List (α × β)} {key : α} {value : β}
    (h : table.lookup key = some value) : (key, value) ∈ table := by
  obtain ⟨before, after, rfl, -⟩ := List.lookup_eq_some_iff.1 h
  simp

end Lookup

end SolutionSweep
