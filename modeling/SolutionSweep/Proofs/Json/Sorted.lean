import SolutionSweep.Json.Printer
import SolutionSweep.Proofs.Table
import SolutionSweep.Proofs.Text.CodePoint
import Mathlib.Data.List.Forall2

/-!
# Values with sorted fields

The fields of an object have no order of their own. A value is written with the fields of each
object sorted by name, so what is read back holds the same and has its fields in this order.

* `Json.Alike`: values that hold the same, whatever the order of the fields;
* `Json.sorted`: a value with sorted fields, `Json.lookup_sorted`: it has the same fields;
* `Json.render_object`: how an object is written.
-/

namespace SolutionSweep

/-! ### Tables in another order -/

section Tables

variable {α β : Type} [BEq α]

/-- What is done with the values of a table is done with what is found. -/
theorem lookup_map_values {γ : Type} (table : List (α × β)) (f : β → γ) (key : α) :
    (table.map fun p => (p.1, f p.2)).lookup key = (table.lookup key).map f := by
  induction table with
  | nil => rfl
  | cons p rest ih =>
    rw [List.map_cons, List.lookup_cons, List.lookup_cons, ih]
    cases key == p.1 <;> rfl

variable [LawfulBEq α]

/-- In a table with distinct keys an entry is found by its key. -/
theorem lookup_eq_some_iff_mem {table : List (α × β)} (distinct : (table.map (·.1)).Nodup)
    {key : α} {value : β} : table.lookup key = some value ↔ (key, value) ∈ table := by
  refine ⟨mem_of_lookup, fun mem => ?_⟩
  obtain ⟨before, after, rfl⟩ := List.append_of_mem mem
  refine List.lookup_eq_some_iff.2 ⟨before, after, rfl, fun entry hentry => ?_⟩
  rw [bne_iff_ne]
  rintro same
  rw [List.map_append, List.map_cons, List.nodup_append] at distinct
  exact distinct.2.2 _ (List.mem_map_of_mem hentry) _ List.mem_cons_self same.symm

/-- The order of a table with distinct keys does not matter. -/
theorem lookup_eq_of_perm {table table' : List (α × β)} (distinct : (table.map (·.1)).Nodup)
    (perm : table.Perm table') (key : α) : table.lookup key = table'.lookup key := by
  have distinct' : (table'.map (·.1)).Nodup := (perm.map (·.1)).nodup_iff.1 distinct
  refine Option.ext fun value => ?_
  rw [lookup_eq_some_iff_mem distinct, lookup_eq_some_iff_mem distinct', perm.mem_iff]

end Tables

namespace Json

/-- Values that hold the same. The fields of an object may stand in any order. -/
inductive Alike : Json → Json → Prop
  | same (v : Json) : Alike v v
  | array {vs ws : List Json} (items : List.Forall₂ Alike vs ws) : Alike (.array vs) (.array ws)
  | object {fs gs : List (CodePoints × Json)}
      (fields : ∀ name, Option.Rel Alike (fs.lookup name) (gs.lookup name)) :
      Alike (.object fs) (.object gs)

/-- Fields in the order of their names. -/
def sortFields {α : Type} (fields : List (CodePoints × α)) : List (CodePoints × α) :=
  fields.mergeSort fun f g => CodePoints.le f.1 g.1

mutual

/-- A value with the fields of each object sorted by name. -/
def sorted : Json → Json
  | .array items => .array (sortedItems items)
  | .object fields => .object (sortFields (sortedFields fields))
  | v => v

/-- The values of an array, each with sorted fields. -/
def sortedItems : List Json → List Json
  | [] => []
  | item :: rest => sorted item :: sortedItems rest

/-- The fields of an object, each value with sorted fields. -/
def sortedFields : List (CodePoints × Json) → List (CodePoints × Json)
  | [] => []
  | (name, value) :: rest => (name, sorted value) :: sortedFields rest

end

theorem sortedItems_eq (items : List Json) : sortedItems items = items.map sorted := by
  induction items with
  | nil => rfl
  | cons item rest ih => rw [sortedItems, ih, List.map_cons]

theorem sortedFields_eq (fields : List (CodePoints × Json)) :
    sortedFields fields = fields.map fun f => (f.1, f.2.sorted) := by
  induction fields with
  | nil => rfl
  | cons f rest ih => rw [sortedFields, ih, List.map_cons]

theorem renderItems_eq (items : List Json) : renderItems items = items.map render := by
  induction items with
  | nil => rfl
  | cons item rest ih => rw [renderItems, ih, List.map_cons]

theorem renderFields_eq (fields : List (CodePoints × Json)) :
    renderFields fields = fields.map fun f => (f.1, f.2.render) := by
  induction fields with
  | nil => rfl
  | cons f rest ih => rw [renderFields, ih, List.map_cons]

/-! ### Sorted fields -/

theorem sortFields_perm {α : Type} (fields : List (CodePoints × α)) :
    (sortFields fields).Perm fields :=
  List.mergeSort_perm _ _

/-- The names of sorted fields are the sorted names. -/
theorem map_fst_sortFields {α : Type} (fields : List (CodePoints × α)) :
    (sortFields fields).map (·.1) = (fields.map (·.1)).mergeSort CodePoints.le :=
  List.map_mergeSort fun _ _ _ _ => rfl

/-- Sorting by name has nothing to do with the values. -/
theorem sortFields_map {α β : Type} (fields : List (CodePoints × α)) (f : α → β) :
    sortFields (fields.map fun p => (p.1, f p.2)) =
      (sortFields fields).map fun p => (p.1, f p.2) := by
  refine (List.map_mergeSort ?_).symm
  exact fun _ _ _ _ => rfl

/-- An object with its fields sorted, each value as it is when it is sorted. -/
theorem sorted_object (fields : List (CodePoints × Json)) :
    (Json.object fields).sorted =
      .object ((sortFields fields).map fun f => (f.1, f.2.sorted)) := by
  rw [sorted, sortedFields_eq, sortFields_map]

/-- A field is found among sorted fields as it is when it is sorted. -/
theorem lookup_sorted {fields : List (CodePoints × Json)} (distinct : (fields.map (·.1)).Nodup)
    (name : CodePoints) :
    ((sortFields fields).map fun f => (f.1, f.2.sorted)).lookup name =
      (fields.lookup name).map sorted := by
  rw [lookup_map_values, lookup_eq_of_perm distinct (sortFields_perm fields).symm]

/-- An object is written field by field, in the order of their names. -/
theorem render_object (fields : List (CodePoints × Json)) :
    (Json.object fields).render = '{' :: Text.join ", ".toList
      ((sortFields fields).map fun f => renderField (f.1, f.2.render)) ++ ['}'] := by
  have written : (renderFields fields).mergeSort (fun f g => CodePoints.le f.1 g.1) =
      (sortFields fields).map fun f => (f.1, f.2.render) := by
    rw [renderFields_eq]
    exact sortFields_map fields render
  rw [render, written, List.map_map]
  rfl

end Json

end SolutionSweep
