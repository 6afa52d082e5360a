import SolutionSweep.Audit.Event
import SolutionSweep.Proofs.Json.Sorted

/-!
# What sanitized metadata give away

Metadata are sanitized field by field. What becomes of a field depends on its name and on what may
be known of its value: of a text its length, of a list its length, of an object the names of its
fields. So metadata that differ in nothing else are the same when they are sanitized, also where the
names of derived fields meet other names.

* `Indistinct`: values of a field between which nothing is given away;
* `sanitizedField_eq`: such values become the same fields;
* `sanitize_eq_flatMap`: sanitized metadata, read off from the names and what is found under them;
* `sanitize_eq_of_indistinct`: metadata with such values become the same.
-/

namespace SolutionSweep

/-- Values of a field between which nothing is given away: texts and lists of one length, unless the
field is one whose texts or lists are kept, and objects with the same names. -/
inductive Indistinct (name : CodePoints) : MetadataValue → MetadataValue → Prop
  | same (v : MetadataValue) : Indistinct name v v
  | text {s t : CodePoints} (reduced : name ∉ keptTexts) (length : s.length = t.length) :
      Indistinct name (.json (.text s)) (.json (.text t))
  | array {vs ws : List Json} (reduced : name ∉ keptLists) (length : vs.length = ws.length) :
      Indistinct name (.json (.array vs)) (.json (.array ws))
  | object {fs gs : List (CodePoints × Json)} (distinct : (fs.map (·.1)).Nodup)
      (distinct' : (gs.map (·.1)).Nodup) (names : ∀ n, n ∈ fs.map (·.1) ↔ n ∈ gs.map (·.1)) :
      Indistinct name (.json (.object fs)) (.json (.object gs))

/-- The names of two tables with distinct names are sorted alike if they are the same names. -/
theorem sorted_names_eq {α β : Type} {fs : List (CodePoints × α)} {gs : List (CodePoints × β)}
    (distinct : (fs.map (·.1)).Nodup) (distinct' : (gs.map (·.1)).Nodup)
    (names : ∀ n, n ∈ fs.map (·.1) ↔ n ∈ gs.map (·.1)) :
    (fs.map (·.1)).mergeSort CodePoints.le = (gs.map (·.1)).mergeSort CodePoints.le :=
  CodePoints.sorted_eq_of_perm ((List.perm_ext_iff_of_nodup distinct distinct').2 names)

/-- **A field gives nothing away** that is not to be known. -/
theorem sanitizedField_eq {name : CodePoints} {v w : MetadataValue} (h : Indistinct name v w) :
    sanitizedField name v = sanitizedField name w := by
  cases h with
  | same => rfl
  | text hidden length =>
    simp only [sanitizedField]
    rw [if_neg hidden, if_neg hidden, reduced, reduced, length]
  | array hidden length =>
    simp only [sanitizedField]
    rw [if_neg hidden, if_neg hidden, reduced, reduced, length]
  | object distinct distinct' names =>
    simp only [sanitizedField]
    rw [reduced, reduced, sorted_names_eq distinct distinct' names]

/-- Sanitized metadata are made name by name, from what is found under each name. -/
theorem sanitize_eq_flatMap {metadata : List (CodePoints × MetadataValue)}
    (distinct : (metadata.map (·.1)).Nodup) :
    sanitize metadata = lastValues (((metadata.map (·.1)).mergeSort CodePoints.le).flatMap
      fun name => (metadata.lookup name).elim [] (sanitizedField name)) := by
  have found : ∀ f ∈ Json.sortFields metadata,
      sanitizedField f.1 f.2 = (metadata.lookup f.1).elim [] (sanitizedField f.1) := by
    intro f mem
    have entry : (f.1, f.2) ∈ metadata := (Json.sortFields_perm metadata).mem_iff.1 mem
    rw [(lookup_eq_some_iff_mem distinct).2 entry, Option.elim_some]
  rw [← Json.map_fst_sortFields, List.flatMap_map, ← List.flatMap_congr found]
  rfl

/-- **Metadata give nothing away**: if they have the same names, and under each name values between
which nothing is given away, they are the same when they are sanitized. -/
theorem sanitize_eq_of_indistinct {m₁ m₂ : List (CodePoints × MetadataValue)}
    (distinct₁ : (m₁.map (·.1)).Nodup)
    (distinct₂ : (m₂.map (·.1)).Nodup)
    (alike : ∀ name, Option.Rel (Indistinct name) (m₁.lookup name) (m₂.lookup name)) :
    sanitize m₁ = sanitize m₂ := by
  have names (name : CodePoints) : name ∈ m₁.map (·.1) ↔ name ∈ m₂.map (·.1) := by
    have related := alike name
    rw [← lookup_ne_none_iff, ← lookup_ne_none_iff]
    generalize m₁.lookup name = v, m₂.lookup name = w at related
    cases related <;> simp
  have fields (name : CodePoints) : (m₁.lookup name).elim [] (sanitizedField name) =
      (m₂.lookup name).elim [] (sanitizedField name) := by
    have related := alike name
    generalize m₁.lookup name = v, m₂.lookup name = w at related
    cases related with
    | none => rfl
    | some indistinct => exact sanitizedField_eq indistinct
  rw [sanitize_eq_flatMap distinct₁, sanitize_eq_flatMap distinct₂,
    sorted_names_eq distinct₁ distinct₂ names]
  simp only [fields]

/-- Metadata in which the field derived from a text is also there in its own right, as a text. -/
def collidingMetadata (cause length ids : String) : List (CodePoints × MetadataValue) := [
  (.ofText "cause_length".toList, .json (.ofText length.toList)),
  (.ofText "cause".toList, .json (.ofText cause.toList)),
  (.ofText "unused".toList, .json (.array [.ofText ids.toList])),
  (.ofText "cause_length_length".toList, .json (.integer 7))]

/-- Other texts of the same length, in colliding fields. -/
theorem sanitize_eq_of_indistinct_collidingMetadata :
    ((collidingMetadata "secret" "abc" "x").map (·.1)).Nodup ∧
      ((collidingMetadata "hidden" "xyz" "yy").map (·.1)).Nodup ∧
      (∀ name, Option.Rel (Indistinct name) ((collidingMetadata "secret" "abc" "x").lookup name)
        ((collidingMetadata "hidden" "xyz" "yy").lookup name)) ∧
      sanitize (collidingMetadata "secret" "abc" "x") =
        sanitize (collidingMetadata "hidden" "xyz" "yy") := by
  have distinct : ((collidingMetadata "secret" "abc" "x").map (·.1)).Nodup := by decide
  have distinct' : ((collidingMetadata "hidden" "xyz" "yy").map (·.1)).Nodup := by decide
  have alike (name : CodePoints) :
      Option.Rel (Indistinct name) ((collidingMetadata "secret" "abc" "x").lookup name)
        ((collidingMetadata "hidden" "xyz" "yy").lookup name) := by
    unfold collidingMetadata
    simp only [List.lookup_cons]
    split
    · rename_i same
      rw [eq_of_beq same]
      exact .some (.text (by decide) (by decide))
    split
    · rename_i same
      rw [eq_of_beq same]
      exact .some (.text (by decide) (by decide))
    split
    · rename_i same
      rw [eq_of_beq same]
      exact .some (.array (by decide) rfl)
    split
    · exact .some (.same _)
    · exact .none
  exact ⟨distinct, distinct', alike, sanitize_eq_of_indistinct distinct distinct' alike⟩

end SolutionSweep
