import SolutionSweep.Proofs.Table
import SolutionSweep.Store

/-!
# Laws of the store

* `Store.lookup_put`: what stands at a location after a file has been written;
* `Store.get?_put_of_ne`: a file elsewhere is as before;
* `Store.bytes`: the contents of a file, nothing where there is none;
* `Store.isOpen`: a file may be opened, or is missing;
* `Store.barrier?_eq_some_iff`: the locations that are not looked at.
-/

namespace SolutionSweep.Store

/-- The file at a location after a file has been inserted. -/
theorem lookup_insert (target location : Path) (file : File) (files : List (Path × File)) :
    (insert target file files).lookup location =
      if location = target then some file else files.lookup location := by
  induction files with
  | nil =>
    by_cases same : location = target
    · simp [insert, same]
    · simp [insert, same, List.lookup_cons, beq_false_of_ne same]
  | cons entry rest ih =>
    obtain ⟨place, content⟩ := entry
    by_cases found : place = target
    · subst found
      by_cases same : location = place
      · simp [insert, same]
      · simp [insert, same, List.lookup_cons, beq_false_of_ne same]
    · by_cases here : location = place
      · subst here
        simp [insert, found]
      · simp [insert, List.lookup_cons, found, beq_false_of_ne here, ih]

/-- A written file stands where its path leads to, and nothing else has changed. -/
theorem lookup_put (s : Store) (p : Path) (file : File) (location : Path) :
    (s.put p file).files.lookup location =
      if location = locate s.cwd p then some file else s.files.lookup location :=
  lookup_insert _ location file s.files

@[simp] theorem cwd_put (s : Store) (p : Path) (file : File) : (s.put p file).cwd = s.cwd := rfl

/-- A file that has been written is there. -/
theorem get?_put (s : Store) (p : Path) (file : File) : (s.put p file).get? p = some file := by
  rw [get?, lookup_put, cwd_put, if_pos rfl]

/-- A file at another location is as before. -/
theorem get?_put_of_ne {s : Store} {p q : Path} (file : File)
    (apart : locate s.cwd q ≠ locate s.cwd p) : (s.put p file).get? q = s.get? q := by
  rw [get?, lookup_put, cwd_put, if_neg apart, get?]

/-- The contents of a file, nothing where there is none. -/
def bytes (s : Store) (p : Path) : Bytes :=
  match s.get? p with
  | some (.contents bytes) => bytes
  | _ => []

/-- A file may be opened, or is missing. -/
def isOpen (s : Store) (p : Path) : Bool :=
  match s.get? p with
  | none | some (.contents _) => true
  | some .denied | some (.barred _) => false

theorem isOpen_iff {s : Store} {p : Path} :
    s.isOpen p = true ↔ s.get? p = none ∨ ∃ bytes, s.get? p = some (.contents bytes) := by
  unfold isOpen
  match s.get? p with
  | none => simp
  | some (.contents bytes) => simp
  | some .denied => simp
  | some (.barred why) => simp

/-- A file that has been written is open. -/
theorem isOpen_of_contents {s : Store} {p : Path} {bytes : Bytes}
    (found : s.get? p = some (.contents bytes)) : s.isOpen p = true :=
  isOpen_iff.2 (.inr ⟨bytes, found⟩)

theorem barrier?_eq_some_iff {s : Store} {p : Path} {d : Denied} :
    s.barrier? p = some d ↔ s.get? p = some (.barred d.why) ∧ d.path = p := by
  obtain ⟨path, why⟩ := d
  unfold barrier?
  match s.get? p with
  | none => simp
  | some (.contents bytes) => simp
  | some .denied => simp
  | some (.barred why') => simp [eq_comm, and_comm]

/-- Where no file is a barrier, every location is looked at. -/
theorem barrier?_eq_none {s : Store} (clear : ∀ f ∈ s.files, ∀ why, f.2 ≠ .barred why) (p : Path) :
    s.barrier? p = none := by
  cases barred : s.barrier? p with
  | none => rfl
  | some d => exact absurd rfl (clear _ (mem_of_lookup (barrier?_eq_some_iff.1 barred).1) d.why)

/-- A location that is not looked at has no descriptor. -/
theorem descriptor?_of_barrier? {s : Store} {p : Path} {d : Denied}
    (barred : s.barrier? p = some d) : s.descriptor? p = none := by
  rw [descriptor?, (barrier?_eq_some_iff.1 barred).1]

end SolutionSweep.Store
