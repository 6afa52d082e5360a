import SolutionSweep.Path.Reference
import SolutionSweep.Proofs.Path
import SolutionSweep.Proofs.Text.Basic
import SolutionSweep.Proofs.Text.Pieces

/-!
# Walking along a reference

A relative reference is a walk: it starts at the resolved directory and takes one segment after
another, where double dots lead to the directory above. Walks can be taken one after the other, and
a walk with its own double dots cancelled first ends at the same place.

* `IsNormal`: paths below a root without double dots, which are resolved already;
* `IsProper`: paths with segments such as are read, and what keeps them so;
* `walk`, `walk_append`: a walk from a path, one walk after another;
* `walk_normal`, `exists_up_down`: double dots may be cancelled before the walk, which then leads up
  and down;
* `parent_eq_walk`: the directory above;
* `path_of_isRelative`: the file that a relative reference names;
* `segments_append`: the segments of two references with a slash between them.
-/

namespace SolutionSweep

namespace Path

/-! ### Normal paths -/

/-- A path below a root in which no double dots are left. -/
structure IsNormal (p : Path) : Prop where
  rooted : p.root ≠ .relative
  settled : dotDot ∉ p.segments

instance (p : Path) : Decidable p.IsNormal :=
  decidable_of_iff (p.root ≠ .relative ∧ p.segments.contains dotDot = false)
    ⟨fun h => ⟨h.1, by simpa using h.2⟩, fun h => ⟨h.rooted, by simpa using h.settled⟩⟩

theorem IsNormal.normal_eq {p : Path} (h : p.IsNormal) : p.normal = p := by
  have same : p.normal.segments = p.segments := by
    rw [segments_normal h.rooted, foldl_push_eq_append [] h.settled, List.nil_append]
  exact congrArg (Path.mk p.root) same

/-- A normal path is resolved, whatever the working directory is. -/
theorem IsNormal.resolve_eq {p : Path} (h : p.IsNormal) (cwd : Path) : resolve cwd p = p := by
  rw [resolve, absolute, join, if_neg h.rooted, h.normal_eq]

theorem isNormal_resolve {cwd : Path} (rooted : cwd.root ≠ .relative) (p : Path) :
    (resolve cwd p).IsNormal := by
  have root := root_absolute rooted p
  refine ⟨root, ?_⟩
  rw [resolve, segments_normal root]
  exact not_mem_foldl_push List.not_mem_nil _

/-- A path whose segments are such as are read: none of them is empty, a single dot or has a slash
in it. -/
def IsProper (p : Path) : Prop := ∀ s ∈ p.segments, s ≠ [] ∧ s ≠ dot ∧ '/' ∉ s

theorem isProper_ofText (t : Text) : (ofText t).IsProper := by
  intro s mem
  obtain ⟨piece, proper⟩ := List.mem_filter.1 mem
  have proper : s ≠ [] ∧ s ≠ dot := by simpa using proper
  exact ⟨proper.1, proper.2, fun slash => (Text.mem_splitOn piece slash).2 rfl⟩

theorem IsProper.join {base p : Path} (hbase : base.IsProper) (hp : p.IsProper) :
    (base.join p).IsProper := by
  intro s mem
  unfold Path.join at mem
  split at mem
  · exact (List.mem_append.1 mem).elim (hbase s) (hp s)
  · exact hp s mem

theorem mem_of_mem_push {rooted : Bool} {segments : List Text} {s t : Text}
    (mem : t ∈ push rooted segments s) : t ∈ segments ∨ t = s := by
  unfold push at mem
  split at mem
  · simpa using mem
  · split at mem
    · split at mem
      · cases mem
      · exact .inr (List.mem_singleton.1 mem)
    · split at mem
      · simpa using mem
      · exact .inl (List.dropLast_subset _ mem)

theorem IsProper.normal {p : Path} (h : p.IsProper) : p.normal.IsProper := by
  have general : ∀ segments more : List Text, ∀ t ∈ more.foldl (push (p.root ≠ .relative)) segments,
      t ∈ segments ∨ t ∈ more := by
    intro segments more
    induction more generalizing segments with
    | nil => exact fun t mem => .inl mem
    | cons s rest ih =>
      intro t mem
      rcases ih _ t mem with mem | mem
      · rcases mem_of_mem_push mem with mem | rfl
        · exact .inl mem
        · exact .inr List.mem_cons_self
      · exact .inr (List.mem_cons_of_mem s mem)
  exact fun t mem => h t ((general [] p.segments t mem).resolve_left List.not_mem_nil)

theorem IsProper.resolve {cwd p : Path} (hcwd : cwd.IsProper) (hp : p.IsProper) :
    (Path.resolve cwd p).IsProper := (hcwd.join hp).normal

/-! ### Walks -/

/-- The path that is reached from another one along segments; double dots lead up. -/
def walk (p : Path) (segments : List Text) : Path :=
  { p with segments := segments.foldl (push true) p.segments }

@[simp] theorem root_walk (p : Path) (segments : List Text) : (p.walk segments).root = p.root := rfl

theorem walk_append (p : Path) (s t : List Text) : p.walk (s ++ t) = (p.walk s).walk t := by
  simp [walk]

theorem IsNormal.walk {p : Path} (h : p.IsNormal) (segments : List Text) :
    (p.walk segments).IsNormal :=
  ⟨h.rooted, not_mem_foldl_push h.settled segments⟩

theorem normal_eq_walk {p : Path} (rooted : p.root ≠ .relative) :
    p.normal = (Path.mk p.root []).walk p.segments :=
  congrArg (Path.mk p.root) (segments_normal rooted)

/-- A walk without double dots leads down. -/
theorem walk_eq_append (p : Path) {names : List Text} (h : dotDot ∉ names) :
    p.walk names = { p with segments := p.segments ++ names } := by
  rw [walk, foldl_push_eq_append _ h]

/-- Double dots lead to the directory above. -/
theorem IsNormal.parent_eq_walk {p : Path} (h : p.IsNormal) : p.parent = p.walk [dotDot] := by
  have up : push true p.segments dotDot = p.segments.dropLast := by
    rw [push, if_neg (by simp)]
    cases last : p.segments.getLast? with
    | none => simp [List.getLast?_eq_none_iff.1 last]
    | some name =>
      have other : name ≠ dotDot := fun same => h.settled (same ▸ List.mem_of_getLast? last)
      simp [other]
  rw [parent, Path.walk, List.foldl_cons, List.foldl_nil, up]

/-- A step is the same one whether the double dots of the way before it have been cancelled. -/
theorem foldl_push_push (start way : List Text) (s : Text) :
    (push false way s).foldl (push true) start = push true (way.foldl (push true) start) s := by
  by_cases up : s = dotDot
  · subst up
    cases last : way.getLast? with
    | none =>
      obtain rfl := List.getLast?_eq_none_iff.1 last
      rfl
    | some name =>
      obtain ⟨way, rfl⟩ := List.getLast?_eq_some_iff.1 last
      by_cases again : name = dotDot
      · subst again
        simp [push]
      · -- The last step led down, so it is taken back.
        simp [push, again]
  · simp [push, up]

/-- With its double dots cancelled, a way leads up and then down. -/
theorem exists_up_down (segments : List Text) : ∃ k names, dotDot ∉ names ∧
    (Path.mk .relative segments).normal.segments = List.replicate k dotDot ++ names := by
  have general : ∀ k names, dotDot ∉ names → ∃ k' names', dotDot ∉ names' ∧
      segments.foldl (push false) (List.replicate k dotDot ++ names) =
        List.replicate k' dotDot ++ names' := by
    induction segments with
    | nil => exact fun k names down => ⟨k, names, down, rfl⟩
    | cons s rest ih =>
      intro k names down
      rw [List.foldl_cons]
      by_cases up : s = dotDot
      · subst up
        rcases List.eq_nil_or_concat' names with rfl | ⟨names, name, rfl⟩
        · -- There is no name to cancel, so the way begins by one step further up.
          have further : push false (List.replicate k dotDot ++ []) dotDot =
              List.replicate (k + 1) dotDot ++ [] := by
            cases k with
            | zero => rfl
            | succ k => simp [push, List.getLast?_replicate, List.replicate_succ']
          rw [further]
          exact ih _ _ List.not_mem_nil
        · rw [List.mem_append, not_or, List.mem_singleton] at down
          have back : push false (List.replicate k dotDot ++ (names ++ [name])) dotDot =
              List.replicate k dotDot ++ names := by
            rw [← List.append_assoc]
            simp [push, Ne.symm down.2]
          rw [back]
          exact ih _ _ down.1
      · have further : push false (List.replicate k dotDot ++ names) s =
            List.replicate k dotDot ++ (names ++ [s]) := by simp [push, up]
        rw [further]
        exact ih _ _ (by simp [down, Ne.symm up])
  exact general 0 [] List.not_mem_nil

/-- **Double dots may be cancelled before the walk.** -/
theorem walk_normal (p : Path) (segments : List Text) :
    p.walk (Path.mk .relative segments).normal.segments = p.walk segments := by
  have general : ∀ way : List Text, (segments.foldl (push false) way).foldl (push true) p.segments =
      segments.foldl (push true) (way.foldl (push true) p.segments) := by
    induction segments with
    | nil => exact fun way => rfl
    | cons s rest ih =>
      intro way
      rw [List.foldl_cons, ih, foldl_push_push, List.foldl_cons]
  exact congrArg (Path.mk p.root) (general [])

end Path

namespace Reference

/-! ### Relative references -/

/-- A reference without a leading slash or drive letter. -/
def IsRelative (reference : Text) : Prop := isAbsolute (clean reference) = false

instance (reference : Text) : Decidable (IsRelative reference) :=
  inferInstanceAs (Decidable (_ = _))

/-- The segments of a reference, without empty ones and single dots. -/
def segments (reference : Text) : List Text := segmentsOf (clean reference)

variable {cwd : Path} {reference : Text}

/-- **A relative reference is walked from the directory.** -/
theorem path_of_isRelative {base : Path} (root : (Path.absolute cwd base).root ≠ .relative)
    (relative : IsRelative reference) :
    path cwd base reference = (Path.resolve cwd base).walk (segments reference) := by
  have split : Path.absolute cwd { base with segments := base.segments ++ segments reference } =
      ⟨(Path.absolute cwd base).root, (Path.absolute cwd base).segments ++ segments reference⟩ := by
    unfold Path.absolute Path.join
    split <;> simp
  calc path cwd base reference
      = Path.resolve cwd { base with segments := base.segments ++ segments reference } := by
        rw [path, relative, if_neg Bool.false_ne_true, segments]
    _ = (Path.mk (Path.absolute cwd base).root []).walk
          ((Path.absolute cwd base).segments ++ segments reference) := by
        rw [Path.resolve, split]
        exact Path.normal_eq_walk (p := ⟨_, _⟩) root
    _ = (Path.resolve cwd base).walk (segments reference) := by
        rw [Path.walk_append, Path.resolve, Path.normal_eq_walk root]

theorem isNormal_path (rooted : cwd.root ≠ .relative) (base : Path)
    (relative : IsRelative reference) : (path cwd base reference).IsNormal := by
  rw [path_of_isRelative (Path.root_absolute rooted base) relative]
  exact (Path.isNormal_resolve rooted base).walk _

theorem climbs_of_isRelative (relative : IsRelative reference) :
    climbs reference = ((segments reference).head? == some dotDot) := by
  rw [climbs, relative]
  rfl

/-- What is joined by a slash has nothing to strip if its parts have not. -/
theorem clean_append {q r : Text} (hq : Text.strip q = q) (hr : Text.strip r = r) :
    clean (q ++ '/' :: r) = clean q ++ '/' :: clean r := by
  obtain ⟨front, -⟩ := Text.strip_eq_self_iff.1 hq
  obtain ⟨-, back⟩ := Text.strip_eq_self_iff.1 hr
  have bare : Text.strip (q ++ '/' :: r) = q ++ '/' :: r := by
    refine Text.strip_eq_self_iff.2 ⟨fun c head => ?_, fun c last => ?_⟩
    · cases q with
      | nil =>
        obtain rfl := Option.some.inj head
        decide
      | cons d q => exact front c head
    · rw [List.getLast?_append_of_ne_nil _ (List.cons_ne_nil _ _)] at last
      cases r with
      | nil =>
        obtain rfl := Option.some.inj last
        decide
      | cons d r => exact back c (by rwa [List.getLast?_cons_cons] at last)
  rw [clean, bare, clean, hq, clean, hr]
  simp [Text.slashed]

theorem segmentsOf_append (s t : Text) :
    segmentsOf (s ++ '/' :: t) = segmentsOf s ++ segmentsOf t := by
  rw [segmentsOf, Text.splitOn_append, List.filter_append, segmentsOf, segmentsOf]

/-- The segments of a reference behind another one. -/
theorem segments_append {q r : Text} (hq : Text.strip q = q) (hr : Text.strip r = r) :
    segments (q ++ '/' :: r) = segments q ++ segments r := by
  rw [segments, clean_append hq hr, segmentsOf_append, segments, segments]

end Reference

end SolutionSweep
