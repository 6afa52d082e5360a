import SolutionSweep.Path

/-!
# Laws of paths

A path below a root loses all its double dots when it is made normal. So from a working directory
with a root, the resolved path is resolved already.

* `not_mem_foldl_push`: double dots vanish below a root;
* `resolve_resolve`: resolving a path twice is resolving it once.
-/

namespace SolutionSweep.Path

/-- Below a root no double dots are left. -/
theorem not_mem_push {segments : List Text} {s : Text} (normal : dotDot ∉ segments) :
    dotDot ∉ push true segments s := by
  unfold push
  split
  · rename_i other
    simpa [normal] using other.symm
  · match last : segments.getLast? with
    | none => simp
    | some l =>
      have ne : l ≠ dotDot := fun same => normal (same ▸ List.mem_of_getLast? last)
      dsimp only
      rw [if_neg ne]
      exact fun mem => normal ((List.dropLast_subset _) mem)

theorem not_mem_foldl_push {segments : List Text} (normal : dotDot ∉ segments) (more : List Text) :
    dotDot ∉ more.foldl (push true) segments := by
  induction more generalizing segments with
  | nil => exact normal
  | cons s rest ih => exact ih (not_mem_push normal)

/-- Segments without double dots are added one by one. -/
theorem foldl_push_eq_append (segments : List Text) {more : List Text} (normal : dotDot ∉ more) :
    more.foldl (push true) segments = segments ++ more := by
  induction more generalizing segments with
  | nil => simp
  | cons s rest ih =>
    rw [List.mem_cons, not_or] at normal
    rw [List.foldl_cons, ih _ normal.2, push, if_pos (Ne.symm normal.1), List.append_assoc,
      List.singleton_append]

@[simp] theorem root_normal (p : Path) : p.normal.root = p.root := rfl

/-- Below a root the normal segments are found without regard to the root. -/
theorem segments_normal {p : Path} (rooted : p.root ≠ .relative) :
    p.normal.segments = p.segments.foldl (push true) [] := by
  rw [normal, decide_eq_true rooted]

/-- A normal path below a root is normal already. -/
theorem normal_normal {p : Path} (rooted : p.root ≠ .relative) : p.normal.normal = p.normal := by
  have same : p.normal.normal.segments = p.normal.segments := by
    rw [segments_normal (show p.normal.root ≠ .relative from rooted), segments_normal rooted,
      foldl_push_eq_append [] (not_mem_foldl_push List.not_mem_nil p.segments), List.nil_append]
  exact congrArg (Path.mk p.root) same

/-- Seen from a working directory with a root, every path has a root. -/
theorem root_absolute {cwd : Path} (rooted : cwd.root ≠ .relative) (p : Path) :
    (absolute cwd p).root ≠ .relative := by
  unfold absolute join
  split
  · exact rooted
  · assumption

/-- **From a working directory with a root, resolving twice is resolving once.** -/
theorem resolve_resolve {cwd : Path} (rooted : cwd.root ≠ .relative) (p : Path) :
    resolve cwd (resolve cwd p) = resolve cwd p := by
  have root := root_absolute rooted p
  rw [resolve, resolve, absolute, join, root_normal, if_neg root, normal_normal root]

end SolutionSweep.Path
