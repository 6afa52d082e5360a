import SolutionSweep.Proofs.Path.Walk
import SolutionSweep.Proofs.Text.Fold

/-!
# One key for all spellings of a file

A relative reference may be spelled with slashes in either direction, with empty segments and single
dots, in either letter case, and from the directory of the manifest or of any descriptor. The key of
the file does not show which spelling it was.

* `key_lowered`: the key of a path in ASCII lower case;
* `path_append`: a reference behind another one is resolved in turn;
* `key_path_of_spelling`: spellings with the same segments have one key;
* `path_composes`: all of this together, and the spellings from two directories.
-/

namespace SolutionSweep

namespace Path

/-! ### Paths in lower case -/

/-- Segments in ASCII lower case. -/
def lowerSegments (segments : List Text) : List Text := segments.map (List.map Char.toLower)

/-- A path in ASCII lower case. -/
def lowered (p : Path) : Path := { p with segments := lowerSegments p.segments }

/-- Only double dots are double dots in lower case. -/
theorem map_toLower_eq_dotDot {s : Text} : s.map Char.toLower = dotDot ↔ s = dotDot := by
  constructor
  · intro h
    obtain ⟨c, rest, rfl, first, h⟩ := List.map_eq_cons_iff.1 h
    obtain ⟨d, rest, rfl, second, h⟩ := List.map_eq_cons_iff.1 h
    obtain rfl := List.map_eq_nil_iff.1 h
    rw [eq_of_toLower first (by decide), eq_of_toLower second (by decide)]
    rfl
  · rintro rfl
    decide

theorem push_lowered (rooted : Bool) (segments : List Text) (s : Text) :
    push rooted (lowerSegments segments) (s.map Char.toLower) =
      lowerSegments (push rooted segments s) := by
  unfold push
  by_cases up : s = dotDot
  · rw [if_neg (not_not.2 (map_toLower_eq_dotDot.2 up)), if_neg (not_not.2 up), lowerSegments,
      List.getLast?_map]
    cases segments.getLast? with
    | none => cases rooted <;> simp [lowerSegments]
    | some last =>
      by_cases again : last = dotDot
      · simp [lowerSegments, map_toLower_eq_dotDot, again]
      · simp [lowerSegments, map_toLower_eq_dotDot, again]
  · rw [if_pos (mt map_toLower_eq_dotDot.1 up), if_pos up]
    simp [lowerSegments]

theorem foldl_push_lowered (rooted : Bool) (segments more : List Text) :
    (lowerSegments more).foldl (push rooted) (lowerSegments segments) =
      lowerSegments (more.foldl (push rooted) segments) := by
  induction more generalizing segments with
  | nil => rfl
  | cons s rest ih =>
    rw [show lowerSegments (s :: rest) = s.map Char.toLower :: lowerSegments rest from rfl,
      List.foldl_cons, push_lowered]
    exact ih _

theorem normal_lowered (p : Path) : p.lowered.normal = p.normal.lowered :=
  congrArg (Path.mk p.root) (foldl_push_lowered _ [] p.segments)

theorem walk_lowered (p : Path) (segments : List Text) :
    p.lowered.walk (lowerSegments segments) = (p.walk segments).lowered :=
  congrArg (Path.mk p.root) (foldl_push_lowered true p.segments segments)

theorem join_lowered (segments : List Text) :
    Text.join ['/'] (lowerSegments segments) = (Text.join ['/'] segments).map Char.toLower := by
  induction segments with
  | nil => rfl
  | cons s rest ih =>
    cases rest with
    | nil => simp [lowerSegments, Text.join]
    | cons t rest =>
      have tail : lowerSegments (s :: t :: rest) =
          s.map Char.toLower :: t.map Char.toLower :: lowerSegments rest := rfl
      have slash : '/'.toLower = '/' := by decide
      rw [tail, Text.join_cons_cons, Text.join_cons_cons, List.map_append, List.map_append, ← ih]
      simp [slash, lowerSegments]

theorem render_lowered (p : Path) : p.lowered.render = p.render.map Char.toLower := by
  have root : p.root.text.map Char.toLower = p.root.text := by cases p.root <;> decide
  by_cases empty : p.root = .relative ∧ p.segments = []
  · have empty' : p.lowered.root = .relative ∧ p.lowered.segments = [] :=
      ⟨empty.1, by rw [lowered, empty.2]; rfl⟩
    rw [render, if_pos empty', render, if_pos empty]
    decide
  · have filled : ¬ (p.lowered.root = .relative ∧ p.lowered.segments = []) :=
      fun both => empty ⟨both.1, List.map_eq_nil_iff.1 both.2⟩
    rw [render, if_neg filled, render, if_neg empty, List.map_append, root]
    exact congrArg (p.root.text ++ ·) (join_lowered p.segments)

/-- **The key of a path is that of the path in lower case.** -/
theorem key_lowered (p : Path) : p.lowered.key = p.key := by
  rw [key, normal_lowered, render_lowered, Text.slashed_map_toLower, Text.fold_map_toLower, key]

end Path

namespace Reference

open SolutionSweep.Path (lowerSegments)

/-- What a reference spells: its segments, letter case aside. -/
def spelling (reference : Text) : List Text := lowerSegments (segments reference)

variable {cwd base : Path}

/-- **A reference behind another one is resolved in turn.** -/
theorem path_append (rooted : cwd.root ≠ .relative) {q r : Text} (hq : Text.strip q = q)
    (hr : Text.strip r = r) (first : IsRelative q) (second : IsRelative r)
    (both : IsRelative (q ++ '/' :: r)) :
    path cwd base (q ++ '/' :: r) = path cwd (path cwd base q) r := by
  have root := Path.root_absolute rooted
  rw [path_of_isRelative (root base) both, segments_append hq hr, Path.walk_append,
    path_of_isRelative (root _) second, (isNormal_path rooted base first).resolve_eq,
    path_of_isRelative (root base) first]

/-- The key of a file depends on the way to it only in lower case and with its double dots
cancelled. -/
theorem key_walk {p : Path} {s t : List Text}
    (same : (Path.mk .relative (lowerSegments s)).normal =
      (Path.mk .relative (lowerSegments t)).normal) : (p.walk s).key = (p.walk t).key := by
  rw [← Path.key_lowered, ← Path.walk_lowered, ← Path.walk_normal, same, Path.walk_normal,
    Path.walk_lowered, Path.key_lowered]

/-- **Spellings with the same segments have one key.** -/
theorem key_path_of_spelling (rooted : cwd.root ≠ .relative) {a b : Text} (ha : IsRelative a)
    (hb : IsRelative b) (same : spelling a = spelling b) :
    (path cwd base a).key = (path cwd base b).key := by
  have root := Path.root_absolute rooted base
  rw [path_of_isRelative root ha, path_of_isRelative root hb]
  exact key_walk (congrArg (fun s => (Path.mk .relative s).normal) same)

theorem climbs_of_spelling {a b : Text} (ha : IsRelative a) (hb : IsRelative b)
    (same : spelling a = spelling b) : climbs a = climbs b := by
  have first : ∀ r, (segments r).head? = some dotDot ↔ (spelling r).head? = some dotDot := by
    intro r
    rw [spelling, lowerSegments, List.head?_map]
    cases (segments r).head? with
    | none => simp
    | some s => simp [Path.map_toLower_eq_dotDot]
  rw [climbs_of_isRelative ha, climbs_of_isRelative hb, Bool.eq_iff_iff, beq_iff_eq, beq_iff_eq,
    first, first, same]

/-- **A file that is named in a manifest and in a descriptor has one key**, if both ways to it are
the same once double dots are cancelled. -/
theorem key_path_parent (rooted : cwd.root ≠ .relative) {file r other : Text}
    (hf : IsRelative file) (hr : IsRelative r) (ho : IsRelative other)
    (same : (Path.mk .relative (spelling other)).normal =
      (Path.mk .relative (spelling file ++ dotDot :: spelling r)).normal) :
    (path cwd (path cwd base file).parent r).key = (path cwd base other).key := by
  have normal := isNormal_path rooted base hf
  have above := normal.walk [dotDot]
  have way : lowerSegments (segments file ++ dotDot :: segments r) =
      spelling file ++ dotDot :: spelling r := by
    have dots : dotDot.map Char.toLower = dotDot := Path.map_toLower_eq_dotDot.2 rfl
    simp [lowerSegments, spelling, dots]
  have root := Path.root_absolute rooted
  rw [path_of_isRelative (root _) hr, normal.parent_eq_walk, above.resolve_eq, ← Path.walk_append,
    path_of_isRelative (root base) hf, ← Path.walk_append, List.singleton_append,
    path_of_isRelative (root base) ho]
  refine key_walk ?_
  rw [way, ← same, spelling]

/-- **Lexical resolution composes and ignores the spelling.** A reference that consists of two is
resolved in turn. References with the same segments, ASCII letter case aside, name files with one
key, and both leave the directory at the first segment or none does. So a file has one key, whether
it is named from the directory of the manifest or from that of a descriptor. -/
theorem path_composes (rooted : cwd.root ≠ .relative) (base : Path) :
    (∀ q r, Text.strip q = q → Text.strip r = r → IsRelative q → IsRelative r →
      IsRelative (q ++ '/' :: r) →
        path cwd base (q ++ '/' :: r) = path cwd (path cwd base q) r) ∧
    (∀ a b, IsRelative a → IsRelative b → spelling a = spelling b →
      (path cwd base a).key = (path cwd base b).key ∧ climbs a = climbs b) ∧
    (∀ file r other, IsRelative file → IsRelative r → IsRelative other →
      (Path.mk .relative (spelling other)).normal =
        (Path.mk .relative (spelling file ++ dotDot :: spelling r)).normal →
      (path cwd (path cwd base file).parent r).key = (path cwd base other).key) :=
  ⟨fun _ _ hq hr first second both => path_append rooted hq hr first second both,
    fun _ _ ha hb same => ⟨key_path_of_spelling rooted ha hb same, climbs_of_spelling ha hb same⟩,
    fun _ _ _ hf hr ho same => key_path_parent rooted hf hr ho same⟩

/-- References of a manifest in a directory below the working directory, and of its project. -/
theorem path_composes_sharedProject :
    let cwd := Path.ofText "/work".toList
    let base := Path.ofText "sln".toList
    let file := "App\\App.csproj".toList
    let r := "..\\..\\Shared\\Core.csproj".toList
    let other := "./..//SHARED/core.CSPROJ".toList
    cwd.root ≠ .relative ∧
      path cwd base (file ++ '/' :: r) = path cwd (path cwd base file) r ∧
      (path cwd base "..\\shared\\Core.csproj".toList).key = (path cwd base other).key ∧
      climbs "..\\shared\\Core.csproj".toList = climbs other ∧
      (path cwd (path cwd base file).parent r).key = (path cwd base other).key ∧
      (path cwd base other).key = "/work/shared/core.csproj".toList := by
  intro cwd base file r other
  have rooted : cwd.root ≠ .relative := by decide
  obtain ⟨inTurn, spelled, fromBoth⟩ := path_composes rooted base
  obtain ⟨key, climbs⟩ := spelled "..\\shared\\Core.csproj".toList other (by decide +kernel)
    (by decide +kernel) (by decide +kernel)
  exact ⟨rooted, inTurn file r (by decide +kernel) (by decide +kernel) (by decide +kernel)
    (by decide +kernel) (by decide +kernel), key, climbs,
    fromBoth file r other (by decide +kernel) (by decide +kernel) (by decide +kernel)
      (by decide +kernel), by decide +kernel⟩

end Reference

end SolutionSweep
