import SolutionSweep.Proofs.Path.Walk
import SolutionSweep.Proofs.Text.Fold

/-!
# Containment

A file lies in a directory if it has the key of the directory, or the segments of that key and more.
Walks from the directory that only lead down stay in it. One that leads up first comes back if it
leads down again by the segments that it went up.

* `Path.Within`: a file in a directory or below it;
* `Path.keySegments`: the segments of a key;
* `Path.IsNormal.within_walk`, `Path.IsNormal.within_walk_iff`: walks that end in the directory.
-/

namespace SolutionSweep

namespace Text

theorem trimEnd_eq_self {p : Char → Bool} {t : Text} (h : ∀ c, t.getLast? = some c → p c = false) :
    trimEnd p t = t := by
  rcases List.eq_nil_or_concat' t with rfl | ⟨t, c, rfl⟩
  · rfl
  · simp [trimEnd, h c List.getLast?_concat]

/-- A text goes on behind a separator if it has more pieces. -/
theorem append_isPrefix_iff {sep : Char} {s t : Text} : s ++ [sep] <+: t ↔
    ∃ name rest, splitOn sep t = splitOn sep s ++ name :: rest := by
  constructor
  · rintro ⟨z, rfl⟩
    obtain ⟨name, rest, pieces⟩ := List.exists_cons_of_ne_nil (splitOn_ne_nil sep z)
    exact ⟨name, rest, by rw [List.append_assoc, List.singleton_append, splitOn_append, pieces]⟩
  · rintro ⟨name, rest, pieces⟩
    have joined := congrArg (join [sep]) pieces
    rw [join_splitOn, join_append (splitOn_ne_nil sep s) (List.cons_ne_nil _ _), join_splitOn]
      at joined
    exact ⟨join [sep] (name :: rest), by rw [joined, List.append_assoc]⟩

end Text

namespace Path

/-! ### Files in a directory -/

/-- A file that is a directory or lies beneath it: it has the key of the directory, or the segments
of that key, slashes at its end aside, and more. -/
def Within (directory file : Path) : Prop :=
  file.key = directory.key ∨ ∃ name rest, Text.splitOn '/' file.key =
    Text.splitOn '/' (Text.trimEnd (· == '/') directory.key) ++ name :: rest

theorem keyWithin_iff {directory file : Path} :
    Reference.keyWithin directory.key file.key = true ↔ Within directory file := by
  rw [Reference.keyWithin, Bool.or_eq_true, beq_iff_eq, List.isPrefixOf_iff_prefix,
    Text.append_isPrefix_iff, Within]

instance (directory file : Path) : Decidable (Within directory file) :=
  decidable_of_iff _ keyWithin_iff

/-! ### The key of a normal path -/

/-- The segments of the key of a path with the given segments. A segment with backslashes is several
ones in the key. -/
def keySegments (segments : List Text) : List Text :=
  segments.flatMap fun s => Text.splitOn '/' (Text.slashed s).fold

/-- The key of segments with slashes between them. -/
def keyText (segments : List Text) : Text := (Text.slashed (Text.join ['/'] segments)).fold

theorem keyText_append {s t : List Text} (hs : s ≠ []) (ht : t ≠ []) :
    keyText (s ++ t) = keyText s ++ '/' :: keyText t := by
  have slash : (Text.slashed ['/']).fold = ['/'] := by decide
  rw [keyText, Text.join_append hs ht, Text.slashed_append, Text.slashed_append, Text.fold_append,
    Text.fold_append, slash]
  rfl

theorem splitOn_keyText {segments : List Text} (filled : segments ≠ []) :
    Text.splitOn '/' (keyText segments) = keySegments segments := by
  induction segments with
  | nil => exact absurd rfl filled
  | cons s rest ih =>
    cases rest with
    | nil => simp [keyText, keySegments, Text.join]
    | cons t rest =>
      rw [← List.singleton_append, keyText_append (List.cons_ne_nil _ _) (List.cons_ne_nil _ _),
        Text.splitOn_append, ih (List.cons_ne_nil _ _)]
      simp [keyText, keySegments, Text.join]

theorem keySegments_append (s t : List Text) :
    keySegments (s ++ t) = keySegments s ++ keySegments t := List.flatMap_append

theorem keySegments_eq_nil_iff {segments : List Text} :
    keySegments segments = [] ↔ segments = [] := by
  constructor
  · intro none
    cases segments with
    | nil => rfl
    | cons s rest =>
      exact absurd (List.append_eq_nil_iff.1 none).1 (Text.splitOn_ne_nil '/' _)
  · rintro rfl
    rfl

namespace IsNormal

variable {p : Path}

theorem key_eq (h : p.IsNormal) : p.key = p.root.text ++ keyText p.segments := by
  have root : (Text.slashed p.root.text).fold = p.root.text := by cases p.root <;> decide
  rw [key, h.normal_eq, render, if_neg fun both => h.rooted both.1, Text.slashed_append,
    Text.fold_append, root, keyText]

/-- The segments of a key, behind the empty ones that stand for the root. -/
theorem splitOn_key (h : p.IsNormal) (filled : p.segments ≠ []) :
    Text.splitOn '/' p.key = p.root.text.map (fun _ => []) ++ keySegments p.segments := by
  rw [h.key_eq, ← splitOn_keyText filled]
  cases p.root <;> simp [Root.text, Text.splitOn]

/-- **A walk down stays in the directory.** -/
theorem within_walk (h : p.IsNormal) {names : List Text} (down : dotDot ∉ names) :
    Within p (p.walk names) := by
  cases names with
  | nil => exact .inl rfl
  | cons name names =>
    refine .inr (Text.append_isPrefix_iff.1 ?_)
    rw [(h.walk _).key_eq, walk_eq_append p down, h.key_eq]
    by_cases top : p.segments = []
    · -- The key of a root is nothing but slashes.
      have bare : Text.trimEnd (· == '/') (p.root.text ++ keyText p.segments) = [] := by
        rw [top]
        cases p.root <;> decide
      rw [bare]
      cases root : p.root with
      | relative => exact absurd root h.rooted
      | single => exact ⟨_, rfl⟩
      | double => exact ⟨_, rfl⟩
    · obtain ⟨back, key, slashes⟩ :=
        Text.exists_trimEnd_append (· == '/') (p.root.text ++ keyText p.segments)
      have below : p.root.text ++ keyText (p.segments ++ name :: names) =
          Text.trimEnd (· == '/') (p.root.text ++ keyText p.segments) ++
            (back ++ '/' :: keyText (name :: names)) := by
        rw [keyText_append top (List.cons_ne_nil name names), ← List.append_assoc,
          ← List.append_assoc, ← key]
      rw [below, List.prefix_append_right_inj]
      cases back with
      | nil => exact ⟨_, rfl⟩
      | cons c back =>
        rw [beq_iff_eq.1 (slashes c List.mem_cons_self)]
        exact ⟨_, rfl⟩

end IsNormal

/-! ### Directories with an ordinary name -/

/-- The last segment is not empty and ends in neither a slash nor a backslash. -/
def EndsInName (p : Path) : Prop :=
  ∀ s, p.segments.getLast? = some s → ∃ c, s.getLast? = some c ∧ c ≠ '/' ∧ c ≠ '\\'

namespace IsNormal

variable {p file : Path}

/-- The key of such a directory does not end in a slash. -/
theorem getLast?_key (h : p.IsNormal) (ends : p.EndsInName) (filled : p.segments ≠ []) :
    p.key.getLast? ≠ some '/' := by
  obtain ⟨front, s, segments⟩ := (List.eq_nil_or_concat' p.segments).resolve_left filled
  obtain ⟨c, last, notSlash, notBack⟩ := ends s (by rw [segments, List.getLast?_concat])
  obtain ⟨s, rfl⟩ := List.getLast?_eq_some_iff.1 last
  have behind : ∃ t, Text.join ['/'] (front ++ [s ++ [c]]) = t ++ [c] := by
    by_cases first : front = []
    · exact ⟨s, by simp [first, Text.join]⟩
    · rw [Text.join_append first (List.cons_ne_nil _ _)]
      exact ⟨Text.join ['/'] front ++ (['/'] ++ s), by simp [Text.join]⟩
  obtain ⟨t, joined⟩ := behind
  have single : Text.fold (Text.slashed [c]) = foldChar c := by
    simp [Text.slashed, Text.fold, notBack]
  have key : p.key = (p.root.text ++ (Text.slashed t).fold) ++ foldChar c := by
    rw [h.key_eq, keyText, segments, joined, Text.slashed_append, Text.fold_append, single,
      List.append_assoc]
  rw [key, List.getLast?_append_of_ne_nil _ (foldChar_ne_nil c)]
  exact fun slash => notSlash (slash_mem_foldChar.1 (List.mem_of_getLast? slash))

/-- Whether a file lies in such a directory is told by the segments of the keys. -/
theorem within_iff (h : p.IsNormal) (ends : p.EndsInName) (filled : p.segments ≠ []) :
    Within p file ↔ Text.splitOn '/' p.key <+: Text.splitOn '/' file.key := by
  have whole : Text.trimEnd (· == '/') p.key = p.key := Text.trimEnd_eq_self fun c last => by
    have other := h.getLast?_key ends filled
    rw [last] at other
    simpa using other
  rw [Within, whole]
  constructor
  · rintro (same | ⟨name, rest, pieces⟩)
    · rw [same]
    · exact ⟨name :: rest, pieces.symm⟩
  · rintro ⟨more, pieces⟩
    cases more with
    | nil =>
      have joined := congrArg (Text.join ['/']) pieces
      rw [List.append_nil, Text.join_splitOn, Text.join_splitOn] at joined
      exact .inl joined.symm
    | cons name rest => exact .inr ⟨name, rest, pieces.symm⟩

/-- A root does not lie in a directory below it. -/
theorem not_within_root (h : p.IsNormal) (ends : p.EndsInName) (filled : p.segments ≠ [])
    (hf : file.IsNormal) (root : file.root = p.root) (bare : file.segments = []) :
    ¬ Within p file := by
  have key : file.key = p.root.text := by
    rw [hf.key_eq, root, bare]
    exact List.append_nil _
  rw [h.within_iff ends filled, key]
  rintro ⟨more, pieces⟩
  cases more with
  | nil =>
    have joined := congrArg (Text.join ['/']) pieces
    rw [List.append_nil, Text.join_splitOn, Text.join_splitOn] at joined
    refine h.getLast?_key ends filled ?_
    rw [joined]
    cases slashes : p.root with
    | relative => exact absurd slashes h.rooted
    | single => rfl
    | double => rfl
  | cons name rest =>
    have longer := (Text.append_isPrefix_iff.2 ⟨name, rest, pieces.symm⟩).length_le
    rw [h.key_eq] at longer
    simp only [List.length_append, List.length_singleton] at longer
    omega

/-- Walking up takes segments away, as long as there are some. -/
theorem walk_replicate (h : p.IsNormal) (k : Nat) : p.walk (List.replicate k dotDot) =
    { p with segments := p.segments.take (p.segments.length - k) } := by
  induction k generalizing p with
  | zero => simp [Path.walk]
  | succ k ih =>
    have above := h.walk [dotDot]
    rw [← h.parent_eq_walk] at above
    rw [List.replicate_succ, ← List.singleton_append, walk_append, ← h.parent_eq_walk, ih above,
      parent, List.dropLast_eq_take, List.take_take, List.length_take]
    congr 2
    omega

/-- **A walk up and down ends in the directory if it leads down again by the segments that it went
up.** -/
theorem within_walk_iff (h : p.IsNormal) (ends : p.EndsInName) (k : Nat) {names : List Text}
    (down : dotDot ∉ names) : Within p (p.walk (List.replicate k dotDot ++ names)) ↔
      keySegments (p.segments.drop (p.segments.length - k)) <+: keySegments names := by
  by_cases top : p.segments = []
  · -- There is nothing above a root.
    have stays : p.walk (List.replicate k dotDot) = p := by
      rw [h.walk_replicate, top, List.take_nil, ← top]
    rw [walk_append, stays, top, List.drop_nil]
    exact iff_of_true (h.within_walk down) (List.nil_prefix)
  · have file := h.walk (List.replicate k dotDot ++ names)
    have way : (p.walk (List.replicate k dotDot ++ names)).segments =
        p.segments.take (p.segments.length - k) ++ names := by
      rw [walk_append, h.walk_replicate, walk_eq_append _ down]
    have parts := keySegments_append (p.segments.take (p.segments.length - k))
      (p.segments.drop (p.segments.length - k))
    rw [List.take_append_drop] at parts
    by_cases bare : p.segments.take (p.segments.length - k) ++ names = []
    · -- The walk goes up to the root and stays there.
      have outside := h.not_within_root ends top file rfl (way.trans bare)
      obtain ⟨none, rfl⟩ := List.append_eq_nil_iff.1 bare
      rw [none] at parts
      refine iff_of_false outside fun back => top ?_
      rw [← keySegments_eq_nil_iff, parts]
      exact List.prefix_nil.1 back
    · rw [h.within_iff ends top, h.splitOn_key top, file.splitOn_key (way ▸ bare), way, root_walk,
        List.prefix_append_right_inj, parts, keySegments_append, List.prefix_append_right_inj]

end IsNormal

end Path

end SolutionSweep
