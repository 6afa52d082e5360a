import SolutionSweep.Text.Case

/-!
# File paths

A path is a root and a list of segments. Written paths lose empty segments and single dots when
they are read; two dots stay until the path is normalised.

* `Path.ofText`, `Path.render`: from and to the written form;
* `Path.join`: a path below another, unless it has a root of its own;
* `Path.normal`: two dots cancelled against the segment before them;
* `Path.absolute`, `Path.resolve`: the path as seen from a working directory;
* `Resolution.resolve?`: the same by rules under which not every path can be resolved;
* `Path.key`: the identity of a file, whatever the letter case and direction of slashes.
-/

namespace SolutionSweep

/-- What a path starts from: the working directory, the root directory, or the second root
written with exactly two slashes. -/
inductive Root
  | relative
  | single
  | double
  deriving DecidableEq, Repr

/-- The slashes that a root is written with. -/
def Root.text : Root → Text
  | .relative => []
  | .single => ['/']
  | .double => ['/', '/']

/-- The root of a written path, told by its leading slashes. -/
def Root.ofText : Text → Root
  | '/' :: '/' :: '/' :: _ => .single
  | '/' :: '/' :: _ => .double
  | '/' :: _ => .single
  | _ => .relative

/-- A root and the segments below it. -/
structure Path where
  root : Root
  segments : List Text
  deriving DecidableEq, Repr

/-- The segment for the directory itself. -/
def dot : Text := ['.']

/-- The segment for the directory above. -/
def dotDot : Text := ['.', '.']

/-- The segments between slashes, without empty ones and single dots. -/
def segmentsOf (t : Text) : List Text :=
  (Text.splitOn '/' t).filter fun s => !(s.isEmpty || s == dot)

namespace Path

/-- Reads a written path. -/
def ofText (t : Text) : Path := ⟨Root.ofText t, segmentsOf t⟩

/-- The written form; the empty path is written as a dot. -/
def render (p : Path) : Text :=
  if p.root = .relative ∧ p.segments = [] then dot
  else p.root.text ++ Text.join ['/'] p.segments

/-- The segments of `base` followed by those of `p`, unless `p` has a root. -/
def join (base p : Path) : Path :=
  if p.root = .relative then { base with segments := base.segments ++ p.segments } else p

/-- The path with one more segment. -/
def child (p : Path) (name : Text) : Path := { p with segments := p.segments ++ [name] }

/-- The directory that a path lies in; a root and the empty path lie in themselves. -/
def parent (p : Path) : Path := { p with segments := p.segments.dropLast }

/-- The last segment. -/
def name (p : Path) : Text := p.segments.getLastD []

/-- Adds a segment to normal ones: two dots cancel the segment before them, vanish below a root
and stay at the front of a relative path. -/
def push (rooted : Bool) (segments : List Text) (s : Text) : List Text :=
  if s ≠ dotDot then segments ++ [s]
  else
    match segments.getLast? with
    | none => if rooted then [] else [s]
    | some last => if last = dotDot then segments ++ [s] else segments.dropLast

/-- The path with two dots cancelled against the segments before them. -/
def normal (p : Path) : Path :=
  { p with segments := p.segments.foldl (push (p.root ≠ .relative)) [] }

/-- The path as seen from a working directory. -/
def absolute (cwd p : Path) : Path := join cwd p

/-- The normal path as seen from a working directory. -/
def resolve (cwd p : Path) : Path := (absolute cwd p).normal

/-- The identity of a file: its normal path, with slashes only and without letter case. -/
def key (p : Path) : Text := (Text.slashed p.normal.render).fold

end Path

/-! ### Rules of resolving -/

/-- How paths are resolved: by their segments alone, or by the system, which takes no path with a
null character. -/
inductive Resolution
  | bySegments
  | bySystem
  deriving DecidableEq, Repr

namespace Resolution

/-- Whether a path can be resolved. -/
def accepts : Resolution → Path → Bool
  | bySegments, _ => true
  | bySystem, p => p.segments.all fun s => !s.contains '\x00'

theorem accepts_iff {p : Path} (how : Resolution) :
    how.accepts p = true ↔ (how = .bySystem → ∀ s ∈ p.segments, '\x00' ∉ s) := by
  cases how <;> simp [accepts]

/-- The normal path as seen from a working directory, if it can be resolved. -/
def resolve? (how : Resolution) (cwd p : Path) : Option Path :=
  if how.accepts (Path.absolute cwd p) then some (Path.resolve cwd p) else none

theorem eq_resolve {how : Resolution} {cwd p q : Path} (h : how.resolve? cwd p = some q) :
    q = Path.resolve cwd p := by
  unfold resolve? at h
  split at h
  · exact (Option.some.inj h).symm
  · cases h

end Resolution

end SolutionSweep
