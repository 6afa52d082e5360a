import SolutionSweep.Descriptor.Reference
import SolutionSweep.Manifest.Registry

/-!
# The walk along references

Projects inside the directory of the manifest are the roots. From each of them the walk follows
the references of descriptors to registered projects, depth first and in order, and reads each
descriptor once. A reference means a project by the identity of the file; a reference to a root
is not followed, since roots are walked on their own.

* `ProjectGraph`: registered projects and a reader of descriptors;
* `ProjectGraph.targets`: the projects that a descriptor leads to;
* `ProjectGraph.walk`: the walk, which fails at the first descriptor that is missing and at the
  first reference back to a project that is still being walked.
-/

namespace SolutionSweep

/-- Registered projects, the directory that they are relative to, and a reader of descriptors. -/
structure ProjectGraph where
  cwd : Path
  directory : Path
  projects : List Project
  read : Path → Option Text

/-- Why the projects in use cannot be told. -/
inductive GraphError
  | missing (path : Path) (entry : EntryId) (referencedFrom : Option EntryId)
  | cycle (chain : List EntryId)
  deriving DecidableEq, Repr

/-- What is said about a graph in which the projects in use cannot be told. -/
def GraphError.message : GraphError → Text
  | missing path _ _ => "Project file is missing: ".toList ++ path.render
  | cycle chain => "Project references contain a cycle: ".toList ++ arrowChain chain

namespace ProjectGraph

/-- Whether a project lies inside the directory of the manifest. -/
def isRoot (g : ProjectGraph) (p : Project) : Bool :=
  !Reference.isExternal g.cwd g.directory p.relativePath

/-- The projects inside the directory of the manifest, in order. -/
def roots (g : ProjectGraph) : List Project := g.projects.filter g.isRoot

/-- The other projects, in order. -/
def externals (g : ProjectGraph) : List Project := g.projects.filter fun p => !g.isRoot p

/-- The identifiers of the roots. -/
def rootIds (g : ProjectGraph) : List EntryId := g.roots.map (·.id)

/-- The first project that stands for a file. -/
def projectAt? (g : ProjectGraph) (file : Path) : Option Project :=
  g.projects.find? fun p => p.path.key == file.key

/-- The projects that the references in the descriptor of `p` lead to, roots left out. -/
def targets (g : ProjectGraph) (p : Project) (descriptor : Text) : List Project :=
  ((ProjectReference.extract descriptor).filterMap fun r =>
    g.projectAt? (Reference.path g.cwd p.path.parent r.path)).filter fun t =>
      !g.rootIds.contains t.id

/-! ### The state of a walk -/

/-- A project being walked, and its targets still to be looked at. -/
structure Frame where
  project : Project
  pending : List Project
  deriving DecidableEq, Repr

/-- Where a walk stands: the projects being walked, the innermost first; the identifiers not met
so far; and the projects whose descriptors have been asked for, the latest first. -/
structure Walk where
  stack : List Frame
  fresh : List EntryId
  visited : List Project
  deriving DecidableEq, Repr

/-- How much is left to do before the walk meets another project or another root. -/
def Walk.work (w : Walk) : Nat := w.stack.foldr (fun f n => f.pending.length + 1 + n) 0

/-- Starts to walk a project with the given targets. -/
def Walk.enter (w : Walk) (p : Project) (targets : List Project) : Walk where
  stack := ⟨p, targets⟩ :: w.stack
  fresh := w.fresh.filter (· != p.id)
  visited := p :: w.visited

/-- The identifiers of the projects being walked, the outermost first. -/
def Walk.chain (w : Walk) : List EntryId := (w.stack.map (·.project.id)).reverse

/-- The circle that a reference to a project being walked closes. -/
def Walk.cycleTo (w : Walk) (id : EntryId) : List EntryId :=
  w.chain.dropWhile (· != id) ++ [id]

theorem Walk.length_fresh_enter_le (w : Walk) (p : Project) (targets : List Project) :
    (w.enter p targets).fresh.length ≤ w.fresh.length :=
  List.length_filter_le _ _

/-- A project that is met for the first time is not met for the first time again. -/
theorem Walk.length_fresh_enter_lt {w : Walk} {p : Project} (targets : List Project)
    (fresh : p.id ∈ w.fresh) : (w.enter p targets).fresh.length < w.fresh.length :=
  List.length_filter_lt_length_iff_exists.2 ⟨p.id, fresh, by simp⟩

/-! ### The walk -/

/-- Walks on from `w` and then from the remaining roots. Returns where the walk ends, and why if
it ends early. -/
def walk (g : ProjectGraph) (roots : List Project) (w : Walk) : Walk × Option GraphError :=
  match _stack : w.stack with
  | [] =>
      match roots with
      | [] => (w, none)
      | root :: rest =>
          match g.read root.path with
          | none => (w.enter root [], some (.missing root.path root.id none))
          | some descriptor => walk g rest (w.enter root (g.targets root descriptor))
  | ⟨_, []⟩ :: outer => walk g roots { w with stack := outer }
  | ⟨current, target :: pending⟩ :: outer =>
      let next : Walk := { w with stack := ⟨current, pending⟩ :: outer }
      if _fresh : target.id ∈ w.fresh then
        match g.read target.path with
        | none => (next.enter target [], some (.missing target.path target.id (some current.id)))
        | some descriptor => walk g roots (next.enter target (g.targets target descriptor))
      else if target.id ∈ w.chain then (w, some (.cycle (w.cycleTo target.id)))
      else walk g roots next
termination_by (roots.length + w.fresh.length, w.work)
decreasing_by
  · have := Walk.length_fresh_enter_le w root (g.targets root descriptor)
    exact Prod.Lex.left _ _ (by simp; omega)
  · exact Prod.Lex.right _ (by simp [Walk.work, _stack])
  · have := Walk.length_fresh_enter_lt (w := next) (g.targets target descriptor) _fresh
    exact Prod.Lex.left _ _ (by simp [next] at this ⊢; omega)
  · exact Prod.Lex.right _ (by simp [Walk.work, _stack])

/-- A walk at its start: every project is still to be met. -/
def start (g : ProjectGraph) : Walk := ⟨[], g.projects.map (·.id), []⟩

/-- The whole walk: the projects whose descriptors are asked for, in this order, and why the walk
ends if it ends early. -/
def traverse (g : ProjectGraph) : List Project × Option GraphError :=
  let (w, error) := g.walk g.roots g.start
  (w.visited.reverse, error)

end ProjectGraph

end SolutionSweep
