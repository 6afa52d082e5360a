import SolutionSweep.Graph.Walk

/-!
# Projects in use

A project is in use if the walk from the roots meets it. The other projects outside the directory
of the manifest are unused; nothing is said about them unless the walk comes to its end.
-/

namespace SolutionSweep

/-- The classification of registered projects: the roots and the externals, the identifiers of the
projects in use, the unused projects, and how many descriptors have been read. -/
structure Reachability where
  roots : List Project
  externals : List Project
  reachable : List EntryId
  unused : List Project
  descriptorsRead : Nat
  deriving DecidableEq, Repr

namespace ProjectGraph

/-- The externals that are neither in use nor share the identifier of a root. -/
def unusedGiven (g : ProjectGraph) (reachable : List EntryId) : List Project :=
  g.projects.filter fun p => !g.rootIds.contains p.id && !reachable.contains p.id

/-- Classifies the projects of a graph. -/
def reachability (g : ProjectGraph) : Except GraphError Reachability :=
  match g.traverse with
  | (_, some e) => .error e
  | (visited, none) =>
      let reachable := firsts id (visited.map (·.id))
      .ok {
        roots := g.roots
        externals := g.externals
        reachable := reachable
        unused := g.unusedGiven reachable
        descriptorsRead := visited.length }

end ProjectGraph

end SolutionSweep
