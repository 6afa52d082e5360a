import SolutionSweep.Manifest.Registry

/-!
# Selecting what is removed

Unused projects are offered as candidates, all of them marked for removal. A selector may take
marks away, and confirms or declines the removal as a whole.

* `Selector.approveAll`, `Selector.decline`: every mark stays, and the answer is fixed;
* `Selector.keepEach`: the marks of named candidates are taken away;
* `Selector.keeping`: this is done before somebody is asked.
-/

namespace SolutionSweep

/-- An unused project, and whether it is to be removed. -/
structure Candidate where
  project : Project
  remove : Bool
  deriving DecidableEq, Repr

/-- The candidates after a selection, and whether the removal is confirmed. -/
structure Selection where
  candidates : List Candidate
  confirmed : Bool
  deriving DecidableEq, Repr

/-- The projects that are still marked for removal. -/
def Selection.approved (s : Selection) : List Project :=
  (s.candidates.filter (·.remove)).map (·.project)

/-- The identifiers of the candidates whose mark has been taken away. -/
def Selection.kept (s : Selection) : List EntryId :=
  (s.candidates.filter fun c => !c.remove).map (·.project.id)

/-- Decides about candidates. -/
abbrev Selector := List Candidate → Selection

/-- The candidates for some unused projects. -/
def candidatesOf (unused : List Project) : List Candidate := unused.map (⟨·, true⟩)

/-- The identifier that an item of a list of projects to keep may be, in upper case. -/
def keptId (item : Text) : Text := (Text.trim isBrace (Text.strip item)).upper

/-- Whether a list of projects to keep names a project, by its identifier or by its name with
letter case aside. -/
def names (keep : List Text) (p : Project) : Bool :=
  (keep.map keptId).contains p.id ||
    (keep.map fun item => (Text.strip item).fold).contains p.name.fold

namespace Selector

/-- Removes every candidate. -/
def approveAll : Selector := fun candidates => ⟨candidates, true⟩

/-- Removes nothing. -/
def decline : Selector := fun candidates => ⟨candidates, false⟩

/-- Takes the marks of named candidates away, one by one, and adds their identifiers to those of the
candidates that have been kept before. -/
def keepEach (keep : List Text) : List EntryId → List Candidate → List Candidate × List EntryId
  | kept, [] => ([], kept)
  | kept, c :: rest =>
      if names keep c.project then
        let (others, all) := keepEach keep (kept ++ [c.project.id]) rest
        ({ c with remove := false } :: others, all)
      else
        let (others, all) := keepEach keep kept rest
        (c :: others, all)

/-- Takes the marks of the candidates away that are named, and asks about the others. -/
def keeping (keep : List Text) (confirm : List Candidate → Bool) : Selector := fun candidates =>
  let marked := (keepEach keep [] candidates).1
  ⟨marked, confirm marked⟩

end Selector

end SolutionSweep
