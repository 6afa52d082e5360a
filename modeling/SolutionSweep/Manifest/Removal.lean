import SolutionSweep.Manifest.Pruning

/-!
# Removal from a manifest text

A removal takes selected entries out of a manifest text, prunes the folders that are empty
afterwards if asked to, and drops blank lines.

* `Removal.apply`: the removal of a selection;
* `Removal.summary`: the numbered list of what has been taken out, followed by the warnings.
-/

namespace SolutionSweep

/-- What a removal leaves and what it has taken out. -/
structure Removal where
  text : Text
  removed : List RemovedEntry
  prunedFolders : List RemovedEntry
  warnings : List Warning
  deriving DecidableEq, Repr

namespace Removal

/-- Whether anything has been taken out. -/
def changed (r : Removal) : Bool := !r.removed.isEmpty || !r.prunedFolders.isEmpty

/-- The removal that leaves the document of a surgery, blank lines dropped. -/
def close (s : Surgery) (removed pruned : List RemovedEntry) : Removal where
  text := s.document.stripBlankLines.render
  removed := removed
  prunedFolders := pruned
  warnings := s.warnings

/-- Takes the selected entries out of a manifest text, each of them once, and then the empty
folders if `prune` is set. -/
def apply (c : Conventions) (text : Text) (selected : List Text) (prune : Bool) :
    Except LongNumeral Removal :=
  match Surgery.removeAll c (Surgery.ofText text) (firsts id (selected.map canonicalId)) with
  | (_, .error e) => .error e
  | (after, .ok removed) =>
      if prune then
        match Surgery.pruneFolders c after with
        | (_, .error e) => .error e
        | (done, .ok pruned) => .ok (close done removed pruned)
      else .ok (close after removed [])

/-- A line of the summary, numbered from one. -/
def summaryLine (e : RemovedEntry) (i : Nat) : Text :=
  Text.ofNat (i + 1) ++ ". ".toList ++ e.name ++ (if e.isProject then [] else " (folder)".toList)

/-- The numbered list of what has been taken out, followed by the warnings. -/
def summary (removed pruned : List RemovedEntry) (warnings : List Warning) : Text :=
  let entries := removed ++ pruned
  let noun := if entries.length = 1 then "entry".toList else "entries".toList
  let title := "Removed ".toList ++ Text.ofNat entries.length ++ [' '] ++ noun ++ [':']
  Text.join ['\n'] (title :: entries.mapIdx (fun i e => summaryLine e i) ++
    warnings.map fun w => "warning: ".toList ++ w.message)

end Removal

end SolutionSweep
