import SolutionSweep.Manifest.Section
import SolutionSweep.Table

/-!
# Nesting

A section of the global part says which entry lies in which folder. The path of an entry through
the folders is found by climbing from parent to parent.

* `Nesting.scan`: the nesting lines of a section;
* `nestedPath`: the names of the folders around an entry, unless the parents form a circle.
-/

namespace SolutionSweep

/-- A nesting line and its index. -/
structure NestingLine where
  index : Nat
  child : EntryId
  parent : EntryId
  deriving DecidableEq, Repr

/-- The name of the section that holds the nesting lines. -/
def nestingSectionName : Text := "NestedProjects".toList

/-- The nesting lines of a section that may or may not be there. -/
def NestingLine.scan (lines : List Text) (s : Option Section) : List NestingLine :=
  (Section.bodyOf s lines).filterMap fun (l, i) =>
    (Line.nesting? l).map fun (child, parent) => ⟨i, child, parent⟩

/-- The section that holds the nesting lines. -/
def nestingSection? (lines : List Text) : Option Section :=
  Section.find? (Section.scan lines) [nestingSectionName]

/-- The parent of each nested entry; of several lines for one child the last one counts. -/
def parentsOf (nesting : List NestingLine) : List (EntryId × EntryId) :=
  lastValues (nesting.map fun n => (n.child, n.parent))

/-- Parents that form a circle: the entries from the starting one to the first repeated one. -/
structure NestingCycle where
  chain : List EntryId
  deriving DecidableEq, Repr

/-- Writes identifiers as a chain of arrows. -/
def arrowChain (ids : List EntryId) : Text := Text.join " -> ".toList ids

/-- What is said about parents that form a circle. -/
def NestingCycle.message (e : NestingCycle) : Text :=
  "Nesting relation contains a cycle: ".toList ++ arrowChain e.chain

/-- Climbs from the last entry of `chain` and collects the names of the folders on the way, the
outermost one first. `fuel` bounds the number of parents still to be met for the first time. -/
def climb (parents : List (EntryId × EntryId)) (names : List (EntryId × Text)) :
    (fuel : Nat) → (chain : List EntryId) → (current : EntryId) → (above : List Text) →
      Except NestingCycle (List Text)
  | 0, _, _, above => .ok above
  | fuel + 1, chain, current, above =>
      match parents.lookup current with
      | none => .ok above
      | some parent =>
          if chain.contains parent then .error ⟨chain ++ [parent]⟩
          else
            match names.lookup parent with
            | none => .ok above
            | some name => climb parents names fuel (chain ++ [parent]) parent (name :: above)

/-- The names of the folders around an entry, the outermost one first, joined by slashes. -/
def nestedPath (parents : List (EntryId × EntryId)) (names : List (EntryId × Text))
    (id : EntryId) : Except NestingCycle Text :=
  (climb parents names (parents.length + 1) [id] id []).map (Text.join ['/'])

end SolutionSweep
