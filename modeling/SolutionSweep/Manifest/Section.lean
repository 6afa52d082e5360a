import SolutionSweep.Manifest.Block

/-!
# Sections of the global part

A section runs from its header to its end line. A section without an end line runs up to the line
before the next header or boundary of the global part, or to the last line of the manifest.

* `Section.scan`: the sections of a manifest, in order;
* `Section.find?`: the first section of one of some names, letter case aside;
* `Section.body`: the lines strictly between the first and the last line of a section.
-/

namespace SolutionSweep

/-- A section and the lines that it takes. -/
structure Section where
  name : Text
  timing : Text
  span : Span
  deriving DecidableEq, Repr

namespace Section

/-- How many of the lines after a header belong to its section. -/
def extent : List Text → Nat
  | [] => 0
  | l :: rest =>
      if Line.isSectionEnd l then 1
      else if Line.isSectionHeader l || Line.isGlobalBoundary l then 0
      else extent rest + 1

/-- The sections of the lines from index `i` on. No header lies inside a section, so each of them
opens one. -/
def scanFrom : (i : Nat) → List Text → List Section
  | _, [] => []
  | i, l :: rest =>
      match Line.sectionHeader? l with
      | some h => ⟨h.name, h.timing, ⟨i, i + extent rest⟩⟩ :: scanFrom (i + 1) rest
      | none => scanFrom (i + 1) rest

/-- The sections of a manifest, in order. -/
def scan (lines : List Text) : List Section := scanFrom 0 lines

/-- The first section of one of some names, letter case aside. -/
def find? (sections : List Section) (names : List Text) : Option Section :=
  sections.find? fun s => (names.map Text.lower).contains (Text.lower s.name)

/-- The lines strictly between the first and the last line of a section, each with its index. -/
def body (s : Section) (lines : List Text) : List (Text × Nat) :=
  (lines.zipIdx.drop (s.span.first + 1)).take (s.span.last - (s.span.first + 1))

/-- The lines of a section that may or may not be there, each with its index. -/
def bodyOf (s : Option Section) (lines : List Text) : List (Text × Nat) :=
  match s with
  | none => []
  | some s => s.body lines

end Section

end SolutionSweep
