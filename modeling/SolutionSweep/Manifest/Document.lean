import SolutionSweep.Text.LineBreak

/-!
# Manifest documents

A document is a manifest text split into lines, together with what is needed to write it again:
the kind of its line breaks, whether it starts with a byte order mark, and whether its last line
is followed by a line break.

* `Document.ofText`, `Document.render`: from and to the text;
* `Document.deleteLines`: the document without the lines at some indices, all taken out at once;
* `Document.stripBlankLines`: the document without blank lines.
-/

namespace SolutionSweep

/-- The line break of a document. -/
inductive Newline
  | lineFeed
  | paired
  deriving DecidableEq, Repr

/-- The characters of a line break. -/
def Newline.text : Newline → Text
  | .lineFeed => ['\n']
  | .paired => ['\r', '\n']

/-- The lines of a manifest and the way they are written. -/
structure Document where
  lines : List Text
  newline : Newline
  hasMark : Bool
  endsWithBreak : Bool
  deriving DecidableEq, Repr

namespace Document

/-- The lines between line feeds; the last line feed ends a line and starts none. -/
def splitLines (unified : Text) : List Text :=
  let pieces := Text.splitOn '\n' unified
  if unified.getLast? = some '\n' then pieces.dropLast else pieces

/-- Splits a manifest text into lines. One paired line break makes the whole document paired. -/
def ofText (text : Text) : Document :=
  let body := Text.withoutMark text
  let unified := Text.unifyBreaks body
  { lines := splitLines unified
    newline := if Text.hasPairedBreak body then .paired else .lineFeed
    hasMark := text.head? = some Text.byteOrderMark
    endsWithBreak := unified.getLast? = some '\n' }

/-- Writes the lines as a manifest text. -/
def render (d : Document) : Text :=
  (if d.hasMark then [Text.byteOrderMark] else []) ++
    Text.join d.newline.text d.lines ++
    (if d.endsWithBreak ∧ d.lines ≠ [] then d.newline.text else [])

/-- The lines whose indices are not among the given ones; the first line has the index `from`. -/
def linesExcept (doomed : List Nat) : (first : Nat) → List Text → List Text
  | _, [] => []
  | first, l :: rest =>
      if first ∈ doomed then linesExcept doomed (first + 1) rest
      else l :: linesExcept doomed (first + 1) rest

theorem length_linesExcept_le (doomed : List Nat) (first : Nat) (lines : List Text) :
    (linesExcept doomed first lines).length ≤ lines.length := by
  induction lines generalizing first with
  | nil => simp [linesExcept]
  | cons l rest ih =>
      have := ih (first + 1)
      by_cases h : first ∈ doomed <;> simp [linesExcept, h] <;> omega

/-- Deleting a line that is there makes the document shorter. -/
theorem length_linesExcept_lt {doomed : List Nat} (first : Nat) {i : Nat} {lines : List Text}
    (mem : i ∈ doomed) (low : first ≤ i) (high : i < first + lines.length) :
    (linesExcept doomed first lines).length < lines.length := by
  induction lines generalizing first with
  | nil => simp at high; omega
  | cons l rest ih =>
      have le := length_linesExcept_le doomed (first + 1) rest
      by_cases h : first ∈ doomed
      · simp [linesExcept, h]; omega
      · have ne : first ≠ i := fun eq => h (eq ▸ mem)
        have := ih (first + 1) (by omega) (by simp at high; omega)
        simp [linesExcept, h]; omega

/-- The document without the lines at the given indices; indices past the end do not matter. -/
def deleteLines (d : Document) (doomed : List Nat) : Document :=
  { d with lines := linesExcept doomed 0 d.lines }

/-- The indices of blank lines. -/
def blankIndices (d : Document) : List Nat :=
  (d.lines.zipIdx.filter fun (l, _) => Text.isBlank l).map (·.2)

/-- The document without blank lines. -/
def stripBlankLines (d : Document) : Document := d.deleteLines d.blankIndices

/-- How many lines the second document has less than the first. -/
def lost (before after : Document) : Nat := before.lines.length - after.lines.length

end Document

end SolutionSweep
