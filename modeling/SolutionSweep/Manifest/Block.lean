import SolutionSweep.Manifest.Line

/-!
# Registration blocks

An entry is registered by a line of its own and, if the manifest is in order, a closing line
further down; what stands between them belongs to the entry. A registration line that meets
another registration or a boundary of the global part before a closing line stands alone.

* `Span`: an inclusive range of line indices;
* `Block`: an entry with the lines that register it;
* `Block.scan`: the blocks of a manifest, in order.
-/

namespace SolutionSweep

/-- The lines from `first` to `last`, both included. -/
structure Span where
  first : Nat
  last : Nat
  deriving DecidableEq, Repr

/-- The indices of the lines of a span, in order. -/
def Span.indices (s : Span) : List Nat := List.range' s.first (s.last + 1 - s.first)

theorem Span.first_mem_indices {s : Span} (h : s.first ≤ s.last) : s.first ∈ s.indices := by
  simp [Span.indices, List.mem_range']; omega

/-- A registered entry and the lines that register it. -/
structure Block where
  id : EntryId
  typeId : EntryId
  name : Text
  path : Text
  span : Span
  hasItems : Bool
  deriving DecidableEq, Repr

namespace Block

/-- The type of entries that are folders of the solution. -/
def folderTypeId : EntryId := "2150E333-8FDC-42A3-9474-1A3956D46DE8".toList

/-- Whether the entry is a folder of the solution. -/
def isFolder (b : Block) : Bool := b.typeId == folderTypeId

/-- How many of the lines after a registration line its block takes: up to the closing line, and
none if another registration or a boundary of the global part comes first. -/
def extent : List Text → Option Nat
  | [] => none
  | l :: rest =>
      if Line.isBlockEnd l then some 1
      else if Line.isRegistration l || Line.isGlobalBoundary l then none
      else (extent rest).map (· + 1)

/-- The block that a registration line at index `i` opens in front of the lines `rest`. -/
def ofLine (i : Nat) (r : Line.Registration) (rest : List Text) : Block :=
  let taken := (extent rest).getD 0
  { id := canonicalId r.id
    typeId := canonicalId r.typeId
    name := r.name
    path := r.path
    span := ⟨i, i + taken⟩
    hasItems := (rest.take (taken - 1)).any Line.isItemsHeader }

/-- The blocks of the lines from index `i` on. No registration line lies inside a block, so each
of them opens one. -/
def scanFrom : (i : Nat) → List Text → List Block
  | _, [] => []
  | i, l :: rest =>
      match Line.registration? l with
      | some r => ofLine i r rest :: scanFrom (i + 1) rest
      | none => scanFrom (i + 1) rest

/-- A block starts at one of the scanned lines and does not end before it starts. -/
theorem span_of_mem_scanFrom {b : Block} {i : Nat} {lines : List Text}
    (mem : b ∈ scanFrom i lines) :
    i ≤ b.span.first ∧ b.span.first < i + lines.length ∧ b.span.first ≤ b.span.last := by
  induction lines generalizing i with
  | nil => simp [scanFrom] at mem
  | cons l rest ih =>
      simp only [scanFrom] at mem
      split at mem
      · rcases List.mem_cons.1 mem with rfl | mem
        · simp [ofLine]
        · have := ih mem; simp; omega
      · have := ih mem; simp; omega

/-- The blocks of a manifest, in order. -/
def scan (lines : List Text) : List Block := scanFrom 0 lines

/-- The first block of an entry. -/
def find? (blocks : List Block) (id : EntryId) : Option Block := blocks.find? (·.id == id)

end Block

end SolutionSweep
