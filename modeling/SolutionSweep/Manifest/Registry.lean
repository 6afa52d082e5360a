import SolutionSweep.Manifest.Conventions
import SolutionSweep.Manifest.Document
import SolutionSweep.Manifest.Nesting
import SolutionSweep.Manifest.VersionControl
import SolutionSweep.Path.Reference

/-!
# The registry of a manifest

The registry holds what a manifest says about its entries: the projects with the files they stand
for, the folders, who lies in which folder, and the records of version control.

* `Registry.parse`: the registry of a manifest text, which fails on circular nesting and on
  numerals that are too long.
-/

namespace SolutionSweep

/-- A registered project and the file that describes it. -/
structure Project where
  id : EntryId
  name : Text
  relativePath : Text
  path : Path
  nestedPath : Text
  deriving DecidableEq, Repr

/-- What a manifest registers. Projects and folders have one entry each per identifier. -/
structure Registry where
  manifest : Path
  text : Text
  projects : List Project
  folders : List (EntryId × Text)
  nesting : List (EntryId × EntryId)
  versionControl : Option VersionControl

/-- The directory that registered paths are relative to. -/
def Registry.directory (r : Registry) : Path := r.manifest.parent

/-- Why the registry of a manifest text cannot be drawn up. -/
inductive RegistryError
  | nestingCycle (e : NestingCycle)
  | longNumeral (e : LongNumeral)
  deriving DecidableEq, Repr

namespace Registry

/-- The blocks that count as projects: no folders, with the path of a project, and of several
blocks with one identifier the first. -/
def projectBlocks (c : Conventions) (blocks : List Block) : List Block :=
  firsts (·.id) (blocks.filter fun b => !b.isFolder && c.isProjectPath b.path)

/-- The folders, of several with one identifier the first. -/
def foldersOf (blocks : List Block) : List (EntryId × Text) :=
  (firsts (·.id) (blocks.filter (·.isFolder))).map fun b => (b.id, b.name)

/-- The names of the entries, of several with one identifier the last. -/
def namesOf (blocks : List Block) : List (EntryId × Text) :=
  lastValues (blocks.map fun b => (b.id, b.name))

/-- The project that a block registers. -/
def projectOf (cwd directory : Path) (parents : List (EntryId × EntryId))
    (names : List (EntryId × Text)) (b : Block) : Except NestingCycle Project :=
  (nestedPath parents names b.id).map fun nested =>
    { id := b.id
      name := b.name
      relativePath := b.path
      path := Reference.path cwd directory b.path
      nestedPath := nested }

/-- The records of version control, if one of the sections it may keep is there. -/
def versionControlOf (c : Conventions) (lines : List Text) :
    Except LongNumeral (Option VersionControl) :=
  match Section.find? (Section.scan lines) c.versionControlSections with
  | none => .ok none
  | some s => (VersionControl.read lines s).map some

/-- Draws up the registry of a manifest text. -/
def parse (cwd : Path) (c : Conventions) (manifest : Path) (text : Text) :
    Except RegistryError Registry := do
  let lines := (Document.ofText text).lines
  let blocks := Block.scan lines
  let parents := parentsOf (NestingLine.scan lines (nestingSection? lines))
  let projects ← ((projectBlocks c blocks).mapM
    (projectOf cwd manifest.parent parents (namesOf blocks))).mapError .nestingCycle
  let versionControl ← (versionControlOf c lines).mapError .longNumeral
  return {
    manifest := manifest
    text := text
    projects := projects
    folders := foldersOf blocks
    nesting := parents
    versionControl := versionControl }

end Registry

end SolutionSweep
