import SolutionSweep.Manifest.Section
import SolutionSweep.Text.Hex

/-!
# Version-control bookkeeping

Version control keeps several lines for each project, told apart by an index in the key, and one
line that counts the projects. The line with the unique name of a project ties its index to the
path under which the project is registered.

* `Property.scan`: the indexed lines of the section, `Count.find?`: the line that counts;
* `uniqueNameKey?`, `registeredPathKey`: the two spellings of a path under which a unique name
  and a registered path are compared;
* `VersionControl.read`: the section as records by index.
-/

namespace SolutionSweep

/-- An indexed line of the section, with its index read. -/
structure Property where
  lineIndex : Nat
  line : Line.IndexedLine
  index : Nat
  deriving DecidableEq, Repr

/-- The indexed lines of a section that may or may not be there. -/
def Property.scan (lines : List Text) (s : Option Section) :
    Except LongNumeral (List Property) :=
  ((Section.bodyOf s lines).filterMap fun (l, i) => (Line.indexed? l).map (i, ·)).mapM
    fun (i, l) => (readNumeral l.digits).map (⟨i, l, ·⟩)

/-- The first line of a section that counts the projects, with its index. -/
def countLine? (lines : List Text) (s : Option Section) : Option (Nat × Line.CountLine) :=
  (Section.bodyOf s lines).findSome? fun (l, i) => (Line.count? l).map (i, ·)

/-- The index of the counting line, and the count. -/
def findCount (lines : List Text) (s : Option Section) :
    Except LongNumeral (Option (Nat × Nat)) :=
  match countLine? lines s with
  | none => .ok none
  | some (i, l) => (readNumeral l.digits).map fun n => some (i, n)

/-! ### Unique names -/

/-- Resolves the escapes of a value: a doubled backslash stands for one, and a backslash, a `u`
and four hexadecimal digits stand for a code point. There is no result if that is a surrogate,
which is no character. -/
def unescape? : Text → Option Text
  | [] => some []
  | '\\' :: '\\' :: rest => (unescape? rest).map ('\\' :: ·)
  | '\\' :: 'u' :: a :: b :: c :: d :: rest =>
      if [a, b, c, d].all isHexDigit then
        let code := hexValueOf [a, b, c, d]
        if code.isValidChar then (unescape? rest).map (Char.ofNat code :: ·) else none
      else (unescape? (a :: b :: c :: d :: rest)).map ('\\' :: 'u' :: ·)
  | c :: rest => (unescape? rest).map (c :: ·)

/-- The path that a unique name stands for, as paths are compared. -/
def uniqueNameKey? (value : Text) : Option Text :=
  (unescape? (Text.strip value)).map fun t => (Text.slashed t).fold

/-- A registered path, as paths are compared with unique names. -/
def registeredPathKey (path : Text) : Text := (Text.slashed (Text.strip path)).fold

/-- The key of the lines that hold unique names. -/
def uniqueNameProperty : Text := "SccProjectUniqueName".toList

/-- The key of the lines that hold the unique name of the outermost parent. -/
def topLevelParentProperty : Text := "SccProjectTopLevelParentUniqueName".toList

/-- The key of the lines that hold the name under version control. -/
def projectNameProperty : Text := "SccProjectName".toList

/-- The key of the lines that hold the local path. -/
def localPathProperty : Text := "SccLocalPath".toList

/-! ### Records -/

/-- What version control keeps about the project of one index. -/
structure VersionControlRecord where
  index : Nat
  uniqueName : Option Text
  topLevelParent : Option Text
  projectName : Option Text
  localPath : Option Text
  deriving DecidableEq, Repr

/-- What version control keeps about a solution. -/
structure VersionControl where
  sectionName : Text
  count : Option Nat
  records : List VersionControlRecord
  deriving DecidableEq, Repr

/-- The value that the last line of an index with a given key assigns. -/
def valueAt (properties : List Property) (index : Nat) (key : Text) : Option Text :=
  ((properties.filter fun p => p.index == index && p.line.key == key).getLast?).map (·.line.value)

/-- The record of one index. -/
def VersionControlRecord.ofProperties (properties : List Property) (index : Nat) :
    VersionControlRecord where
  index := index
  uniqueName := valueAt properties index uniqueNameProperty
  topLevelParent := valueAt properties index topLevelParentProperty
  projectName := valueAt properties index projectNameProperty
  localPath := valueAt properties index localPathProperty

/-- Reads the section of version control; records come by index. -/
def VersionControl.read (lines : List Text) (s : Section) : Except LongNumeral VersionControl := do
  let properties ← Property.scan lines (some s)
  let count ← findCount lines (some s)
  let indices := ((properties.map (·.index)).eraseDups).mergeSort (· ≤ ·)
  return {
    sectionName := s.name
    count := count.map (·.2)
    records := indices.map (VersionControlRecord.ofProperties properties) }

end SolutionSweep
