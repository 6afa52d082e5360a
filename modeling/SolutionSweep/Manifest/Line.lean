import SolutionSweep.Manifest.Identifier
import SolutionSweep.Text.Numeral

/-!
# Lines of a solution manifest

A manifest is read line by line. Each kind of line that matters has a recogniser; where a line
carries data, the recogniser returns it.

* `Registration`: `Project("{type}") = "name", "path", "{id}"`, which registers an entry;
* `isBlockEnd`, `isItemsHeader`: the end of an entry's block, and the header of its loose files;
* `isGlobalBoundary`: the line on either side of the global part;
* `SectionHeader`: `GlobalSection(name) = timing`, and `isSectionEnd` for the end of a section;
* `nesting?`: `{child} = {parent}`;
* `buildConfigId?`: `{id}.configuration|platform = …`;
* `IndexedLine`: `SccKey7 = value`, and `CountLine`: `SccNumberOfProjects = 7`.
-/

namespace SolutionSweep.Line

/-! ### Words -/

/-- The beginning of a registration line. -/
def projectWord : Text := "Project(".toList

/-- The line that closes a block. -/
def blockEndWord : Text := "EndProject".toList

/-- The beginning of a section inside a block, in lower case. -/
def blockSectionWord : Text := "projectsection(".toList

/-- The name of the section that lists loose files, in lower case. -/
def itemsWord : Text := "solutionitems".toList

/-- The line that opens the global part. -/
def globalWord : Text := "Global".toList

/-- The line that closes the global part. -/
def globalEndWord : Text := "EndGlobal".toList

/-- The beginning of the header of a section. -/
def sectionWord : Text := "GlobalSection(".toList

/-- The line that closes a section. -/
def sectionEndWord : Text := "EndGlobalSection".toList

/-- The beginning of the keys of version control. -/
def sccWord : Text := "Scc".toList

/-- The key of the line that counts the projects under version control. -/
def countKey : Text := "SccNumberOfProjects".toList

/-! ### Parts of lines -/

/-- The literal text between two double quotes at the start, and what follows. -/
def takeQuoted? (t : Text) : Option (Text × Text) := do
  let inside ← Text.after? ['"'] t
  Text.cut? ['"'] inside

/-- What follows a text, with white space allowed on both sides of it. -/
def takeSpaced? (mark t : Text) : Option Text :=
  (Text.after? mark (Text.skipWhite t)).map Text.skipWhite

/-! ### Entries -/

/-- What a registration line says, as written. -/
structure Registration where
  typeId : Text
  name : Text
  path : Text
  id : Text
  deriving DecidableEq, Repr

/-- The type of an entry as it stands between quotes and perhaps braces, and what follows. -/
def takeTypeId? (t : Text) : Option (Text × Text) := do
  let inside := Text.skip ['{'] (← Text.after? ['"'] t)
  let type := inside.takeWhile fun c => c != '"' && c != '}'
  let rest := inside.dropWhile fun c => c != '"' && c != '}'
  return (type, ← Text.after? ['"'] (Text.skip ['}'] rest))

/-- Recognises a registration line; what follows the identifier does not matter. -/
def registration? (line : Text) : Option Registration := do
  let rest ← Text.after? projectWord (Text.skipWhite line)
  let (typeId, rest) ← takeTypeId? (Text.skipWhite rest)
  let rest ← takeSpaced? [')'] rest
  let rest ← takeSpaced? ['='] rest
  let (name, rest) ← takeQuoted? rest
  let rest ← takeSpaced? [','] rest
  let (path, rest) ← takeQuoted? rest
  let rest ← takeSpaced? [','] rest
  let (id, rest) ← takeBracedId? (← Text.after? ['"'] rest)
  let _ ← Text.after? ['"'] rest
  return ⟨typeId, name, path, id⟩

/-- Registration lines. -/
def isRegistration (line : Text) : Bool := (registration? line).isSome

/-- Lines that close the block of an entry. -/
def isBlockEnd (line : Text) : Bool := Text.strip line == blockEndWord

/-- Lines that open the list of loose files of an entry; letter case does not matter. -/
def isItemsHeader (line : Text) : Bool :=
  (do
    let rest ← Text.afterIgnoringCase? blockSectionWord (Text.skipWhite line)
    let rest ← Text.afterIgnoringCase? itemsWord (Text.skipWhite rest)
    Text.after? [')'] (Text.skipWhite rest)).isSome

/-! ### The global part -/

/-- Lines on either side of the global part. -/
def isGlobalBoundary (line : Text) : Bool :=
  Text.strip line == globalWord || Text.strip line == globalEndWord

/-- What the header of a section says. -/
structure SectionHeader where
  name : Text
  timing : Text
  deriving DecidableEq, Repr

/-- Recognises the header of a section. -/
def sectionHeader? (line : Text) : Option SectionHeader := do
  let rest ← Text.after? sectionWord (Text.skipWhite line)
  let (name, rest) ← Text.cut? [')'] rest
  let rest ← takeSpaced? ['='] rest
  return ⟨Text.strip name, rest.takeWhile fun c => !isWhite c⟩

/-- Section headers. -/
def isSectionHeader (line : Text) : Bool := (sectionHeader? line).isSome

/-- Lines that close a section. -/
def isSectionEnd (line : Text) : Bool := Text.strip line == sectionEndWord

/-! ### Lines of sections -/

/-- Recognises a nesting line: the child and the parent. -/
def nesting? (line : Text) : Option (EntryId × EntryId) := do
  let (child, rest) ← takeBracedId? (Text.skipWhite line)
  let rest ← takeSpaced? ['='] rest
  let (parent, rest) ← takeBracedId? rest
  if Text.isBlank rest then some (canonicalId child, canonicalId parent) else none

/-- Whether a text has no line feed, apart from one at its end. -/
def isOneLine : Text → Bool
  | [] => true
  | ['\n'] => true
  | c :: rest => c != '\n' && isOneLine rest

/-- Recognises a build configuration line: the entry that it configures. -/
def buildConfigId? (line : Text) : Option EntryId := do
  let (id, rest) ← takeBracedId? (Text.skipWhite line)
  let rest ← Text.after? ['.'] rest
  let (config, value) ← Text.cut? ['='] rest
  if config.contains '|' && isOneLine value then some (canonicalId id) else none

/-- A version-control line for the project of one index: the line is `indent`, `key`, `digits`
and `rest` one after another, and `value` is what it assigns. -/
structure IndexedLine where
  indent : Text
  key : Text
  digits : Text
  rest : Text
  value : Text
  deriving DecidableEq, Repr

/-- Recognises a version-control line with an index: a key of `Scc` and letters, an index in
digits of any script, and a value without line feeds. -/
def indexed? (line : Text) : Option IndexedLine := do
  let afterIndent := Text.skipWhite line
  let afterScc ← Text.after? sccWord afterIndent
  let letters := afterScc.takeWhile isAsciiLetter
  let afterKey := afterScc.dropWhile isAsciiLetter
  let digits := afterKey.takeWhile isDigit
  let rest := afterKey.dropWhile isDigit
  let value := Text.strip (← Text.after? ['='] (Text.skipWhite rest))
  if letters.isEmpty || digits.isEmpty || value.contains '\n' then none
  else some ⟨line.takeWhile isWhite, sccWord ++ letters, digits, rest, value⟩

/-- The line that an indexed line becomes under another index. -/
def IndexedLine.withIndex (l : IndexedLine) (index : Nat) : Text :=
  l.indent ++ l.key ++ Text.ofNat index ++ l.rest

/-- The line that counts the projects under version control: it is `before`, `digits` and
`after` one after another. -/
structure CountLine where
  before : Text
  digits : Text
  after : Text
  deriving DecidableEq, Repr

/-- Recognises the line that counts the projects under version control. -/
def count? (line : Text) : Option CountLine := do
  let afterKey ← Text.after? countKey (Text.skipWhite line)
  let rest ← takeSpaced? ['='] afterKey
  let digits := rest.takeWhile isDigit
  let after := rest.dropWhile isDigit
  if digits.isEmpty || !Text.isBlank after then none
  else some ⟨line.take (line.length - rest.length), digits, after⟩

/-- The counting line with another count; a line of another kind stays as it is. -/
def recount (line : Text) (count : Int) : Text :=
  match count? line with
  | none => line
  | some l => l.before ++ Text.ofInt count ++ l.after

end SolutionSweep.Line
