import SolutionSweep.Path

/-!
# Written references to files

Manifests and descriptors name files relative to the directory they stand in, with slashes in
either direction. A reference with a leading slash or a drive letter is absolute.

* `Reference.path`: the file that a reference names;
* `climbs`: whether a reference leaves its directory at the first segment;
* `isExternal`: whether the file that a reference names lies outside the directory tree.
-/

namespace SolutionSweep

namespace Reference

/-- A reference without surrounding white space and with slashes only. -/
def clean (reference : Text) : Text := Text.slashed (Text.strip reference)

/-- Whether a clean reference begins with a slash or with a drive letter, a colon and a slash. -/
def isAbsolute : Text → Bool
  | '/' :: _ => true
  | drive :: ':' :: '/' :: _ => isAsciiLetter drive
  | _ => false

/-- The file that a reference names in a document of the directory `base`. -/
def path (cwd base : Path) (reference : Text) : Path :=
  let written := clean reference
  if isAbsolute written then (Path.ofText written).normal
  else Path.resolve cwd { base with segments := base.segments ++ segmentsOf written }

/-- Whether a relative reference starts with two dots. -/
def climbs (reference : Text) : Bool :=
  let written := clean reference
  !isAbsolute written && (segmentsOf written).head? == some dotDot

/-- Whether a key is the key of a directory or begins with it and a slash. -/
def keyWithin (directory key : Text) : Bool :=
  key == directory || (Text.trimEnd (· == '/') directory ++ ['/']).isPrefixOf key

/-- Whether a reference in a document of the directory `base` names a file outside of it. -/
def isExternal (cwd base : Path) (reference : Text) : Bool :=
  climbs reference ||
    (isAbsolute (clean reference) &&
      !keyWithin (Path.resolve cwd base).key (path cwd base reference).key)

end Reference

end SolutionSweep
