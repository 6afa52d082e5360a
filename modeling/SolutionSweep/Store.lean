import SolutionSweep.Path
import SolutionSweep.Text.LineBreak
import SolutionSweep.Text.Quoted
import SolutionSweep.Text.Utf8

/-!
# A store of files

The files that a run may read and write, as a value: what is not listed does not exist. A file
may be closed to reading and writing, and at some locations the system refuses even to look whether
there is a file. A file that may be read may also be written, and there is always room for it.

* `Store.get?`, `Store.put`: the file at a location;
* `Store.locate`: the location that a path means;
* `Store.resolve?`: the path as seen from the working directory, if it can be resolved;
* `Store.changesSince`: the files that have been added or altered;
* `Store.barrier?`: why a location is not looked at;
* `Store.descriptor?`: the text of a project descriptor, if it can be read.
-/

namespace SolutionSweep

/-- Why the system refuses a file: the file or a directory on the way to it is closed, or a name is
too long. -/
inductive Refusal
  | permission
  | longName
  deriving DecidableEq

/-- What is at a location: a file with its contents, a file that must not be opened, or a barrier,
at which it cannot even be told whether there is a file. -/
inductive File
  | contents (bytes : Bytes)
  | denied
  | barred (why : Refusal)
  deriving DecidableEq

/-- Files by location, the working directory that relative paths start from, and the rules by which
paths are resolved. -/
structure Store where
  cwd : Path
  files : List (Path × File)
  resolution : Resolution := .bySegments

/-- A file that the system refuses, by the path that was asked for. -/
structure Denied where
  path : Path
  why : Refusal
  deriving DecidableEq

/-- What the system calls a refusal. -/
def Refusal.message : Refusal → Text
  | permission => "[Errno 13] Permission denied: ".toList
  | longName => "[Errno 36] File name too long: ".toList

/-- What is said about a file that the system refuses. -/
def Denied.message (e : Denied) : Text := e.why.message ++ e.path.render.quoted

namespace Store

/-- A store without files. -/
def empty (cwd : Path) : Store where
  cwd := cwd
  files := []

/-- The location that a path means: normal, and below the one root. -/
def locate (cwd p : Path) : Path := { Path.resolve cwd p with root := .single }

/-- The file that a path leads to. -/
def get? (s : Store) (p : Path) : Option File := s.files.lookup (locate s.cwd p)

/-- The normal path as seen from the working directory, if it can be resolved. -/
def resolve? (s : Store) (p : Path) : Option Path := s.resolution.resolve? s.cwd p

/-- Why the location of a path is not looked at, if it is not. -/
def barrier? (s : Store) (p : Path) : Option Denied :=
  match s.get? p with
  | some (.barred why) => some ⟨p, why⟩
  | _ => none

/-- Replaces or adds the file at a location. -/
def insert (location : Path) (file : File) : List (Path × File) → List (Path × File)
  | [] => [(location, file)]
  | entry :: rest =>
      if entry.1 = location then (location, file) :: rest else entry :: insert location file rest

/-- The store after a file has been written. -/
def put (s : Store) (p : Path) (file : File) : Store :=
  { s with files := insert (locate s.cwd p) file s.files }

/-- The store after a file has been taken away. -/
def erase (s : Store) (p : Path) : Store :=
  { s with files := s.files.filter (·.1 ≠ locate s.cwd p) }

/-- The files of a store that an earlier one does not have, or has with other contents. -/
def changesSince (before after : Store) : List (Path × File) :=
  after.files.filter fun f => before.files.lookup f.1 ≠ some f.2

/-- The text of a descriptor: without a mark in front, with line feeds only and a replacement
character for each gap; nothing where the file is missing, closed or not looked at. -/
def descriptor? (s : Store) (p : Path) : Option Text :=
  match s.get? p with
  | some (.contents bytes) =>
      some (Text.unifyBreaks (Text.withoutMark (Utf8.decodeLossy bytes)))
  | _ => none

end Store

end SolutionSweep
