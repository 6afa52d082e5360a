import SolutionSweep.Text.Case

/-!
# Conventions of a manifest

Which registered files are projects and where version control keeps its book is a matter of
convention, which settings may change.
-/

namespace SolutionSweep

/-- The endings of project files, and the names of the section that version control keeps. -/
structure Conventions where
  extensions : List Text
  versionControlSections : List Text
  deriving DecidableEq, Repr

/-- The conventions that hold unless settings say otherwise. -/
def Conventions.standard : Conventions where
  extensions := [".csproj".toList, ".vbproj".toList, ".fsproj".toList]
  versionControlSections := ["TeamFoundationVersionControl".toList, "SourceCodeControl".toList]

/-- Whether a registered path names a project: it has one of the endings, letter case aside. -/
def Conventions.isProjectPath (c : Conventions) (path : Text) : Bool :=
  let lowered := (Text.strip path).lower
  c.extensions.any fun e => e.lower.isSuffixOf lowered

end SolutionSweep
