import SolutionSweep.Graph.Reachability
import SolutionSweep.Store

/-!
# Detecting unused projects

A manifest is read from the store, its registry is drawn up, and its projects are classified by a
walk along the descriptors in the store.

* `Detection.run`: the registry and the classification;
* `DetectionProblem`: what can be wrong with a manifest or its descriptors.
-/

namespace SolutionSweep

/-- Why a manifest cannot be read. -/
inductive ManifestError
  | missing
  | denied (e : Denied)
  | notText
  deriving DecidableEq

/-- What is said about a manifest that cannot be read. -/
def ManifestError.message : ManifestError → Text
  | missing => "Manifest file does not exist.".toList
  | denied e => "Manifest file is unreadable: ".toList ++ e.message
  | notText => "Manifest file is not valid UTF-8 text.".toList

/-- What can be wrong with a manifest or the descriptors that it leads to. -/
inductive DetectionProblem
  | manifest (e : ManifestError)
  | nesting (e : NestingCycle)
  | graph (e : GraphError)
  deriving DecidableEq

namespace DetectionProblem

/-- The word for the kind of problem. -/
def code : DetectionProblem → Text
  | manifest _ => "MANIFEST_UNREADABLE".toList
  | nesting _ => "NESTING_CYCLE".toList
  | graph (.missing _ _ _) => "INCOMPLETE_GRAPH".toList
  | graph (.cycle _) => "REFERENCE_CYCLE".toList

/-- What is said about a problem. -/
def message : DetectionProblem → Text
  | manifest e => e.message
  | nesting e => e.message
  | graph e => e.message

/-- What a problem means for a session. -/
def headline : DetectionProblem → Text
  | manifest _ => "The solution manifest could not be read.".toList
  | nesting _ => "The solution manifest could not be read.".toList
  | graph (.missing _ _ _) =>
      "A referenced project file is missing; no project was classified as unused.".toList
  | graph (.cycle _) =>
      "Project references form a cycle; no project was classified as unused.".toList

end DetectionProblem

/-- Why there is no detection: a problem, a numeral that is too long, or a location that is not
looked at. -/
inductive DetectionError
  | problem (p : DetectionProblem)
  | longNumeral (e : LongNumeral)
  | denied (e : Denied)
  deriving DecidableEq

/-- The registry of a manifest and the classification of its projects. -/
structure Detection where
  registry : Registry
  reachability : Reachability

namespace Detection

/-- The text of a manifest, with its mark and its line breaks as they are. That a manifest is closed
is a problem with it; a location that is not looked at is none. -/
def readManifest (s : Store) (manifest : Path) : Except DetectionError Text :=
  match s.get? manifest with
  | none => .error (.problem (.manifest .missing))
  | some .denied => .error (.problem (.manifest (.denied ⟨manifest, .permission⟩)))
  | some (.barred why) => .error (.denied ⟨manifest, why⟩)
  | some (.contents bytes) =>
      match Utf8.decode? bytes with
      | none => .error (.problem (.manifest .notText))
      | some text => .ok text

/-- Draws up the registry of a manifest, whose path can be resolved. -/
def loadRegistry (s : Store) (c : Conventions) (manifest : Path) :
    Except DetectionError Registry :=
  let resolved := Path.resolve s.cwd manifest
  match readManifest s resolved with
  | .error e => .error e
  | .ok text =>
      match Registry.parse s.cwd c resolved text with
      | .error (.nestingCycle e) => .error (.problem (.nesting e))
      | .error (.longNumeral e) => .error (.longNumeral e)
      | .ok registry => .ok registry

/-- The registered projects and the descriptors in the store. -/
def graphOf (s : Store) (r : Registry) : ProjectGraph where
  cwd := s.cwd
  directory := r.directory
  projects := r.projects
  read := s.descriptor?

/-- What the end of a walk means in a store. A walk ends at the first descriptor without a text: it
is missing, unless the store refused to look for it. -/
def endOf (s : Store) (e : GraphError) : DetectionError :=
  match e with
  | .missing path _ _ =>
      match s.barrier? path with
      | some d => .denied d
      | none => .problem (.graph e)
  | .cycle _ => .problem (.graph e)

/-- Detects the unused projects of a manifest. -/
def run (s : Store) (c : Conventions) (manifest : Path) : Except DetectionError Detection :=
  match loadRegistry s c manifest with
  | .error e => .error e
  | .ok registry =>
      match (graphOf s registry).reachability with
      | .error e => .error (endOf s e)
      | .ok reachability => .ok ⟨registry, reachability⟩

end Detection

end SolutionSweep
