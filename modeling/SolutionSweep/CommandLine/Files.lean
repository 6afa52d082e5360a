import SolutionSweep.CommandLine.Run

/-!
# Files of a command

A command looks at a handful of files, which can be told before it runs: the manifest and the
settings beside it come first, and what they say leads to the others.

* `Command.entryFiles`: the manifest and the settings file;
* `Command.furtherFiles`: the audit log and the descriptors of the registered projects.
-/

namespace SolutionSweep.Command

/-- The manifest and the settings file beside it. -/
def entryFiles (cwd : Path) (a : Arguments) : List Path :=
  let manifest := Path.resolve cwd (manifestOf a)
  [manifest, manifest.parent.child Settings.fileName]

/-- The descriptors of the projects that the manifest of a session registers. -/
def descriptorFiles (store : Store) (session : Session) : List Path :=
  match Detection.loadRegistry store session.settings.conventions session.manifest with
  | .error _ => []
  | .ok registry => registry.projects.map (·.path)

/-- The audit log and the descriptors, given a store that holds the manifest and the settings. -/
def furtherFiles (store : Store) (a : Arguments) : List Path :=
  match createSession store 1 a with
  | .error _ => []
  | .ok (session, _) => session.log.toList ++ descriptorFiles store session

end SolutionSweep.Command
