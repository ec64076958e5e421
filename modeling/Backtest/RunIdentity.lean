import Backtest.Configuration.File
import Backtest.Digest

/-!
# Run identities

A run is known by the digest of its configuration file and by a name, which tells the file, the time
and the digest apart.

* `RunIdentity`; `RunIdentity.name`, the name of a run; `RunIdentity.ofFile`, the identity of a run of
  a configuration file.
-/

namespace Backtest

/-- How a run is known. -/
structure RunIdentity where
  runId : String
  configPath : Path
  /-- The digest of the configuration file. -/
  configHash : String

namespace RunIdentity

/-- The name of a run: its configuration file, the time at which it began, and the start of the
digest. -/
def name (path : Path) (time hash : String) : String :=
  s!"{path.stem}-{time}-{String.ofList (hash.toList.take 8)}"

/-- The start of the digest, as it is shown to the user. -/
def shortHash (r : RunIdentity) : String := String.ofList (r.configHash.toList.take 12)

/-- The identity of a run of a configuration file that began at a time, under a given name if there is
one. -/
def ofFile (files : FileTree) (path : Path) (time : String) (runId : Option String) :
    Except Fault RunIdentity :=
  (files.read path).map fun bytes =>
    let configHash := Digest.hexDigest bytes
    { runId := runId.getD (name path time configHash), configPath := path, configHash }

end RunIdentity

end Backtest
