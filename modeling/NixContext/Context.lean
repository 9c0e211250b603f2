import NixContext.Engine
import NixContext.Value

/-! # Contexts

A context holds the directories, the extra arguments and the engine of a session. It never
changes; a setting for metrics is kept as it was given.
-/

namespace NixContext

/-- The context that handles and packages are derived from. -/
structure Context where
  configDir : Path
  cacheDir : Path
  dataDir : Path
  collectMetrics : Value := .bool false
  extraArgs : List Value := []
  engine : Engine := .commandLine .plain
  deriving DecidableEq, Repr

/-- Equal as data, field by field. -/
def Context.same (a b : Context) : Bool :=
  a.configDir == b.configDir && a.cacheDir == b.cacheDir && a.dataDir == b.dataDir &&
    a.collectMetrics.same b.collectMetrics && Value.sameItems a.extraArgs b.extraArgs &&
    a.engine == b.engine

end NixContext
