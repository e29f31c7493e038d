/-
Which stylesheet is in use: the file it is read from, and why that file was chosen.
-/
import ClassAtlas.Path

namespace ClassAtlas

/-- Why the project's own stylesheet is not used. -/
inductive FallbackReason
  | noWorkspace
  | missing
  deriving DecidableEq, Repr

/-- Where a stylesheet comes from: the project itself, or the fallback. -/
inductive Provenance
  | project
  | fallback (reason : FallbackReason)
  deriving DecidableEq, Repr

/-- The provenance in words. -/
def Provenance.describe : Provenance → String
  | .project => "project dependency"
  | .fallback .missing => "bundled copy (tachyons is not installed in node_modules)"
  | .fallback .noWorkspace => "bundled copy (no workspace folder)"

/-- A stylesheet chosen for use: its file and its provenance. -/
structure Sheet where
  path : Path
  provenance : Provenance
  deriving DecidableEq, Repr

end ClassAtlas
