import DeviceKernels.Artifact.Cache
import DeviceKernels.Operation.Catalog

namespace DeviceKernels

structure WarmReport where
  compiled : Nat
  /-- The procedural names of the kernels that failed, with their errors. -/
  failures : List (String × CompileError)
  deriving DecidableEq, Repr

namespace ArtifactCache

variable {World : Type}

/-- Compiles one kernel and adds the outcome to a report. -/
def warmKernel (now : Instant) (state : WarmReport × ArtifactCache World) (kernel : Kernel) :
    WarmReport × ArtifactCache World :=
  let (report, cache) := state
  match cache.compile [kernel] now with
  | (.ok _, cache) => ({ report with compiled := report.compiled + 1 }, cache)
  | (.error error, cache) =>
      ({ report with failures := report.failures ++ [(kernel.name, error)] }, cache)

/-- Compiles every standard kernel of an architecture on its own. -/
def warm (cache : ArtifactCache World) (arch : UInt32) (now : Instant) :
    Except ArgumentError (WarmReport × ArtifactCache World) := do
  .ok ((← Catalog.standardKernels arch).foldl (warmKernel now) (⟨0, []⟩, cache))

end ArtifactCache

end DeviceKernels
