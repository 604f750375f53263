import DeviceKernels.Artifact.Warming
import DeviceKernels.CommandLine.Arguments
import DeviceKernels.CommandLine.Outcome

namespace DeviceKernels

namespace ArtifactMetadata

def columns (key arch compiler size created kernels : String) : String :=
  Text.join " " [Text.padRight 14 key, Text.padLeft 6 arch, Text.padRight 10 compiler,
    Text.padLeft 10 size, Text.padRight 22 created, kernels]

def heading : String := columns "KEY" "ARCH" "COMPILER" "BYTES" "CREATED" "KERNELS"

/-- The line of an entry. It shows the first twelve bytes of the key, which may be no text. -/
def row? (metadata : ArtifactMetadata) : Option String := do
  let key ← Text.cutBytes? 12 metadata.key
  some (columns key (Text.decimal metadata.arch.toNat) metadata.compiler
    (Text.decimal metadata.size)
    (metadata.createdAt.renderDate ++ " " ++ metadata.createdAt.renderTime)
    (Text.join "," metadata.kernelNames))

/-- The lines up to the first entry without one, and whether every entry has a line. -/
def rows : List ArtifactMetadata → List String × Bool
  | [] => ([], true)
  | metadata :: rest =>
      match metadata.row? with
      | none => ([], false)
      | some row => (row :: (rows rest).1, (rows rest).2)

end ArtifactMetadata

namespace CommandContext

/-- Opens the store of a configuration, or says why there is none. -/
def openStore (context : CommandContext) (config : Config) :
    Except (ExitStatus × String) (ArtifactStore × FileTree) :=
  match config.cachePath with
  | none =>
      .error (.badConfiguration, "No disk cache configured. Set " ++ Variable.cachePath.name ++ ".")
  | some path =>
      (ArtifactStore.create context.files path).mapError fun error =>
        (.failure, "Cannot open cache directory " ++ path ++ ": " ++
          (CompileError.file error).message)

/-- Does something with the store, if there is one. -/
def withStore (context : CommandContext) (command : ArtifactStore → FileTree → CommandOutcome) :
    CommandOutcome :=
  context.withConfig fun config =>
    match context.openStore config with
    | .error (status, reason) => .fails context.files status reason
    | .ok (store, files) => command store files

def showStatistics (context : CommandContext) (asJson : Bool) : CommandOutcome :=
  context.withStore fun store files =>
    match store.summarize with
    | .error error => .fails files .failure ("Failed to read cache: " ++ error.message)
    | .ok summary =>
        .prints files
          (if asJson then [summary.toJson.sorted.compact]
          else
            ["Cache directory: " ++ summary.path,
              "Artifacts:       " ++ Text.decimal summary.entries,
              "Size:            " ++ Text.decimal summary.sizeBytes ++ " bytes"])

def listEntries (context : CommandContext) (asJson : Bool) : CommandOutcome :=
  context.withStore fun store files =>
    match store.list with
    | .error error => .fails files .failure ("Failed to read cache: " ++ error.message)
    | .ok entries =>
        if asJson then
          .prints files [(Json.array (entries.map ArtifactMetadata.toJson)).sorted.compact]
        else if entries.isEmpty then .prints files ["Cache is empty."]
        else
          let (rows, complete) := ArtifactMetadata.rows entries
          { CommandOutcome.prints files (ArtifactMetadata.heading :: rows) with
            status := if complete then .success else .crashed }

def clearEntries (context : CommandContext) : CommandOutcome :=
  context.withStore fun store files =>
    match store.clear with
    | (.error error, store) =>
        .fails (store.putInto files) .failure ("Failed to clear cache: " ++ error.message)
    | (.ok count, store) =>
        .prints (store.putInto files)
          ["Removed " ++ Text.decimal count ++ " cached artifacts."]

/-- What warming reports. Kernels that failed to compile are named on the diagnostics. -/
def warmOutcome (report : WarmReport) (arch : UInt32) (files : FileTree) : CommandOutcome where
  status := if report.failures.isEmpty then .success else .failure
  output :=
    [.text ("Warmed " ++ Text.decimal report.compiled ++ " artifacts (" ++
      Text.decimal report.failures.length ++ " failed) in "), .milliseconds,
      .text (" ms for sm" ++ Text.decimal arch.toNat ++ ".\n")]
  diagnostics := CommandOutcome.linesOf
    (report.failures.map fun failure => failure.1 ++ ": " ++ failure.2.message)
  files

/-- Compiles the standard kernels into the store. -/
def warm (context : CommandContext) : CommandOutcome :=
  context.withConfig fun config =>
    match context.openStore config with
    | .error (status, reason) => .fails context.files status reason
    | .ok (_, files) =>
        match ArtifactCache.openAt config.backend.artifacts config.compiler ⟨.fresh, files⟩ files with
        | (.error error, files) =>
            .fails files .badConfiguration
              ("Failed to create artifact manager: " ++ error.message)
        | (.ok cache, files) =>
            match cache.warm config.arch context.now with
            | .error error => .fails files .failure error.message
            | .ok (report, cache) =>
                let files := match cache.store with
                  | none => cache.world.files
                  | some store => store.putInto cache.world.files
                warmOutcome report config.arch files

/-- Warms the store when the number of jobs, if it is given, is a number. -/
def warmWithJobs (context : CommandContext) (arguments : List String) : CommandOutcome :=
  match Arguments.value? arguments "--jobs" with
  | .error fault => .fails context.files .failure fault.message
  | .ok none => context.warm
  | .ok (some jobs) =>
      if (Text.readNatural? (UInt64.size - 1) jobs).isSome then context.warm
      else .fails context.files .failure ("Invalid --jobs: " ++ jobs)

end CommandContext

end DeviceKernels
