import DeviceKernels.Backend.Basic
import DeviceKernels.Proofs.Artifact.Presence
import DeviceKernels.Operation.Catalog
import DeviceKernels.Proofs.Operation.Configurations
import DeviceKernels.Proofs.Operation.SplitK

/-
What a backend launches. One request is launched whole or not at all.
-/

namespace DeviceKernels

open Outcome

/-- The record of a request that a device and its recorder take. -/
structure LaunchRequest.Launches (device : DeviceInfo) (request : LaunchRequest)
    (record : LaunchRecord) : Prop where
  kernel : record.kernel = request.kernel.symbol
  parameters : request.parameters = .ok record.parameters
  launch : request.launch device = .ok record.launch
  shared : record.launch.sharedMemoryBytes ≤ device.sharedMemoryPerBlock
  grid : record.launch.grid.volume ≠ 0 ∧ record.launch.grid.volume ≤ Number.maxWord64
  block : record.launch.block.volume ≠ 0 ∧ record.launch.block.volume ≤ maxThreadsPerBlock

/-- A run launches nothing and fails, or it launches all its requests and succeeds. -/
inductive AllOrNothing (device : DeviceInfo) (requests : List LaunchRequest) (log : LaunchLog) :
    Except BackendError (List LaunchConfig) → LaunchLog → Prop
  | nothing (error : BackendError) : AllOrNothing device requests log (.error error) log
  | all (records : List LaunchRecord)
      (launched : List.Forall₂ (LaunchRequest.Launches device) requests records) :
      AllOrNothing device requests log (.ok (records.map LaunchRecord.launch))
        ⟨log.records ++ records⟩

/-- The program does not stop for a number of the kernel. -/
structure Kernel.IsCounted (kernel : Kernel) : Prop where
  writable : kernel.isWritable = true
  shared : kernel.sharedMemoryBytes.isSome

/-- The host takes every kernel whose shared memory is counted. -/
theorem DeviceInfo.host_checkKernel (processors arch sharedMemory : UInt32) :
    (host processors).checkKernel arch (some sharedMemory) = .ok () := by
  have allowed : ¬(host processors).sharedMemoryPerBlock < sharedMemory := by
    have most : (host processors).sharedMemoryPerBlock.toNat = 2 ^ 32 - 1 := rfl
    have word := sharedMemory.toNat_lt
    rw [UInt32.lt_iff_toNat_lt]
    omega
  exact if_neg allowed

namespace ArtifactCache

variable {World : Type} {cache after : ArtifactCache World} {artifact : Artifact}

theorem kernel_reachable (reachable : cache.Reachable) (name : String) :
    (cache.kernel name).2.Reachable := reachable.step (.kernel name)

/-- A compilation of kernels leads to a reachable cache. -/
theorem compile_reachable (reachable : cache.Reachable) (kernels : List Kernel) (now : Instant) :
    (cache.compile kernels now).2.Reachable := by
  unfold compile
  cases ModuleSource.ofKernels? kernels with
  | none => exact reachable
  | some made =>
      dsimp only
      split
      · exact reachable.step (.compile made.source made.symbols now)
      · exact reachable

/-- The artifact of a module of kernels is in memory. -/
theorem compile_held (reachable : cache.Reachable) {kernels : List Kernel} {now : Instant}
    (answered : cache.compile kernels now = (.ok artifact, after)) : artifact ∈ after.artifacts := by
  unfold compile at answered
  cases made : ModuleSource.ofKernels? kernels with
  | none =>
      rw [made] at answered
      cases answered
  | some found =>
      rw [made] at answered
      dsimp only at answered
      split at answered
      · exact compileSource_held reachable answered
      · cases answered

/-- An artifact that is neither in memory nor in a store has the kernels that were asked for. -/
theorem compileSource_made (storeless : cache.store = none) {source : String}
    {kernelNames : List String} {now : Instant}
    (absent : cache.find? (cache.keyFor source) = none)
    (answered : (cache.compileSource source kernelNames now).1 = .ok artifact) :
    artifact.kernelNames = kernelNames := by
  have missed : cache.lookup (cache.keyFor source) = none := by rw [lookup, absent, Option.map_none]
  simp only [compileSource, loadOrCompile, missed, loadStored, storeless, compileMissing] at answered
  split at answered
  · cases answered
  · cases answered
    rfl

end ArtifactCache

namespace Backend

variable {Device World : Type} {backend after : Backend Device World} {log : LaunchLog}
  {request : LaunchRequest} {now : Instant} {record : LaunchRecord}

/-- To look up or compile a kernel changes the cache only. -/
theorem kernelFor_devices (backend : Backend Device World) (kernel : Kernel) (now : Instant) :
    (backend.kernelFor kernel now).2.devices = backend.devices := by
  unfold kernelFor
  split
  · rfl
  · split <;> rfl

theorem kernelFor_reachable (reachable : backend.artifacts.Reachable) (kernel : Kernel)
    (now : Instant) : (backend.kernelFor kernel now).2.artifacts.Reachable := by
  have looked := ArtifactCache.kernel_reachable reachable kernel.symbol
  unfold kernelFor
  split
  · exact reachable
  · split
    case h_1 handle artifacts found =>
      rw [found] at looked
      exact looked
    case h_2 artifacts missed =>
      rw [missed] at looked
      exact ArtifactCache.compile_reachable looked [kernel] now

/-- The handle of a kernel has its name. -/
theorem kernelFor_name {kernel : Kernel} {handle : KernelHandle} (now : Instant)
    (found : (backend.kernelFor kernel now).1 = .ok handle) : handle.name = kernel.symbol := by
  unfold kernelFor at found
  split at found
  · cases found
  · split at found
    case h_1 held artifacts looked =>
      cases found
      rcases ArtifactCache.kernel_cases backend.artifacts kernel.symbol with
        missed | ⟨key, entry, -, -, hit⟩
      · rw [missed] at looked
        cases looked
      · rw [hit] at looked
        cases looked
        rfl
    case h_2 left looked =>
      cases compiled : left.compile [kernel] now with
      | mk result rest =>
          rw [compiled] at found
          cases result with
          | error error => cases found
          | ok artifact =>
              cases found
              rfl

/-- A launch is recorded exactly if the device and the recorder take it. -/
theorem launch_ok {handle : KernelHandle} {launch : LaunchConfig} {parameters : Bytes}
    {recorded : LaunchLog} : backend.launch log handle launch parameters = .ok recorded ↔
      launch.sharedMemoryBytes ≤ backend.activeDevice.sharedMemoryPerBlock ∧ handle.isExported ∧
        (launch.grid.volume ≠ 0 ∧ launch.grid.volume ≤ Number.maxWord64) ∧
        (launch.block.volume ≠ 0 ∧ launch.block.volume ≤ maxThreadsPerBlock) ∧
        ⟨log.records ++ [⟨handle.name, launch, parameters⟩]⟩ = recorded := by
  unfold Backend.launch LaunchLog.record
  simp only [refused_iff, mapError_ok, Except.ok.injEq, UInt32.not_lt, Bool.not_eq_true',
    Bool.not_eq_false, beq_iff_eq, Bool.or_eq_true, decide_eq_true_eq, not_or, Nat.not_lt]
  constructor
  · rintro ⟨shared, exported, word, grid, -, block, same⟩
    exact ⟨shared, exported, ⟨grid, word⟩, block, same⟩
  · rintro ⟨shared, exported, ⟨grid, word⟩, block, same⟩
    exact ⟨shared, exported, word, grid, block.2.trans (by decide), block, same⟩

/-- A request fails and leaves the log alone, or it is launched. -/
theorem run_cases (backend : Backend Device World) (log : LaunchLog) (request : LaunchRequest)
    (now : Instant) :
    (∃ error, backend.run log request now =
      (.error error, (backend.kernelFor request.kernel now).2, log)) ∨
    ∃ record, request.Launches backend.activeDevice record ∧ backend.run log request now =
      (.ok record.launch, (backend.kernelFor request.kernel now).2, ⟨log.records ++ [record]⟩) := by
  have devices := kernelFor_devices backend request.kernel now
  have named {handle : KernelHandle} (found : (backend.kernelFor request.kernel now).1 = .ok handle) :=
    kernelFor_name now found
  unfold run
  cases held : backend.kernelFor request.kernel now with
  | mk result after =>
      rw [held] at devices named
      cases result with
      | error error => exact .inl ⟨error, rfl⟩
      | ok handle =>
          dsimp only
          split
          case h_1 error failed => exact .inl ⟨error, rfl⟩
          case h_2 launch recorded launched =>
            right
            obtain ⟨parameters, packed, launched⟩ := bound_iff.mp launched
            obtain ⟨asked, configured, launched⟩ := bound_iff.mp launched
            obtain ⟨taken, written, same⟩ := bound_iff.mp launched
            obtain ⟨rfl, rfl⟩ := Prod.mk.inj (Except.ok.inj same)
            obtain ⟨shared, -, grid, block, rfl⟩ := launch_ok.mp written
            have active : after.activeDevice = backend.activeDevice :=
              congrArg DeviceSelection.active devices
            rw [active] at shared
            refine ⟨⟨handle.name, asked, parameters⟩, ⟨named rfl, mapError_ok.mp packed, ?_, shared,
              grid, block⟩, rfl⟩
            rw [← active]
            exact mapError_ok.mp configured

/-- A run launches requests in their order: all of them if it succeeds, else those before the one
that fails. -/
theorem runAll_prefix (backend : Backend Device World) (log : LaunchLog)
    (requests : List LaunchRequest) (now : Instant) :
    ∃ records launched rest, requests = launched ++ rest ∧
      List.Forall₂ (LaunchRequest.Launches backend.activeDevice) launched records ∧
      (backend.runAll log now requests).2.2 = ⟨log.records ++ records⟩ ∧
      ((backend.runAll log now requests).1 = .ok (records.map LaunchRecord.launch) ∧ rest = [] ∨
        (∃ error, (backend.runAll log now requests).1 = .error error) ∧ rest ≠ []) := by
  induction requests generalizing backend log with
  | nil => exact ⟨[], [], [], rfl, .nil, by simp [runAll], .inl ⟨rfl, rfl⟩⟩
  | cons request later ih =>
      unfold runAll
      rcases run_cases backend log request now with ⟨error, failed⟩ | ⟨record, launches, done⟩
      · rw [failed]
        exact ⟨[], [], request :: later, rfl, .nil, by simp, .inr ⟨⟨error, rfl⟩, by simp⟩⟩
      · rw [done]
        dsimp only
        have devices := kernelFor_devices backend request.kernel now
        obtain ⟨records, launched, rest, split, matching, recorded, outcome⟩ :=
          ih (backend.kernelFor request.kernel now).2 ⟨log.records ++ [record]⟩
        rw [activeDevice, devices] at matching
        refine ⟨record :: records, request :: launched, rest, by rw [split]; rfl,
          .cons launches matching, ?_, ?_⟩
        · rw [recorded, List.append_assoc]
          rfl
        · rcases outcome with ⟨succeeded, none⟩ | ⟨⟨error, failed⟩, some⟩
          · left
            rw [succeeded]
            exact ⟨rfl, none⟩
          · right
            rw [failed]
            exact ⟨⟨error, rfl⟩, some⟩

/-- One request is launched whole or not at all. -/
theorem runAll_single (backend : Backend Device World) (log : LaunchLog) (request : LaunchRequest)
    (now : Instant) : AllOrNothing backend.activeDevice [request] log
      (backend.runAll log now [request]).1 (backend.runAll log now [request]).2.2 := by
  unfold runAll
  rcases run_cases backend log request now with ⟨error, failed⟩ | ⟨record, launches, done⟩
  · rw [failed]
    exact .nothing error
  · rw [done]
    exact .all [record] (.cons launches .nil)

/-- A kernel that the device takes and that an artifact in memory exports. -/
structure Holds (backend : Backend Device World) (kernel : Kernel) : Prop where
  checked : backend.checkKernel kernel = .ok ()
  exported : ∃ artifact ∈ backend.artifacts.artifacts, artifact.exports kernel.symbol

/-- A kernel in memory is found there, and memory stays as it is. -/
theorem kernelFor_held (reachable : backend.artifacts.Reachable) {kernel : Kernel}
    (holds : backend.Holds kernel) (now : Instant) : ∃ handle after,
      backend.kernelFor kernel now = (.ok handle, { backend with artifacts := after }) ∧
        handle.name = kernel.symbol ∧ handle.isExported ∧
        after.artifacts = backend.artifacts.artifacts := by
  obtain ⟨artifact, member, exported⟩ := holds.exported
  have coherent := ArtifactCache.reachable_coherent reachable
  have found := coherent.kernel_found member exported
  rcases ArtifactCache.kernel_cases backend.artifacts kernel.symbol with
    missed | ⟨key, entry, -, -, hit⟩
  · rw [missed] at found
    cases found
  · obtain ⟨-, -, facts⟩ := coherent.kernel_held (congrArg Prod.fst hit)
    refine ⟨_, backend.artifacts.touch entry.artifact.key, ?_, rfl, facts,
      ArtifactCache.touch_artifacts _ _⟩
    unfold kernelFor
    rw [holds.checked, hit]

/-- A request for a kernel in memory is launched if the device and the recorder take it. -/
theorem run_held (reachable : backend.artifacts.Reachable) (holds : backend.Holds request.kernel)
    (launches : request.Launches backend.activeDevice record) :
    backend.run log request now =
      (.ok record.launch, (backend.kernelFor request.kernel now).2, ⟨log.records ++ [record]⟩) := by
  obtain ⟨handle, after, held, named, exported, -⟩ := kernelFor_held reachable holds now
  have active : ({ backend with artifacts := after } : Backend Device World).activeDevice =
    backend.activeDevice := rfl
  have recorded : ({ backend with artifacts := after } : Backend Device World).launch log handle
      record.launch record.parameters = .ok ⟨log.records ++ [record]⟩ := by
    rw [launch_ok]
    refine ⟨launches.shared, exported, launches.grid, launches.block, ?_⟩
    rw [named, ← launches.kernel]
  unfold run
  rw [held]
  simp only [launches.parameters, active, launches.launch, Except.mapError, bind, Except.bind,
    recorded]

/-- Kernels in memory stay there when one of them is looked up. -/
theorem Holds.kernelFor (reachable : backend.artifacts.Reachable) {kernel other : Kernel}
    (holds : backend.Holds kernel) (others : backend.Holds other) :
    (backend.kernelFor kernel now).2.Holds other := by
  obtain ⟨handle, after, held, -, -, same⟩ := kernelFor_held reachable holds now
  rw [held]
  refine ⟨others.checked, ?_⟩
  rw [same]
  exact others.exported

/-- Requests for kernels in memory are all launched if the device and the recorder take them. -/
theorem runAll_held {device : DeviceInfo} (reachable : backend.artifacts.Reachable)
    (active : backend.activeDevice = device) {requests : List LaunchRequest}
    (holds : ∀ request ∈ requests, backend.Holds request.kernel) {records : List LaunchRecord}
    (launches : List.Forall₂ (LaunchRequest.Launches device) requests records) (log : LaunchLog)
    (now : Instant) : (backend.runAll log now requests).1 = .ok (records.map LaunchRecord.launch) ∧
      (backend.runAll log now requests).2.2 = ⟨log.records ++ records⟩ := by
  induction launches generalizing backend log with
  | nil => simp [runAll]
  | @cons request record requests records first later ih =>
      subst active
      obtain ⟨own, others⟩ := List.forall_mem_cons.mp holds
      have devices := kernelFor_devices backend request.kernel now
      obtain ⟨succeeded, recorded⟩ := ih (kernelFor_reachable reachable request.kernel now)
        (congrArg DeviceSelection.active devices)
        (fun other member => own.kernelFor reachable (others other member))
        ⟨log.records ++ [record]⟩
      unfold runAll
      rw [run_held reachable own first]
      dsimp only
      rw [succeeded, recorded, List.append_assoc]
      exact ⟨rfl, rfl⟩

/-- Every kernel is compiled, and its artifact exports it. -/
def Prepares (backend : Backend Device World) (kernels : List Kernel) (now : Instant) : Prop :=
  ∃ handles, (backend.prepare kernels now).1 = .ok handles ∧ ∀ handle ∈ handles, handle.isExported

/-- A preparation changes the cache only. -/
theorem prepare_devices (backend : Backend Device World) (kernels : List Kernel) (now : Instant) :
    (backend.prepare kernels now).2.devices = backend.devices := by
  unfold prepare
  split <;> rfl

theorem prepare_reachable (reachable : backend.artifacts.Reachable) (kernels : List Kernel)
    (now : Instant) : (backend.prepare kernels now).2.artifacts.Reachable := by
  unfold prepare
  split
  · exact reachable
  · exact ArtifactCache.compile_reachable reachable kernels now

/-- Kernels that were compiled together are in memory. -/
theorem prepare_holds (reachable : backend.artifacts.Reachable) {kernels : List Kernel}
    (prepares : backend.Prepares kernels now) {kernel : Kernel} (member : kernel ∈ kernels) :
    (backend.prepare kernels now).2.Holds kernel := by
  obtain ⟨handles, prepared, exported⟩ := prepares
  unfold prepare at prepared ⊢
  cases checked : kernels.forM backend.checkKernel with
  | error error =>
      rw [checked] at prepared
      cases prepared
  | ok =>
      rw [checked] at prepared
      dsimp only at prepared ⊢
      cases compiled : backend.artifacts.compile kernels now with
      | mk result after =>
          rw [compiled] at prepared
          cases result with
          | error error => cases prepared
          | ok artifact =>
              cases prepared
              refine ⟨forM_ok.mp checked kernel member, artifact,
                ArtifactCache.compile_held reachable compiled, ?_⟩
              exact exported _ (List.mem_map_of_mem member)

/-- The two kernels of a parallel run. -/
def stageKernels (operation : ConvolutionOperation) : List Kernel :=
  [operation.partialAccumulation.kernel, operation.splitKReduction.kernel]

/-- The first stage of a parallel run. -/
def partialRequest (operation : ConvolutionOperation) (arguments : ConvolutionArguments) :
    LaunchRequest := operation.partialAccumulation.request arguments

/-- The second stage of a parallel run. -/
def reductionRequest (operation : ConvolutionOperation) (arguments : ConvolutionArguments)
    (workspace : DevicePointer) : LaunchRequest :=
  operation.splitKReduction.request (operation.derivedArguments arguments workspace)

variable {operation : ConvolutionOperation} {arguments : ConvolutionArguments}
  {workspace : DevicePointer} {device : DeviceInfo}

/-- When the partial kernel was launched, the reduction is launched exactly if it fits. -/
theorem reductionRequest_launches (split : arguments.splitK = .parallel workspace)
    (first : (partialRequest operation arguments).Launches device record) :
    (∃ second, (reductionRequest operation arguments workspace).Launches device second) ↔
      operation.ReductionFits arguments.problem := by
  have ready := ConvolutionOperation.ready_of_accepted split (of_checked first.parameters).1
  constructor
  · rintro ⟨second, launches⟩
    obtain ⟨accepted, scalar⟩ := ReductionOperation.packArguments_ok.mp ⟨_, launches.parameters⟩
    obtain ⟨aligned, columns⟩ :=
      (ConvolutionOperation.launch_derivedArguments ready).mp ⟨_, launches.launch⟩
    exact ⟨aligned, scalar, columns⟩
  · rintro ⟨aligned, scalar, columns⟩
    obtain ⟨parameters, packed⟩ := ReductionOperation.packArguments_ok.mpr
      ⟨(ConvolutionOperation.validate_derivedArguments ready).mpr aligned, scalar⟩
    obtain ⟨launch, asked⟩ :=
      (ConvolutionOperation.launch_derivedArguments ready).mpr ⟨aligned, columns⟩
    obtain ⟨grid, block, shared⟩ :=
      ConvolutionOperation.launch_derivedArguments_extents ready asked
    refine ⟨⟨operation.splitKReduction.kernel.symbol, launch, parameters⟩, rfl, packed, asked, ?_,
      grid, ?_⟩
    · rw [shared]
      exact UInt32.zero_le
    · rw [block]
      decide

/-- What a run of a convolution launches. -/
structure RunsConvolution (backend : Backend Device World) (log : LaunchLog)
    (operation : ConvolutionOperation) (arguments : ConvolutionArguments) (now : Instant) :
    Prop where
  serial : arguments.splitK = .serial →
    AllOrNothing backend.activeDevice [operation.request arguments] log
      (backend.runConvolution log operation arguments now).1
      (backend.runConvolution log operation arguments now).2.2
  /-- A parallel run launches both stages or none of them, or it fails after the first one. -/
  parallel : ∀ workspace, arguments.splitK = .parallel workspace →
    AllOrNothing backend.activeDevice
        [partialRequest operation arguments, reductionRequest operation arguments workspace] log
        (backend.runConvolution log operation arguments now).1
        (backend.runConvolution log operation arguments now).2.2 ∨
      ∃ error record, (partialRequest operation arguments).Launches backend.activeDevice record ∧
        (backend.runConvolution log operation arguments now).1 = .error error ∧
        (backend.runConvolution log operation arguments now).2.2 = ⟨log.records ++ [record]⟩
  /-- If both kernels are prepared and the reduction fits, both stages are launched or none. -/
  atomic : ∀ workspace, arguments.splitK = .parallel workspace →
    backend.Prepares (stageKernels operation) now → operation.ReductionFits arguments.problem →
    AllOrNothing backend.activeDevice
      [partialRequest operation arguments, reductionRequest operation arguments workspace] log
      (backend.runConvolution log operation arguments now).1
      (backend.runConvolution log operation arguments now).2.2
  /-- If the first stage can be made and the reduction does not fit, the run fails all the same with
  the first stage launched. -/
  halfway : ∀ workspace record, arguments.splitK = .parallel workspace →
    operation.storeReach < 2 ^ 32 → backend.Prepares (stageKernels operation) now →
    ¬operation.ReductionFits arguments.problem →
    (partialRequest operation arguments).Launches backend.activeDevice record →
    ∃ error, (backend.runConvolution log operation arguments now).1 = .error error ∧
      (backend.runConvolution log operation arguments now).2.2 = ⟨log.records ++ [record]⟩

/-- A parallel run whose first stage cannot be made stops. -/
theorem runConvolution_stopped (backend : Backend Device World) (log : LaunchLog)
    (operation : ConvolutionOperation) (now : Instant) (split : arguments.splitK = .parallel workspace)
    (far : ¬operation.storeReach < 2 ^ 32) :
    backend.runConvolution log operation arguments now =
      (.error (.argument .stopped), backend, log) := by
  unfold runConvolution
  rw [split]
  exact if_pos (Nat.not_lt.mp far)

/-- Any other parallel run prepares the kernels of both stages first. -/
theorem runConvolution_prepares (backend : Backend Device World) (log : LaunchLog)
    (operation : ConvolutionOperation) (now : Instant) (split : arguments.splitK = .parallel workspace)
    (reach : operation.storeReach < 2 ^ 32) :
    backend.runConvolution log operation arguments now =
      match backend.prepare (stageKernels operation) now with
      | (.error error, backend) => (.error error, backend, log)
      | (.ok _, backend) =>
          match operation.reductionArguments arguments with
          | .error error => (.error (.argument error), backend, log)
          | .ok reductionArguments =>
              backend.runAll log now
                [partialRequest operation arguments,
                  operation.splitKReduction.request reductionArguments] := by
  unfold runConvolution
  rw [split]
  exact if_neg (Nat.not_le.mpr reach)

/-- With both kernels compiled and a workspace, a parallel run runs both stages. -/
theorem runConvolution_staged {handles : List KernelHandle}
    (split : arguments.splitK = .parallel workspace) (reach : operation.storeReach < 2 ^ 32)
    (bound : workspace.isNull = false)
    (prepared : (backend.prepare (stageKernels operation) now).1 = .ok handles) :
    backend.runConvolution log operation arguments now =
      (backend.prepare (stageKernels operation) now).2.runAll log now
        [partialRequest operation arguments, reductionRequest operation arguments workspace] := by
  have derived := operation.reductionArguments_parallel split bound
  rw [runConvolution_prepares backend log operation now split reach, derived]
  generalize backend.prepare (stageKernels operation) now = outcome at prepared
  obtain ⟨result, after⟩ := outcome
  obtain rfl : result = .ok handles := prepared
  rfl

/-- A parallel run fails before it launches anything, or it runs both stages. -/
theorem runConvolution_parallel (backend : Backend Device World) (log : LaunchLog)
    (operation : ConvolutionOperation) (now : Instant) (split : arguments.splitK = .parallel workspace) :
    (∃ error after, backend.runConvolution log operation arguments now =
      (.error error, after, log)) ∨
    backend.runConvolution log operation arguments now =
      (backend.prepare (stageKernels operation) now).2.runAll log now
        [partialRequest operation arguments, reductionRequest operation arguments workspace] := by
  by_cases reach : operation.storeReach < 2 ^ 32
  case neg => exact .inl ⟨_, _, runConvolution_stopped backend log operation now split reach⟩
  case pos =>
    cases prepared : (backend.prepare (stageKernels operation) now).1 with
    | error error =>
        left
        rw [runConvolution_prepares backend log operation now split reach]
        generalize backend.prepare (stageKernels operation) now = outcome at prepared
        obtain ⟨result, after⟩ := outcome
        obtain rfl : result = .error error := prepared
        exact ⟨error, after, rfl⟩
    | ok handles =>
        cases bound : workspace.isNull with
        | false => exact .inr (runConvolution_staged split reach bound prepared)
        | true =>
            left
            rw [runConvolution_prepares backend log operation now split reach]
            generalize backend.prepare (stageKernels operation) now = outcome at prepared
            obtain ⟨result, after⟩ := outcome
            obtain rfl : result = .ok handles := prepared
            simp only [ConvolutionOperation.reductionArguments, split, bound]
            exact ⟨_, _, rfl⟩

/-- A parallel run launches both stages or none of them, or it fails after the first one. -/
theorem runConvolution_stages (backend : Backend Device World) (log : LaunchLog)
    (operation : ConvolutionOperation) (now : Instant) (split : arguments.splitK = .parallel workspace) :
    AllOrNothing backend.activeDevice
        [partialRequest operation arguments, reductionRequest operation arguments workspace] log
        (backend.runConvolution log operation arguments now).1
        (backend.runConvolution log operation arguments now).2.2 ∨
      ∃ error record, (partialRequest operation arguments).Launches backend.activeDevice record ∧
        (backend.runConvolution log operation arguments now).1 = .error error ∧
        (backend.runConvolution log operation arguments now).2.2 = ⟨log.records ++ [record]⟩ := by
  rcases runConvolution_parallel backend log operation now split with
    ⟨error, after, failed⟩ | staged
  · rw [failed]
    exact .inl (.nothing error)
  · have devices := prepare_devices backend (stageKernels operation) now
    rw [staged]
    obtain ⟨records, launched, rest, same, launches, recorded, outcome⟩ := runAll_prefix
      (backend.prepare (stageKernels operation) now).2 log
      [partialRequest operation arguments, reductionRequest operation arguments workspace] now
    rw [activeDevice, devices] at launches
    rcases outcome with ⟨succeeded, rfl⟩ | ⟨⟨error, failed⟩, some⟩
    · rw [List.append_nil] at same
      rw [succeeded, recorded]
      exact .inl (.all records (same ▸ launches))
    · rw [failed, recorded]
      cases launches with
      | nil =>
          rw [List.append_nil]
          exact .inl (.nothing error)
      | @cons request record requests records first later =>
          obtain ⟨rfl, others⟩ := List.cons.inj same
          cases later with
          | nil => exact .inr ⟨error, record, first, rfl, rfl⟩
          | cons second more =>
              have none := (List.cons.inj others).2
              exact absurd (List.append_eq_nil_iff.mp none.symm).2 some

/-- Once both kernels are prepared they are in memory of a backend with the same devices. -/
theorem Prepares.stages (reachable : backend.artifacts.Reachable)
    (prepares : backend.Prepares (stageKernels operation) now) :
    (backend.prepare (stageKernels operation) now).2.Holds operation.partialAccumulation.kernel ∧
      (backend.prepare (stageKernels operation) now).2.Holds operation.splitKReduction.kernel :=
  ⟨prepare_holds reachable prepares (by simp [stageKernels]),
    prepare_holds reachable prepares (by simp [stageKernels])⟩

/-- If both kernels are prepared, the device takes the first stage and the reduction fits, both
stages are launched. -/
theorem runConvolution_complete (reachable : backend.artifacts.Reachable)
    (split : arguments.splitK = .parallel workspace) (reach : operation.storeReach < 2 ^ 32)
    (prepares : backend.Prepares (stageKernels operation) now)
    (fits : operation.ReductionFits arguments.problem)
    (first : (partialRequest operation arguments).Launches backend.activeDevice record)
    (log : LaunchLog) : ∃ second, (reductionRequest operation arguments workspace).Launches backend.activeDevice second ∧
      (backend.runConvolution log operation arguments now).1 = .ok [record.launch, second.launch] ∧
      (backend.runConvolution log operation arguments now).2.2 = ⟨log.records ++ [record, second]⟩ := by
  obtain ⟨second, launches⟩ := (reductionRequest_launches split first).mpr fits
  have bound := (ConvolutionOperation.ready_of_accepted split (of_checked first.parameters).1).workspace
  obtain ⟨handles, prepared, -⟩ := id prepares
  obtain ⟨held, reductionHeld⟩ := prepares.stages reachable
  have active : (backend.prepare (stageKernels operation) now).2.activeDevice =
    backend.activeDevice := congrArg DeviceSelection.active (prepare_devices backend _ now)
  have both : List.Forall₂ (LaunchRequest.Launches backend.activeDevice)
      [partialRequest operation arguments, reductionRequest operation arguments workspace]
      [record, second] := .cons first (.cons launches .nil)
  have run := runAll_held (prepare_reachable reachable (stageKernels operation) now) active
    (by simpa [partialRequest, reductionRequest] using ⟨held, reductionHeld⟩) both log now
  rw [runConvolution_staged split reach bound prepared]
  exact ⟨second, launches, run⟩

/-- If the reduction does not fit, a run that launches the first stage fails after it. -/
theorem runConvolution_halfway (reachable : backend.artifacts.Reachable)
    (split : arguments.splitK = .parallel workspace) (reach : operation.storeReach < 2 ^ 32)
    (prepares : backend.Prepares (stageKernels operation) now)
    (misfit : ¬operation.ReductionFits arguments.problem)
    (first : (partialRequest operation arguments).Launches backend.activeDevice record)
    (log : LaunchLog) : ∃ error, (backend.runConvolution log operation arguments now).1 = .error error ∧
      (backend.runConvolution log operation arguments now).2.2 = ⟨log.records ++ [record]⟩ := by
  have bound := (ConvolutionOperation.ready_of_accepted split (of_checked first.parameters).1).workspace
  obtain ⟨handles, prepared, -⟩ := id prepares
  obtain ⟨held, -⟩ := prepares.stages reachable
  have prepareReachable := prepare_reachable reachable (stageKernels operation) now
  have devices := prepare_devices backend (stageKernels operation) now
  rw [runConvolution_staged split reach bound prepared]
  generalize (backend.prepare (stageKernels operation) now).2 = ready at *
  have active : ready.activeDevice = backend.activeDevice := congrArg DeviceSelection.active devices
  have nextDevices := kernelFor_devices ready (partialRequest operation arguments).kernel now
  unfold runAll
  rw [run_held prepareReachable held (active ▸ first)]
  dsimp only
  unfold runAll
  rcases run_cases (ready.kernelFor (partialRequest operation arguments).kernel now).2
    ⟨log.records ++ [record]⟩ (reductionRequest operation arguments workspace) now with
    ⟨error, failed⟩ | ⟨second, launches, -⟩
  · rw [failed]
    exact ⟨error, rfl, rfl⟩
  · rw [activeDevice, nextDevices, devices] at launches
    exact absurd ((reductionRequest_launches split first).mp ⟨second, launches⟩) misfit

/-- A serial run of a convolution is launched whole or not at all. A parallel run is so too if its
kernels are prepared and its reduction fits; otherwise it can fail with the first stage launched. -/
theorem runConvolution_launches (reachable : backend.artifacts.Reachable) (log : LaunchLog)
    (operation : ConvolutionOperation) (arguments : ConvolutionArguments) (now : Instant) :
    RunsConvolution backend log operation arguments now where
  serial split := by
    unfold runConvolution
    rw [split]
    exact runAll_single backend log (operation.request arguments) now
  parallel workspace split := runConvolution_stages backend log operation now split
  atomic workspace split prepares fits := by
    by_cases reach : operation.storeReach < 2 ^ 32
    case neg =>
      rw [runConvolution_stopped backend log operation now split reach]
      exact .nothing _
    case pos =>
      rcases runConvolution_stages backend log operation now split with
        whole | ⟨error, record, first, failed, -⟩
      · exact whole
      · obtain ⟨second, -, succeeded, -⟩ :=
          runConvolution_complete reachable split reach prepares fits first log
        rw [failed] at succeeded
        cases succeeded
  halfway workspace record split reach prepares misfit first :=
    runConvolution_halfway reachable split reach prepares misfit first log

/-- A cache without artifacts and without a store prepares the kernels that the device takes and the
compiler compiles. -/
theorem prepares_fresh {kernels : List Kernel} {made : ModuleSource}
    (checked : ∀ kernel ∈ kernels, backend.checkKernel kernel = .ok ())
    (writable : kernels.all Kernel.isWritable)
    (found : ModuleSource.ofKernels? kernels = some made) (storeless : backend.artifacts.store = none)
    (empty : backend.artifacts.entries = [])
    (compiled : ∃ artifact,
      (backend.artifacts.compileSource made.source made.symbols now).1 = .ok artifact) :
    backend.Prepares kernels now := by
  obtain ⟨artifact, compiled⟩ := compiled
  have absent : backend.artifacts.find? (backend.artifacts.keyFor made.source) = none := by
    rw [ArtifactCache.find?_none, empty]
    exact List.not_mem_nil
  have named := ArtifactCache.compileSource_made storeless absent compiled
  refine ⟨kernels.map fun kernel => ⟨artifact, kernel.symbol⟩, ?_, ?_⟩
  · unfold prepare ArtifactCache.compile
    rw [forM_ok.mpr checked, found]
    dsimp only
    rw [if_pos writable, compiled]
    rfl
  · intro handle member
    obtain ⟨kernel, asked, rfl⟩ := List.mem_map.mp member
    apply Artifact.exports_iff.mpr
    rw [named]
    exact ModuleSource.symbol_exported found asked

/-- A backend on a host with a compiler that never fails prepares every convolution whose kernels
the program does not stop for. -/
theorem assemble_host : ∃ backend : Backend HostMemory Unit,
    (assemble ⟨[.host 8], .host 8⟩ ⟨.standard, ⟨0, 4096, 4096⟩, .standard⟩ (.create 4096 0) .echo ()
      ⟨[]⟩).1 = .ok backend ∧ backend.artifacts.Reachable ∧ backend.activeDevice = .host 8 ∧
      ∀ operation now, (∀ kernel ∈ stageKernels operation, kernel.IsCounted) →
        backend.Prepares (stageKernels operation) now := by
  have created : ArtifactCache.create 256 .standard .echo () none = .ok _ := rfl
  refine ⟨_, rfl, .create created, rfl, ?_⟩
  intro operation now counted
  refine prepares_fresh ?_ ?_ rfl rfl rfl ⟨_, rfl⟩
  · intro kernel member
    obtain ⟨shared, same⟩ := Option.isSome_iff_exists.mp (counted kernel member).shared
    rw [checkKernel, same]
    exact mapError_ok.mpr (DeviceInfo.host_checkKernel 8 kernel.arch shared)
  · exact List.all_eq_true.mpr fun kernel member => (counted kernel member).writable

/-- A convolution whose output channels are no multiple of the reduction's access. -/
theorem misaligned_reduction_launches : ∃ (backend : Backend HostMemory Unit)
    (operation : ConvolutionOperation) (arguments : ConvolutionArguments),
    Catalog.convolution 80 .f16 .fprop = .ok operation ∧ arguments.splitK = .parallel ⟨4096⟩ ∧
      ∃ error record, (backend.runConvolution .empty operation arguments ⟨0, 0⟩).1 = .error error ∧
        (backend.runConvolution .empty operation arguments ⟨0, 0⟩).2.2.records = [record] ∧
        record.kernel = operation.partialAccumulation.kernel.symbol := by
  obtain ⟨backend, -, reachable, active, prepares⟩ := assemble_host
  obtain ⟨operation, created⟩ : ∃ operation, Catalog.convolution 80 .f16 .fprop = .ok operation :=
    ⟨_, rfl⟩
  let problem := ConvolutionProblem.ofExtents ⟨1, 4, 4, 8⟩ ⟨12, 1, 1, 8⟩ ⟨0, 0⟩ ⟨1, 1⟩ ⟨1, 1⟩ 0 1 1
  let arguments : ConvolutionArguments :=
    { problem, pointerA := ⟨1⟩, pointerB := ⟨1⟩, pointerC := ⟨1⟩, pointerD := ⟨1⟩
      splitK := .parallel ⟨4096⟩ }
  obtain ⟨record, first⟩ : ∃ record,
      (partialRequest operation arguments).Launches backend.activeDevice record := by
    rw [active]
    obtain ⟨parameters, packed⟩ := Option.isSome_iff_exists.mp
      (show (partialRequest operation arguments).parameters.toOption.isSome by
        cases created
        decide +kernel)
    have configured : ((partialRequest operation arguments).launch (.host 8)).toOption =
        some ⟨⟨1, 1, 1⟩, ⟨128, 1, 1⟩, 49152⟩ := by
      cases created
      decide +kernel
    have shared : (49152 : UInt32) ≤ UInt32.ofNat (UInt32.size - 1) := by decide
    have grid : (LaunchExtent.mk 1 1 1).volume ≠ 0 ∧
      (LaunchExtent.mk 1 1 1).volume ≤ Number.maxWord64 := by decide
    have block : (LaunchExtent.mk 128 1 1).volume ≠ 0 ∧
      (LaunchExtent.mk 128 1 1).volume ≤ maxThreadsPerBlock := by decide
    exact ⟨⟨_, _, parameters⟩, rfl, toOption_some.mp packed, toOption_some.mp configured, shared,
      grid, block⟩
  have misfit : ¬operation.ReductionFits arguments.problem := by
    rintro ⟨aligned, -, -⟩
    cases created
    exact absurd aligned (by decide +kernel)
  have made := ConvolutionOperation.made_of_catalog created
  have counted : ∀ kernel ∈ stageKernels operation, kernel.IsCounted := by
    cases created
    simp only [stageKernels, List.forall_mem_cons, List.not_mem_nil, false_implies, implies_true,
      and_true]
    exact ⟨⟨rfl, by decide +kernel⟩, by decide +kernel, rfl⟩
  obtain ⟨error, failed, recorded⟩ := runConvolution_halfway reachable rfl made.storeReach_lt
    (prepares operation ⟨0, 0⟩ counted) misfit first .empty
  exact ⟨backend, operation, arguments, created, rfl, error, record, failed,
    congrArg LaunchLog.records recorded, first.kernel⟩

theorem runConvolution_launches_host : ∃ (backend : Backend HostMemory Unit)
    (operation : ConvolutionOperation),
    Catalog.convolution 80 .f16 .fprop = .ok operation ∧ backend.artifacts.Reachable ∧
      ∀ arguments, RunsConvolution backend .empty operation arguments ⟨0, 0⟩ := by
  obtain ⟨backend, -, reachable, -⟩ := assemble_host
  exact ⟨backend, _, rfl, reachable, fun arguments =>
    runConvolution_launches reachable .empty _ arguments ⟨0, 0⟩⟩

end Backend

end DeviceKernels
