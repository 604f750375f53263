import DeviceKernels.Proofs.Artifact.Descriptions
import DeviceKernels.Proofs.Backend.Launches
import DeviceKernels.Proofs.Operation.Exports

/-
Prepared kernels can be launched. The artifact of a preparation may come from an earlier call for
the same source, and then it has the kernel names of that call.
-/

namespace DeviceKernels

open Outcome

/-- The module of some operations. -/
def operationModule? (operations : List Operation) : Option ModuleSource :=
  ModuleSource.ofKernels? (operations.map Operation.toKernel)

/-- The sources of some modules of operations. -/
def moduleSources (modules : Set (List Operation)) : Set String :=
  {source | ∃ operations ∈ modules, ∃ made, operationModule? operations = some made ∧
    made.source = source}

/-- The digest tells the keys of the modules apart. -/
def SeparateModules (options : CompileOptions) (compiler : String)
    (modules : Set (List Operation)) : Prop :=
  Set.InjOn Sha256.digest
    ((fun source => ArtifactKey.image source options compiler) '' moduleSources modules)

/-- The kernel names are those of every module whose source has the key. -/
def NamesModules (options : CompileOptions) (compiler : String) (modules : Set (List Operation))
    (key : ArtifactKey) (kernelNames : List String) : Prop :=
  ∀ operations ∈ modules, ∀ made, operationModule? operations = some made →
    ArtifactKey.compute made.source options compiler = key → kernelNames = made.symbols

/-- Whether the modules have no kernel made by hand. -/
def AllDescribed (modules : Set (List Operation)) : Prop :=
  ∀ operations ∈ modules, ∀ operation ∈ operations, operation.IsDescribed

section Modules

variable {options : CompileOptions} {compiler : String} {modules : Set (List Operation)}
  {operations : List Operation} {made : ModuleSource}

theorem AllDescribed.entries (described : AllDescribed modules) (asked : operations ∈ modules) :
    ∀ kernel ∈ operations.map Operation.toKernel, kernel.HasEntry := by
  intro kernel member
  obtain ⟨operation, isOne, rfl⟩ := List.mem_map.1 member
  exact (described operations asked operation isOne).hasEntry

/-- A module has the kernel names that belong to its key, because another module of the key would
have its source. -/
theorem namesModules_symbols (described : AllDescribed modules)
    (separate : SeparateModules options compiler modules) (asked : operations ∈ modules)
    (found : operationModule? operations = some made) :
    NamesModules options compiler modules (.compute made.source options compiler) made.symbols := by
  intro others othersAsked other otherFound sameKey
  have images := separate ⟨_, ⟨others, othersAsked, other, otherFound, rfl⟩, rfl⟩
    ⟨_, ⟨operations, asked, made, found, rfl⟩, rfl⟩ (congrArg ArtifactKey.bytes sameKey)
  have sources := ArtifactKey.image_injective options compiler images
  exact ModuleSource.symbols_eq_of_source_eq found otherFound (described.entries asked)
    (described.entries othersAsked) sources.symm

end Modules

namespace ArtifactCache

variable {World : Type} {cache : ArtifactCache World} {options : CompileOptions}
  {compiler : Compiler World} {modules : Set (List Operation)} {operations : List Operation}

/-- A cache of the settings in which every artifact names the kernels of its modules. -/
structure ServesModules (options : CompileOptions) (compiler : Compiler World)
    (modules : Set (List Operation)) (cache : ArtifactCache World) : Prop where
  sameOptions : cache.options = options
  sameCompiler : cache.compiler = compiler
  keeps : cache.Keeps (ArtifactStore.NamesRight (NamesModules options compiler.name modules))
    fun artifact => NamesModules options compiler.name modules artifact.key artifact.kernelNames

namespace ServesModules

theorem kernel (serves : cache.ServesModules options compiler modules) (name : String) :
    (cache.kernel name).2.ServesModules options compiler modules := by
  have settings := step_settings cache (.kernel name)
  exact ⟨settings.options.trans serves.sameOptions, settings.compiler.trans serves.sameCompiler,
    serves.keeps.kernel name⟩

/-- A compilation of a module is answered with its key and its kernel names. -/
theorem compile (serves : cache.ServesModules options compiler modules)
    (described : AllDescribed modules) (separate : SeparateModules options compiler.name modules)
    (asked : operations ∈ modules) (now : Instant) :
    (cache.compile (operations.map Operation.toKernel) now).2.ServesModules options compiler
        modules ∧
      ∀ artifact, (cache.compile (operations.map Operation.toKernel) now).1 = .ok artifact →
        ∃ made, operationModule? operations = some made ∧ artifact.kernelNames = made.symbols := by
  unfold ArtifactCache.compile
  cases found : ModuleSource.ofKernels? (operations.map Operation.toKernel) with
  | none => exact ⟨serves, fun artifact same => by cases same⟩
  | some made =>
      dsimp only
      split
      case isFalse => exact ⟨serves, fun artifact same => by cases same⟩
      case isTrue =>
        have own : NamesModules options compiler.name modules (cache.keyFor made.source)
            made.symbols := by
          rw [keyFor, serves.sameOptions, serves.sameCompiler]
          exact namesModules_symbols described separate asked found
        obtain ⟨kept, named⟩ := serves.keeps.compileSource (ArtifactStore.custody_names _)
          made.source made.symbols now fun _ _ _ => own
        have settings := step_settings cache (.compile made.source made.symbols now)
        refine ⟨⟨settings.options.trans serves.sameOptions,
          settings.compiler.trans serves.sameCompiler, kept⟩,
          fun artifact answered => ⟨made, found, ?_⟩⟩
        refine named artifact answered operations asked made found ?_
        rw [compileSource_key answered, keyFor, serves.sameOptions, serves.sameCompiler]

end ServesModules

end ArtifactCache

/-- The calls of a program on a backend. The request of a run is one for its operation. -/
inductive BackendCall where
  | prepare (operations : List Operation) (now : Instant)
  | run (log : LaunchLog) (operation : Operation) (request : LaunchRequest)
      (own : request.kernel = operation.toKernel) (now : Instant)
  | runConvolution (log : LaunchLog) (operation : ConvolutionOperation)
      (arguments : ConvolutionArguments) (now : Instant)

namespace BackendCall

/-- The stages of a parallel run. -/
def stages (operation : ConvolutionOperation) : List Operation :=
  [.convolution operation.partialAccumulation, .reduction operation.splitKReduction]

/-- The modules that a call can compile. -/
def modules : BackendCall → List (List Operation)
  | prepare operations _ => [operations]
  | run _ operation _ _ _ => [[operation]]
  | runConvolution _ operation arguments _ =>
      match arguments.splitK with
      | .serial => [[.convolution operation]]
      | .parallel _ => stages operation :: (stages operation).map ([·])

end BackendCall

namespace Backend

variable {Device World : Type} {backend : Backend Device World} {options : CompileOptions}
  {compiler : Compiler World} {modules : Set (List Operation)} {operations : List Operation}
  {kernel : Kernel} {operation : Operation}

/-- The backend after a call. -/
def step (backend : Backend Device World) : BackendCall → Backend Device World
  | .prepare operations now => (backend.prepare (operations.map Operation.toKernel) now).2
  | .run log _ request _ now => (backend.run log request now).2.1
  | .runConvolution log operation arguments now =>
      (backend.runConvolution log operation arguments now).2.1

/-- The backends of programs that compile these modules of operations and leave the disk to their
cache, which found no files when it was opened. The world of the compiler and the pool may change at
any time. -/
inductive Owned (options : CompileOptions) (compiler : Compiler World)
    (modules : Set (List Operation)) : Backend Device World → Prop
  | assemble [DeviceAllocator Device] {devices : DeviceSelection} {config : BackendConfig}
      {device : Device} {world : World} {files left : FileTree} {backend : Backend Device World}
      (assembled : assemble devices config device compiler world files = (.ok backend, left))
      (settings : config.artifacts.options = options)
      (clean : ∀ store, backend.artifacts.store = some store → store.directory = .empty) :
      Owned options compiler modules backend
  | call {backend : Backend Device World} (owned : Owned options compiler modules backend)
      (call : BackendCall) (within : ∀ operations ∈ call.modules, operations ∈ modules) :
      Owned options compiler modules (backend.step call)
  | work {backend : Backend Device World} (owned : Owned options compiler modules backend)
      (world : World) (pool : Pool Device) :
      Owned options compiler modules
        { backend with pool, artifacts := { backend.artifacts with world } }

/-- A backend whose cache serves the modules. -/
def ServesModules (options : CompileOptions) (compiler : Compiler World)
    (modules : Set (List Operation)) (backend : Backend Device World) : Prop :=
  backend.artifacts.ServesModules options compiler modules

namespace ServesModules

variable (described : AllDescribed modules)
  (separate : SeparateModules options compiler.name modules)

include described separate

theorem prepare (serves : backend.ServesModules options compiler modules)
    (asked : operations ∈ modules) (now : Instant) :
    (backend.prepare (operations.map Operation.toKernel) now).2.ServesModules options compiler
      modules := by
  unfold Backend.prepare
  split
  · exact serves
  · exact (serves.compile described separate asked now).1

theorem kernelFor (serves : backend.ServesModules options compiler modules)
    (asked : [operation] ∈ modules) (now : Instant) :
    (backend.kernelFor operation.toKernel now).2.ServesModules options compiler modules := by
  have looked := ArtifactCache.ServesModules.kernel serves operation.toKernel.symbol
  unfold Backend.kernelFor
  split
  · exact serves
  · split
    case h_1 handle artifacts found =>
      rw [found] at looked
      exact looked
    case h_2 artifacts missed =>
      rw [missed] at looked
      exact (looked.compile described separate asked now).1

theorem run (serves : backend.ServesModules options compiler modules)
    (asked : [operation] ∈ modules) {request : LaunchRequest}
    (own : request.kernel = operation.toKernel) (log : LaunchLog) (now : Instant) :
    (backend.run log request now).2.1.ServesModules options compiler modules := by
  have compiled := kernelFor described separate serves asked now
  rw [← own] at compiled
  rcases run_cases backend log request now with ⟨error, failed⟩ | ⟨record, -, done⟩
  · rw [failed]
    exact compiled
  · rw [done]
    exact compiled

theorem runAll (now : Instant) :
    ∀ {requests : List LaunchRequest} {backend : Backend Device World} (log : LaunchLog),
      backend.ServesModules options compiler modules →
      (∀ request ∈ requests, ∃ operation, [operation] ∈ modules ∧
        request.kernel = operation.toKernel) →
      (backend.runAll log now requests).2.1.ServesModules options compiler modules
  | [], backend, log, serves, _ => serves
  | request :: rest, backend, log, serves, asked => by
      obtain ⟨operation, isOne, own⟩ := asked request List.mem_cons_self
      have first := run described separate serves isOne own log now
      unfold Backend.runAll
      generalize backend.run log request now = outcome at first
      obtain ⟨result, after, recorded⟩ := outcome
      cases result with
      | error error => exact first
      | ok launch =>
          exact runAll now recorded first fun request member =>
            asked request (List.mem_cons_of_mem _ member)

theorem runConvolution (serves : backend.ServesModules options compiler modules) (log : LaunchLog)
    (operation : ConvolutionOperation) (arguments : ConvolutionArguments) (now : Instant)
    (within : ∀ operations ∈ (BackendCall.runConvolution log operation arguments now).modules,
      operations ∈ modules) :
    (backend.runConvolution log operation arguments now).2.1.ServesModules options compiler
      modules := by
  unfold BackendCall.modules at within
  cases split : arguments.splitK with
  | serial =>
      simp only [split, List.forall_mem_singleton] at within
      unfold Backend.runConvolution
      rw [split]
      refine runAll described separate now log serves ?_
      simp only [List.forall_mem_singleton]
      exact ⟨_, within, rfl⟩
  | parallel workspace =>
      simp only [split, BackendCall.stages, List.map_cons, List.map_nil, List.forall_mem_cons,
        List.not_mem_nil, false_implies, implies_true, and_true] at within
      obtain ⟨both, first, second⟩ := within
      by_cases reach : operation.storeReach < 2 ^ 32
      case neg =>
        rw [runConvolution_stopped backend log operation now split reach]
        exact serves
      case pos =>
        have prepared := prepare described separate serves both now
        simp only [List.map_cons, List.map_nil, Operation.toKernel] at prepared
        rw [runConvolution_prepares backend log operation now split reach, stageKernels]
        generalize backend.prepare _ now = outcome at prepared
        obtain ⟨result, after⟩ := outcome
        cases result with
        | error error => exact prepared
        | ok handles =>
            dsimp only
            cases operation.reductionArguments arguments with
            | error error => exact prepared
            | ok reductionArguments =>
                refine runAll described separate now log prepared ?_
                simp only [List.forall_mem_cons, List.not_mem_nil, false_implies, implies_true,
                  and_true]
                exact ⟨⟨_, first, rfl⟩, ⟨_, second, rfl⟩⟩

end ServesModules

end Backend

/-- A cache that is opened among files is new. -/
theorem ArtifactCache.openAt_create {World : Type} {config : CacheConfig}
    {compiler : Compiler World} {world : World} {files left : FileTree}
    {cache : ArtifactCache World}
    (opened : openAt config compiler world files = (.ok cache, left)) :
    ∃ store, create config.capacity config.options compiler world store = .ok cache := by
  unfold openAt at opened
  split at opened
  · cases opened
  · split at opened
    · exact ⟨none, congrArg Prod.fst opened⟩
    · split at opened
      · cases opened
      case h_2 store files made => exact ⟨some store, congrArg Prod.fst opened⟩

namespace Backend

variable {Device World : Type} {backend : Backend Device World} {options : CompileOptions}
  {compiler : Compiler World} {modules : Set (List Operation)} {operations : List Operation}

/-- A backend that is put together has a new cache. -/
theorem assemble_cache [DeviceAllocator Device] {devices : DeviceSelection} {config : BackendConfig}
    {device : Device} {world : World} {files left : FileTree}
    (assembled : assemble devices config device compiler world files = (.ok backend, left)) :
    ∃ store, ArtifactCache.create config.artifacts.capacity config.artifacts.options compiler world
      store = .ok backend.artifacts := by
  unfold assemble at assembled
  split at assembled
  · cases assembled
  · split at assembled
    · cases assembled
    case h_2 artifacts files opened =>
      obtain ⟨store, created⟩ := ArtifactCache.openAt_create opened
      cases assembled
      exact ⟨store, created⟩

/-- Every backend of such a program serves its modules. -/
theorem Owned.serves (owned : Owned options compiler modules backend)
    (described : AllDescribed modules)
    (separate : SeparateModules options compiler.name modules) :
    backend.ServesModules options compiler modules := by
  induction owned with
  | assemble assembled settings clean =>
      obtain ⟨store, created⟩ := assemble_cache assembled
      have fresh := (ArtifactCache.create_ok created).2
      refine ⟨?_, ?_, .create (fun held same => .empty (clean held ?_)) created⟩
      · rw [fresh, settings]
      · rw [fresh]
      · rw [fresh, same]
  | call owned call within ih =>
      cases call with
      | prepare operations now =>
          exact ih.prepare described separate (within operations List.mem_cons_self) now
      | run log operation request own now =>
          exact ih.run described separate (within [operation] List.mem_cons_self) own log now
      | runConvolution log operation arguments now =>
          exact ih.runConvolution described separate log operation arguments now within
  | work owned world pool ih =>
      exact ⟨ih.sameOptions, ih.sameCompiler, ih.keeps.memory, ih.keeps.stored⟩

/-- A recorder never misses a kernel that the artifact exports. -/
theorem record_loaded {handle : KernelHandle} (exported : handle.isExported = true)
    (log : LaunchLog) (launch : LaunchConfig) (parameters : Bytes) (name : String) :
    log.record handle launch parameters ≠ .error (.notLoaded name) := by
  unfold LaunchLog.record
  intro refused
  simp only [exported, Bool.not_true, Bool.false_eq_true, if_false] at refused
  repeat' split at refused
  all_goals cases refused

/-- If digests do not collide, a preparation that succeeds gives one handle for each operation in
order, whose artifact exports the kernel of the operation, so a recorder takes it for loaded. -/
theorem owned_prepares (owned : Owned options compiler modules backend)
    (described : AllDescribed modules) (separate : SeparateModules options compiler.name modules)
    (asked : operations ∈ modules) {now : Instant} {handles : List KernelHandle}
    (prepared : (backend.prepare (operations.map Operation.toKernel) now).1 = .ok handles) :
    List.Forall₂ (fun operation handle =>
        handle.name = operation.toKernel.symbol ∧ handle.isExported ∧
          ∀ (log : LaunchLog) launch parameters name,
            log.record handle launch parameters ≠ .error (.notLoaded name))
      operations handles := by
  have named := ((owned.serves described separate).compile described separate asked now).2
  unfold prepare at prepared
  split at prepared
  · cases prepared
  · generalize backend.artifacts.compile (operations.map Operation.toKernel) now = outcome
      at named prepared
    obtain ⟨result, artifacts⟩ := outcome
    cases result with
    | error error => cases prepared
    | ok artifact =>
        cases prepared
        obtain ⟨made, found, names⟩ := named artifact rfl
        rw [List.forall₂_map_right_iff, List.forall₂_map_right_iff, List.forall₂_same]
        intro operation member
        have exported : (KernelHandle.mk artifact operation.toKernel.symbol).isExported = true := by
          refine Artifact.exports_iff.mpr ?_
          rw [names]
          exact ModuleSource.symbol_exported found (List.mem_map_of_mem member)
        exact ⟨rfl, exported, record_loaded exported⟩

/-- A preparation on a host fails only as the compiler does. -/
theorem prepare_host {processors : UInt32} (active : backend.activeDevice = .host processors)
    (operations : List Operation) (now : Instant) {made : ModuleSource}
    (counted : ∀ operation ∈ operations, operation.toKernel.IsCounted)
    (found : operationModule? operations = some made)
    (compiles : ∀ world error, (backend.artifacts.compiler.compile world made.source
      backend.artifacts.options).1 ≠ .error error) :
    ∃ handles, (backend.prepare (operations.map Operation.toKernel) now).1 = .ok handles := by
  have checked : (operations.map Operation.toKernel).forM backend.checkKernel = .ok () := by
    refine forM_ok.mpr fun kernel member => mapError_ok.mpr ?_
    obtain ⟨operation, isOne, rfl⟩ := List.mem_map.mp member
    obtain ⟨shared, same⟩ := Option.isSome_iff_exists.mp (counted operation isOne).shared
    rw [active, same]
    exact DeviceInfo.host_checkKernel _ _ _
  have writable : (operations.map Operation.toKernel).all Kernel.isWritable = true := by
    simp only [List.all_map, List.all_eq_true]
    exact fun operation member => (counted operation member).writable
  cases answered : (backend.artifacts.compileSource made.source made.symbols now).1 with
  | error error =>
      obtain ⟨world, failed⟩ := ArtifactCache.compileSource_error answered
      exact absurd failed (compiles world error)
  | ok artifact =>
      unfold prepare ArtifactCache.compile
      rw [checked, show ModuleSource.ofKernels? _ = some made from found]
      dsimp only
      rw [if_pos writable, answered]
      exact ⟨_, rfl⟩

/-- The digest cannot fail to tell one module apart from itself. -/
theorem separateModules_singleton (options : CompileOptions) (compiler : String)
    (operations : List Operation) : SeparateModules options compiler {operations} := by
  refine Set.Subsingleton.injOn ?_ _
  rintro _ ⟨_, ⟨_, rfl, made, found, rfl⟩, rfl⟩ _ ⟨_, ⟨_, rfl, other, otherFound, rfl⟩, rfl⟩
  rw [Option.some.inj (found.symm.trans otherFound)]

/-- A product and a reduction that are prepared a second time can be launched, and so can the
product that is named twice. -/
theorem owned_prepares_again : ∃ (product : GemmOperation) (reduction : ReductionOperation)
    (backend : Backend HostMemory Unit) (left : FileTree) (handles : List KernelHandle),
    assemble ⟨[.host 8], .host 8⟩ ⟨.standard, ⟨0, 4096, 4096⟩, ⟨some "cache", 1, .standard⟩⟩
      (.create 4096 0) .echo () .initial = (.ok backend, left) ∧
    let operations := [.gemm product, .reduction reduction, .gemm product]
    ((backend.step (.prepare operations ⟨0, 0⟩)).prepare (operations.map Operation.toKernel)
        ⟨1, 0⟩).1 = .ok handles ∧
      List.Forall₂ (fun operation handle =>
        handle.name = operation.toKernel.symbol ∧ handle.isExported) operations handles := by
  obtain ⟨product, found⟩ : ∃ product,
      Catalog.gemm 80 .f16 Catalog.transposed .universal = .ok product := ⟨_, rfl⟩
  obtain ⟨convolution, created⟩ : ∃ convolution,
      Catalog.convolution 80 .f16 .fprop = .ok convolution := ⟨_, rfl⟩
  let operations : List Operation :=
    [.gemm product, .reduction convolution.splitKReduction, .gemm product]
  obtain ⟨backend, left, assembled, clean, active⟩ :
      ∃ (backend : Backend HostMemory Unit) (left : FileTree),
        assemble ⟨[.host 8], .host 8⟩ ⟨.standard, ⟨0, 4096, 4096⟩, ⟨some "cache", 1, .standard⟩⟩
          (.create 4096 0) .echo () .initial = (.ok backend, left) ∧
        (∀ store, backend.artifacts.store = some store → store.directory = .empty) ∧
          backend.activeDevice = .host 8 :=
    ⟨_, _, rfl, fun store same => by cases same; rfl, rfl⟩
  have described : AllDescribed {operations} := by
    rintro _ rfl operation member
    simp only [operations, List.mem_cons, List.not_mem_nil, or_false] at member
    obtain rfl | rfl | rfl := member <;> exact trivial
  have counted : ∀ operation ∈ operations, operation.toKernel.IsCounted := by
    have first : product.kernel.IsCounted := by
      cases found
      exact ⟨rfl, by decide +kernel⟩
    have second : convolution.splitKReduction.kernel.IsCounted := by
      cases created
      exact ⟨by decide +kernel, rfl⟩
    simpa [operations, Operation.toKernel] using ⟨first, second, first⟩
  have separate := separateModules_singleton .standard Compiler.echo.name operations
  have owned : Owned .standard .echo {operations} (backend.step (.prepare operations ⟨0, 0⟩)) :=
    .call (.assemble assembled rfl clean) (.prepare operations ⟨0, 0⟩)
      fun others member => List.mem_singleton.mp member
  have serves := owned.serves described separate
  have stillActive : (backend.step (.prepare operations ⟨0, 0⟩)).activeDevice = .host 8 :=
    (congrArg DeviceSelection.active (prepare_devices backend _ _)).trans active
  obtain ⟨handles, prepared⟩ := prepare_host stillActive operations ⟨1, 0⟩ counted rfl
    fun world error failed => by
      rw [serves.sameCompiler] at failed
      cases failed
  have loaded := owned_prepares owned described separate rfl prepared
  exact ⟨product, convolution.splitKReduction, backend, left, handles, assembled, prepared,
    loaded.imp fun _ _ both => ⟨both.1, both.2.1⟩⟩

end Backend

end DeviceKernels
