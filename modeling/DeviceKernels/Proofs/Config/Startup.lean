import DeviceKernels.Config.Warning
import DeviceKernels.Proofs.Files.Tree
import DeviceKernels.Proofs.Memory.Admission

/-
Configurations that start. What is resolved from an environment and a file is within the limits of
the pool and of the cache, and a backend of it comes up unless there is something to warn of.
-/

namespace DeviceKernels

/-- The checks of a pool pass when it can hold a byte and starts no larger than it may become. -/
theorem PoolConfig.firstSegment_accepts {config : PoolConfig} (positive : 0 < config.maximum)
    (ordered : config.initial ≤ config.maximum) (small : config.initial < Nat.pow 2 63) :
    ∃ size, config.firstSegment = .ok size ∧ size ≤ config.maximum := by
  have word : Number.roundUp config.initial 256 ≤ Number.maxWord64 := by
    have limit : Nat.pow 2 63 + 256 ≤ Number.maxWord64 := by decide
    have rounded : Number.roundUp config.initial 256 ≤ config.initial + 255 :=
      Nat.div_mul_le_self _ _
    omega
  refine ⟨min (Number.roundUp config.initial 256) config.maximum, ?_, min_le_right _ _⟩
  simp only [firstSegment, beq_iff_eq, Nat.ne_of_gt positive, Nat.not_lt.mpr ordered, if_false,
    checkedWord, word, if_true, bind, Except.bind]

namespace Pool

variable {config : PoolConfig} {size : Nat}

/-- A pool whose checks pass is refused by the device alone. -/
theorem create_refused {Device : Type} [DeviceAllocator Device] {device : Device}
    (first : config.firstSegment = .ok size) {error : MemoryError}
    (refused : (create device config).1 = .error error) :
    (DeviceAllocator.allocate device size).1 = .error error := by
  simp only [create, first] at refused
  split at refused
  · cases refused
  · rw [addSegment] at refused
    split at refused
    case h_1 failed =>
      cases refused
      exact congrArg Prod.fst failed
    case h_2 => cases refused

/-- A fresh device that is as large as the pool may become holds the first segment. -/
theorem create_fits {capacity : Nat} (index : Nat) (first : config.firstSegment = .ok size)
    (piece : size ≤ HostMemory.vectorLimit) (room : size ≤ capacity) :
    ∃ pool, create (HostMemory.create capacity index) config = (.ok (), pool) := by
  simp only [create, first]
  split
  · exact ⟨_, rfl⟩
  case isFalse notZero =>
    have positive : 0 < size := Nat.pos_of_ne_zero (by simpa using notZero)
    -- Nothing else is on the device, so the segment alone meets both limits.
    have fresh : (blank (HostMemory.create capacity index) config).device.allocatedBytes = 0 := rfl
    have limit : (blank (HostMemory.create capacity index) config).device.capacity = capacity := rfl
    rcases addSegment_outcome (blank (HostMemory.create capacity index) config) positive with
      ⟨-, -, stops⟩ | ⟨-, -, -, exceeds⟩ | ⟨granted, -⟩
    · have words : HostMemory.vectorLimit ≤ Number.maxWord64 := by decide
      rw [fresh] at stops
      rcases stops with overflow | ⟨-, large⟩ <;> omega
    · omega
    · exact ⟨_, granted⟩

end Pool

/-- The pool may use the memory that the configuration describes, on the host as on a device. -/
theorem Backend.memoryCapacity_select {processors : UInt32} {config : DeviceConfig}
    {devices : DeviceSelection}
    (selected : DeviceSelection.select processors config = .ok devices) :
    memoryCapacity devices config = config.totalMemory := by
  have active : devices.active = .host processors ∨ config.described? = some devices.active := by
    simp only [DeviceSelection.select] at selected
    split at selected
    case h_1 active found =>
      cases selected
      simpa using List.mem_of_find?_eq_some found
    case h_2 =>
      split at selected
      · cases selected
      split at selected <;> cases selected
      exact .inl rfl
  rcases active with host | described
  · simp only [memoryCapacity, host, DeviceInfo.host, beq_self_eq_true, if_true]
  · -- A device with no memory of its own counts as the host does.
    have memory : devices.active.totalMemory = config.totalMemory := by
      simp only [DeviceConfig.described?] at described
      split at described
      · cases described
      · rw [← Option.some.inj described]
    simp only [memoryCapacity, memory, ite_self]

/-- The host is always found, and so is a device with a capability. -/
theorem DeviceSelection.select_found (processors : UInt32) {config : DeviceConfig}
    (first : config.index = 0)
    (capable : config.family = .cpu ∨ config.computeCapability ≠ 0) :
    ∃ devices, select processors config = .ok devices := by
  simp only [select]
  split
  case h_1 => exact ⟨_, rfl⟩
  case h_2 missing =>
    rw [List.find?_eq_none] at missing
    by_cases host : config.family = .cpu
    · simpa [DeviceInfo.host, host, first] using missing (.host processors) (by simp)
    · have gpu : ¬(config.family == .cpu || config.computeCapability == 0) := by
        simpa [host] using capable
      simp [DeviceConfig.described?, gpu] at missing

namespace ArtifactCache

variable {World : Type} {config : CacheConfig}

/-- A cache has nothing against a positive capacity. -/
theorem openAt_accepts (positive : 0 < config.capacity) (compiler : Compiler World) (world : World)
    (files : FileTree) : (openAt config compiler world files).1 ≠ .error .noCapacity := by
  simp only [openAt, create, beq_iff_eq, Nat.ne_of_gt positive, if_false]
  split
  · exact fun refused => nomatch refused
  · split <;> exact fun refused => nomatch refused

/-- A cache opens where its directory can be made. -/
theorem openAt_opens (positive : 0 < config.capacity) (compiler : Compiler World) (world : World)
    {files : FileTree} (complete : files.Complete)
    (made : ∀ path, config.path = some path → ∃ left, files.makeDirectories path = .ok left) :
    ∃ cache left, openAt config compiler world files = (.ok cache, left) := by
  simp only [openAt, create, beq_iff_eq, Nat.ne_of_gt positive, if_false]
  cases given : config.path with
  | none => exact ⟨_, _, rfl⟩
  | some path =>
      obtain ⟨left, made⟩ := made path given
      obtain ⟨store, opened⟩ := ArtifactStore.create_opens complete made
      simp only [opened]
      exact ⟨_, left, rfl⟩

end ArtifactCache

/-- A backend starts on a device that is there, with a pool that its memory holds and a cache whose
directory can be made. -/
theorem Backend.create_starts {World : Type} {processors : UInt32} {config : BackendConfig}
    {devices : DeviceSelection}
    (selected : DeviceSelection.select processors config.device = .ok devices)
    {size : Nat} (first : config.pool.firstSegment = .ok size)
    (piece : size ≤ HostMemory.vectorLimit)
    (room : size ≤ config.device.totalMemory) (capacity : 0 < config.artifacts.capacity)
    (compiler : Compiler World) (world : World) {files : FileTree} (complete : files.Complete)
    (made : ∀ path, config.artifacts.path = some path →
      ∃ left, files.makeDirectories path = .ok left) :
    ∃ backend left, create processors config compiler world files = (.ok backend, left) := by
  have memory := memoryCapacity_select selected
  obtain ⟨pool, created⟩ := Pool.create_fits devices.active.index first piece room
  obtain ⟨cache, left, opened⟩ := ArtifactCache.openAt_opens capacity compiler world complete made
  exact ⟨⟨devices, pool, cache⟩, left, by
    simp only [create, selected, assemble, memory, created, opened]⟩

namespace Config

variable {config : Config} {files : FileTree}

theorem resolvePool_positive (environment : Environment) (file : FileSettings) :
    0 < (resolvePool environment file).maximum :=
  lt_of_lt_of_le (by decide) (le_max_right _ Pool.alignment)

theorem resolvePool_ordered (environment : Environment) (file : FileSettings) :
    (resolvePool environment file).initial ≤ (resolvePool environment file).maximum :=
  min_le_right _ _

/-- The maximum of a pool is the number that is given, or the alignment if that is more. -/
theorem resolvePool_maximum (environment : Environment) (file : FileSettings) :
    (resolvePool environment file).maximum =
      max (number environment .poolMaximum file.poolMaximum PoolConfig.standard.maximum)
        Pool.alignment := rfl

theorem resolve_capacity (environment : Environment) (file : FileSettings) :
    0 < (resolve environment file).cacheCapacity :=
  lt_of_lt_of_le Nat.zero_lt_one (le_max_right _ 1)

/-- A device is always the first of its family. -/
theorem resolveDevice_index (environment : Environment) (file : FileSettings) :
    (resolveDevice environment file).index = 0 := rfl

/-- Without warnings a device has a capability, and its memory holds the whole pool. -/
theorem warnings_nil (clean : config.warnings files = []) :
    (config.device.family = .cpu ∨ config.device.computeCapability ≠ 0) ∧
      config.pool.maximum ≤ config.device.totalMemory := by
  simp only [warnings, List.append_eq_nil_iff] at clean
  obtain ⟨⟨⟨⟨capability, -⟩, memory⟩, -⟩, -⟩ := clean
  constructor
  · by_cases host : config.device.family = .cpu
    · exact .inl host
    · right
      simpa [host] using capability
  · simpa using memory

/-- Whatever the environment and the file say, the pool and the cache have nothing against the
resolved settings; and with nothing to warn of, and a directory for the cache that can be made, the
backend starts. -/
theorem resolve_starts (environment : Environment) (file : FileSettings)
    (resolved : resolve environment file = config)
    (small : number environment .poolInitial file.poolInitial PoolConfig.standard.initial <
      Nat.pow 2 63)
    (limited : number environment .poolMaximum file.poolMaximum PoolConfig.standard.maximum <
      Nat.pow 2 63) :
    (∃ size, config.pool.firstSegment = .ok size ∧
        ∀ (Device : Type) [DeviceAllocator Device] (device : Device) (error : MemoryError),
          (Pool.create device config.pool).1 = .error error →
            (DeviceAllocator.allocate device size).1 = .error error) ∧
      (∀ (World : Type) (compiler : Compiler World) (world : World) (files : FileTree),
        (ArtifactCache.openAt config.backend.artifacts compiler world files).1 ≠
          .error .noCapacity) ∧
      ∀ (processors : UInt32) (toolchain : Toolchain) (files : FileTree), files.Complete →
        config.warnings files = [] →
        (∀ path, config.cachePath = some path → ∃ made, files.makeDirectories path = .ok made) →
        ∃ backend left, Backend.create processors config.backend config.compiler toolchain files =
          (.ok backend, left) := by
  subst resolved
  obtain ⟨size, first, within⟩ := PoolConfig.firstSegment_accepts
    (resolvePool_positive environment file) (resolvePool_ordered environment file)
    (lt_of_le_of_lt (min_le_left _ _) small)
  have capacity := resolve_capacity environment file
  refine ⟨⟨size, first, ?_⟩, ?_, ?_⟩
  · intro Device _ device error refused
    exact Pool.create_refused first refused
  · intro World compiler world files
    exact ArtifactCache.openAt_accepts capacity compiler world files
  · intro processors toolchain files complete clean made
    obtain ⟨capable, memory⟩ := warnings_nil clean
    obtain ⟨devices, selected⟩ :=
      DeviceSelection.select_found processors (resolveDevice_index environment file) capable
    have room : size ≤ (resolve environment file).backend.device.totalMemory := within.trans memory
    have piece : (resolvePool environment file).maximum ≤ HostMemory.vectorLimit := by
      rw [resolvePool_maximum]
      exact max_le (Nat.le_pred_of_lt limited) (by decide)
    exact Backend.create_starts selected first (within.trans piece) room capacity _ toolchain
      complete made

/-- A workstation whose variables name a device and whose file sets limits starts. -/
theorem resolve_starts_workstation :
    let environment := Environment.ofList [("FORGE_DEVICE_BACKEND", "cuda"),
      ("FORGE_DEVICE_CC", "80"), ("FORGE_CACHE_DIR", "cache/kernels"),
      ("FORGE_POOL_INIT_BYTES", "1000")]
    let file := { FileSettings.empty with
      poolMaximum := some 1048576, deviceMemory := some 8388608, requireGpu := some true }
    let config := resolve environment file
    config.warnings .initial = [] ∧ config.pool.initial = 1000 ∧
      config.cachePath = some "cache/kernels" ∧
      ∃ backend left, Backend.create 8 config.backend config.compiler ⟨.fresh, .initial⟩ .initial =
        (.ok backend, left) := by
  intro environment file config
  have clean : config.warnings .initial = [] := by decide +kernel
  have path : config.cachePath = some "cache/kernels" := by decide +kernel
  have small : number environment .poolInitial file.poolInitial PoolConfig.standard.initial <
      Nat.pow 2 63 := by decide +kernel
  have limited : number environment .poolMaximum file.poolMaximum PoolConfig.standard.maximum <
      Nat.pow 2 63 := by decide +kernel
  obtain ⟨-, -, starts⟩ := resolve_starts environment file rfl small limited
  refine ⟨clean, by decide +kernel, path, ?_⟩
  refine starts 8 ⟨.fresh, .initial⟩ .initial FileTree.initial_complete clean ?_
  rintro other given
  cases path.symm.trans given
  exact ⟨_, rfl⟩

end Config

end DeviceKernels
