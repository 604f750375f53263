import DeviceKernels.Config.Basic

namespace DeviceKernels.Config

def compilerText (config : Config) : String := config.compilerProgram.getD StandIn.compilerName

def flagsText (config : Config) : String := Text.join " " config.compilerFlags

def toJson (config : Config) : Json := .object
  [("config_file", .ofOption .text config.file), ("cache_dir", .ofOption .text config.cachePath),
    ("max_cached_artifacts", .ofNat config.cacheCapacity),
    ("pool_init_bytes", .ofNat config.pool.initial),
    ("pool_max_bytes", .ofNat config.pool.maximum),
    ("pool_grow_bytes", .ofNat config.pool.growth), ("compiler", .text config.compilerText),
    ("compiler_flags", .text config.flagsText),
    ("opt_level", JsonForm.toJson config.optimization), ("arch", JsonForm.toJson config.arch),
    ("device_backend", JsonForm.toJson config.device.family),
    ("device_cc", JsonForm.toJson config.device.computeCapability),
    ("device_memory", .ofNat config.device.totalMemory),
    ("device_sms", JsonForm.toJson config.device.multiprocessors),
    ("device_smem", JsonForm.toJson config.device.sharedMemoryPerBlock),
    ("require_gpu", .boolean config.device.requireGpu)]

/-- The variables with the texts of their settings. -/
def assignments (config : Config) : List (Variable × String) :=
  [(.configFile, config.file.getD ""), (.cachePath, config.cachePath.getD ""),
    (.cacheCapacity, Text.decimal config.cacheCapacity),
    (.poolInitial, Text.decimal config.pool.initial),
    (.poolMaximum, Text.decimal config.pool.maximum),
    (.poolGrowth, Text.decimal config.pool.growth), (.compiler, config.compilerText),
    (.compilerFlags, config.flagsText),
    (.optimization, Text.decimal config.optimization.toNat),
    (.deviceFamily, Named.name config.device.family),
    (.computeCapability, Text.decimal config.device.computeCapability.toNat),
    (.deviceMemory, Text.decimal config.device.totalMemory),
    (.multiprocessors, Text.decimal config.device.multiprocessors.toNat),
    (.sharedMemory, Text.decimal config.device.sharedMemoryPerBlock.toNat),
    (.requireGpu, if config.device.requireGpu then "true" else "false")]

def lines (config : Config) : List String :=
  config.assignments.map (fun assignment => assignment.1.name ++ "=" ++ assignment.2) ++
    ["# compile arch: " ++ Text.decimal config.arch.toNat]

end DeviceKernels.Config
