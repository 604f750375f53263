import DeviceKernels.Backend.Basic
import DeviceKernels.Compiler.Command
import DeviceKernels.Config.Environment
import DeviceKernels.Config.File

/-
The configuration. A setting comes from the environment, else from the configuration file, else
from the defaults, and is then brought into its range.
-/

namespace DeviceKernels

inductive ConfigError where
  | unreadable (path : String) (error : FileError)
  | invalid (path : String)
  deriving DecidableEq, Repr

def ConfigError.message : ConfigError → String
  | unreadable path error => "Failed to read config file " ++ path ++ ": " ++ error.message
  | invalid path => "Invalid config file " ++ path ++ ": not a table of the known settings"

structure Config where
  /-- The file that the settings come from. -/
  file : Option String
  cachePath : Option String
  cacheCapacity : Nat
  pool : PoolConfig
  /-- The compiler's program; the stand-in compiles when there is none. -/
  compilerProgram : Option String
  compilerFlags : List String
  includePaths : List String
  optimization : UInt8
  device : DeviceConfig
  deriving DecidableEq, Repr

namespace Config

def defaults : Config where
  file := none
  cachePath := none
  cacheCapacity := 256
  pool := .standard
  compilerProgram := none
  compilerFlags := []
  includePaths := []
  optimization := 3
  device := .standard

/-- The number of a variable, else the one of the file, else a default. -/
def number (environment : Environment) (key : Variable) (given : Option Nat)
    (absent : Nat) : Nat :=
  ((environment.number? key).or given).getD absent

/-- The pool can hold one block, starts no larger than it may become and grows by a block or more. -/
def resolvePool (environment : Environment) (file : FileSettings) : PoolConfig :=
  let standard := PoolConfig.standard
  let maximum := max (number environment .poolMaximum file.poolMaximum standard.maximum)
    Pool.alignment
  { initial := min (number environment .poolInitial file.poolInitial standard.initial) maximum
    maximum
    growth := max (number environment .poolGrowth file.poolGrowth standard.growth)
      Pool.alignment }

/-- An unknown family of devices is the host. -/
def resolveFamily (environment : Environment) (file : FileSettings) : DeviceFamily :=
  match (environment.text? .deviceFamily).or file.deviceFamily with
  | none => .cpu
  | some name => ((DeviceFamily.ofName name).toOption).getD .cpu

def resolveDevice (environment : Environment) (file : FileSettings) : DeviceConfig :=
  let computeCapability :=
    UInt32.ofNat (number environment .computeCapability file.computeCapability 0)
  let multiprocessors :=
    UInt32.ofNat (max (number environment .multiprocessors file.multiprocessors 1) 1)
  let described := DeviceConfig.ofFamily (resolveFamily environment file) computeCapability
    multiprocessors
  { described with
    totalMemory := number environment .deviceMemory file.deviceMemory described.totalMemory
    sharedMemoryPerBlock := UInt32.ofNat (number environment .sharedMemory file.sharedMemory
      described.sharedMemoryPerBlock.toNat)
    requireGpu := ((environment.flag? .requireGpu).or file.requireGpu).getD false }

/-- The configuration of an environment and the settings of a file. -/
def resolve (environment : Environment) (file : FileSettings) : Config where
  file := none
  cachePath := (environment.text? .cachePath).or file.cachePath
  cacheCapacity := max (number environment .cacheCapacity file.cacheCapacity 256) 1
  pool := resolvePool environment file
  compilerProgram := (environment.text? .compiler).or file.compiler
  compilerFlags := ((environment.words? .compilerFlags).or file.compilerFlags).getD []
  includePaths := file.includePaths.getD []
  optimization := UInt8.ofNat (min (number environment .optimization file.optimization 3) 3)
  device := resolveDevice environment file

/-- The settings in the text of the file at a path. -/
def readSettings (path text : String) : Except ConfigError FileSettings :=
  match FileSettings.parse? text with
  | some settings => .ok settings
  | none => .error (.invalid path)

/-- The configuration of an environment, with the file that it names. -/
def load (environment : Environment) (files : FileTree) : Except ConfigError Config := do
  match environment.text? .configFile with
  | none => .ok (resolve environment .empty)
  | some path =>
      let text ← (files.readText path).mapError (.unreadable path)
      .ok { resolve environment (← readSettings path text) with file := some path }

/-- The architecture for which kernels are compiled. -/
def arch (config : Config) : UInt32 :=
  if config.device.computeCapability == 0 then 80 else config.device.computeCapability

def compileOptions (config : Config) : CompileOptions :=
  ⟨config.arch, config.compilerFlags, config.includePaths, config.optimization⟩

def backend (config : Config) : BackendConfig :=
  ⟨config.device, config.pool, ⟨config.cachePath, config.cacheCapacity, config.compileOptions⟩⟩

/-- How the program of a device's compiler is told the architecture. -/
def commandStyle : DeviceFamily → CommandStyle
  | .cuda => .nvcc
  | .sycl => .sycl
  | .cpu => .plain

def compiler (config : Config) : Compiler Toolchain :=
  match config.compilerProgram with
  | none => StandIn.toolchainCompiler
  | some program => (CommandCompiler.mk program (commandStyle config.device.family)).compiler

end Config

end DeviceKernels
