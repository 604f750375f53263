import DeviceKernels.Text.Numeral

/-
Environment variables. A variable that holds nothing but white space counts as missing, and so
does one whose value cannot be read.
-/

namespace DeviceKernels

inductive Variable where
  | configFile
  | cachePath
  | cacheCapacity
  | poolInitial
  | poolMaximum
  | poolGrowth
  | compiler
  | compilerFlags
  | optimization
  | deviceFamily
  | computeCapability
  | deviceMemory
  | multiprocessors
  | sharedMemory
  | requireGpu
  | logLevel
  | logFormat
  | logFile
  deriving DecidableEq, Repr

namespace Variable

def name : Variable → String
  | configFile => "FORGE_CONFIG_FILE"
  | cachePath => "FORGE_CACHE_DIR"
  | cacheCapacity => "FORGE_MAX_CACHED_ARTIFACTS"
  | poolInitial => "FORGE_POOL_INIT_BYTES"
  | poolMaximum => "FORGE_POOL_MAX_BYTES"
  | poolGrowth => "FORGE_POOL_GROW_BYTES"
  | compiler => "FORGE_COMPILER"
  | compilerFlags => "FORGE_COMPILER_FLAGS"
  | optimization => "FORGE_OPT_LEVEL"
  | deviceFamily => "FORGE_DEVICE_BACKEND"
  | computeCapability => "FORGE_DEVICE_CC"
  | deviceMemory => "FORGE_DEVICE_MEMORY"
  | multiprocessors => "FORGE_DEVICE_SMS"
  | sharedMemory => "FORGE_DEVICE_SMEM"
  | requireGpu => "FORGE_REQUIRE_GPU"
  | logLevel => "FORGE_LOG_LEVEL"
  | logFormat => "FORGE_LOG_FORMAT"
  | logFile => "FORGE_LOG_FILE"

def all : List Variable :=
  [configFile, cachePath, cacheCapacity, poolInitial, poolMaximum, poolGrowth, compiler,
    compilerFlags, optimization, deviceFamily, computeCapability, deviceMemory, multiprocessors,
    sharedMemory, requireGpu, logLevel, logFormat, logFile]

/-- The largest number that a variable may hold. -/
def numberLimit : Variable → Nat
  | optimization => UInt8.size - 1
  | computeCapability => UInt32.size - 1
  | multiprocessors => UInt32.size - 1
  | sharedMemory => UInt32.size - 1
  | _ => UInt64.size - 1

end Variable

structure Environment where
  value? : Variable → Option String

namespace Environment

def empty : Environment := ⟨fun _ => none⟩

/-- The environment of names with values. -/
def ofList (values : List (String × String)) : Environment :=
  ⟨fun key => values.lookup key.name⟩

def set (environment : Environment) (key : Variable) (value : Option String) : Environment :=
  ⟨fun other => if other = key then value else environment.value? other⟩

def unset (environment : Environment) (key : Variable) : Environment :=
  environment.set key none

/-- The value as it stands, unless it is blank. -/
def text? (environment : Environment) (key : Variable) : Option String :=
  (environment.value? key).filter fun value => !(Text.trim value).isEmpty

/-- A natural number, with white space around it. -/
def number? (environment : Environment) (key : Variable) : Option Nat :=
  (environment.text? key).bind fun value =>
    Text.readNatural? key.numberLimit (Text.trim value)

def readFlag? (value : String) : Option Bool :=
  let word := Text.lowerAscii (Text.trim value)
  if ["1", "true", "yes", "on"].contains word then some true
  else if ["0", "false", "no", "off"].contains word then some false
  else none

def flag? (environment : Environment) (key : Variable) : Option Bool :=
  (environment.text? key).bind readFlag?

/-- The words between white space. -/
def words? (environment : Environment) (key : Variable) : Option (List String) :=
  (environment.text? key).map Text.words

end Environment

end DeviceKernels
