import DeviceKernels.Toml.Reader

/-
The settings of a configuration file. Every section and every setting may be missing, and there
are no others.
-/

namespace DeviceKernels

structure FileSettings where
  cachePath : Option String
  cacheCapacity : Option Nat
  poolInitial : Option Nat
  poolMaximum : Option Nat
  poolGrowth : Option Nat
  compiler : Option String
  compilerFlags : Option (List String)
  includePaths : Option (List String)
  optimization : Option Nat
  deviceFamily : Option String
  computeCapability : Option Nat
  deviceMemory : Option Nat
  multiprocessors : Option Nat
  sharedMemory : Option Nat
  requireGpu : Option Bool
  deriving DecidableEq, Repr

namespace FileSettings

open Toml

def empty : FileSettings :=
  ⟨none, none, none, none, none, none, none, none, none, none, none, none, none, none, none⟩

def word64? : Option Toml → Option (Option Nat) := optional? (natural? (UInt64.size - 1))

def word32? : Option Toml → Option (Option Nat) := optional? (natural? (UInt32.size - 1))

/-- The settings of a section. A missing section has none. -/
def section? (names : List String) (given : Option Toml) : Option (List (Option Toml)) :=
  (given.getD (.table [])).record? names

def addCache (settings : FileSettings) (given : Option Toml) : Option FileSettings := do
  match ← section? ["dir", "max_artifacts"] given with
  | [path, capacity] =>
      some { settings with
        cachePath := ← optional? text? path
        cacheCapacity := ← word64? capacity }
  | _ => none

def addPool (settings : FileSettings) (given : Option Toml) : Option FileSettings := do
  match ← section? ["init_bytes", "max_bytes", "grow_bytes"] given with
  | [initial, maximum, growth] =>
      some { settings with
        poolInitial := ← word64? initial
        poolMaximum := ← word64? maximum
        poolGrowth := ← word64? growth }
  | _ => none

def addCompiler (settings : FileSettings) (given : Option Toml) : Option FileSettings := do
  match ← section? ["program", "flags", "include_paths", "opt_level"] given with
  | [program, flags, includePaths, optimization] =>
      some { settings with
        compiler := ← optional? text? program
        compilerFlags := ← optional? texts? flags
        includePaths := ← optional? texts? includePaths
        optimization := ← optional? (natural? (UInt8.size - 1)) optimization }
  | _ => none

def addDevice (settings : FileSettings) (given : Option Toml) : Option FileSettings := do
  match ← section? ["backend", "compute_capability", "memory_bytes", "multiprocessors",
    "shared_memory_bytes", "require_gpu"] given with
  | [family, computeCapability, memory, multiprocessors, sharedMemory, requireGpu] =>
      some { settings with
        deviceFamily := ← optional? text? family
        computeCapability := ← word32? computeCapability
        deviceMemory := ← word64? memory
        multiprocessors := ← word32? multiprocessors
        sharedMemory := ← word32? sharedMemory
        requireGpu := ← optional? boolean? requireGpu }
  | _ => none

def ofToml? (document : Toml) : Option FileSettings := do
  match ← document.record? ["cache", "pool", "compiler", "device"] with
  | [cache, pool, compiler, device] =>
      (← (← (← empty.addCache cache).addPool pool).addCompiler compiler).addDevice device
  | _ => none

def parse? (text : String) : Option FileSettings := (Toml.parse? text).bind ofToml?

end FileSettings

end DeviceKernels
