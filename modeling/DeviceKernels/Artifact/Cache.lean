import DeviceKernels.Artifact.Store
import DeviceKernels.Compiler.Basic
import DeviceKernels.Operation.ModuleSource

/-
The cache of artifacts. A request is answered from memory, else from the store, else by the
compiler.
-/

namespace DeviceKernels

structure CacheEntry where
  artifact : Artifact
  /-- The tick of the clock at the last use. -/
  lastUsed : Nat
  deriving DecidableEq

structure CacheCounters where
  memoryHits : Nat
  diskHits : Nat
  misses : Nat
  compiles : Nat
  compileFailures : Nat
  evictions : Nat
  deriving DecidableEq, Repr

def CacheCounters.zero : CacheCounters := ⟨0, 0, 0, 0, 0, 0⟩

/-- How a request was answered. -/
inductive CacheOutcome where
  | memoryHit
  | diskHit
  | miss
  deriving DecidableEq, Repr

def CacheOutcome.label : CacheOutcome → String
  | memoryHit => "memory"
  | diskHit => "disk"
  | miss => "miss"

/-- A kernel of an artifact in memory. -/
structure KernelHandle where
  artifact : Artifact
  name : String
  deriving DecidableEq

def KernelHandle.isExported (handle : KernelHandle) : Bool := handle.artifact.exports handle.name

structure ArtifactCache (World : Type) where
  capacity : Nat
  options : CompileOptions
  compiler : Compiler World
  /-- What the compiler works in. -/
  world : World
  store : Option ArtifactStore
  /-- At most one entry for a key. -/
  entries : List CacheEntry
  /-- The artifact that a kernel name stands for. -/
  kernels : List (String × ArtifactKey)
  clock : Nat
  counters : CacheCounters

namespace ArtifactCache

variable {World : Type}

/-- A cache that holds nothing. -/
def create (capacity : Nat) (options : CompileOptions) (compiler : Compiler World) (world : World)
    (store : Option ArtifactStore) : Except CompileError (ArtifactCache World) :=
  if capacity == 0 then .error .noCapacity
  else .ok
    { capacity, options, compiler, world, store
      entries := []
      kernels := []
      clock := 0
      counters := .zero }

/-- The key of a source under the options of the cache. -/
def keyFor (cache : ArtifactCache World) (source : String) : ArtifactKey :=
  .compute source cache.options cache.compiler.name

def find? (cache : ArtifactCache World) (key : ArtifactKey) : Option CacheEntry :=
  cache.entries.find? fun entry => entry.artifact.key == key

def holds (cache : ArtifactCache World) (key : ArtifactKey) : Bool := (cache.find? key).isSome

/-- Marks an entry as used now. -/
def touch (cache : ArtifactCache World) (key : ArtifactKey) : ArtifactCache World :=
  { cache with
    entries := cache.entries.map fun entry =>
      if entry.artifact.key == key then { entry with lastUsed := cache.clock } else entry
    clock := cache.clock + 1 }

/-- The artifact of a key in memory, which counts as used. -/
def lookup (cache : ArtifactCache World) (key : ArtifactKey) :
    Option (Artifact × ArtifactCache World) :=
  (cache.find? key).map fun entry =>
    let touched := cache.touch key
    (entry.artifact,
      { touched with
        counters := { touched.counters with memoryHits := touched.counters.memoryHits + 1 } })

/-- The entry that was used last among those that export a name. -/
def latestExporter? (entries : List CacheEntry) (name : String) : Option CacheEntry :=
  (entries.filter fun entry => entry.artifact.exports name).maxOn? CacheEntry.lastUsed

/-- Hands a name that stood for a given key to the latest exporter that is left, or drops it. -/
def releaseName (key : ArtifactKey) (entries : List CacheEntry)
    (kernels : List (String × ArtifactKey)) (name : String) : List (String × ArtifactKey) :=
  match latestExporter? entries name with
  | some next =>
      kernels.map fun kernel =>
        if kernel.1 == name && kernel.2 == key then (name, next.artifact.key) else kernel
  | none => kernels.filter fun kernel => !(kernel.1 == name && kernel.2 == key)

/-- Drops a key from memory, and tells whether it was there. -/
def forget (cache : ArtifactCache World) (key : ArtifactKey) : Bool × ArtifactCache World :=
  match cache.find? key with
  | none => (false, cache)
  | some entry =>
      let entries := cache.entries.filter fun entry => entry.artifact.key != key
      let kernels := entry.artifact.kernelNames.foldl (releaseName key entries) cache.kernels
      (true, { cache with entries, kernels })

/-- The entry that was used longest ago. -/
def oldest? (entries : List CacheEntry) : Option CacheEntry := entries.minOn? CacheEntry.lastUsed

/-- Gives a key up for want of room. -/
def evict (cache : ArtifactCache World) (key : ArtifactKey) : ArtifactCache World :=
  let cache := (cache.forget key).2
  { cache with counters := { cache.counters with evictions := cache.counters.evictions + 1 } }

/-- Gives up at most `count` entries while memory holds too many. -/
def evictOverflow : (count : Nat) → ArtifactCache World → ArtifactCache World
  | 0, cache => cache
  | count + 1, cache =>
      if cache.entries.length ≤ cache.capacity then cache
      else
        match oldest? cache.entries with
        | none => cache
        | some entry => evictOverflow count (cache.evict entry.artifact.key)

/-- Lets a name stand for a key. -/
def assignName (key : ArtifactKey) (kernels : List (String × ArtifactKey)) (name : String) :
    List (String × ArtifactKey) :=
  kernels.filter (fun kernel => kernel.1 != name) ++ [(name, key)]

/-- Adds an artifact to memory; its kernel names stand for it from now on. -/
def adopt (cache : ArtifactCache World) (artifact : Artifact) : ArtifactCache World :=
  let others := cache.entries.filter fun entry => entry.artifact.key != artifact.key
  { cache with
    entries := others ++ [⟨artifact, cache.clock⟩]
    kernels := artifact.kernelNames.foldl (assignName artifact.key) cache.kernels
    clock := cache.clock + 1 }

/-- Puts an artifact into memory, and gives others up if there are too many. -/
def insert (cache : ArtifactCache World) (artifact : Artifact) : ArtifactCache World :=
  let adopted := cache.adopt artifact
  evictOverflow adopted.entries.length adopted

/-- The artifact of a key in the store. A store that cannot be read has none. -/
def loadStored (cache : ArtifactCache World) (key : ArtifactKey) :
    Option Artifact × ArtifactCache World :=
  match cache.store with
  | none => (none, cache)
  | some store =>
      match store.load key with
      | (.ok artifact, store) => (artifact, { cache with store := some store })
      | (.error _, store) => (none, { cache with store := some store })

/-- Saves an artifact. A failure to save it is not a failure to make it. -/
def persist (cache : ArtifactCache World) (artifact : Artifact) : ArtifactCache World :=
  { cache with store := cache.store.map fun store => (store.save artifact).2 }

/-- Runs the compiler and keeps what it makes. -/
def compileMissing (cache : ArtifactCache World) (key : ArtifactKey) (source : String)
    (kernelNames : List String) (now : Instant) :
    Except CompileError Artifact × ArtifactCache World :=
  let (result, world) := cache.compiler.compile cache.world source cache.options
  let counters := { cache.counters with misses := cache.counters.misses + 1 }
  match result with
  | .error error =>
      (.error error,
        { cache with
          world
          counters := { counters with compileFailures := counters.compileFailures + 1 } })
  | .ok binary =>
      let artifact : Artifact :=
        { key, kernelNames, binary
          arch := cache.options.arch
          compiler := cache.compiler.name
          createdAt := now }
      let compiled := { cache with
        world
        counters := { counters with compiles := counters.compiles + 1 } }
      (.ok artifact, (compiled.persist artifact).insert artifact)

/-- Answers a request while no other request for its key is under way. Another one may have been
answered since memory was last looked at, so memory comes first again. -/
def loadOrCompile (cache : ArtifactCache World) (key : ArtifactKey) (source : String)
    (kernelNames : List String) (now : Instant) :
    Except CompileError Artifact × ArtifactCache World :=
  match cache.lookup key with
  | some (artifact, cache) => (.ok artifact, cache)
  | none =>
      match cache.loadStored key with
      | (some artifact, cache) =>
          let counted := { cache with
            counters := { cache.counters with diskHits := cache.counters.diskHits + 1 } }
          (.ok artifact, counted.insert artifact)
      | (none, cache) => cache.compileMissing key source kernelNames now

/-- The artifact of a source. An artifact that is already there keeps its own kernel names. -/
def compileSource (cache : ArtifactCache World) (source : String) (kernelNames : List String)
    (now : Instant) : Except CompileError Artifact × ArtifactCache World :=
  let key := cache.keyFor source
  match cache.lookup key with
  | some (artifact, cache) => (.ok artifact, cache)
  | none => cache.loadOrCompile key source kernelNames now

/-- The artifact of a module of kernels. -/
def compile (cache : ArtifactCache World) (kernels : List Kernel) (now : Instant) :
    Except CompileError Artifact × ArtifactCache World :=
  match ModuleSource.ofKernels? kernels with
  | none => (.error .emptyModule, cache)
  | some made =>
      if kernels.all Kernel.isWritable then cache.compileSource made.source made.symbols now
      else (.error .stopped, cache)

/-- The kernel of a name in memory; its artifact counts as used. -/
def kernel (cache : ArtifactCache World) (name : String) :
    Option KernelHandle × ArtifactCache World :=
  match (cache.kernels.lookup name).bind cache.find? with
  | none => (none, cache)
  | some entry => (some ⟨entry.artifact, name⟩, cache.touch entry.artifact.key)

/-- Drops a key from memory and from the store, and tells whether anything was dropped. -/
def invalidate (cache : ArtifactCache World) (key : ArtifactKey) :
    Except CompileError Bool × ArtifactCache World :=
  let (forgotten, cache) := cache.forget key
  match cache.store with
  | none => (.ok forgotten, cache)
  | some store =>
      let (result, store) := store.remove key
      (result.map (forgotten || ·), { cache with store := some store })

/-- Drops every artifact from memory and counts them. -/
def clearMemory (cache : ArtifactCache World) : Nat × ArtifactCache World :=
  (cache.entries.length, { cache with entries := [], kernels := [] })

/-- Clears the store and counts its entries. -/
def purgeDisk (cache : ArtifactCache World) :
    Except CompileError Nat × ArtifactCache World :=
  match cache.store with
  | none => (.ok 0, cache)
  | some store =>
      let (result, store) := store.clear
      (result, { cache with store := some store })

/-- The statistics by name. -/
def statistics (cache : ArtifactCache World) : List (String × Nat) :=
  [("memory_entries", cache.entries.length), ("kernels", cache.kernels.length),
    ("memory_hits", cache.counters.memoryHits), ("disk_hits", cache.counters.diskHits),
    ("misses", cache.counters.misses), ("compiles", cache.counters.compiles),
    ("compile_failures", cache.counters.compileFailures),
    ("evictions", cache.counters.evictions)]

end ArtifactCache

end DeviceKernels
