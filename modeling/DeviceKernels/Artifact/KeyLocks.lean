import DeviceKernels.Artifact.Key

/-
The locks of the keys whose requests are under way. A lock lives at an address as long as anything
refers to it; the table of locks and the requests do. A freed address may be given to another
lock.
-/

namespace DeviceKernels

structure KeyLock where
  references : Nat
  taken : Bool
  deriving DecidableEq, Repr

structure KeyLocks where
  /-- The lock that lives at an address. -/
  heap : Nat → Option KeyLock
  /-- The address of the lock of a key. -/
  table : List (ArtifactKey × Nat)

namespace KeyLocks

def empty : KeyLocks := ⟨fun _ => none, []⟩

/-- Changes the lock that lives at an address; it may be freed. -/
def change (locks : KeyLocks) (address : Nat) (next : KeyLock → Option KeyLock) : KeyLocks :=
  { locks with
    heap := fun other =>
      if other = address then (locks.heap other).bind next else locks.heap other }

/-- A new lock for a key, with a reference of the table and one of the caller. -/
def make (locks : KeyLocks) (key : ArtifactKey) (address : Nat) : KeyLocks where
  heap other := if other = address then some ⟨2, false⟩ else locks.heap other
  table := locks.table ++ [(key, address)]

/-- The lock of a key with one reference more. A missing lock is made at a free address. -/
def claim (locks : KeyLocks) (key : ArtifactKey) (free : Nat) : Nat × KeyLocks :=
  match locks.table.lookup key with
  | some address =>
      (address, locks.change address fun lock => some { lock with references := lock.references + 1 })
  | none => (free, locks.make key free)

/-- Takes a lock. A taken lock has to be waited for. -/
def acquire? (locks : KeyLocks) (address : Nat) : Option KeyLocks :=
  match locks.heap address with
  | some ⟨_, false⟩ => some (locks.change address fun lock => some { lock with taken := true })
  | _ => none

def release (locks : KeyLocks) (address : Nat) : KeyLocks :=
  locks.change address fun lock => some { lock with taken := false }

/-- Gives up a reference; the last one frees the lock. -/
def drop (locks : KeyLocks) (address : Nat) : KeyLocks :=
  locks.change address fun lock =>
    if lock.references ≤ 1 then none else some { lock with references := lock.references - 1 }

/-- Removes the lock of a key if it lives at the address and only the table refers to it. -/
def sweep (locks : KeyLocks) (key : ArtifactKey) (address : Nat) : KeyLocks :=
  match locks.table.lookup key with
  | none => locks
  | some current =>
      if current = address ∧ (locks.heap current).map KeyLock.references = some 1 then
        { locks.drop current with table := locks.table.filter fun entry => entry.1 != key }
      else locks

end KeyLocks

end DeviceKernels
