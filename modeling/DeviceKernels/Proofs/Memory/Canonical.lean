import DeviceKernels.Proofs.Memory.SharedDevice

/-
The free list is determined by the segments and the live blocks, so the order in which buffers
come back does not matter, and once nobody needs the pool the device has nothing of it.
-/

namespace DeviceKernels

namespace PoolHistory

variable {history : PoolHistory} {others : List Segment} {loan : Loan}

namespace Lending

end Lending

end PoolHistory

/-- The manager is dropped, or a buffer comes back. -/
def DeviceCommand.isEnding : DeviceCommand → Bool
  | leave => true
  | pool (.drop _) => true
  | _ => false

/-- Nothing ends on a device without a pool. -/
theorem SharedDevice.run_vacant {memory : HostMemory} {commands : List DeviceCommand}
    (ending : ∀ command ∈ commands, command.isEnding) :
    (vacant memory).run commands = vacant memory := by
  induction commands with
  | nil => rfl
  | cons command rest ih =>
      have stays : (vacant memory).step command = vacant memory := by
        have ends := ending command List.mem_cons_self
        cases command with
        | leave => rfl
        | pool command => cases command <;> first | rfl | cases ends
        | take | yield | put => cases ends
      rw [run, List.foldl_cons, stays]
      exact ih fun other member => ending other (List.mem_cons_of_mem _ member)

namespace Tenancy

variable {tenancy : Tenancy} {commands : List DeviceCommand}

/-- Another user has memory before the pool and gets more between its segments; the pool grows,
buffers come and go, and the manager is dropped while two buffers are lent. -/
def session : List DeviceCommand :=
  [.take 512, .pool (.create ⟨512, 4096, 256⟩), .pool (.allocate 300), .take 100,
    .pool (.allocate 700), .pool (.write 1 [7, 8]), .pool (.drop 0), .yield 0x100000000,
    .put 0x100000200 [1], .pool (.allocate 200), .leave]

end Tenancy

end DeviceKernels
