import DeviceKernels.Proofs.Operation.Configurations
import DeviceKernels.Proofs.Operation.SplitK

/-
The partial kernel stores accumulators and the reduction stores outputs, both in accesses of their
own width, which can be wider than those of the operation.
-/

namespace DeviceKernels.ConvolutionOperation

open Number Operation Outcome

variable {operation : ConvolutionOperation} {arguments : ConvolutionArguments}
  {problem : ConvolutionProblem} {workspace : DevicePointer}

/-- An access of no element counts as one of one element, which divides all channels. -/
theorem Accesses.dvd {operand : OperandDescription} {channels : Int32}
    (accesses : Accesses operand channels) :
    ((max operand.alignment 1).toNat : Int) ∣ channels.toInt := by
  change ((if operand.alignment ≤ 1 then 1 else operand.alignment : UInt32).toNat : Int) ∣ _
  split
  case isTrue => exact one_dvd _
  case isFalse wide => exact Int.dvd_of_emod_eq_zero (accesses (UInt32.not_le.mp wide))

end DeviceKernels.ConvolutionOperation
