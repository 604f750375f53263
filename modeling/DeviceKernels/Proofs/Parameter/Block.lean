import DeviceKernels.Parameter.Block
import Mathlib

/-
The length of a parameter block. Padding adds less than one alignment for each value, so a block
of few values is never too large.
-/

namespace DeviceKernels

open Number

theorem Number.roundUp_lt {step : Nat} (positive : 0 < step) (value : Nat) :
    roundUp value step < value + step := by
  have whole := Nat.div_mul_le_self (value + step - 1) step
  unfold roundUp
  omega

namespace Parameter

/-- No value is aligned more strictly than a double word. -/
theorem alignment_bounds (parameter : Parameter) :
    0 < parameter.alignment ∧ parameter.alignment ≤ 8 := by
  cases parameter with
  | scalar value => cases value <;> simp [alignment, Scalar.byteSize]
  | _ => simp [alignment]

end Parameter

namespace ParameterBlock

/-- The bytes that the values of a block can take with the gaps before them. -/
def room (parameters : List Parameter) : Nat :=
  (parameters.map fun parameter => parameter.image.length + 7).sum

/-- Padding adds less than the alignment. -/
theorem length_alignTo (block : ParameterBlock) {alignment : Nat} (positive : 0 < alignment)
    (small : alignment ≤ 8) : (block.alignTo alignment).bytes.length ≤ block.bytes.length + 7 := by
  have above := leRoundUp positive block.bytes.length
  have below := roundUp_lt positive block.bytes.length
  simp only [alignTo, List.length_append, List.length_replicate]
  omega

/-- A run of pushes adds at most the room of the values and stays aligned to double words. -/
theorem foldl_push_bounds (parameters : List Parameter) (block : ParameterBlock)
    (positive : 0 < block.alignment) (small : block.alignment ≤ 8) :
    (parameters.foldl push block).bytes.length ≤ block.bytes.length + room parameters ∧
      0 < (parameters.foldl push block).alignment ∧
      (parameters.foldl push block).alignment ≤ 8 := by
  induction parameters generalizing block with
  | nil => exact ⟨Nat.le_refl _, positive, small⟩
  | cons parameter rest ih =>
      obtain ⟨some, few⟩ := parameter.alignment_bounds
      have padded := block.length_alignTo some few
      have pushed : (block.push parameter).bytes.length =
          (block.alignTo parameter.alignment).bytes.length + parameter.image.length :=
        List.length_append
      have aligned : (block.push parameter).alignment = max block.alignment parameter.alignment :=
        rfl
      obtain ⟨length, others⟩ := ih (block.push parameter) (by omega) (by omega)
      refine ⟨?_, others⟩
      have whole : room (parameter :: rest) = parameter.image.length + 7 + room rest := by
        simp [room]
      simp only [List.foldl_cons]
      omega

/-- A block of few values is accepted. -/
theorem finish_ok {parameters : List Parameter} (few : room parameters + 7 ≤ parameterLimit) :
    ∃ bytes, (ofParameters parameters).finish = .ok bytes := by
  obtain ⟨length, some, small⟩ := foldl_push_bounds parameters empty (by decide) (by decide)
  have padded := (ofParameters parameters).length_alignTo some small
  have within : ¬parameterLimit <
      ((ofParameters parameters).alignTo (ofParameters parameters).alignment).bytes.length := by
    have start : empty.bytes.length = 0 := rfl
    unfold ofParameters at *
    omega
  exact ⟨_, if_neg within⟩

/-- A block of a whole number of steps needs no padding. -/
theorem bytes_alignTo {block : ParameterBlock} {alignment : Nat} (positive : 0 < alignment)
    (whole : alignment ∣ block.bytes.length) : (block.alignTo alignment).bytes = block.bytes := by
  have few := roundUp_lt positive block.bytes.length
  have none : roundUp block.bytes.length alignment - block.bytes.length = 0 :=
    Nat.eq_zero_of_dvd_of_lt (Nat.dvd_sub (dvdRoundUp _ _) whole) (by omega)
  rw [alignTo, none]
  exact List.append_nil _

/-- A block whose last value is a pointer ends with it. Nothing is aligned more strictly than a
pointer, and so no padding follows. -/
theorem pointer_suffix_finish {parameters : List Parameter} {pointer : DevicePointer}
    {bytes : Bytes}
    (finished : (ofParameters (parameters ++ [.pointer pointer])).finish = .ok bytes) :
    word64 pointer.address <:+ bytes := by
  obtain ⟨-, -, small⟩ := foldl_push_bounds parameters empty (by decide) (by decide)
  have pushed : ofParameters (parameters ++ [.pointer pointer]) =
      (ofParameters parameters).push (.pointer pointer) := List.foldl_concat ..
  have alignment : ((ofParameters parameters).push (.pointer pointer)).alignment = 8 :=
    max_eq_right small
  have image : (Parameter.pointer pointer).image.length = 8 := lengthLittleEndian 8 _
  have whole : 8 ∣ ((ofParameters parameters).push (.pointer pointer)).bytes.length := by
    have above := leRoundUp (show 0 < 8 by decide) (ofParameters parameters).bytes.length
    have places := dvdRoundUp (ofParameters parameters).bytes.length 8
    simp only [push, alignTo, Parameter.alignment, List.length_append, List.length_replicate, image]
    omega
  unfold finish at finished
  dsimp only at finished
  rw [pushed, alignment, bytes_alignTo (by decide) whole] at finished
  split at finished
  case isTrue => cases finished
  case isFalse =>
    obtain rfl := Except.ok.inj finished
    exact List.suffix_append _ _

end ParameterBlock

end DeviceKernels
