import DeviceKernels.Operation.Kernel
import DeviceKernels.Proofs.Outcome

namespace DeviceKernels.Operation

theorem of_requireDescriptor {condition : Bool} {fault : DescriptorFault}
    (passed : requireDescriptor condition fault = .ok ()) : condition = true := by
  cases condition with
  | false => cases passed
  | true => rfl

theorem require_ok {condition : Bool} {fault : ProblemFault} :
    require condition fault = .ok () ↔ condition = true := by
  cases condition <;> simp [require]

theorem checkLength_ok {what : String} {least actual : Int} :
    checkLength what least actual = .ok () ↔ least ≤ actual := by
  unfold checkLength
  split
  · simp
    omega
  · simp
    omega

/-- A value is aligned if it is a multiple; to one or nothing every value is aligned. -/
theorem checkAligned_ok {what : String} {value : Int} {alignment : UInt32} :
    checkAligned what value alignment = .ok () ↔
      (1 < alignment → value % (alignment.toNat : Int) = 0) := by
  unfold checkAligned
  split
  case isTrue misaligned => simp [misaligned]
  case isFalse aligned => simpa using aligned

theorem toNat_positive {word : UInt32} (some : word ≠ 0) : 0 < word.toNat :=
  Nat.pos_of_ne_zero fun none => some (UInt32.toNat_inj.mp none)

/-- To be aligned to a word that does not vanish is to be a multiple of it. -/
theorem aligned_iff_dvd {alignment : UInt32} (some : alignment ≠ 0) {value : Int} :
    (1 < alignment → value % (alignment.toNat : Int) = 0) ↔ (alignment.toNat : Int) ∣ value := by
  rw [Int.dvd_iff_emod_eq_zero]
  refine ⟨fun aligned => ?_, fun aligned _ => aligned⟩
  by_cases many : 1 < alignment
  · exact aligned many
  · have one : alignment.toNat = 1 := by
      rw [UInt32.lt_iff_toNat_lt, UInt32.toNat_one] at many
      have positive := toNat_positive some
      omega
    rw [one]
    exact Int.emod_one value

theorem computed_ok {Value : Type} {number : Option Value} {value : Value} :
    computed number = .ok value ↔ number = some value := by
  cases number <;> simp [computed]

theorem tilesCovering_ok {extent count : Int} {tile : UInt32} :
    tilesCovering extent tile = .ok count ↔
      tile ≠ 0 ∧ Number.ceilDiv extent tile.toNat = count := by
  unfold tilesCovering
  split <;> simp_all

end DeviceKernels.Operation
