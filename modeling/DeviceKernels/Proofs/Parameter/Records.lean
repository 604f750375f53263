import DeviceKernels.Proofs.Outcome
import DeviceKernels.Proofs.Parameter.Layout

/-
Packed records read back. The types of the values alone tell where each value stands, so a reader
that knows them needs nothing else to recover all values of a block.
-/

namespace DeviceKernels

open Number

namespace ParameterType

/-- A record of 32-bit words is aligned like one word. -/
def alignment : ParameterType → Nat
  | word64 => 8
  | pointer => 8
  | double => 8
  | half => 2
  | brain => 2
  | _ => 4

end ParameterType

/-- Values of one type have one alignment. -/
theorem Parameter.alignment_type (parameter : Parameter) :
    parameter.type.alignment = parameter.alignment := by
  cases parameter with
  | scalar value => cases value <;> rfl
  | _ => rfl

/-- The values of the types in a record of which some bytes are taken. Each of them stands at the
least multiple of its alignment behind the one in front of it. -/
def readRecord : Nat → List ParameterType → Bytes → List Parameter
  | _, [], _ => []
  | taken, type :: others, bytes =>
      let start := roundUp taken type.alignment
      type.read (bytes.drop start) :: readRecord (start + type.byteSize) others bytes

/-- Fields that are laid out are read where they were placed. -/
theorem LaidOut.readRecord {taken ending : Nat} {fields : List PlacedParameter} {bytes : Bytes}
    (laid : LaidOut taken fields ending)
    (read : ∀ field ∈ fields, field.value.type.read (bytes.drop field.start) = field.value) :
    readRecord taken (fields.map fun field => field.value.type) bytes =
      fields.map PlacedParameter.value := by
  induction laid with
  | nil => rfl
  | @cons taken ending field others placed _ ih =>
      have start : roundUp taken field.value.type.alignment = field.start := by
        rw [field.value.alignment_type]
        exact (roundUp_isLeast field.value.alignment_bounds.1 taken).unique placed
      have first := read field List.mem_cons_self
      have rest := ih fun other member => read other (List.mem_cons_of_mem _ member)
      rw [List.map_cons, DeviceKernels.readRecord, start, first, List.map_cons]
      exact congrArg (field.value :: ·) rest

namespace Operation

/-- Packed values are read back from their types. -/
theorem readRecord_pack {parameters : List Parameter} {bytes : Bytes}
    (packed : pack parameters = .ok bytes) :
    readRecord 0 (parameters.map Parameter.type) bytes = parameters := by
  obtain ⟨fields, values, laid, holds⟩ := ParameterBlock.ofParameters_laidOut parameters
  have finished := Outcome.mapError_ok.mp packed
  unfold ParameterBlock.finish at finished
  obtain ⟨-, rest⟩ := Outcome.refused_iff.mp finished
  obtain rfl := Except.ok.inj rest
  have padded := holds.alignTo (ParameterBlock.ofParameters parameters).alignment
  have read := laid.readRecord fun field member => padded.read member
  have types : fields.map (fun field => field.value.type) = parameters.map Parameter.type := by
    rw [← values, List.map_map]
    rfl
  rwa [types, values] at read

end Operation

end DeviceKernels
