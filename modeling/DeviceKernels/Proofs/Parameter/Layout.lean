import DeviceKernels.Operation.Kernel
import DeviceKernels.Proofs.Parameter.Block
import DeviceKernels.Proofs.Parameter.Reading

/-
Parameter blocks against the layout that C gives to the fields of a record. Pushing values one
after the other places each of them where the layout says, with zeros between them, so each value
is read back at its offset.
-/

namespace DeviceKernels

open Number

/-- Rounding up gives the least multiple that is not below a value. -/
theorem Number.roundUp_isLeast {step : Nat} (positive : 0 < step) (value : Nat) :
    IsLeast {offset | step ∣ offset ∧ value ≤ offset} (roundUp value step) := by
  refine ⟨⟨dvdRoundUp value step, leRoundUp positive value⟩, ?_⟩
  rintro offset ⟨⟨count, rfl⟩, above⟩
  have few : (value + step - 1) / step ≤ count := by
    rw [← Nat.lt_succ_iff, Nat.div_lt_iff_lt_mul positive, Nat.succ_mul, Nat.mul_comm count step]
    omega
  exact (Nat.mul_le_mul_right step few).trans_eq (Nat.mul_comm count step)

/-- A value with the offset of its first byte. -/
structure PlacedParameter where
  start : Nat
  value : Parameter

/-- The offset behind the last byte. -/
def PlacedParameter.stop (field : PlacedParameter) : Nat := field.start + field.value.type.byteSize

/-- The fields of a record, of which some bytes are taken, are laid out up to an end: each starts at
the least multiple of its alignment that is not before the end of the field in front of it. -/
inductive LaidOut : Nat → List PlacedParameter → Nat → Prop
  | nil (taken : Nat) : LaidOut taken [] taken
  | cons {taken ending : Nat} {field : PlacedParameter} {others : List PlacedParameter}
      (placed : IsLeast {offset | field.value.alignment ∣ offset ∧ taken ≤ offset} field.start)
      (behind : LaidOut field.stop others ending) : LaidOut taken (field :: others) ending

/-- A field is added at the end of a layout. -/
theorem LaidOut.concat {taken ending : Nat} {fields : List PlacedParameter}
    (laid : LaidOut taken fields ending) (field : PlacedParameter)
    (placed : IsLeast {offset | field.value.alignment ∣ offset ∧ ending ≤ offset} field.start) :
    LaidOut taken (fields ++ [field]) field.stop := by
  induction laid with
  | nil => exact .cons placed (.nil _)
  | cons first _ ih => exact .cons first (ih placed)

/-- The bytes of every field stand at its offset, and all bytes that belong to no field are zero. -/
structure Holds (fields : List PlacedParameter) (bytes : Bytes) : Prop where
  inside : ∀ field ∈ fields, field.stop ≤ bytes.length
  image : ∀ field ∈ fields,
    (bytes.drop field.start).take field.value.type.byteSize = field.value.image
  gaps : ∀ (place : Nat) (byte : UInt8), bytes[place]? = some byte →
    (∀ field ∈ fields, place < field.start ∨ field.stop ≤ place) → byte = 0

namespace Holds

variable {fields : List PlacedParameter} {bytes : Bytes}

theorem nil : Holds [] [] := by
  constructor <;> simp

/-- What stands within the bytes stands there when others follow. -/
theorem image_append (holds : Holds fields bytes) {field : PlacedParameter}
    (member : field ∈ fields) (others : Bytes) :
    ((bytes ++ others).drop field.start).take field.value.type.byteSize = field.value.image := by
  have inside := holds.inside field member
  unfold PlacedParameter.stop at inside
  rw [List.drop_append_of_le_length (by omega), List.take_append_of_le_length,
    holds.image field member]
  rw [List.length_drop]
  omega

/-- Zeros may follow. -/
theorem pad (holds : Holds fields bytes) (count : Nat) :
    Holds fields (bytes ++ List.replicate count 0) where
  inside field member := by
    have inside := holds.inside field member
    rw [List.length_append]
    omega
  image field member := holds.image_append member _
  gaps place byte found apart := by
    rw [List.getElem?_append] at found
    split at found
    · exact holds.gaps place byte found apart
    · exact (List.mem_replicate.mp (List.mem_of_getElem? found)).2

theorem alignTo {block : ParameterBlock} (holds : Holds fields block.bytes) (alignment : Nat) :
    Holds fields (block.alignTo alignment).bytes := holds.pad _

/-- A value is placed behind the bytes. -/
theorem place (holds : Holds fields bytes) (value : Parameter) :
    Holds (fields ++ [⟨bytes.length, value⟩]) (bytes ++ value.image) where
  inside field member := by
    rw [List.length_append]
    rcases List.mem_append.mp member with old | last
    · have inside := holds.inside field old
      omega
    · rw [List.mem_singleton.mp last, value.length_image]
      rfl
  image field member := by
    rcases List.mem_append.mp member with old | last
    · exact holds.image_append old _
    · rw [List.mem_singleton.mp last, List.drop_left, ← value.length_image, List.take_length]
  gaps place byte found apart := by
    rw [List.getElem?_append] at found
    split at found
    case isTrue =>
      exact holds.gaps place byte found fun field old => apart field (List.mem_append_left _ old)
    case isFalse behind =>
      -- A byte of the new value belongs to it.
      have within := (List.getElem?_eq_some_iff.mp found).1
      rw [value.length_image] at within
      have outside : place < bytes.length ∨ bytes.length + value.type.byteSize ≤ place :=
        apart ⟨bytes.length, value⟩ (by simp)
      omega

/-- Every field is read back at its offset. -/
theorem read (holds : Holds fields bytes) {field : PlacedParameter} (member : field ∈ fields) :
    field.value.type.read (bytes.drop field.start) = field.value := by
  rw [← List.take_append_drop field.value.type.byteSize (bytes.drop field.start),
    holds.image field member]
  exact field.value.read_image _

end Holds

namespace ParameterBlock

/-- The strictest of the alignments of some values; nothing is aligned to less than a byte. -/
def strictest (parameters : List Parameter) : Nat :=
  (parameters.map Parameter.alignment).foldl max 1

theorem alignment_ofParameters (parameters : List Parameter) :
    (ofParameters parameters).alignment = strictest parameters := by
  induction parameters using List.reverseRecOn with
  | nil => rfl
  | append_singleton parameters last ih =>
      rw [strictest, List.map_append, List.foldl_append, ofParameters, List.foldl_concat]
      exact congrArg (max · last.alignment) ih

/-- Padding ends at the least multiple of the alignment. -/
theorem length_alignTo_isLeast (block : ParameterBlock) {alignment : Nat}
    (positive : 0 < alignment) :
    IsLeast {offset | alignment ∣ offset ∧ block.length ≤ offset}
      (block.alignTo alignment).length := by
  have rounded : (block.alignTo alignment).length = roundUp block.length alignment := by
    have above := leRoundUp positive block.bytes.length
    simp only [length, alignTo, List.length_append, List.length_replicate]
    omega
  rw [rounded]
  exact roundUp_isLeast positive block.length

/-- A push places the value where the layout goes on. -/
theorem push_laidOut {block : ParameterBlock} {fields : List PlacedParameter}
    (laid : LaidOut 0 fields block.length) (holds : Holds fields block.bytes)
    (parameter : Parameter) :
    LaidOut 0 (fields ++ [⟨(block.alignTo parameter.alignment).length, parameter⟩])
        (block.push parameter).length ∧
      Holds (fields ++ [⟨(block.alignTo parameter.alignment).length, parameter⟩])
        (block.push parameter).bytes := by
  constructor
  · have ending : (block.push parameter).length =
        (block.alignTo parameter.alignment).length + parameter.type.byteSize := by
      rw [← parameter.length_image]
      exact List.length_append
    rw [ending]
    exact laid.concat ⟨_, parameter⟩
      (block.length_alignTo_isLeast parameter.alignment_bounds.1)
  · exact (holds.alignTo parameter.alignment).place parameter

/-- Any number of pushes lays the values out as C does. -/
theorem ofParameters_laidOut (parameters : List Parameter) : ∃ fields,
    fields.map PlacedParameter.value = parameters ∧
      LaidOut 0 fields (ofParameters parameters).length ∧
      Holds fields (ofParameters parameters).bytes := by
  induction parameters using List.reverseRecOn with
  | nil => exact ⟨[], rfl, .nil 0, .nil⟩
  | append_singleton parameters last ih =>
      obtain ⟨fields, values, laid, holds⟩ := ih
      obtain ⟨nextLaid, nextHolds⟩ := push_laidOut laid holds last
      rw [ofParameters, List.foldl_concat]
      refine ⟨_, ?_, nextLaid, nextHolds⟩
      rw [List.map_append, values]
      rfl

end ParameterBlock

namespace Operation

open ParameterBlock

/-- Values pushed one after the other are laid out as C lays out the fields of a record: their bytes
stand at their offsets, all other bytes are zero, and the block ends at the least multiple of the
strictest alignment, unless that exceeds the limit. So every value is read back at its offset. -/
theorem pack_laidOut (parameters : List Parameter) : ∃ fields ending size,
    fields.map PlacedParameter.value = parameters ∧
      LaidOut 0 fields ending ∧
      IsLeast {whole | strictest parameters ∣ whole ∧ ending ≤ whole} size ∧
      (ofParameters parameters).length = ending ∧
      Holds fields (ofParameters parameters).bytes ∧
      (parameterLimit < size → pack parameters = .error (.tooLarge size)) ∧
      (size ≤ parameterLimit → ∃ bytes, pack parameters = .ok bytes ∧ bytes.length = size ∧
        Holds fields bytes ∧
        ∀ field ∈ fields, field.value.type.read (bytes.drop field.start) = field.value) := by
  obtain ⟨fields, values, laid, holds⟩ := ofParameters_laidOut parameters
  have positive : 0 < (ofParameters parameters).alignment :=
    (foldl_push_bounds parameters empty (by decide) (by decide)).2.1
  have least := (ofParameters parameters).length_alignTo_isLeast positive
  have padded := holds.alignTo (ofParameters parameters).alignment
  rw [← alignment_ofParameters]
  refine ⟨fields, _, _, values, laid, least, rfl, holds, ?_, ?_⟩
  · intro large
    rw [pack, finish]
    exact congrArg (Except.mapError ArgumentError.tooLarge) (if_pos large)
  · intro fits
    refine ⟨_, ?_, rfl, padded, fun field member => padded.read member⟩
    rw [pack, finish]
    exact congrArg (Except.mapError ArgumentError.tooLarge) (if_neg (Nat.not_lt.mpr fits))

/-- A word, a pointer behind a gap of four bytes, and three words with four bytes behind them. -/
example : (pack [.word32 7, .pointer ⟨4096⟩, .gemm ⟨1, 2, 3⟩]).toOption =
    some [7, 0, 0, 0, 0, 0, 0, 0, 0, 16, 0, 0, 0, 0, 0, 0,
      1, 0, 0, 0, 2, 0, 0, 0, 3, 0, 0, 0, 0, 0, 0, 0] := by decide +kernel

end Operation

end DeviceKernels
