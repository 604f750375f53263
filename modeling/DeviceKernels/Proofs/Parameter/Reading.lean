import DeviceKernels.Parameter.Block

/-
Values read back from their bytes. The type of a value says how many bytes it takes and how they
are read, and every value is read as it was written, whatever bytes follow it.
-/

namespace DeviceKernels

namespace Number

/-- The number in the first `count` bytes. -/
def readBytes (count : Nat) (bytes : Bytes) : Nat := ofLittleEndian (bytes.take count)

/-- The 32-bit word at a place of a record of such words. -/
def readWord (place : Nat) (bytes : Bytes) : UInt32 :=
  UInt32.ofNat (readBytes 4 (bytes.drop (4 * place)))

theorem readBytes_littleEndian {count value : Nat} (small : value < Nat.pow 256 count)
    (rest : Bytes) : readBytes count (littleEndian count value ++ rest) = value := by
  rw [readBytes, List.take_left' (lengthLittleEndian count value), ofLittleEndianLittleEndian,
    Nat.mod_eq_of_lt small]

/-- Every word of a record is read at its place. -/
theorem readWord_words {words : List UInt32} {place : Nat} (inside : place < words.length)
    (rest : Bytes) : readWord place (words.flatMap word32 ++ rest) = words[place] := by
  induction words generalizing place with
  | nil => exact absurd inside (Nat.not_lt_zero place)
  | cons first others ih =>
      cases place with
      | zero =>
          have read : readBytes 4 (word32 first ++ (others.flatMap word32 ++ rest)) = first.toNat :=
            readBytes_littleEndian first.toNat_lt _
          rw [readWord, List.flatMap_cons, List.append_assoc, Nat.mul_zero, List.drop_zero, read]
          exact UInt32.ofNat_toNat
      | succ place =>
          have behind : (word32 first).length = 4 := lengthLittleEndian 4 _
          have skipped : (word32 first ++ (others.flatMap word32 ++ rest)).drop (4 * (place + 1)) =
              (others.flatMap word32 ++ rest).drop (4 * place) := by
            rw [Nat.mul_succ, Nat.add_comm, ← List.drop_drop, ← behind, List.drop_left]
          rw [readWord, List.flatMap_cons, List.append_assoc, skipped]
          exact ih (Nat.lt_of_succ_lt_succ inside)

end Number

open Number

/-- The type of a value in a parameter block. -/
inductive ParameterType where
  | word32
  | word64
  | pointer
  | half
  | brain
  | single
  | double
  | integer
  | gemm
  | matrix
  | tensor
  | launch
  | convolution
  deriving DecidableEq, Repr

namespace ParameterType

def byteSize : ParameterType → Nat
  | word32 => 4
  | word64 => 8
  | pointer => 8
  | half => 2
  | brain => 2
  | single => 4
  | double => 8
  | integer => 4
  | gemm => 12
  | matrix => 8
  | tensor => 16
  | launch => 12
  | convolution => 72

/-- The value of a type at the front of the bytes. -/
def read (type : ParameterType) (bytes : Bytes) : Parameter :=
  let word (place : Nat) : Int32 := (readWord place bytes).toInt32
  match type with
  | word32 => .word32 (word 0)
  | word64 => .word64 (UInt64.ofNat (readBytes 8 bytes)).toInt64
  | pointer => .pointer ⟨UInt64.ofNat (readBytes 8 bytes)⟩
  | half => .scalar (.half (UInt16.ofNat (readBytes 2 bytes)))
  | brain => .scalar (.brain (UInt16.ofNat (readBytes 2 bytes)))
  | single => .scalar (.single ⟨readWord 0 bytes⟩)
  | double => .scalar (.double ⟨UInt64.ofNat (readBytes 8 bytes)⟩)
  | integer => .scalar (.integer (word 0))
  | gemm => .gemm ⟨word 0, word 1, word 2⟩
  | matrix => .matrix ⟨word 0, word 1⟩
  | tensor => .tensor ⟨word 0, word 1, word 2, word 3⟩
  | launch => .launch ⟨readWord 0 bytes, readWord 1 bytes, readWord 2 bytes⟩
  | convolution => .convolution
      { n := word 0, h := word 1, w := word 2, c := word 3, k := word 4, r := word 5, s := word 6
        padding := ⟨word 7, word 8⟩, stride := ⟨word 9, word 10⟩, dilation := ⟨word 11, word 12⟩
        p := word 13, q := word 14, mode := word 15, splitKSlices := word 16, groups := word 17 }

end ParameterType

namespace Parameter

def type : Parameter → ParameterType
  | word32 _ => .word32
  | word64 _ => .word64
  | pointer _ => .pointer
  | scalar (.half _) => .half
  | scalar (.brain _) => .brain
  | scalar (.single _) => .single
  | scalar (.double _) => .double
  | scalar (.integer _) => .integer
  | gemm _ => .gemm
  | matrix _ => .matrix
  | tensor _ => .tensor
  | launch _ => .launch
  | convolution _ => .convolution

theorem length_image (parameter : Parameter) :
    parameter.image.length = parameter.type.byteSize := by
  cases parameter with
  | scalar value => rw [image, Scalar.lengthImage]; cases value <;> rfl
  | convolution problem =>
      simp [image, ConvolutionProblem.image, ConvolutionProblem.words, signedWord32,
        Number.word32, type, ParameterType.byteSize]
  | _ =>
      simp [image, GemmExtent.image, MatrixExtent.image, TensorExtent.image, LaunchExtent.image,
        signedWord32, signedWord64, Number.word32, Number.word64, type, ParameterType.byteSize]

/-- The words of a record in the order of its bytes. -/
def words : Parameter → List UInt32
  | gemm extent => [extent.m, extent.n, extent.k].map Int32.toUInt32
  | matrix extent => [extent.row, extent.column].map Int32.toUInt32
  | tensor extent => [extent.n, extent.h, extent.w, extent.c].map Int32.toUInt32
  | launch extent => [extent.x, extent.y, extent.z]
  | convolution problem => problem.words.map Int32.toUInt32
  | word32 value => [value.toUInt32]
  | scalar (.single value) => [value.bits]
  | scalar (.integer value) => [value.toUInt32]
  | _ => []

/-- A value of 32-bit words has the bytes of its words. -/
theorem image_words (parameter : Parameter) (wordwise : parameter.words ≠ []) :
    parameter.image = parameter.words.flatMap Number.word32 := by
  cases parameter with
  | scalar value => cases value <;> simp_all [words, image, Scalar.image, signedWord32]
  | _ => simp_all [words, image, GemmExtent.image, MatrixExtent.image, TensorExtent.image,
      LaunchExtent.image, ConvolutionProblem.image, ConvolutionProblem.words, signedWord32]

theorem readWord_image {parameter : Parameter} {place : Nat}
    (inside : place < parameter.words.length) (rest : Bytes) :
    readWord place (parameter.image ++ rest) = parameter.words[place] := by
  rw [image_words parameter (List.ne_nil_of_length_pos (Nat.zero_lt_of_lt inside))]
  exact readWord_words inside rest

/-- A value is read as it was written. -/
theorem read_image (parameter : Parameter) (rest : Bytes) :
    parameter.type.read (parameter.image ++ rest) = parameter := by
  cases parameter with
  | word64 value =>
      have number : readBytes 8 ((word64 value).image ++ rest) = value.toUInt64.toNat :=
        readBytes_littleEndian value.toUInt64.toNat_lt rest
      simp [type, ParameterType.read, number]
  | pointer value =>
      have number : readBytes 8 ((pointer value).image ++ rest) = value.address.toNat :=
        readBytes_littleEndian value.address.toNat_lt rest
      simp [type, ParameterType.read, number]
  | scalar value =>
      cases value with
      | half pattern =>
          have number : readBytes 2 ((scalar (.half pattern)).image ++ rest) = pattern.toNat :=
            readBytes_littleEndian pattern.toNat_lt rest
          simp [type, ParameterType.read, number]
      | brain pattern =>
          have number : readBytes 2 ((scalar (.brain pattern)).image ++ rest) = pattern.toNat :=
            readBytes_littleEndian pattern.toNat_lt rest
          simp [type, ParameterType.read, number]
      | double value =>
          have number : readBytes 8 ((scalar (.double value)).image ++ rest) = value.bits.toNat :=
            readBytes_littleEndian value.bits.toNat_lt rest
          simp [type, ParameterType.read, number]
      | _ => simp [type, ParameterType.read, readWord_image, words]
  | _ => simp [type, ParameterType.read, readWord_image, words, ConvolutionProblem.words]

end Parameter

end DeviceKernels
