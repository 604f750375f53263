import DeviceKernels.Proofs.Operation.Configurations
import DeviceKernels.Proofs.Operation.GemmArguments
import DeviceKernels.Proofs.Operation.SplitK
import DeviceKernels.Proofs.Parameter.Records

/-
The parameter block of a matrix product read back. The type of the scalars tells where every value
stands, and the mode tells what is counted, because accepted arguments have either one member or
one slice.
-/

namespace DeviceKernels

open Number Operation Outcome

/-- The type that the scalars of an element type have in a parameter block. -/
def ElementType.scalarType? : ElementType → Option ParameterType
  | f16 => some .half
  | bf16 => some .brain
  | f32 => some .single
  | tf32 => some .single
  | f64 => some .double
  | s32 => some .integer
  | s8 => none
  | u8 => none

theorem Scalar.type_ofBinary64? {element : ElementType} {value : Binary64} {scalar : Scalar}
    (form : ofBinary64? element value = some scalar) :
    element.scalarType? = some (Parameter.scalar scalar).type := by
  cases element <;> cases form <;> rfl

namespace Parameter

def pointer? : Parameter → Option DevicePointer
  | pointer value => some value
  | _ => none

def word64? : Parameter → Option Int64
  | word64 value => some value
  | _ => none

end Parameter

/-- What a kernel reads of its parameter block. The lists go over A, B, C and D. -/
structure GemmBlock where
  problem : GemmExtent
  batchCount : Int32
  splitKSlices : Int32
  alpha : Scalar
  beta : Scalar
  pointers : List DevicePointer
  strides : List Int64
  leading : List Int64
  deriving DecidableEq, Repr

namespace GemmBlock

/-- The types of the parameters. -/
def types (scalar : ParameterType) : List ParameterType :=
  [.word32, .gemm, .word32, scalar, scalar] ++ List.replicate 4 .pointer ++
    List.replicate 8 .word64

/-- In batched mode the members of the batch are counted, else the slices. -/
def ofParameters? : List Parameter → Option GemmBlock
  | .word32 mode :: .gemm problem :: .word32 count :: .scalar alpha :: .scalar beta :: others => do
      let pointers ← (others.take 4).mapM Parameter.pointer?
      let words ← (others.drop 4).mapM Parameter.word64?
      some
        { problem, alpha, beta, pointers
          batchCount := if mode == 2 then count else 1
          splitKSlices := if mode == 2 then 1 else count
          strides := words.take 4
          leading := words.drop 4 }
  | _ => none

/-- The contents of a block whose scalars have the element type. -/
def decode? (element : ElementType) (bytes : Bytes) : Option GemmBlock := do
  let scalar ← element.scalarType?
  ofParameters? (readRecord 0 (types scalar) bytes)

/-- The block says what the arguments say, with the scalars converted to the element type. -/
structure Describes (block : GemmBlock) (element : ElementType) (arguments : GemmArguments) :
    Prop where
  problem : block.problem = arguments.problem
  batchCount : block.batchCount = arguments.batchCount
  splitKSlices : block.splitKSlices = arguments.splitKSlices
  alpha : Scalar.ofBinary64? element arguments.alpha = some block.alpha
  beta : Scalar.ofBinary64? element arguments.beta = some block.beta
  pointers : block.pointers =
    [arguments.pointerA, arguments.pointerB, arguments.pointerC, arguments.pointerD]
  strides : block.strides = arguments.batchStrides
  leading : block.leading =
    [arguments.leadingA, arguments.leadingB, arguments.leadingC, arguments.leadingD]

end GemmBlock

namespace GemmOperation

variable {operation : GemmOperation} {arguments arguments' : GemmArguments}
  {parameters : List Parameter} {bytes : Bytes}

/-- The parameters are those of the types, around two scalars. -/
theorem parameters_ok : operation.parameters arguments = .ok parameters ↔
    ∃ alpha beta, Scalar.ofBinary64? operation.epilogue.elementScalar arguments.alpha = some alpha ∧
      Scalar.ofBinary64? operation.epilogue.elementScalar arguments.beta = some beta ∧
      parameters = .word32 (modeAndCount arguments).1 :: .gemm arguments.problem ::
        .word32 (modeAndCount arguments).2 :: .scalar alpha :: .scalar beta ::
        (.pointer arguments.pointerA :: .pointer arguments.pointerB ::
          .pointer arguments.pointerC :: .pointer arguments.pointerD ::
          (arguments.batchStrides ++ [arguments.leadingA, arguments.leadingB, arguments.leadingC,
            arguments.leadingD]).map .word64) := by
  unfold GemmOperation.parameters
  simp only [bound_iff, packScalars_ok]
  constructor
  · rintro ⟨scalars, ⟨alpha, beta, first, second, rfl⟩, listed⟩
    exact ⟨alpha, beta, first, second, (Except.ok.inj listed).symm⟩
  · rintro ⟨alpha, beta, first, second, rfl⟩
    exact ⟨_, ⟨alpha, beta, first, second, rfl⟩, rfl⟩

/-- Accepted arguments fill a block exactly if their scalars have a form. -/
theorem packArguments_ok : (∃ bytes, operation.packArguments arguments = .ok bytes) ↔
    operation.validateArguments arguments = .ok () ∧
      operation.epilogue.elementScalar ≠ .s8 ∧ operation.epilogue.elementScalar ≠ .u8 := by
  let before : List Parameter := [.word32 (modeAndCount arguments).1, .gemm arguments.problem,
    .word32 (modeAndCount arguments).2]
  let pointers : List Parameter := [.pointer arguments.pointerA, .pointer arguments.pointerB,
    .pointer arguments.pointerC, .pointer arguments.pointerD]
  let strides : List Parameter := arguments.batchStrides.map .word64
  let leading : List Parameter := [.word64 arguments.leadingA, .word64 arguments.leadingB,
    .word64 arguments.leadingC, .word64 arguments.leadingD]
  have formed : operation.parameters arguments = (do
      let scalars ← packScalars operation.epilogue arguments.alpha arguments.beta
      .ok (before ++ scalars ++ (pointers ++ (strides ++ leading)))) := by
    simp only [GemmOperation.parameters, before, pointers, strides, leading, List.append_assoc]
  refine packed_ok formed ?_
  simp [before, pointers, strides, leading, ParameterBlock.room, GemmArguments.batchStrides,
    Parameter.image, GemmExtent.image, signedWord32, signedWord64, word32, word64, parameterLimit]

/-- The count belongs to the batch or to the slices, and the other one is one. -/
theorem Accepts.modeAndCount (numbers : operation.Accepts arguments) :
    (if (modeAndCount arguments).1 == 2 then (modeAndCount arguments).2 else 1) =
        arguments.batchCount ∧
      (if (modeAndCount arguments).1 == 2 then 1 else (modeAndCount arguments).2) =
        arguments.splitKSlices := by
  unfold GemmOperation.modeAndCount
  split
  case isTrue batched =>
    rw [Int32.lt_iff_toInt_lt, Int32.toInt_one] at batched
    have unsliced := numbers.either.resolve_left (Int.not_le.mpr batched)
    exact ⟨rfl, (eq_one_of_toInt numbers.slices unsliced).symm⟩
  case isFalse single =>
    rw [Int32.lt_iff_toInt_lt, Int32.toInt_one, Int.not_lt] at single
    exact ⟨(eq_one_of_toInt numbers.batches single).symm, rfl⟩

/-- The parameters of accepted arguments say what the arguments say. -/
theorem ofParameters?_parameters (numbers : operation.Accepts arguments)
    (listed : operation.parameters arguments = .ok parameters) :
    ∃ block, GemmBlock.ofParameters? parameters = some block ∧
      block.Describes operation.epilogue.elementScalar arguments := by
  obtain ⟨alpha, beta, first, second, rfl⟩ := parameters_ok.mp listed
  obtain ⟨batches, slices⟩ := numbers.modeAndCount
  exact ⟨_, rfl, rfl, batches, slices, first, second, rfl, rfl, rfl⟩

/-- Both scalars have the type that the element type tells. -/
theorem type_parameters (listed : operation.parameters arguments = .ok parameters) :
    ∃ scalar, operation.epilogue.elementScalar.scalarType? = some scalar ∧
      parameters.map Parameter.type = GemmBlock.types scalar := by
  obtain ⟨alpha, beta, first, second, rfl⟩ := parameters_ok.mp listed
  have one := Scalar.type_ofBinary64? first
  have two := Scalar.type_ofBinary64? second
  refine ⟨_, one, ?_⟩
  have same := Option.some.inj (two.symm.trans one)
  simp only [List.map_cons, same]
  rfl

/-- A block is decoded to what was packed. -/
theorem decode?_packArguments (packed : operation.packArguments arguments = .ok bytes) :
    ∃ block, GemmBlock.decode? operation.epilogue.elementScalar bytes = some block ∧
      block.Describes operation.epilogue.elementScalar arguments := by
  obtain ⟨accepted, packed⟩ := of_checked packed
  obtain ⟨parameters, listed, packed⟩ := bound_iff.mp packed
  obtain ⟨scalar, typed, types⟩ := type_parameters listed
  obtain ⟨block, read, describes⟩ :=
    ofParameters?_parameters (validateArguments_ok.mp accepted) listed
  refine ⟨block, ?_, describes⟩
  have recovered := readRecord_pack packed
  rw [types] at recovered
  simp only [GemmBlock.decode?, typed, Option.bind_eq_bind, Option.bind_some, recovered, read]

/-- A launch depends on the problem and on the counts. -/
theorem launchConfig_congr (accepted : operation.validateArguments arguments = .ok ())
    (accepted' : operation.validateArguments arguments' = .ok ())
    (problem : arguments.problem = arguments'.problem)
    (batches : arguments.batchCount = arguments'.batchCount)
    (slices : arguments.splitKSlices = arguments'.splitKSlices) (device : DeviceInfo) :
    operation.launchConfig arguments device = operation.launchConfig arguments' device := by
  unfold launchConfig
  rw [accepted, accepted', problem, batches, slices]

/-- The two sets of arguments give a kernel the same values, and every device the same launch. -/
structure SameLaunch (operation : GemmOperation) (arguments arguments' : GemmArguments) :
    Prop where
  values : ∃ block : GemmBlock, block.Describes operation.epilogue.elementScalar arguments ∧
    block.Describes operation.epilogue.elementScalar arguments'
  launch : ∀ device, operation.launchConfig arguments device =
    operation.launchConfig arguments' device

/-- Arguments of a product whose scalars have a form fill a block exactly if they are accepted. The
element type of the scalars suffices to read all of them back, so arguments that fill the same block
have the same launch. -/
theorem packArguments_decodes
    (supported : ∃ number scalar,
      Scalar.ofBinary64? operation.epilogue.elementScalar number = some scalar) :
    (∀ arguments, (∃ bytes, operation.packArguments arguments = .ok bytes) ↔
      operation.validateArguments arguments = .ok ()) ∧
    (∀ arguments bytes, operation.packArguments arguments = .ok bytes →
      ∃ block, GemmBlock.decode? operation.epilogue.elementScalar bytes = some block ∧
        block.Describes operation.epilogue.elementScalar arguments) ∧
    ∀ arguments arguments' bytes, operation.packArguments arguments = .ok bytes →
      operation.packArguments arguments' = .ok bytes →
        operation.SameLaunch arguments arguments' := by
  obtain ⟨number, formed⟩ := supported
  have scalars := (Scalar.ofBinary64?_isSome number).mp formed
  refine ⟨?_, ?_, ?_⟩
  · intro arguments
    rw [packArguments_ok]
    exact and_iff_left scalars
  · exact fun arguments bytes packed => decode?_packArguments packed
  · intro arguments arguments' bytes packed packed'
    obtain ⟨block, decoded, describes⟩ := decode?_packArguments packed
    obtain ⟨block', decoded', describes'⟩ := decode?_packArguments packed'
    obtain rfl := Option.some.inj (decoded.symm.trans decoded')
    refine ⟨⟨block, describes, describes'⟩, ?_⟩
    exact launchConfig_congr (of_checked packed).1 (of_checked packed').1
      (describes.problem.symm.trans describes'.problem)
      (describes.batchCount.symm.trans describes'.batchCount)
      (describes.splitKSlices.symm.trans describes'.splitKSlices)

/-- Three members of a batch, for scalars that are the same in single precision only. -/
theorem packArguments_decodes_batched : ∃ (operation : GemmOperation)
    (arguments arguments' : GemmArguments) (bytes : Bytes) (block : GemmBlock),
    Catalog.gemm 80 .f16 Catalog.transposed .universal = .ok operation ∧
      arguments.alpha = .one ∧ arguments'.alpha = ⟨0x3ff0000000000001⟩ ∧
      operation.packArguments arguments = .ok bytes ∧
      operation.packArguments arguments' = .ok bytes ∧
      GemmBlock.decode? .f32 bytes = some block ∧ block.batchCount = 3 ∧
      block.splitKSlices = 1 ∧ block.alpha = .single .one ∧
      operation.SameLaunch arguments arguments' := by
  obtain ⟨operation, created⟩ : ∃ operation,
      Catalog.gemm 80 .f16 Catalog.transposed .universal = .ok operation := ⟨_, rfl⟩
  let arguments : GemmArguments :=
    { operation.arguments ⟨16, 24, 32⟩ ⟨4096⟩ ⟨8192⟩ ⟨0⟩ ⟨16384⟩ with batchCount := 3 }
  let arguments' : GemmArguments := { arguments with alpha := ⟨0x3ff0000000000001⟩ }
  have scalar : operation.epilogue.elementScalar = .f32 := by
    cases created
    rfl
  have accepted : operation.validateArguments arguments = .ok () := by
    cases created
    decide +kernel
  have same : operation.packArguments arguments = operation.packArguments arguments' := by
    cases created
    decide +kernel
  have supported : ∃ number scalar,
      Scalar.ofBinary64? operation.epilogue.elementScalar number = some scalar :=
    scalar ▸ ⟨.one, _, rfl⟩
  obtain ⟨packs, decodes, launches⟩ := packArguments_decodes supported
  obtain ⟨bytes, packed⟩ := (packs arguments).mpr accepted
  obtain ⟨block, decoded, describes⟩ := decodes arguments bytes packed
  have packed' : operation.packArguments arguments' = .ok bytes := same.symm.trans packed
  rw [scalar] at decoded
  have alpha : Scalar.ofBinary64? .f32 .one = some block.alpha := scalar ▸ describes.alpha
  have one : block.alpha = .single .one :=
    (Option.some.inj alpha).symm.trans (by decide +kernel)
  exact ⟨operation, arguments, arguments', bytes, block, created, rfl, rfl, packed, packed', decoded,
    describes.batchCount, describes.splitKSlices, one, launches _ _ bytes packed packed'⟩

end GemmOperation

end DeviceKernels
