import DeviceKernels.Descriptor.Epilogue
import DeviceKernels.Operation.Fault

/-
Kernels and launches. A kernel is what an operation compiles to: a name, a source and the
resources it needs. A launch gives it a grid, a block and a parameter block.
-/

namespace DeviceKernels

inductive OperationFamily where
  | gemm
  | convolution
  | reduction
  deriving DecidableEq, Repr, Inhabited

def OperationFamily.shortName : OperationFamily → String
  | gemm => "gemm"
  | convolution => "conv2d"
  | reduction => "reduction"

structure Kernel where
  family : OperationFamily
  arch : UInt32
  /-- The procedural name of the configuration. -/
  name : String
  source : String
  /-- Whether the numbers in the source are words; else the program stops where it writes them. -/
  isWritable : Bool := true
  /-- None where the program stops because a number on the way to it is no word. -/
  sharedMemoryBytes : Option UInt32
  deriving DecidableEq, Repr, Inhabited

/-- The exported symbol of a kernel. -/
def kernelSymbol (proceduralName : String) : String := proceduralName ++ "_kernel"

def Kernel.symbol (kernel : Kernel) : String := kernelSymbol kernel.name

/-- The lines that define a kernel type and export its entry point. -/
def kernelEntry (proceduralName : String) : String :=
  "struct " ++ proceduralName ++ "_type : public " ++ proceduralName ++ "_base \x7b \x7d;\n" ++
    "FORGE_KERNEL_ENTRY(" ++ kernelSymbol proceduralName ++ ", " ++ proceduralName ++ "_type)\n"

structure LaunchConfig where
  grid : LaunchExtent
  block : LaunchExtent
  sharedMemoryBytes : UInt32
  deriving DecidableEq, Repr, Inhabited

/-- The threads of all blocks; none where the program stops because a product is no word. -/
def LaunchConfig.totalThreads (launch : LaunchConfig) : Option Nat := do
  let blocks ← Number.checked64 launch.grid.volume
  Number.checked64 (blocks * (← Number.checked64 launch.block.volume))

namespace Operation

/-- The number of tiles that cover an extent; a tile must have an extent itself. -/
def tilesCovering (extent : Int) (tile : UInt32) : Except ArgumentError Int :=
  if tile == 0 then .error .emptyTile else .ok (Number.ceilDiv extent tile.toNat)

/-- A number that a launch needs; without it the program has stopped. -/
def computed {Value : Type} (number : Option Value) : Except ArgumentError Value :=
  match number with
  | none => .error .stopped
  | some number => .ok number

/-- The low-order word of a number. -/
def lowWord (number : Int) : UInt32 := UInt32.ofNat (number % UInt32.size).toNat

/-- The grid of a tiled output whose tile rows are visited in groups of `2 ^ logTile`. -/
def swizzledGrid (tilesM tilesN : Int) (logTile : Nat) (slices : Int) : LaunchExtent :=
  let group : Int := Nat.pow 2 logTile
  ⟨lowWord (tilesM * group), lowWord (Number.ceilDiv tilesN group), lowWord slices⟩

/-- The launch of a tiled kernel on a grid. -/
def launchTiled (tile : TileDescription) (sharedMemoryBytes : Option UInt32)
    (grid : LaunchExtent) : Except ArgumentError LaunchConfig := do
  let threads ← computed tile.threads
  .ok ⟨grid, .linear threads, ← computed sharedMemoryBytes⟩

def checkAligned (what : String) (value : Int) (alignment : UInt32) :
    Except ArgumentError Unit :=
  if 1 < alignment ∧ value % (alignment.toNat : Int) ≠ 0 then
    .error (.misaligned what value alignment)
  else .ok ()

/-- A length must not be below the least one. -/
def checkLength (what : String) (least actual : Int) : Except ArgumentError Unit :=
  if actual < least then .error (.tooShort what least actual) else .ok ()

def require (condition : Bool) (fault : ProblemFault) : Except ArgumentError Unit :=
  if condition then .ok () else .error (.problem fault)

def requireDescriptor (condition : Bool) (fault : DescriptorFault) : Except ArgumentError Unit :=
  if condition then .ok () else .error (.descriptor fault)

def checkTile (tile : TileDescription) : Except ArgumentError Unit :=
  tile.validate.mapError fun fault => .descriptor (.tile fault)

def checkOperand (name : String) (operand : OperandDescription) : Except ArgumentError Unit :=
  operand.validate.mapError fun fault => .descriptor (.operand name fault)

/-- The two scalars of an epilogue in its scalar type. -/
def packScalars (epilogue : Epilogue) (alpha beta : Number.Binary64) :
    Except ArgumentError (List Parameter) :=
  match Scalar.ofBinary64? epilogue.elementScalar alpha,
    Scalar.ofBinary64? epilogue.elementScalar beta with
  | some first, some second => .ok [.scalar first, .scalar second]
  | _, _ => .error (.unsupportedScalar epilogue.elementScalar)

def pack (parameters : List Parameter) : Except ArgumentError Bytes :=
  (ParameterBlock.ofParameters parameters).finish.mapError .tooLarge

end Operation

end DeviceKernels
