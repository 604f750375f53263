import DeviceKernels.Descriptor.Instruction

namespace DeviceKernels

/-- Threads of one warp. -/
def warpSize : UInt32 := 32

/-- Why a tiling is refused. -/
inductive TileFault where
  | emptyBlock (shape : TileShape)
  | emptyWarps (warps : TileShape)
  | noStages
  | unevenWarps (dimension : Nat) (extent warps : UInt32)
  deriving DecidableEq, Repr

def TileFault.message : TileFault → String
  | emptyBlock shape => "threadblock shape must be non-zero, got " ++ shape.bracketed
  | emptyWarps warps => "warp count must be non-zero, got " ++ warps.bracketed
  | noStages => "stage count must be at least 1"
  | unevenWarps dimension extent warps =>
      "threadblock dim " ++ Text.decimal dimension ++ " (" ++ Text.decimal extent.toNat ++
        ") not divisible by warp count " ++ Text.decimal warps.toNat

structure TileDescription where
  block : TileShape
  stages : UInt32
  warps : TileShape
  instruction : MathInstruction
  deriving DecidableEq, Repr, Inhabited

namespace TileDescription

open Number

/-- The block and the stages, as in `128x128_32x3`. -/
def proceduralName (tile : TileDescription) : String :=
  Text.decimal tile.block.m.toNat ++ "x" ++ Text.decimal tile.block.n.toNat ++ "_" ++
    Text.decimal tile.block.k.toNat ++ "x" ++ Text.decimal tile.stages.toNat

/-- Threads of one thread block; none where the program stops because a product is no word. -/
def threads (tile : TileDescription) : Option UInt32 :=
  ((checkedProduct tile.warps.m tile.warps.n).bind (checkedProduct · tile.warps.k)).bind
    (checkedProduct · warpSize)

/-- The part of the block that one warp computes; no warps count as one. -/
def warpShape (tile : TileDescription) : TileShape :=
  ⟨tile.block.m / max tile.warps.m 1, tile.block.n / max tile.warps.n 1,
    tile.block.k / max tile.warps.k 1⟩

/-- The first dimension that the warps do not divide. -/
def unevenDimension? (tile : TileDescription) : Option TileFault :=
  if tile.block.m % tile.warps.m ≠ 0 then some (.unevenWarps 0 tile.block.m tile.warps.m)
  else if tile.block.n % tile.warps.n ≠ 0 then some (.unevenWarps 1 tile.block.n tile.warps.n)
  else if tile.block.k % tile.warps.k ≠ 0 then some (.unevenWarps 2 tile.block.k tile.warps.k)
  else none

def validate (tile : TileDescription) : Except TileFault Unit :=
  if tile.block.toList.any (· == 0) then .error (.emptyBlock tile.block)
  else if tile.warps.toList.any (· == 0) then .error (.emptyWarps tile.warps)
  else if tile.stages == 0 then .error .noStages
  else
    match tile.unevenDimension? with
    | some fault => .error fault
    | none => .ok ()

/-- The bits that an operand of some lines and of the given width has in one stage. -/
def stageBits (tile : TileDescription) (lines : UInt32) (bits : Nat) : Option UInt32 :=
  (checkedProduct lines tile.block.k).bind (checkedProduct · (UInt32.ofNat bits))

/-- Shared memory of all stages for operands of the given widths in bits; none where the program
stops because a number on the way is no word. -/
def sharedMemoryBytes (tile : TileDescription) (bitsA bitsB : Nat) : Option UInt32 :=
  let stage := (tile.stageBits tile.block.m bitsA).bind fun first =>
    (tile.stageBits tile.block.n bitsB).bind (checkedSum first)
  (stage.bind (checkedProduct · tile.stages)).map (· / 8)

instance : JsonForm TileDescription where
  toJson tile := .object
    [("threadblock_shape", toJson tile.block), ("stages", toJson tile.stages),
      ("warp_count", toJson tile.warps), ("math_instruction", toJson tile.instruction)]
  ofJson? json := do
    match ← json.record? ["threadblock_shape", "stages", "warp_count", "math_instruction"] with
    | [block, stages, warps, instruction] =>
        some
          { block := ← Json.required? TileShape block
            stages := ← Json.required? UInt32 stages
            warps := ← Json.required? TileShape warps
            instruction := ← Json.required? MathInstruction instruction }
    | _ => none

end TileDescription

/-- Thread blocks visit the tiles in groups of rows, or share one persistent schedule. -/
inductive Swizzle where
  | identity1
  | identity2
  | identity4
  | identity8
  | streamK
  deriving DecidableEq, Repr, Inhabited

namespace Swizzle

/-- The base-two logarithm of the number of tile rows in a group. -/
def logTile : Swizzle → Nat
  | identity1 => 0
  | identity2 => 1
  | identity4 => 2
  | identity8 => 3
  | streamK => 0

def tag : Swizzle → String
  | identity1 => "cutlass::gemm::threadblock::GemmIdentityThreadblockSwizzle<1>"
  | identity2 => "cutlass::gemm::threadblock::GemmIdentityThreadblockSwizzle<2>"
  | identity4 => "cutlass::gemm::threadblock::GemmIdentityThreadblockSwizzle<4>"
  | identity8 => "cutlass::gemm::threadblock::GemmIdentityThreadblockSwizzle<8>"
  | streamK => "cutlass::gemm::threadblock::ThreadblockSwizzleStreamK"

/-- The name in a message. -/
def label : Swizzle → String
  | identity1 => "Identity1"
  | identity2 => "Identity2"
  | identity4 => "Identity4"
  | identity8 => "Identity8"
  | streamK => "StreamK"

instance : Named Swizzle where
  all := [identity1, identity2, identity4, identity8, streamK]
  name
    | identity1 => "identity1"
    | identity2 => "identity2"
    | identity4 => "identity4"
    | identity8 => "identity8"
    | streamK => "stream_k"

end Swizzle

end DeviceKernels
