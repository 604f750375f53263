import DeviceKernels.Descriptor.Element

namespace DeviceKernels

/-- Three extents in the order of a product: rows, columns and depth. -/
structure TileShape where
  m : UInt32
  n : UInt32
  k : UInt32
  deriving DecidableEq, Repr, Inhabited

namespace TileShape

def toList (shape : TileShape) : List UInt32 := [shape.m, shape.n, shape.k]

def bracketed (shape : TileShape) : String :=
  Text.bracketed (shape.toList.map UInt32.toNat)

/-- The shape as a template argument. -/
def tag (shape : TileShape) : String :=
  "cutlass::gemm::GemmShape<" ++ Text.decimal shape.m.toNat ++ ", " ++
    Text.decimal shape.n.toNat ++ ", " ++ Text.decimal shape.k.toNat ++ ">"

instance : JsonForm TileShape where
  toJson shape := toJson shape.toList
  ofJson? json :=
    match json.as? (List UInt32) with
    | some [m, n, k] => some ⟨m, n, k⟩
    | _ => none

end TileShape

/-- Scalar instructions of one thread, or matrix instructions of one warp. -/
inductive OpcodeClass where
  | simt
  | tensorOp
  deriving DecidableEq, Repr, Inhabited

namespace OpcodeClass

def shortName : OpcodeClass → String
  | simt => "simt"
  | tensorOp => "tensorop"

def tag : OpcodeClass → String
  | simt => "cutlass::arch::OpClassSimt"
  | tensorOp => "cutlass::arch::OpClassTensorOp"

instance : Named OpcodeClass where
  all := [simt, tensorOp]
  name
    | simt => "simt"
    | tensorOp => "tensor_op"

end OpcodeClass

inductive MathOperation where
  | multiplyAdd
  | multiplyAddFastF32
  | multiplyAddSaturate
  deriving DecidableEq, Repr, Inhabited

namespace MathOperation

def tag : MathOperation → String
  | multiplyAdd => "cutlass::arch::OpMultiplyAdd"
  | multiplyAddFastF32 => "cutlass::arch::OpMultiplyAddFastF32"
  | multiplyAddSaturate => "cutlass::arch::OpMultiplyAddSaturate"

instance : Named MathOperation where
  all := [multiplyAdd, multiplyAddFastF32, multiplyAddSaturate]
  name
    | multiplyAdd => "multiply_add"
    | multiplyAddFastF32 => "multiply_add_fast_f32"
    | multiplyAddSaturate => "multiply_add_saturate"

end MathOperation

structure MathInstruction where
  shape : TileShape
  elementA : ElementType
  elementB : ElementType
  elementAccumulator : ElementType
  opcodeClass : OpcodeClass
  mathOperation : MathOperation := .multiplyAdd
  deriving DecidableEq, Repr, Inhabited

namespace MathInstruction

/-- The three extents without separators; a scalar instruction has no shape to name. -/
def shapeName (instruction : MathInstruction) : String :=
  match instruction.opcodeClass with
  | .simt => ""
  | .tensorOp =>
      Text.decimal instruction.shape.m.toNat ++ Text.decimal instruction.shape.n.toNat ++
        Text.decimal instruction.shape.k.toNat

/-- The shape that is emitted: one by one by one for a scalar instruction. -/
def emittedShape (instruction : MathInstruction) : TileShape :=
  match instruction.opcodeClass with
  | .simt => ⟨1, 1, 1⟩
  | .tensorOp => instruction.shape

/-- The letter of the accumulator type in a kernel name. -/
def accumulatorLetter (instruction : MathInstruction) : String :=
  match instruction.elementAccumulator with
  | .f16 => "h"
  | .f32 => "s"
  | .tf32 => "s"
  | .f64 => "d"
  | .s32 => "i"
  | _ => ""

instance : JsonForm MathInstruction where
  toJson instruction := .object
    [("instruction_shape", toJson instruction.shape),
      ("element_a", toJson instruction.elementA),
      ("element_b", toJson instruction.elementB),
      ("element_accumulator", toJson instruction.elementAccumulator),
      ("opcode_class", toJson instruction.opcodeClass),
      ("math_operation", toJson instruction.mathOperation)]
  ofJson? json := do
    match ← json.record? ["instruction_shape", "element_a", "element_b", "element_accumulator",
      "opcode_class", "math_operation"] with
    | [shape, elementA, elementB, elementAccumulator, opcodeClass, mathOperation] =>
        some
          { shape := ← Json.required? TileShape shape
            elementA := ← Json.required? ElementType elementA
            elementB := ← Json.required? ElementType elementB
            elementAccumulator := ← Json.required? ElementType elementAccumulator
            opcodeClass := ← Json.required? OpcodeClass opcodeClass
            mathOperation := ← Json.required? MathOperation mathOperation }
    | _ => none

end MathInstruction

end DeviceKernels
