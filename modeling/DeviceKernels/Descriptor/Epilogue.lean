import DeviceKernels.Descriptor.Element
import DeviceKernels.Number.Float

/-
The last stage of a product, `activation (alpha * accumulator + beta * source)`. Its reference
result on the host is in single precision, one rounding per operation.
-/

namespace DeviceKernels

open Number

inductive Activation where
  | identity
  | relu
  | gelu
  | silu
  | sigmoid
  | tanh
  | hardSwish
  deriving DecidableEq, Repr, Inhabited

namespace Activation

def all : List Activation := [identity, relu, gelu, silu, sigmoid, tanh, hardSwish]

/-- The name in procedural kernel names. -/
def shortName : Activation → String
  | identity => "identity"
  | relu => "relu"
  | gelu => "gelu"
  | silu => "silu"
  | sigmoid => "sigmoid"
  | tanh => "tanh"
  | hardSwish => "hardswish"

def tag : Activation → String
  | identity => "cutlass::epilogue::thread::Identity"
  | relu => "cutlass::epilogue::thread::ReLu"
  | gelu => "cutlass::epilogue::thread::GELU_taylor"
  | silu => "cutlass::epilogue::thread::SiLu"
  | sigmoid => "cutlass::epilogue::thread::Sigmoid"
  | tanh => "cutlass::epilogue::thread::Tanh"
  | hardSwish => "cutlass::epilogue::thread::HardSwish"

def ofShortName? (name : String) : Option Activation :=
  all.find? fun activation => activation.shortName == name

/-- The square root of two over pi. -/
def gaussianScale : Binary32 := ⟨0x3f4c422a⟩

/-- The cubic coefficient 0.044715. -/
def gaussianCubic : Binary32 := ⟨0x3d372713⟩

def half : Binary32 := ⟨0x3f000000⟩

def three : Binary32 := .ofInt 3

def six : Binary32 := .ofInt 6

/-- The host reference. The Gaussian unit is the hyperbolic tangent approximation. -/
def apply (activation : Activation) (x : Binary32) : Binary32 :=
  match activation with
  | identity => x
  | relu => x.positivePart
  | gelu =>
      half * x *
        (.one + (gaussianScale * (x + gaussianCubic * x * x * x)).hyperbolicTangent)
  | silu => x / (.one + (-x).exponential)
  | sigmoid => .one / (.one + (-x).exponential)
  | tanh => x.hyperbolicTangent
  | hardSwish => x * (x + three).clamp .zero six / six

/-- Whether the result needs no transcendental function. -/
def isRational : Activation → Bool
  | identity => true
  | relu => true
  | hardSwish => true
  | _ => false

instance : Named Activation where
  all := all
  name
    | hardSwish => "hard_swish"
    | activation => activation.shortName

end Activation

inductive EpilogueKind where
  | linearCombination
  /-- The result is cut to the range of the output type. -/
  | linearCombinationClamp
  deriving DecidableEq, Repr, Inhabited

instance : Named EpilogueKind where
  all := [.linearCombination, .linearCombinationClamp]
  name
    | .linearCombination => "linear_combination"
    | .linearCombinationClamp => "linear_combination_clamp"

structure Epilogue where
  kind : EpilogueKind
  elementOutput : ElementType
  elementAccumulator : ElementType
  elementScalar : ElementType
  elementsPerAccess : UInt32
  activation : Activation
  deriving DecidableEq, Repr, Inhabited

namespace Epilogue

def linearCombination (elementOutput : ElementType) (elementsPerAccess : UInt32)
    (elementAccumulator elementScalar : ElementType) : Epilogue where
  kind := .linearCombination
  elementOutput := elementOutput
  elementAccumulator := elementAccumulator
  elementScalar := elementScalar
  elementsPerAccess := elementsPerAccess
  activation := .identity

def withActivation (epilogue : Epilogue) (activation : Activation) : Epilogue :=
  { epilogue with activation }

def clamped (epilogue : Epilogue) : Epilogue :=
  { epilogue with kind := .linearCombinationClamp }

/-- The template of the functor with its first argument, if it takes an activation. -/
def template (epilogue : Epilogue) : String :=
  match epilogue.kind, epilogue.activation with
  | .linearCombination, .identity => "LinearCombination<"
  | .linearCombinationClamp, .identity => "LinearCombinationClamp<"
  | _, activation => "LinearCombinationGeneric<" ++ activation.tag ++ ", "

/-- The type of the functor in an emitted template instantiation. -/
def emit (epilogue : Epilogue) : String :=
  "cutlass::epilogue::thread::" ++ epilogue.template ++ epilogue.elementOutput.tag ++ ", " ++
    Text.decimal epilogue.elementsPerAccess.toNat ++ ", " ++ epilogue.elementAccumulator.tag ++
    ", " ++ epilogue.elementScalar.tag ++ ">"

/-- What a procedural name ends with; a plain linear combination adds nothing. -/
def proceduralSuffix (epilogue : Epilogue) : String :=
  (if epilogue.activation = .identity then "" else "_" ++ epilogue.activation.shortName) ++
    (if epilogue.kind = .linearCombinationClamp then "_clamp" else "")

/-- Cuts a result to the range of an output type. Integers round to nearest first, and a tie goes
away from zero. -/
def saturate (element : ElementType) (value : Binary32) : Binary32 :=
  match element with
  | .s8 => value.roundAway.clamp (.ofInt (-128)) (.ofInt 127)
  | .u8 => value.roundAway.clamp .zero (.ofInt 255)
  | .s32 => value.roundAway.clamp (.ofInt Int32.minValue.toInt)
      (.ofInt Int32.maxValue.toInt)
  | .f16 => value.clamp (.ofInt (-65504)) (.ofInt 65504)
  | _ => value

/-- The host reference for one output element. -/
def apply (epilogue : Epilogue) (alpha beta accumulator source : Binary32) : Binary32 :=
  let value := epilogue.activation.apply (alpha * accumulator + beta * source)
  match epilogue.kind with
  | .linearCombination => value
  | .linearCombinationClamp => saturate epilogue.elementOutput value

instance : JsonForm Epilogue where
  toJson epilogue := .object
    [("kind", toJson epilogue.kind), ("element_output", toJson epilogue.elementOutput),
      ("element_accumulator", toJson epilogue.elementAccumulator),
      ("element_epilogue", toJson epilogue.elementScalar),
      ("elements_per_access", toJson epilogue.elementsPerAccess),
      ("activation", toJson epilogue.activation)]
  ofJson? json := do
    match ← json.record? ["kind", "element_output", "element_accumulator", "element_epilogue",
      "elements_per_access", "activation"] with
    | [kind, elementOutput, elementAccumulator, elementScalar, elementsPerAccess, activation] =>
        some
          { kind := ← Json.required? EpilogueKind kind
            elementOutput := ← Json.required? ElementType elementOutput
            elementAccumulator := ← Json.required? ElementType elementAccumulator
            elementScalar := ← Json.required? ElementType elementScalar
            elementsPerAccess := ← Json.required? UInt32 elementsPerAccess
            activation := ← Json.required? Activation activation }
    | _ => none

end Epilogue

end DeviceKernels
