import DeviceKernels.Extent.Basic
import DeviceKernels.Number.Arithmetic

/-
The output extent of a problem follows from the input, the filter, the padding, the stride and the
dilation. The test of the extents multiplies them in 64-bit words, which three of them can leave.
-/

namespace DeviceKernels

open Number

/-- A pair of words for the two dimensions of an image. -/
structure ImagePair where
  height : Int32
  width : Int32
  deriving DecidableEq, Repr, Inhabited

instance : JsonForm ImagePair where
  toJson pair := toJson [pair.height, pair.width]
  ofJson? json :=
    match json.as? (List Int32) with
    | some [height, width] => some ⟨height, width⟩
    | _ => none

structure ConvolutionProblem where
  n : Int32
  h : Int32
  w : Int32
  c : Int32
  k : Int32
  r : Int32
  s : Int32
  padding : ImagePair
  stride : ImagePair
  dilation : ImagePair
  p : Int32
  q : Int32
  mode : Int32
  splitKSlices : Int32
  groups : Int32
  deriving DecidableEq, Repr, Inhabited

/-- Why a problem is refused. -/
inductive ConvolutionFault where
  | emptyExtent (problem : ConvolutionProblem)
  | stride
  | dilation
  | padding
  | filterTooLarge (problem : ConvolutionProblem)
  | groups (problem : ConvolutionProblem)
  | splitK
  | overflow (name : String) (product : Int)
  /-- The test itself left the 64-bit words, and the program stopped. -/
  | stopped
  deriving DecidableEq, Repr

namespace ConvolutionProblem

/-- The number of filter positions along one dimension: none when the stride is not positive, when
the dilated filter exceeds the padded input, or when the number does not fit a word. -/
def outputExtent (input filter padding stride dilation : Int32) : Int32 :=
  if stride ≤ 0 then 0
  else
    let span := input.toInt + 2 * padding.toInt - dilation.toInt * (filter.toInt - 1) - 1
    if span < 0 then 0
    else
      let positions := span / stride.toInt + 1
      if positions ≤ Int32.maxValue.toInt then Int32.ofInt positions else 0

/-- The problem of an input and a filter, with the output extent computed. -/
def ofExtents (input filter : TensorExtent) (padding stride dilation : ImagePair)
    (mode splitKSlices groups : Int32) : ConvolutionProblem where
  n := input.n
  h := input.h
  w := input.w
  c := input.c
  k := filter.n
  r := filter.h
  s := filter.w
  padding := padding
  stride := stride
  dilation := dilation
  p := outputExtent input.h filter.h padding.height stride.height dilation.height
  q := outputExtent input.w filter.w padding.width stride.width dilation.width
  mode := mode
  splitKSlices := splitKSlices
  groups := groups

def channelsPerGroup (problem : ConvolutionProblem) : Int32 := problem.c / max problem.groups 1

def activationExtent (problem : ConvolutionProblem) : TensorExtent :=
  ⟨problem.n, problem.h, problem.w, problem.c⟩

def filterExtent (problem : ConvolutionProblem) : TensorExtent :=
  ⟨problem.k, problem.r, problem.s, problem.channelsPerGroup⟩

def outputTensor (problem : ConvolutionProblem) : TensorExtent :=
  ⟨problem.n, problem.p, problem.q, problem.k⟩

def hasUnitStride (problem : ConvolutionProblem) : Bool :=
  problem.stride.height == 1 && problem.stride.width == 1

/-- The words of a problem in the order of its image. -/
def words (problem : ConvolutionProblem) : List Int32 :=
  [problem.n, problem.h, problem.w, problem.c, problem.k, problem.r, problem.s,
    problem.padding.height, problem.padding.width, problem.stride.height, problem.stride.width,
    problem.dilation.height, problem.dilation.width, problem.p, problem.q, problem.mode,
    problem.splitKSlices, problem.groups]

def image (problem : ConvolutionProblem) : Bytes := problem.words.flatMap Number.signedWord32

/-- The names of the words in a message. -/
def wordNames : List String :=
  ["n", "h", "w", "c", "k", "r", "s", "pad_h", "pad_w", "stride_h", "stride_w", "dilation_h",
    "dilation_w", "p", "q", "mode", "split_k_slices", "groups"]

def label (problem : ConvolutionProblem) : String :=
  "Conv2dProblemSize \x7b " ++
    Text.join ", " (wordNames.zipWith (fun name word =>
      name ++ ": " ++ Text.signedDecimal word.toInt) problem.words) ++ " \x7d"

/-- The products of extents that must fit a word, with their names. -/
def extentProducts (problem : ConvolutionProblem) : List (String × Int) :=
  [("N*P*Q", problem.n.toInt * problem.p.toInt * problem.q.toInt),
    ("N*H*W", problem.n.toInt * problem.h.toInt * problem.w.toInt),
    ("R*S*C", problem.r.toInt * problem.s.toInt * problem.c.toInt),
    ("K*R*S", problem.k.toInt * problem.r.toInt * problem.s.toInt)]

/-- The test of one product. A product of two words is a 64-bit word, so only the whole product can
be none. -/
def checkProduct (arithmetic : Arithmetic) (name : String) (product : Int) :
    Except ConvolutionFault Unit :=
  match arithmetic.word? product with
  | none => .error .stopped
  | some product =>
      if Int32.maxValue.toInt < product.toInt then .error (.overflow name product.toInt)
      else .ok ()

/-- Faults are found in a fixed order, and the first one is reported. -/
def validateIn (problem : ConvolutionProblem) (arithmetic : Arithmetic) :
    Except ConvolutionFault Unit :=
  let extents := [problem.n, problem.h, problem.w, problem.c, problem.k, problem.r, problem.s]
  if extents.any (· ≤ 0) then .error (.emptyExtent problem)
  else if problem.stride.height ≤ 0 || problem.stride.width ≤ 0 then .error .stride
  else if problem.dilation.height ≤ 0 || problem.dilation.width ≤ 0 then .error .dilation
  else if problem.padding.height < 0 || problem.padding.width < 0 then .error .padding
  else if problem.p ≤ 0 || problem.q ≤ 0 then .error (.filterTooLarge problem)
  else if problem.groups ≤ 0 || problem.c % problem.groups != 0 ||
      problem.k % problem.groups != 0 then .error (.groups problem)
  else if problem.splitKSlices ≤ 0 then .error .splitK
  else problem.extentProducts.forM fun entry => checkProduct arithmetic entry.1 entry.2

/-- The test of a program that checks for overflow. -/
def validate (problem : ConvolutionProblem) : Except ConvolutionFault Unit :=
  problem.validateIn .checked

end ConvolutionProblem

def ConvolutionFault.message : ConvolutionFault → String
  | emptyExtent problem => "conv extents must be positive: " ++ problem.label
  | stride => "stride must be positive"
  | dilation => "dilation must be positive"
  | padding => "padding must be non-negative"
  | filterTooLarge problem =>
      "filter " ++ Text.signedDecimal problem.r.toInt ++ "x" ++
        Text.signedDecimal problem.s.toInt ++ " does not fit padded input " ++
        Text.signedDecimal problem.h.toInt ++ "x" ++ Text.signedDecimal problem.w.toInt
  | groups problem =>
      "groups " ++ Text.signedDecimal problem.groups.toInt ++ " must divide both C (" ++
        Text.signedDecimal problem.c.toInt ++ ") and K (" ++
        Text.signedDecimal problem.k.toInt ++ ")"
  | splitK => "split_k_slices must be at least 1"
  | overflow name product =>
      "implicit GEMM extent " ++ name ++ " = " ++ Text.signedDecimal product ++ " overflows i32"
  | stopped => "attempt to multiply with overflow"

end DeviceKernels
