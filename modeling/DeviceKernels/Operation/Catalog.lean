import DeviceKernels.Operation.Convolution

namespace DeviceKernels.Catalog

open Operation

def elementTypes : List ElementType := [.f16, .bf16, .f32]

/-- The tiling of an element type and the alignment of its operands. -/
def tileFor (element : ElementType) : Except ArgumentError (TileDescription × UInt32) :=
  let matrixTile : TileDescription × UInt32 :=
    ({ block := ⟨128, 128, 32⟩
       stages := 3
       warps := ⟨2, 2, 1⟩
       instruction :=
         { shape := ⟨16, 8, 16⟩
           elementA := element
           elementB := element
           elementAccumulator := .f32
           opcodeClass := .tensorOp } }, 8)
  match element with
  | .f16 => .ok matrixTile
  | .bf16 => .ok matrixTile
  | .f32 => .ok
      ({ block := ⟨128, 128, 8⟩
         stages := 4
         warps := ⟨2, 4, 1⟩
         instruction :=
           { shape := ⟨1, 1, 1⟩
             elementA := element
             elementB := element
             elementAccumulator := .f32
             opcodeClass := .simt } }, 1)
  | other => .error (.descriptor (.noCatalogTile other))

def epilogueFor (element : ElementType) (alignment : UInt32) : Epilogue :=
  .linearCombination element alignment .f32 .f32

def gemm (arch : UInt32) (element : ElementType) (layouts : Layout × Layout) (kind : GemmKind) :
    Except ArgumentError GemmOperation := do
  let (tile, alignment) ← tileFor element
  GemmOperation.create kind arch tile ⟨element, layouts.1, alignment⟩
    ⟨element, layouts.2, alignment⟩ ⟨element, .rowMajor, alignment⟩
    (epilogueFor element alignment)

def convolution (arch : UInt32) (element : ElementType) (kind : ConvolutionKind) :
    Except ArgumentError ConvolutionOperation := do
  let (tile, alignment) ← tileFor element
  let operand : OperandDescription := ⟨element, .tensorNhwc, alignment⟩
  ConvolutionOperation.create kind .optimized arch tile operand operand operand
    (epilogueFor element alignment)

/-- A split-K reduction with 128-bit accesses. -/
def reduction (arch : UInt32) (element : ElementType) : ReductionOperation :=
  .create arch .f32 (epilogueFor element (UInt32.ofNat (max (128 / element.bits) 1)))

def transposed : Layout × Layout := (.rowMajor, .columnMajor)

/-- The layouts of the universal products, in the order of the catalog. -/
def layoutPairs : List (Layout × Layout) :=
  [transposed, (.columnMajor, .rowMajor), (.columnMajor, .columnMajor), (.rowMajor, .rowMajor)]

/-- The kernels of a half precision type. -/
def halfKernels (arch : UInt32) (element : ElementType) : Except ArgumentError (List Kernel) := do
  let universal ← layoutPairs.mapM fun layouts => gemm arch element layouts .universal
  let streamK ← gemm arch element transposed .streamK
  let convolutions ← [ConvolutionKind.fprop, .dgrad, .wgrad].mapM (convolution arch element)
  .ok (universal.map GemmOperation.kernel ++ [streamK.kernel] ++
    convolutions.map ConvolutionOperation.kernel ++ [(reduction arch element).kernel])

/-- Every standard kernel of an architecture. -/
def standardKernels (arch : UInt32) : Except ArgumentError (List Kernel) := do
  let half ← halfKernels arch .f16
  let brain ← halfKernels arch .bf16
  let single ← gemm arch .f32 transposed .universal
  .ok (half ++ brain ++ [single.kernel])

end DeviceKernels.Catalog
