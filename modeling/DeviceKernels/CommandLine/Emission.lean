import DeviceKernels.CommandLine.Arguments
import DeviceKernels.Operation.Catalog
import DeviceKernels.Operation.ModuleSource

namespace DeviceKernels

inductive EmissionTarget where
  | gemm (kind : GemmKind) (layouts : Layout × Layout)
  | convolution (kind : ConvolutionKind)
  | reduction
  deriving DecidableEq, Repr

inductive EmissionError where
  | noTarget
  | missing (fault : MissingValue)
  | arch (value : String)
  | element (value : String)
  | kind (value : String)
  | layout (value : String)
  | convolution (value : String)
  | target (value : String)
  | operation (error : ArgumentError)
  deriving DecidableEq, Repr

def EmissionError.message : EmissionError → String
  | noTarget => "Missing emit target"
  | missing fault => fault.message
  | arch value => "Invalid --arch: " ++ value
  | element value => "Unsupported --dtype: " ++ value
  | kind value => "Unknown --kind: " ++ value
  | layout value => "Invalid --layout: " ++ value
  | convolution value => "Unknown --conv: " ++ value
  | target value => "Unknown emit target: " ++ value
  | operation error => error.message

structure EmissionRequest where
  target : EmissionTarget
  arch : UInt32
  element : ElementType
  deriving DecidableEq, Repr

namespace EmissionRequest

/-- Reads the value of an option, if it is given. -/
def option {Value : Type} (arguments : List String) (name : String) (absent : Value)
    (read : String → Except EmissionError Value) : Except EmissionError Value := do
  match ← (Arguments.value? arguments name).mapError .missing with
  | none => .ok absent
  | some value => read value

def readArch (value : String) : Except EmissionError UInt32 :=
  match Text.readNatural? (UInt32.size - 1) value with
  | some arch => .ok (UInt32.ofNat arch)
  | none => .error (.arch value)

/-- An element type that the catalog has a tile for. -/
def readElement (value : String) : Except EmissionError ElementType :=
  match (ElementType.ofShortName? value).filter Catalog.elementTypes.contains with
  | some element => .ok element
  | none => .error (.element value)

def readGemmKind (value : String) : Except EmissionError GemmKind :=
  if value == "universal" then .ok .universal
  else if value == "streamk" || value == "stream-k" then .ok .streamK
  else if value == "grouped" then .ok .grouped
  else .error (.kind value)

def readLayouts (value : String) : Except EmissionError (Layout × Layout) :=
  match Layout.ofLetters? value with
  | some layouts => .ok layouts
  | none => .error (.layout value)

def readConvolutionKind (value : String) : Except EmissionError ConvolutionKind :=
  match Named.ofName? value with
  | some kind => .ok kind
  | none => .error (.convolution value)

def readTarget (arguments : List String) (name : String) : Except EmissionError EmissionTarget := do
  if name == "gemm" then
    let kind ← option arguments "--kind" .universal readGemmKind
    .ok (.gemm kind (← option arguments "--layout" Catalog.transposed readLayouts))
  else if name == "conv2d" then
    .ok (.convolution (← option arguments "--conv" .fprop readConvolutionKind))
  else if name == "reduction" then .ok .reduction
  else .error (.target name)

/-- Reads the arguments of a request; the first one is the target. -/
def parse (arguments : List String) (defaultArch : UInt32) :
    Except EmissionError EmissionRequest := do
  match arguments with
  | [] => .error .noTarget
  | name :: _ =>
      let arch ← option arguments "--arch" defaultArch readArch
      let element ← option arguments "--dtype" .f16 readElement
      .ok ⟨← readTarget arguments name, arch, element⟩

def kernel (request : EmissionRequest) : Except ArgumentError Kernel := do
  match request.target with
  | .gemm kind layouts => .ok (← Catalog.gemm request.arch request.element layouts kind).kernel
  | .convolution kind => .ok (← Catalog.convolution request.arch request.element kind).kernel
  | .reduction => .ok (Catalog.reduction request.arch request.element).kernel

/-- The kernel and a module for it alone. -/
def render (request : EmissionRequest) : Except EmissionError (Kernel × String) := do
  let kernel ← request.kernel.mapError .operation
  .ok (kernel, moduleHeader ++ ModuleSource.body [kernel])

end EmissionRequest

end DeviceKernels
