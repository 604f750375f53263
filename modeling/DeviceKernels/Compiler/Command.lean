import DeviceKernels.Compiler.Basic
import DeviceKernels.Shell.Run
import DeviceKernels.Text.Boundary

namespace DeviceKernels

/-- How a program is told the language and the architecture. -/
inductive CommandStyle where
  | nvcc
  | sycl
  | plain
  deriving DecidableEq, Repr

namespace CommandStyle

instance : Named CommandStyle where
  all := [nvcc, sycl, plain]
  name
    | nvcc => "nvcc"
    | sycl => "sycl"
    | plain => "none"

def baseArguments : CommandStyle → List String
  | nvcc => ["-cubin", "-std=c++17"]
  | sycl => ["-fsycl", "-std=c++17"]
  | plain => []

def sourceName : CommandStyle → String
  | nvcc => "module.cu"
  | _ => "module.cpp"

/-- The target for which kernels are compiled ahead of time; other devices get portable code. -/
def syclTarget (arch : UInt32) : String :=
  if arch == 11 then "intel_gpu_pvc"
  else if arch == 12 then "intel_gpu_bmg_g21"
  else "spir64"

def archArguments (arch : UInt32) : CommandStyle → List String
  | nvcc => ["-arch=sm_" ++ Text.decimal arch.toNat]
  | sycl => ["-fsycl-targets=" ++ syclTarget arch]
  | plain => []

end CommandStyle

structure CommandCompiler where
  program : String
  style : CommandStyle
  deriving DecidableEq, Repr

namespace CommandCompiler

/-- The program's file name. -/
def name (compiler : CommandCompiler) : String :=
  (Path.fileName? compiler.program).getD "compiler"

/-- The arguments that compile a source file to an output file. -/
def arguments (compiler : CommandCompiler) (options : CompileOptions) (source output : String) :
    List String :=
  compiler.style.baseArguments ++ compiler.style.archArguments options.arch ++
    ["-O" ++ Text.decimal options.optimization.toNat] ++
    options.includePaths.map ("-I" ++ ·) ++ options.flags ++ ["-o", output, source]

/-- The bytes of diagnostics that an error keeps. -/
def maxDiagnosticBytes : Nat := 4096

/-- Diagnostics as text, cut at the last boundary within the limit if they are longer. -/
def keptDiagnostics (diagnostics : Bytes) : String :=
  let text := Text.ofUtf8Lossy diagnostics
  if Text.utf8Length text ≤ maxDiagnosticBytes then text
  else (Text.lastBoundary text maxDiagnosticBytes).before

/-- The directory of one compilation. -/
def workPlace : List String := [FileTree.rootName, "tmp", "build"]

def workPath (name : String) : String := "/tmp/build/" ++ name

def outputName : String := "module.bin"

def prepare (compiler : CommandCompiler) (tree : FileTree) (source : String) : FileTree :=
  let work := Directory.empty.put compiler.style.sourceName (.file (Text.utf8 source) false)
  match tree.makeDirectories "/tmp/build" with
  | .ok tree => tree.set workPlace work
  | .error _ => tree.set workPlace work

/-- What a finished program makes of the compilation. -/
def collect (compiler : CommandCompiler) (completed : Shell.Completed) :
    Except CompileError Bytes :=
  match completed.ending with
  | .signal => .error (.compilerFailed compiler.name none (keptDiagnostics completed.diagnostics))
  | .status 0 =>
      match (completed.tree.at? workPlace).getD .empty |>.read outputName with
      | .ok binary => .ok binary
      | .error .notFound => .error (.missingOutput (workPath outputName))
      | .error error => .error (.file error)
  | .status code =>
      .error (.compilerFailed compiler.name (some code) (keptDiagnostics completed.diagnostics))

/-- Compiles in a fresh directory, which is empty again afterwards. -/
def compile (compiler : CommandCompiler) (tree : FileTree) (source : String)
    (options : CompileOptions) : Except CompileError Bytes × FileTree :=
  let arguments := compiler.arguments options (workPath compiler.style.sourceName)
    (workPath outputName)
  match Shell.runProgram (compiler.prepare tree source) compiler.program arguments with
  | .error error => (.error (.file error), tree)
  | .ok completed => (compiler.collect completed, completed.tree.set workPlace .empty)

end CommandCompiler

/-- What compilers work in: the state of the stand-in and the files. -/
structure Toolchain where
  standIn : StandIn
  files : FileTree

namespace CommandCompiler

def compiler (command : CommandCompiler) : Compiler Toolchain where
  name := command.name
  compile toolchain source options :=
    let (result, files) := command.compile toolchain.files source options
    (result, { toolchain with files })

end CommandCompiler

namespace StandIn

/-- The stand-in among files. -/
def toolchainCompiler : Compiler Toolchain where
  name := compilerName
  compile toolchain source options :=
    let (result, standIn) := compile toolchain.standIn source options
    (result, { toolchain with standIn })

end StandIn

end DeviceKernels
