import DeviceKernels.Config.Basic

namespace DeviceKernels

inductive ConfigWarning where
  | noCapability (family : DeviceFamily)
  | noGpuDescribed
  | poolExceedsDevice (pool device : Nat)
  | noCompiler (path : String)
  | cacheNotDirectory (path : String)
  deriving DecidableEq, Repr

namespace ConfigWarning

def message : ConfigWarning → String
  | noCapability family =>
      Variable.deviceFamily.name ++ "=" ++ Named.name family ++ " without " ++
        Variable.computeCapability.name ++ "; the CPU fallback will be used"
  | noGpuDescribed =>
      Variable.requireGpu.name ++ " is set but the device backend is cpu"
  | poolExceedsDevice pool device =>
      Variable.poolMaximum.name ++ " (" ++ Text.decimal pool ++ ") exceeds " ++
        Variable.deviceMemory.name ++ " (" ++ Text.decimal device ++ ")"
  | noCompiler path => Variable.compiler.name ++ " " ++ path ++ " does not exist"
  | cacheNotDirectory path => Variable.cachePath.name ++ " " ++ path ++ " is not a directory"

end ConfigWarning

namespace Config

/-- Whether an absolute path leads nowhere. A relative path may be searched for elsewhere. -/
def isMissingProgram (files : FileTree) (path : String) : Bool :=
  Text.startsWith path "/" && !(files.find path).isOk

def isRegularFile (files : FileTree) (path : String) : Bool :=
  match files.find path with
  | .ok (.file ..) => true
  | _ => false

def warnings (config : Config) (files : FileTree) : List ConfigWarning :=
  let device := config.device
  (if device.family != .cpu && device.computeCapability == 0 then
      [.noCapability device.family] else []) ++
    (if device.requireGpu && device.family == .cpu then [.noGpuDescribed] else []) ++
    (if device.totalMemory < config.pool.maximum then
      [.poolExceedsDevice config.pool.maximum device.totalMemory] else []) ++
    ((config.compilerProgram.toList.filter (isMissingProgram files)).map .noCompiler) ++
    ((config.cachePath.toList.filter (isRegularFile files)).map .cacheNotDirectory)

end Config

end DeviceKernels
