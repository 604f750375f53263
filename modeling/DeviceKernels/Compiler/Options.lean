import DeviceKernels.Json.Form

namespace DeviceKernels

structure CompileOptions where
  arch : UInt32
  flags : List String
  includePaths : List String
  optimization : UInt8
  deriving DecidableEq, Repr

namespace CompileOptions

def standard : CompileOptions := ⟨80, [], [], 3⟩

instance : Inhabited CompileOptions := ⟨standard⟩

def fingerprint (options : CompileOptions) : String :=
  "arch=" ++ Text.decimal options.arch.toNat ++ ";O" ++ Text.decimal options.optimization.toNat ++
    ";flags=" ++ Text.join " " options.flags ++ ";includes=" ++ Text.join ":" options.includePaths

def toJson (options : CompileOptions) : Json := .object
  [("arch", JsonForm.toJson options.arch), ("flags", .ofTexts options.flags),
    ("include_paths", .ofTexts options.includePaths),
    ("opt_level", JsonForm.toJson options.optimization)]

end CompileOptions

end DeviceKernels
