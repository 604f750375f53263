import DeviceKernels.Compiler.Error
import DeviceKernels.Compiler.Options
import DeviceKernels.Digest.Sha256

/-
Compilers. A compiler answers with a binary or an error and moves the world that it works in.
-/

namespace DeviceKernels

structure Compiler (World : Type) where
  name : String
  compile : World → String → CompileOptions → Except CompileError Bytes × World

/-- A compiler that computes its binary from its input. -/
structure StandIn where
  invocations : Nat
  /-- The diagnostics of every compilation while they are set. -/
  failure : Option String
  deriving DecidableEq, Repr

namespace StandIn

def fresh : StandIn := ⟨0, none⟩

def compilerName : String := "mock"

/-- A mark and the digest of the source and the options. -/
def binary (source : String) (options : CompileOptions) : Bytes :=
  Text.utf8 "FORGEBIN" ++ Sha256.digest (Text.utf8 source ++ Text.utf8 options.fingerprint)

def compile (world : StandIn) (source : String) (options : CompileOptions) :
    Except CompileError Bytes × StandIn :=
  let result := match world.failure with
    | some diagnostics => .error (.compilerFailed compilerName (some 1) diagnostics)
    | none => .ok (binary source options)
  (result, { world with invocations := world.invocations + 1 })

def compiler : Compiler StandIn := ⟨compilerName, compile⟩

end StandIn

end DeviceKernels
