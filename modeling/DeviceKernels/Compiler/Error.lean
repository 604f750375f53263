import DeviceKernels.Files.Directory
import DeviceKernels.Text.Numeral

namespace DeviceKernels

/-- Why stored metadata does not describe an artifact. -/
inductive MetadataFault where
  | unreadable
  | key
  | digest
  | noKernels
  /-- The metadata stored under one key names another. -/
  | foreignKey (short named : String)
  | noBinary (short : String)
  deriving DecidableEq, Repr

def MetadataFault.message : MetadataFault → String
  | unreadable => "invalid JSON"
  | key => "key must be 64 hex characters"
  | digest => "binary_sha256 must be 64 hex characters"
  | noKernels => "artifact exports no kernels"
  | foreignKey short named => "sidecar for " ++ short ++ " names " ++ named
  | noBinary short => "binary for " ++ short ++ " is missing"

inductive CompileError where
  | emptyModule
  /-- A process that a signal ended has no status. -/
  | compilerFailed (compiler : String) (status : Option Int) (diagnostics : String)
  | missingOutput (path : String)
  | file (error : FileError)
  | hashMismatch (key expected actual : String)
  | metadata (fault : MetadataFault)
  /-- The memory layer would hold no artifact. -/
  | noCapacity
  /-- A number in a source is no word, and the program stopped. -/
  | stopped
  deriving DecidableEq, Repr

namespace CompileError

def statusText : Option Int → String
  | none => "None"
  | some status => "Some(" ++ Text.signedDecimal status ++ ")"

def message : CompileError → String
  | emptyModule => "Module contains no operations"
  | compilerFailed compiler status diagnostics =>
      "Compiler " ++ compiler ++ " failed (status " ++ statusText status ++ "): " ++ diagnostics
  | missingOutput path => "Compiler produced no output at " ++ path
  | file error => "I/O error: " ++ error.message
  | hashMismatch key expected actual =>
      "Hash mismatch for artifact " ++ key ++ ": expected " ++ expected ++ ", got " ++ actual
  | metadata fault => "Invalid artifact metadata: " ++ fault.message
  | noCapacity => "Unsupported: max_memory_entries must be at least 1"
  | stopped => "attempt to multiply with overflow"

/-- Whether a stored entry with this error should be thrown away and made again. -/
def isCorruption : CompileError → Bool
  | hashMismatch .. => true
  | metadata _ => true
  | _ => false

end CompileError

end DeviceKernels
