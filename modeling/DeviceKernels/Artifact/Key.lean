import DeviceKernels.Compiler.Options
import DeviceKernels.Digest.Sha256
import DeviceKernels.Text.Utf8

/-
The keys of artifacts. A key is the digest of everything that decides a binary, so a different
input has a different key.
-/

namespace DeviceKernels

structure ArtifactKey where
  bytes : Bytes
  length : bytes.length = 32
  deriving DecidableEq

namespace ArtifactKey

/-- Separates the digests of this scheme from those of any other. -/
def scheme : String := "kernel-forge-artifact-v1"

/-- The bytes whose digest is the key: texts that end with a zero byte, and the architecture. -/
def image (source : String) (options : CompileOptions) (compiler : String) : Bytes :=
  Text.utf8 scheme ++ 0 :: (Text.utf8 source ++ 0 :: (Text.utf8 options.fingerprint ++
    0 :: (Text.utf8 compiler ++ 0 :: Number.word32 options.arch)))

def compute (source : String) (options : CompileOptions) (compiler : String) : ArtifactKey :=
  ⟨Sha256.digest (image source options compiler), Sha256.lengthDigest _⟩

def toHex (key : ArtifactKey) : String := Text.hex key.bytes

/-- Reads 64 hexadecimal digits of either case. -/
def ofHex? (text : String) : Option ArtifactKey := do
  let bytes ← Text.ofHex? text
  if length : bytes.length = 32 then some ⟨bytes, length⟩ else none

/-- The first twelve digits. -/
def short (key : ArtifactKey) : String := Text.hex (key.bytes.take 6)

theorem ofHexToHex (key : ArtifactKey) : ofHex? key.toHex = some key := by
  simp [ofHex?, toHex, Text.ofHexHex, key.length]

theorem toHexInjective {first second : ArtifactKey} (same : first.toHex = second.toHex) :
    first = second := by
  have read := ofHexToHex second
  rw [← same, ofHexToHex first] at read
  exact Option.some.inj read

end ArtifactKey

end DeviceKernels
