import DeviceKernels.Artifact.Key
import DeviceKernels.Compiler.Error
import DeviceKernels.Json.Reader
import DeviceKernels.Text.Instant

namespace DeviceKernels

/-- A compiled module and the kernels that it exports. -/
structure Artifact where
  key : ArtifactKey
  kernelNames : List String
  binary : Bytes
  arch : UInt32
  compiler : String
  createdAt : Instant
  deriving DecidableEq

namespace Artifact

def digest (artifact : Artifact) : String := Sha256.hexDigest artifact.binary

def exports (artifact : Artifact) (name : String) : Bool := artifact.kernelNames.contains name

end Artifact

/-- The stored description of an artifact, which may be anything of the right form. -/
structure ArtifactMetadata where
  key : String
  kernelNames : List String
  arch : UInt32
  compiler : String
  createdAt : Instant
  digest : String
  size : Nat
  deriving DecidableEq, Repr

instance : JsonForm Instant where
  toJson instant := .text instant.render
  ofJson? json := json.text?.bind Instant.parse?

namespace ArtifactMetadata

def fieldNames : List String :=
  ["key", "kernel_names", "arch", "compiler", "created_at", "binary_sha256", "size_bytes"]

def toJson (metadata : ArtifactMetadata) : Json := .object
  [("key", .text metadata.key), ("kernel_names", .ofTexts metadata.kernelNames),
    ("arch", JsonForm.toJson metadata.arch), ("compiler", .text metadata.compiler),
    ("created_at", JsonForm.toJson metadata.createdAt), ("binary_sha256", .text metadata.digest),
    ("size_bytes", JsonForm.toJson metadata.size)]

/-- Whether no field of the description occurs twice. -/
def hasDistinctFields : Json → Bool
  | .object fields =>
      fieldNames.all fun name => (fields.filter fun entry => entry.1 == name).length ≤ 1
  | _ => true

/-- Every field must be there once; other fields are ignored. -/
def ofJson? (json : Json) : Option ArtifactMetadata := do
  if !hasDistinctFields json then none
  match ← json.record? fieldNames with
  | [key, kernelNames, arch, compiler, createdAt, digest, size] =>
      some
        { key := ← Json.required? String key
          kernelNames := ← Json.required? (List String) kernelNames
          arch := ← Json.required? UInt32 arch
          compiler := ← Json.required? String compiler
          createdAt := ← Json.required? Instant createdAt
          digest := ← Json.required? String digest
          size := ← Json.required? Nat size }
  | _ => none

def render (metadata : ArtifactMetadata) : String := metadata.toJson.pretty

def parse (text : String) : Except CompileError ArtifactMetadata :=
  match (Json.parseRecord? fieldNames text).bind ofJson? with
  | some metadata => .ok metadata
  | none => .error (.metadata .unreadable)

/-- Whether a text is a digest in hexadecimal digits of either case. -/
def isDigest (text : String) : Bool :=
  Text.utf8Length text == 64 && text.toList.all fun character => (Text.hexValue? character).isSome

def validate (metadata : ArtifactMetadata) : Except MetadataFault Unit :=
  if !isDigest metadata.key then .error .key
  else if !isDigest metadata.digest then .error .digest
  else if metadata.kernelNames.isEmpty then .error .noKernels
  else .ok ()

end ArtifactMetadata

namespace Artifact

def metadata (artifact : Artifact) : ArtifactMetadata where
  key := artifact.key.toHex
  kernelNames := artifact.kernelNames
  arch := artifact.arch
  compiler := artifact.compiler
  createdAt := artifact.createdAt
  digest := artifact.digest
  size := artifact.binary.length

/-- The artifact of a description and a binary that has the described digest. -/
def ofParts (metadata : ArtifactMetadata) (binary : Bytes) : Except CompileError Artifact := do
  metadata.validate.mapError .metadata
  match ArtifactKey.ofHex? metadata.key with
  | none => .error (.metadata .key)
  | some key =>
      let actual := Sha256.hexDigest binary
      if actual != metadata.digest then
        .error (.hashMismatch metadata.key metadata.digest actual)
      else
        .ok
          { key
            kernelNames := metadata.kernelNames
            binary
            arch := metadata.arch
            compiler := metadata.compiler
            createdAt := metadata.createdAt }

end Artifact

end DeviceKernels
