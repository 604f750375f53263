import DeviceKernels.Artifact.Metadata
import DeviceKernels.Proofs.Json.RoundTrip
import DeviceKernels.Proofs.Text.Instants

/-
Descriptions there and back. A description is one JSON object, and each of its fields is read back
from it as it was put there.
-/

namespace DeviceKernels

namespace Json

/-- Texts are read back from an array of texts. -/
theorem mapM_texts (texts : List String) : (texts.map Json.text).mapM (as? String) = some texts := by
  induction texts with
  | nil => rfl
  | cons text texts ih =>
      rw [List.map_cons, List.mapM_cons, ih]
      rfl

theorem areReadable_texts (depth : Nat) (texts : List String) :
    areReadable depth (texts.map Json.text) := by
  induction texts with
  | nil => rfl
  | cons text texts ih => rw [List.map_cons, areReadable, ih]; rfl

theorem required?_texts (texts : List String) :
    required? (List String) (some (ofTexts texts)) = some texts := mapM_texts texts

theorem natural?_ofNat {limit number : Nat} (small : number ≤ limit) :
    (ofNat number).natural? limit = some number := by
  have inside : (0 : Int) ≤ number ∧ (number : Int) ≤ limit := by omega
  rw [ofNat, natural?, if_pos inside, Int.toNat_natCast]

theorem required?_word (word : UInt32) :
    required? UInt32 (some (JsonForm.toJson word)) = some word := by
  have read : (ofNat word.toNat).natural? (UInt32.size - 1) = some word.toNat :=
    natural?_ofNat (Nat.le_pred_of_lt word.toNat_lt_size)
  change ((ofNat word.toNat).natural? (UInt32.size - 1)).map UInt32.ofNat = some word
  rw [read, Option.map_some, UInt32.ofNat_toNat]

theorem required?_natural {number : Nat} (small : number < UInt64.size) :
    required? Nat (some (JsonForm.toJson number)) = some number :=
  natural?_ofNat (Nat.le_pred_of_lt small)

theorem required?_instant {instant : Instant} (inRange : instant.InRange) :
    required? Instant (some (JsonForm.toJson instant)) = some instant := by
  simp only [required?, as?, JsonForm.ofJson?, JsonForm.toJson, text?, Option.bind_some,
    Instant.parse?_render inRange]

end Json

namespace ArtifactMetadata

variable {metadata : ArtifactMetadata}

/-- A description that can be read back: the instant and the size are in range. -/
structure InRange (metadata : ArtifactMetadata) : Prop where
  createdAt : metadata.createdAt.InRange
  size : metadata.size < UInt64.size

theorem isReadable_toJson (metadata : ArtifactMetadata) : Json.isReadable 128 metadata.toJson := by
  have names := Json.areReadable_texts 126 metadata.kernelNames
  simp only [toJson, Json.isReadable, Json.areReadableFields, Json.ofTexts, names]
  rfl

/-- The fields of the object that describes an artifact. -/
theorem record?_toJson (metadata : ArtifactMetadata) :
    hasDistinctFields metadata.toJson = true ∧ metadata.toJson.record? fieldNames = some
      [some (.text metadata.key), some (.ofTexts metadata.kernelNames),
        some (JsonForm.toJson metadata.arch), some (.text metadata.compiler),
        some (JsonForm.toJson metadata.createdAt), some (.text metadata.digest),
        some (JsonForm.toJson metadata.size)] :=
  ⟨rfl, rfl⟩

/-- Every field of a description is read back from the object that describes it. -/
theorem ofJson?_toJson (inRange : metadata.InRange) : ofJson? metadata.toJson = some metadata := by
  obtain ⟨distinct, fields⟩ := record?_toJson metadata
  have text (value : String) : Json.required? String (some (.text value)) = some value := by rfl
  rw [ofJson?, distinct, fields]
  simp only [Option.bind_eq_bind, Option.bind_some, text, Json.required?_texts, Json.required?_word,
    Json.required?_instant inRange.createdAt, Json.required?_natural inRange.size]
  rfl

/-- The text of a description is read as its object. -/
theorem parseRecord?_render (metadata : ArtifactMetadata) :
    Json.parseRecord? fieldNames metadata.render = some metadata.toJson :=
  Json.parseRecord?_pretty (isReadable_toJson metadata) (List.Subset.refl fieldNames)

/-- A description is read as it is written. -/
theorem parse_render (inRange : metadata.InRange) : parse metadata.render = .ok metadata := by
  rw [parse, parseRecord?_render, Option.bind_some, ofJson?_toJson inRange]

end ArtifactMetadata

end DeviceKernels
