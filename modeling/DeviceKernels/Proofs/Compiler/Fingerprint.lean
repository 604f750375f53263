import DeviceKernels.Artifact.Key
import DeviceKernels.Compiler.Command
import DeviceKernels.Proofs.Text.Encoding
import DeviceKernels.Proofs.Text.Parts
import DeviceKernels.Proofs.Text.Reading
import Mathlib.Data.Set.Function

/-
What fingerprints and keys tell of the options. A fingerprint tells the two numbers, and one text
that lists the flags and the include paths. The lists can be told from that text if the marks in
it are in no flag and in no path.
-/

namespace DeviceKernels

namespace CompileOptions

variable {first second : CompileOptions}

def includeMark : String := ";includes="

/-- The flags and the include paths in a fingerprint. -/
def listing (options : CompileOptions) : String :=
  Text.join " " options.flags ++ (includeMark ++ Text.join ":" options.includePaths)

theorem fingerprint_eq (options : CompileOptions) :
    options.fingerprint = "arch=" ++ (Text.decimal options.arch.toNat ++ (";O" ++
      (Text.decimal options.optimization.toNat ++ (";flags=" ++ options.listing)))) := by
  simp only [fingerprint, listing, includeMark, String.append_assoc]

/-- A fingerprint tells the two numbers and the listing, and nothing else. -/
theorem fingerprint_eq_iff : first.fingerprint = second.fingerprint ↔
    first.arch = second.arch ∧ first.optimization = second.optimization ∧
      first.listing = second.listing := by
  rw [fingerprint_eq, fingerprint_eq]
  constructor
  · intro same
    have afterArch : ∀ rest, Text.Outside Text.isDigit (";O" ++ rest) :=
      Text.Outside.append (by decide) (by decide)
    have afterOptimization : ∀ rest, Text.Outside Text.isDigit (";flags=" ++ rest) :=
      Text.Outside.append (by decide) (by decide)
    obtain ⟨arch, rest⟩ := Text.word_cancel (afterArch _) (afterArch _)
      ((String.append_right_inj "arch=").1 same)
    obtain ⟨optimization, listing⟩ := Text.append_cancel (Text.decimal_within _)
      (Text.decimal_within _) (afterOptimization _) (afterOptimization _)
      ((String.append_right_inj ";O").1 rest)
    exact ⟨arch, UInt8.toNat_inj.1 (Nat.repr_inj.1 optimization),
      (String.append_right_inj ";flags=").1 listing⟩
  · rintro ⟨arch, optimization, listing⟩
    rw [arch, optimization, listing]

/-- The marks of a listing are in no flag and in no include path. -/
structure Separable (options : CompileOptions) : Prop where
  flags : Text.SeparatedBy ' ' options.flags
  unmarked : ∀ flag ∈ options.flags, ¬ includeMark.toList <:+: flag.toList
  includePaths : Text.SeparatedBy ':' options.includePaths

instance (options : CompileOptions) : Decidable options.Separable :=
  decidable_of_iff (Text.SeparatedBy ' ' options.flags ∧
      (∀ flag ∈ options.flags, ¬ includeMark.toList <:+: flag.toList) ∧
        Text.SeparatedBy ':' options.includePaths)
    ⟨fun all => ⟨all.1, all.2.1, all.2.2⟩,
      fun separable => ⟨separable.flags, separable.unmarked, separable.includePaths⟩⟩

/-- The mark before the include paths does not occur in the joined flags. -/
theorem Separable.unmarked_join {options : CompileOptions} (separable : options.Separable) :
    ¬ includeMark.toList <:+: (Text.join " " options.flags).toList := by
  have single : " ".toList = [' '] := rfl
  rw [Text.toList_join single]
  intro occurs
  obtain ⟨characters, member, inside⟩ :=
    Text.infix_of_infix_intercalate (by decide) (by decide) occurs
  obtain ⟨flag, isFlag, rfl⟩ := List.mem_map.1 member
  exact separable.unmarked flag isFlag inside

/-- A listing tells the flags and the include paths of separable options. -/
theorem Separable.listing_cancel (separable : first.Separable) (separable' : second.Separable)
    (same : first.listing = second.listing) :
    first.flags = second.flags ∧ first.includePaths = second.includePaths := by
  have mark : includeMark.toList = ';' :: "includes=".toList := by decide
  have characters := congrArg String.toList same
  simp only [listing, String.toList_append, mark] at characters
  obtain ⟨flags, includePaths⟩ := Text.mark_cancel (by decide)
    (mark ▸ separable.unmarked_join) (mark ▸ separable'.unmarked_join) characters
  exact ⟨separable.flags.join_cancel separable'.flags rfl (String.toList_inj.1 flags),
    separable.includePaths.join_cancel separable'.includePaths rfl
      (String.toList_inj.1 includePaths)⟩

/-- A fingerprint tells separable options. -/
theorem fingerprint_injOn : Set.InjOn fingerprint {options | options.Separable} := by
  intro first separable second separable' same
  obtain ⟨arch, optimization, listing⟩ := fingerprint_eq_iff.1 same
  obtain ⟨flags, includePaths⟩ := Separable.listing_cancel separable separable' listing
  cases first
  cases second
  simp_all only

end CompileOptions

namespace ArtifactKey

variable {source compiler : String} {first second : CompileOptions}

/-- The image of a key tells the fingerprint of the options. -/
theorem fingerprint_eq_of_image_eq
    (same : image source first compiler = image source second compiler) :
    first.fingerprint = second.fingerprint := by
  have tails := (List.cons.inj (List.append_cancel_left same)).2
  have options := (List.cons.inj (List.append_cancel_left tails)).2
  have lengths : (0 :: (Text.utf8 compiler ++ 0 :: Number.word32 first.arch)).length =
      (0 :: (Text.utf8 compiler ++ 0 :: Number.word32 second.arch)).length := by
    simp only [List.length_cons, List.length_append, Number.word32, Number.lengthLittleEndian]
  exact Text.utf8_injective (List.append_inj_left' options lengths)

/-- Options with one fingerprint have one key, for every source and compiler. -/
theorem compute_eq_of_fingerprint_eq (same : first.fingerprint = second.fingerprint) :
    compute source first compiler = compute source second compiler := by
  simp only [compute, image, same, (CompileOptions.fingerprint_eq_iff.1 same).1]

end ArtifactKey

/-- Separable options with one fingerprint give every compiler the same arguments, so options that
invoke a compiler differently have different keys if the digest tells their images apart. -/
theorem CompileOptions.separable_keyed {first second : CompileOptions}
    (separable : first.Separable) (separable' : second.Separable) (compiler : CommandCompiler) :
    (first.fingerprint = second.fingerprint → ∀ input output,
      compiler.arguments first input output = compiler.arguments second input output) ∧
    ∀ source, Set.InjOn Sha256.digest {ArtifactKey.image source first compiler.name,
        ArtifactKey.image source second compiler.name} →
      ∀ input output, compiler.arguments first input output ≠
          compiler.arguments second input output →
        ArtifactKey.compute source first compiler.name ≠
          ArtifactKey.compute source second compiler.name := by
  have told : first.fingerprint = second.fingerprint → first = second :=
    fun same => fingerprint_injOn separable separable' same
  refine ⟨fun same input output => by rw [told same], ?_⟩
  intro source apart input output differ same
  have images := apart (Set.mem_insert _ _) (Set.mem_insert_of_mem _ rfl)
    (congrArg ArtifactKey.bytes same)
  exact differ (by rw [told (ArtifactKey.fingerprint_eq_of_image_eq images)])

/-- One more flag gives another key. -/
theorem CompileOptions.separable_keyed_verbose :
    let plain := { standard with flags := ["-g"], includePaths := ["/opt"] }
    let verbose := { standard with flags := ["-g", "-v"], includePaths := ["/opt"] }
    let compiler : CommandCompiler := ⟨"/usr/bin/nvcc", .nvcc⟩
    plain.Separable ∧ verbose.Separable ∧
      ArtifactKey.compute "k" plain compiler.name ≠
        ArtifactKey.compute "k" verbose compiler.name := by
  intro plain verbose compiler
  have separable : plain.Separable := by decide
  have separable' : verbose.Separable := by decide
  have digests : Sha256.digest (ArtifactKey.image "k" plain compiler.name) ≠
      Sha256.digest (ArtifactKey.image "k" verbose compiler.name) := by decide +kernel
  have apart : Set.InjOn Sha256.digest {ArtifactKey.image "k" plain compiler.name,
      ArtifactKey.image "k" verbose compiler.name} :=
    Set.injOn_pair.2 fun same => absurd same digests
  exact ⟨separable, separable', (separable_keyed separable separable' compiler).2 "k" apart
    "module.cu" "module.bin" (by decide)⟩

namespace CompileOptions

/-- A space between two flags and a space in one flag look alike. -/
theorem fingerprint_joined_flags (options : CompileOptions) (flag next : String)
    (flags : List String) :
    { options with flags := (flag ++ " " ++ next) :: flags }.fingerprint =
      { options with flags := flag :: next :: flags }.fingerprint := by
  rw [fingerprint_eq_iff]
  refine ⟨rfl, rfl, ?_⟩
  cases flags with
  | nil => rfl
  | cons other flags =>
      simp only [listing, Text.join, String.intercalate_cons_cons, String.append_assoc]

/-- The compiler gets one argument for each flag, whatever is in it. -/
theorem length_arguments (compiler : CommandCompiler) (options : CompileOptions)
    (input output : String) :
    (compiler.arguments options input output).length =
      compiler.style.baseArguments.length +
        (compiler.style.archArguments options.arch).length +
          options.includePaths.length + options.flags.length + 4 := by
  simp only [CommandCompiler.arguments, List.length_append, List.length_map, List.length_cons,
    List.length_nil]
  omega

/-- One flag with a space and the two flags around the space have one fingerprint and one key for
every source, and no compiler gets the same arguments from both. -/
theorem split_flags_share_key :
    let whole := { standard with flags := ["-Xptxas -v"] }
    let split := { standard with flags := ["-Xptxas", "-v"] }
    whole.fingerprint = split.fingerprint ∧
      (∀ source compiler, ArtifactKey.compute source whole compiler =
        ArtifactKey.compute source split compiler) ∧
      ∀ (compiler : CommandCompiler) input output,
        compiler.arguments whole input output ≠ compiler.arguments split input output := by
  intro whole split
  have same : whole.fingerprint = split.fingerprint :=
    fingerprint_joined_flags standard "-Xptxas" "-v" []
  refine ⟨same, fun _ _ => ArtifactKey.compute_eq_of_fingerprint_eq same, ?_⟩
  intro compiler input output equal
  have lengths := congrArg List.length equal
  rw [length_arguments, length_arguments] at lengths
  exact absurd lengths (by simp [whole, split])

end CompileOptions

end DeviceKernels
