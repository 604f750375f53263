import DeviceKernels.Proofs.Compiler.Fingerprint

/-
The framing of keys. The image of a key is three texts that each end with a zero byte, and four
bytes of a number, which may be zero themselves.
-/

namespace DeviceKernels

namespace Text

/-- A character of joined parts is in the separator or in a part. -/
theorem mem_toList_join {character : Char} {separator : String} :
    ∀ {parts : List String}, character ∈ (join separator parts).toList →
      character ∈ separator.toList ∨ ∃ part ∈ parts, character ∈ part.toList
  | [], member => by simp [join] at member
  | [part], member => .inr ⟨part, List.mem_cons_self, by simpa [join] using member⟩
  | part :: next :: parts, member => by
      have joined : join separator (part :: next :: parts) =
          part ++ separator ++ join separator (next :: parts) := String.intercalate_cons_cons
      rw [joined, String.toList_append, String.toList_append, List.mem_append,
        List.mem_append] at member
      rcases member with (inPart | inSeparator) | later
      · exact .inr ⟨part, List.mem_cons_self, inPart⟩
      · exact .inl inSeparator
      · refine (mem_toList_join later).imp_right ?_
        rintro ⟨found, isPart, inside⟩
        exact ⟨found, List.mem_cons_of_mem part isPart, inside⟩

/-- Digits are not zero characters. -/
theorem zero_notMem_decimal (number : Nat) : '\x00' ∉ (decimal number).toList := by
  intro member
  exact absurd (List.all_eq_true.1 (decimal_within number) _ member) (by decide)

/-- A text without zero characters, and the bytes after the zero byte that ends it, can be told from
the joined bytes. -/
theorem utf8_zero_cancel {first second : String} {rest rest' : Bytes}
    (free : '\x00' ∉ first.toList) (free' : '\x00' ∉ second.toList) :
    utf8 first ++ 0 :: rest = utf8 second ++ 0 :: rest' ↔ first = second ∧ rest = rest' := by
  have unmarked {text : String} (free : '\x00' ∉ text.toList) : ¬ [0] <:+: utf8 text := by
    rwa [List.singleton_infix_iff, zero_mem_utf8]
  constructor
  · intro joined
    obtain ⟨same, tails⟩ :=
      mark_cancel List.not_mem_nil (unmarked free) (unmarked free') joined
    exact ⟨utf8_injective same, tails⟩
  · rintro ⟨rfl, rfl⟩
    rfl

end Text

/-- Different words have different bytes. -/
theorem Number.word32_injective : Function.Injective Number.word32 := by
  intro first second same
  have value (word : UInt32) : Number.ofLittleEndian (Number.word32 word) = word.toNat := by
    rw [Number.word32, Number.ofLittleEndianLittleEndian]
    exact Nat.mod_eq_of_lt word.toNat_lt
  exact UInt32.toNat_inj.1 (by rw [← value, same, value])

namespace CompileOptions

/-- No flag and no include path has a zero character. -/
structure ZeroFree (options : CompileOptions) : Prop where
  flags : ∀ flag ∈ options.flags, '\x00' ∉ flag.toList
  includePaths : ∀ path ∈ options.includePaths, '\x00' ∉ path.toList

instance (options : CompileOptions) : Decidable options.ZeroFree :=
  decidable_of_iff ((∀ flag ∈ options.flags, '\x00' ∉ flag.toList) ∧
      ∀ path ∈ options.includePaths, '\x00' ∉ path.toList)
    ⟨fun both => ⟨both.1, both.2⟩, fun free => ⟨free.flags, free.includePaths⟩⟩

/-- A fingerprint has no zero character but those of the flags and the include paths. -/
theorem ZeroFree.fingerprint {options : CompileOptions} (free : options.ZeroFree) :
    '\x00' ∉ options.fingerprint.toList := by
  have joined (separator : String) {parts : List String} (plain : '\x00' ∉ separator.toList)
      (parted : ∀ part ∈ parts, '\x00' ∉ part.toList) :
      '\x00' ∉ (Text.join separator parts).toList := by
    intro member
    obtain inSeparator | ⟨part, isPart, inside⟩ := Text.mem_toList_join member
    · exact plain inSeparator
    · exact parted part isPart inside
  have flags := joined " " (by decide) free.flags
  have includePaths := joined ":" (by decide) free.includePaths
  have arch := Text.zero_notMem_decimal options.arch.toNat
  have optimization := Text.zero_notMem_decimal options.optimization.toNat
  simp only [CompileOptions.fingerprint, String.toList_append, List.mem_append, flags,
    includePaths, arch, optimization, or_false]
  decide

end CompileOptions

namespace ArtifactKey

variable {source source' compiler compiler' : String} {first second : CompileOptions}

/-- Nothing that a key is computed from has a zero character. -/
structure Framed (source : String) (options : CompileOptions) (compiler : String) : Prop where
  source : '\x00' ∉ source.toList
  options : options.ZeroFree
  compiler : '\x00' ∉ compiler.toList

/-- Everything in an image can be told from it. -/
theorem image_eq_iff (framed : Framed source first compiler)
    (framed' : Framed source' second compiler') :
    image source first compiler = image source' second compiler' ↔
      source = source' ∧ first.fingerprint = second.fingerprint ∧ compiler = compiler' ∧
        first.arch = second.arch := by
  rw [image, image, List.append_cancel_left_eq, List.cons_inj_right,
    Text.utf8_zero_cancel framed.source framed'.source,
    Text.utf8_zero_cancel framed.options.fingerprint framed'.options.fingerprint,
    Text.utf8_zero_cancel framed.compiler framed'.compiler, Number.word32_injective.eq_iff]

/-- With a zero character in a text, the texts of an image can be divided in two ways. -/
theorem image_divided (before between after : String) (options : CompileOptions) :
    image (before ++ "\x00" ++ options.fingerprint ++ "\x00" ++ between) options after =
      image before options (between ++ "\x00" ++ options.fingerprint ++ "\x00" ++ after) := by
  have zero : Text.utf8 "\x00" = [0] := by decide
  simp only [image, Text.utf8_append, zero, List.append_assoc, List.cons_append,
    List.nil_append]

/-- The keys of texts without zero characters are the same exactly if the source, the fingerprint of
the options, the compiler and the architecture are, as long as the digest tells the two images
apart; and a fingerprint tells the architecture and the optimization. -/
theorem compute_eq_iff (framed : Framed source first compiler)
    (framed' : Framed source' second compiler')
    (apart : Set.InjOn Sha256.digest
      {image source first compiler, image source' second compiler'}) :
    (compute source first compiler = compute source' second compiler' ↔
      source = source' ∧ first.fingerprint = second.fingerprint ∧ compiler = compiler' ∧
        first.arch = second.arch) ∧
    (first.fingerprint = second.fingerprint →
      first.arch = second.arch ∧ first.optimization = second.optimization) := by
  constructor
  · rw [← image_eq_iff framed framed']
    constructor
    · intro same
      exact apart (Set.mem_insert _ _) (Set.mem_insert_of_mem _ rfl)
        (congrArg ArtifactKey.bytes same)
    · intro same
      simp only [compute, same]
  · intro same
    obtain ⟨arch, optimization, -⟩ := CompileOptions.fingerprint_eq_iff.1 same
    exact ⟨arch, optimization⟩

/-- Two architectures whose bytes differ in the place of a zero byte have different keys. -/
theorem compute_eq_iff_shifted :
    let narrow := { CompileOptions.standard with arch := 0x50, flags := ["-g"] }
    let wide := { CompileOptions.standard with arch := 0x5000, flags := ["-g"] }
    Framed "src" narrow "mock" ∧ Framed "src" wide "mock" ∧
      narrow.fingerprint ≠ wide.fingerprint ∧
      compute "src" narrow "mock" ≠ compute "src" wide "mock" := by
  intro narrow wide
  have framed : Framed "src" narrow "mock" := ⟨by decide, by decide, by decide⟩
  have framed' : Framed "src" wide "mock" := ⟨by decide, by decide, by decide⟩
  have digests : Sha256.digest (image "src" narrow "mock") ≠
      Sha256.digest (image "src" wide "mock") := by decide +kernel
  have apart : Set.InjOn Sha256.digest {image "src" narrow "mock", image "src" wide "mock"} :=
    Set.injOn_pair.2 fun same => absurd same digests
  obtain ⟨keys, told⟩ := compute_eq_iff framed framed' apart
  have arches : narrow.arch ≠ wide.arch := by decide
  exact ⟨framed, framed', fun same => arches (told same).1, fun same => arches (keys.1 same).2.2.2⟩

end ArtifactKey

end DeviceKernels
