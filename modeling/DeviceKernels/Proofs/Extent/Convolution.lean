import DeviceKernels.Extent.Convolution
import DeviceKernels.Proofs.Outcome

/-
A program that checks for overflow accepts the valid problems and no others; one that does not
check accepts the same problems and some of those whose extents have products beyond the 64-bit
words.
-/

namespace DeviceKernels

open Number Outcome

theorem Number.isWord64_iff {number : Int} :
    IsWord64 number ↔ -2 ^ 63 ≤ number ∧ number < 2 ^ 63 := by
  have least : Int64.minValue.toInt = -2 ^ 63 := by decide
  have most : Int64.maxValue.toInt = 2 ^ 63 - 1 := by decide
  unfold IsWord64
  omega

theorem Number.abs_word_le (word : Int32) : |word.toInt| ≤ 2 ^ 31 := by
  have := word.le_toInt
  have := word.toInt_lt
  exact abs_le.mpr ⟨by omega, by omega⟩

namespace ConvolutionProblem

variable {problem : ConvolutionProblem} {arithmetic : Arithmetic} {product : Int}

/-- The conditions on the words of a problem. -/
structure Shaped (problem : ConvolutionProblem) : Prop where
  extents : ∀ extent ∈ [problem.n, problem.h, problem.w, problem.c, problem.k, problem.r, problem.s],
    0 < extent.toInt
  stride : 0 < problem.stride.height.toInt ∧ 0 < problem.stride.width.toInt
  dilation : 0 < problem.dilation.height.toInt ∧ 0 < problem.dilation.width.toInt
  padding : 0 ≤ problem.padding.height.toInt ∧ 0 ≤ problem.padding.width.toInt
  outputs : 0 < problem.p.toInt ∧ 0 < problem.q.toInt
  groups : 0 < problem.groups.toInt
  divides : problem.c % problem.groups = 0 ∧ problem.k % problem.groups = 0
  slices : 0 < problem.splitKSlices.toInt

/-- The conditions that a problem must meet, as conditions on numbers. -/
structure Valid (problem : ConvolutionProblem) : Prop extends Shaped problem where
  fits : ∀ entry ∈ problem.extentProducts, entry.2 ≤ Int32.maxValue.toInt

/-- The products of a problem are formed of extents, and so none of them is zero or less. -/
theorem Shaped.products_positive (shaped : problem.Shaped) :
    ∀ entry ∈ problem.extentProducts, 0 < entry.2 := by
  have extents := shaped.extents
  simp only [List.forall_mem_cons] at extents
  obtain ⟨n, h, w, c, k, r, s, -⟩ := extents
  obtain ⟨p, q⟩ := shaped.outputs
  simp only [extentProducts, List.forall_mem_cons]
  exact ⟨by positivity, by positivity, by positivity, by positivity, by simp⟩

theorem checkProduct_ok {name : String} : checkProduct arithmetic name product = .ok () ↔
    ∃ word, arithmetic.word? product = some word ∧ word.toInt ≤ Int32.maxValue.toInt := by
  unfold checkProduct
  cases arithmetic.word? product with
  | none => simp
  | some word => simp

/-- A positive number that fits a 32-bit word is a 64-bit word. -/
theorem isWord64_of_fits (positive : 0 < product) (fits : product ≤ Int32.maxValue.toInt) :
    IsWord64 product := by
  have least : Int64.minValue.toInt ≤ 0 := by decide
  have most : Int32.maxValue.toInt ≤ Int64.maxValue.toInt := by decide
  exact ⟨least.trans positive.le, fits.trans most⟩

theorem checkProduct_word {name : String} (word : IsWord64 product) :
    checkProduct arithmetic name product = .ok () ↔ product ≤ Int32.maxValue.toInt := by
  rw [checkProduct_ok, arithmetic.word?_of_isWord64 word]
  simp [toInt_ofInt_of_isWord64 word]

theorem checkProduct_checked {name : String} (positive : 0 < product) :
    checkProduct .checked name product = .ok () ↔ product ≤ Int32.maxValue.toInt := by
  constructor
  · intro passed
    obtain ⟨word, kept, fits⟩ := checkProduct_ok.mp passed
    exact Arithmetic.checked_word?_eq_some.mp kept ▸ fits
  · intro fits
    exact (checkProduct_word (isWord64_of_fits positive fits)).mpr fits

/-- Either program tests the words and then the products. -/
theorem validateIn_ok : problem.validateIn arithmetic = .ok () ↔ problem.Shaped ∧
    ∀ entry ∈ problem.extentProducts, checkProduct arithmetic entry.1 entry.2 = .ok () := by
  have positive (word : Int32) : ¬word ≤ 0 ↔ 0 < word.toInt := by
    rw [Int32.not_le, Int32.lt_iff_toInt_lt, Int32.toInt_zero]
  have natural (word : Int32) : ¬word < 0 ↔ 0 ≤ word.toInt := by
    rw [Int32.not_lt, Int32.le_iff_toInt_le, Int32.toInt_zero]
  simp only [validateIn, refused_iff, Bool.or_eq_true, decide_eq_true_eq, not_or, positive, natural,
    bne_iff_ne, ne_eq, Decidable.not_not, List.any_eq_true, not_exists, not_and, forM_ok]
  constructor
  · rintro ⟨extents, stride, dilation, padding, outputs, ⟨⟨groups, channels⟩, filters⟩, slices,
      products⟩
    exact ⟨⟨extents, stride, dilation, padding, outputs, groups, ⟨channels, filters⟩, slices⟩,
      products⟩
  · rintro ⟨⟨extents, stride, dilation, padding, outputs, groups, ⟨channels, filters⟩, slices⟩,
      products⟩
    exact ⟨extents, stride, dilation, padding, outputs, ⟨⟨groups, channels⟩, filters⟩, slices,
      products⟩

/-- The problems that are accepted are the valid ones. -/
theorem validate_ok : problem.validate = .ok () ↔ problem.Valid := by
  rw [validate, validateIn_ok]
  constructor
  · rintro ⟨shaped, passed⟩
    exact ⟨shaped, fun entry member =>
      (checkProduct_checked (shaped.products_positive entry member)).mp (passed entry member)⟩
  · rintro ⟨shaped, fits⟩
    exact ⟨shaped, fun entry member =>
      (checkProduct_checked (shaped.products_positive entry member)).mpr (fits entry member)⟩

/-- Both programs accept the same problems of those whose products are 64-bit words. -/
theorem validateIn_words (words : ∀ entry ∈ problem.extentProducts, IsWord64 entry.2) :
    problem.validateIn arithmetic = .ok () ↔ problem.Valid := by
  rw [validateIn_ok]
  constructor
  · rintro ⟨shaped, passed⟩
    exact ⟨shaped, fun entry member =>
      (checkProduct_word (words entry member)).mp (passed entry member)⟩
  · rintro ⟨shaped, fits⟩
    exact ⟨shaped, fun entry member =>
      (checkProduct_word (words entry member)).mpr (fits entry member)⟩

end ConvolutionProblem

end DeviceKernels
