import DeviceKernels.Operation.Catalog
import DeviceKernels.Proofs.Extent.Convolution

/-
The matrix product that a convolution maps onto. Its extents are exact for a valid problem, and no
product on the way to them leaves the 64-bit words.
-/

namespace DeviceKernels

open Number Operation Outcome

/-- A positive word is at least one. -/
theorem Operation.max_one {word : Int32} (positive : 0 < word.toInt) : max word 1 = word := by
  change (if word ≤ 1 then 1 else word) = word
  split
  case isTrue one =>
    rw [Int32.le_iff_toInt_le, Int32.toInt_one] at one
    rw [← Int32.toInt_inj, Int32.toInt_one]
    omega
  case isFalse => rfl

/-- The product of two words is a 64-bit word. -/
theorem Operation.isWord64_product (first second : Int32) :
    IsWord64 (first.toInt * second.toInt) := by
  have small : |first.toInt * second.toInt| ≤ 2 ^ 31 * 2 ^ 31 := by
    rw [abs_mul]
    exact mul_le_mul (abs_word_le first) (abs_word_le second) (abs_nonneg _) (by norm_num)
  obtain ⟨lower, upper⟩ := abs_le.mp small
  exact isWord64_iff.mpr (by omega)

/-- The product of two words is a double word. -/
theorem Operation.toInt_product (first second : Int32) :
    (Int64.ofInt (first.toInt * second.toInt)).toInt = first.toInt * second.toInt :=
  toInt_ofInt_of_isWord64 (isWord64_product first second)

/-- Three extents that are multiplied from left to right. -/
structure Factors where
  first : Int32
  second : Int32
  third : Int32

namespace Factors

variable {factors : Factors}

def product (factors : Factors) : Int :=
  factors.first.toInt * factors.second.toInt * factors.third.toInt

/-- The results on the way to the product. -/
def results (factors : Factors) : List Int :=
  [factors.first.toInt, factors.first.toInt * factors.second.toInt, factors.product]

/-- The product is an extent of its own. -/
structure Fits (factors : Factors) : Prop where
  positive : 0 < factors.product
  small : factors.product ≤ Int32.maxValue.toInt

/-- Two words do not leave the 64-bit words, and neither does a product that fits. -/
theorem Fits.words (fits : factors.Fits) : ∀ result ∈ factors.results, IsWord64 result := by
  have first := isWord64_product factors.first 1
  rw [Int32.toInt_one, Int.mul_one] at first
  simp only [results, List.forall_mem_cons]
  exact ⟨first, isWord64_product _ _,
    ConvolutionProblem.isWord64_of_fits fits.positive fits.small, by simp⟩

/-- A product that fits is not cut. -/
theorem Fits.toInt (fits : factors.Fits) :
    (ConvolutionOperation.extentProduct factors.first factors.second factors.third).toInt =
      factors.product := by
  have lower : Int32.minValue.toInt ≤ factors.product :=
    le_trans (by decide) fits.positive.le
  have kept : (Int64.ofInt (factors.first.toInt * factors.second.toInt *
      factors.third.toInt)).toInt = factors.product :=
    toInt_ofInt_of_isWord64 (ConvolutionProblem.isWord64_of_fits fits.positive fits.small)
  unfold ConvolutionOperation.extentProduct
  dsimp only
  rw [kept, if_pos ⟨lower, fits.small⟩]
  exact Int32.toInt_ofInt_of_le lower (Int.lt_add_one_of_le fits.small)

theorem Fits.toInt_positive (fits : factors.Fits) :
    0 < (ConvolutionOperation.extentProduct factors.first factors.second factors.third).toInt := by
  rw [fits.toInt]
  exact fits.positive

end Factors

/-- The products that the test of a problem and its matrix product form: the outputs, the inputs, the
filter positions of all channels, the filters, and the window of a group. -/
def ConvolutionProblem.factors (problem : ConvolutionProblem) : List Factors :=
  [⟨problem.n, problem.p, problem.q⟩, ⟨problem.n, problem.h, problem.w⟩,
    ⟨problem.r, problem.s, problem.c⟩, ⟨problem.k, problem.r, problem.s⟩,
    ⟨problem.r, problem.s, problem.channelsPerGroup⟩]

namespace ConvolutionOperation

variable {operation : ConvolutionOperation} {problem : ConvolutionProblem}

/-- The channels of a valid problem are shared out among its groups. -/
theorem toInt_channelsPerGroup (valid : problem.Valid) :
    problem.channelsPerGroup.toInt = problem.c.toInt.tdiv problem.groups.toInt := by
  have channels : 0 < problem.c.toInt := valid.extents _ (by simp)
  have lower : problem.c ≠ Int32.minValue := by
    rintro same
    rw [same] at channels
    exact absurd channels (by decide)
  rw [ConvolutionProblem.channelsPerGroup, max_one valid.groups,
    Int32.toInt_div_of_ne_left _ _ lower]

/-- Every group of a valid problem has channels. -/
theorem channelsPerGroup_positive (valid : problem.Valid) : 0 < problem.channelsPerGroup.toInt := by
  have groups := valid.groups
  have channels : 0 < problem.c.toInt := valid.extents _ (by simp)
  have divides : problem.c.toInt.tmod problem.groups.toInt = 0 := by
    rw [← Int32.toInt_mod, valid.divides.1, Int32.toInt_zero]
  have whole := Int.tmod_add_mul_tdiv problem.c.toInt problem.groups.toInt
  rw [toInt_channelsPerGroup valid]
  refine Int.not_le.mp fun none => ?_
  have product : problem.groups.toInt * problem.c.toInt.tdiv problem.groups.toInt ≤ 0 :=
    Int.mul_nonpos_of_nonneg_of_nonpos (by omega) (by omega)
  omega

/-- The rows and the columns of the matrix product that a convolution maps onto. -/
def outputExtent (operation : ConvolutionOperation) (problem : ConvolutionProblem) : Int × Int :=
  match operation.kind with
  | .fprop => (problem.n.toInt * problem.p.toInt * problem.q.toInt, problem.k.toInt)
  | .dgrad => (problem.n.toInt * problem.h.toInt * problem.w.toInt, problem.c.toInt)
  | .wgrad =>
      (problem.k.toInt,
        problem.r.toInt * problem.s.toInt * (problem.c.toInt / problem.groups.toInt))

/-- The depth of the matrix product. -/
def depthExtent (operation : ConvolutionOperation) (problem : ConvolutionProblem) : Int :=
  match operation.kind with
  | .fprop => problem.r.toInt * problem.s.toInt * (problem.c.toInt / problem.groups.toInt)
  | .dgrad => problem.k.toInt * problem.r.toInt * problem.s.toInt
  | .wgrad => problem.n.toInt * problem.p.toInt * problem.q.toInt

/-- All products of a valid problem fit. -/
theorem factors_fit (valid : problem.Valid) : ∀ factors ∈ problem.factors, factors.Fits := by
  have positive := valid.products_positive
  have small := valid.fits
  simp only [ConvolutionProblem.extentProducts, List.forall_mem_cons] at positive small
  obtain ⟨outputs, inputs, window, filters, -⟩ := positive
  obtain ⟨outputsSmall, inputsSmall, windowSmall, filtersSmall, -⟩ := small
  simp only [ConvolutionProblem.factors, List.forall_mem_cons]
  refine ⟨⟨outputs, outputsSmall⟩, ⟨inputs, inputsSmall⟩, ⟨window, windowSmall⟩,
    ⟨filters, filtersSmall⟩, ?_, by simp⟩
  have r : 0 < problem.r.toInt := valid.extents _ (by simp)
  have s : 0 < problem.s.toInt := valid.extents _ (by simp)
  have c : 0 < problem.c.toInt := valid.extents _ (by simp)
  have channels := channelsPerGroup_positive valid
  have fewer : problem.channelsPerGroup.toInt ≤ problem.c.toInt := by
    rw [toInt_channelsPerGroup valid, Int.tdiv_eq_ediv_of_nonneg c.le]
    exact Int.ediv_le_self _ c.le
  have part : problem.r.toInt * problem.s.toInt * problem.channelsPerGroup.toInt ≤
      problem.r.toInt * problem.s.toInt * problem.c.toInt :=
    Int.mul_le_mul_of_nonneg_left fewer (by positivity)
  exact ⟨Int.mul_pos (Int.mul_pos r s) channels, part.trans windowSmall⟩

/-- No extent of the matrix product of a valid problem is cut. -/
theorem toInt_implicitGemm (operation : ConvolutionOperation) (valid : problem.Valid) :
    ((operation.implicitGemm problem).m.toInt, (operation.implicitGemm problem).n.toInt) =
      operation.outputExtent problem := by
  have fits := factors_fit valid
  simp only [ConvolutionProblem.factors, List.forall_mem_cons] at fits
  obtain ⟨outputs, inputs, -, -, window, -⟩ := fits
  have c : 0 < problem.c.toInt := valid.extents _ (by simp)
  unfold implicitGemm outputExtent
  cases operation.kind with
  | fprop => exact Prod.ext outputs.toInt rfl
  | dgrad => exact Prod.ext inputs.toInt rfl
  | wgrad =>
      rw [← Int.tdiv_eq_ediv_of_nonneg c.le, ← toInt_channelsPerGroup valid]
      exact Prod.ext rfl window.toInt

theorem toInt_implicitGemm_depth (operation : ConvolutionOperation) (valid : problem.Valid) :
    (operation.implicitGemm problem).k.toInt = operation.depthExtent problem := by
  have fits := factors_fit valid
  simp only [ConvolutionProblem.factors, List.forall_mem_cons] at fits
  obtain ⟨outputs, -, -, filters, window, -⟩ := fits
  have c : 0 < problem.c.toInt := valid.extents _ (by simp)
  unfold implicitGemm depthExtent
  cases operation.kind with
  | fprop =>
      rw [← Int.tdiv_eq_ediv_of_nonneg c.le, ← toInt_channelsPerGroup valid]
      exact window.toInt
  | dgrad => exact filters.toInt
  | wgrad => exact outputs.toInt

/-- The matrix product of a valid problem has rows, columns and a depth. -/
theorem implicitGemm_positive (operation : ConvolutionOperation) (valid : problem.Valid) :
    0 < (operation.implicitGemm problem).m.toInt ∧ 0 < (operation.implicitGemm problem).n.toInt ∧
      0 < (operation.implicitGemm problem).k.toInt := by
  have extents := valid.extents
  simp only [List.forall_mem_cons] at extents
  obtain ⟨-, -, -, c, k, -⟩ := extents
  have fits := factors_fit valid
  simp only [ConvolutionProblem.factors, List.forall_mem_cons] at fits
  obtain ⟨outputs, inputs, -, filters, window, -⟩ := fits
  unfold implicitGemm
  cases operation.kind with
  | fprop => exact ⟨outputs.toInt_positive, k, window.toInt_positive⟩
  | dgrad => exact ⟨inputs.toInt_positive, c, filters.toInt_positive⟩
  | wgrad => exact ⟨k, window.toInt_positive, outputs.toInt_positive⟩

/-- The extents of the matrix product are those of the problem, and nothing is lost on the way. -/
structure Exact (operation : ConvolutionOperation) (problem : ConvolutionProblem) : Prop where
  fits : ∀ entry ∈ problem.extentProducts, entry.2 ≤ Int32.maxValue.toInt
  words : ∀ factors ∈ problem.factors, ∀ result ∈ factors.results, IsWord64 result
  output : ((operation.implicitGemm problem).m.toInt, (operation.implicitGemm problem).n.toInt) =
    operation.outputExtent problem
  depth : (operation.implicitGemm problem).k.toInt = operation.depthExtent problem
  positive : 0 < (operation.implicitGemm problem).m.toInt ∧
    0 < (operation.implicitGemm problem).n.toInt ∧ 0 < (operation.implicitGemm problem).k.toInt

theorem exact_of_valid (operation : ConvolutionOperation) (valid : problem.Valid) :
    operation.Exact problem where
  fits := valid.fits
  words factors member := (factors_fit valid factors member).words
  output := toInt_implicitGemm operation valid
  depth := toInt_implicitGemm_depth operation valid
  positive := implicitGemm_positive operation valid

/-- A problem that a program accepts has an exact matrix product if and only if the products of its
extents are 64-bit words. A program that checks for overflow accepts no other problems. -/
theorem accepted_exact_iff (operation : ConvolutionOperation) {arithmetic : Arithmetic}
    (accepted : problem.validateIn arithmetic = .ok ()) :
    (operation.Exact problem ↔ ∀ entry ∈ problem.extentProducts, IsWord64 entry.2) ∧
      (arithmetic = .checked → operation.Exact problem) := by
  refine ⟨⟨?_, ?_⟩, ?_⟩
  · intro exact
    have words := exact.words
    simp only [ConvolutionProblem.factors, Factors.results, Factors.product,
      List.forall_mem_cons] at words
    obtain ⟨⟨-, -, outputs, -⟩, ⟨-, -, inputs, -⟩, ⟨-, -, window, -⟩, ⟨-, -, filters, -⟩, -⟩ := words
    simp only [ConvolutionProblem.extentProducts, List.forall_mem_cons]
    exact ⟨outputs, inputs, window, filters, by simp⟩
  · intro words
    exact exact_of_valid operation ((ConvolutionProblem.validateIn_words words).mp accepted)
  · rintro rfl
    exact exact_of_valid operation (ConvolutionProblem.validate_ok.mp accepted)

/-- A convolution with two groups whose largest product is just below the bound of a word. -/
theorem accepted_exact_iff_grouped : ∃ (operation : ConvolutionOperation)
    (problem : ConvolutionProblem), Catalog.convolution 80 .f16 .wgrad = .ok operation ∧
      problem = .ofExtents ⟨1, 46340, 46341, 16⟩ ⟨8, 3, 3, 8⟩ ⟨1, 1⟩ ⟨1, 1⟩ ⟨1, 1⟩ 0 1 2 ∧
      problem.validateIn .wrapping = .ok () ∧ operation.Exact problem ∧
      operation.depthExtent problem = 2147441940 := by
  obtain ⟨operation, created⟩ : ∃ operation, Catalog.convolution 80 .f16 .wgrad = .ok operation :=
    ⟨_, rfl⟩
  let problem := ConvolutionProblem.ofExtents ⟨1, 46340, 46341, 16⟩ ⟨8, 3, 3, 8⟩ ⟨1, 1⟩ ⟨1, 1⟩
    ⟨1, 1⟩ 0 1 2
  have accepted : problem.validateIn .wrapping = .ok () := by decide +kernel
  have words : ∀ entry ∈ problem.extentProducts, IsWord64 entry.2 := by decide +kernel
  have exact := (accepted_exact_iff operation accepted).1.mpr words
  refine ⟨operation, problem, created, rfl, accepted, exact, ?_⟩
  cases created
  decide +kernel

/-- Extents whose product is a power of two beyond the 64-bit words: nothing is left of it, and the
problem is accepted with no rows. A program that checks for overflow stops. -/
theorem wrapped_extents_accepted : ∃ (operation : ConvolutionOperation)
    (problem : ConvolutionProblem), Catalog.convolution 80 .f16 .fprop = .ok operation ∧
      problem = .ofExtents ⟨4194304, 2097152, 2097152, 8⟩ ⟨8, 1, 1, 8⟩ ⟨0, 0⟩ ⟨1, 1⟩ ⟨1, 1⟩ 0 1 1 ∧
      problem.validateIn .wrapping = .ok () ∧ problem.validateIn .checked = .error .stopped ∧
      (operation.outputExtent problem).1 = 2 ^ 64 ∧ (operation.implicitGemm problem).m = 0 ∧
      ¬operation.Exact problem := by
  obtain ⟨operation, created⟩ : ∃ operation, Catalog.convolution 80 .f16 .fprop = .ok operation :=
    ⟨_, rfl⟩
  refine ⟨operation, _, created, rfl, by decide +kernel, by decide +kernel, ?_, ?_, ?_⟩
  · cases created
    decide +kernel
  · cases created
    decide +kernel
  · intro exact
    exact absurd (exact.fits ("N*P*Q", 2 ^ 64) (by decide +kernel)) (by decide +kernel)

end ConvolutionOperation

end DeviceKernels
