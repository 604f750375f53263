import DeviceKernels.Proofs.Extent.Convolution
import Mathlib.Data.Set.Card

/-
A computed output extent is the number of positions at which the filter reads no element past the
end, provided that a word holds that number, and the computation never leaves the 64-bit words.
-/

namespace DeviceKernels

open Number

/-- One dimension of a convolution. -/
structure ConvolutionAxis where
  input : Int32
  filter : Int32
  padding : Int32
  stride : Int32
  dilation : Int32
  deriving DecidableEq, Repr

namespace ConvolutionAxis

variable {axis : ConvolutionAxis}

def extent (axis : ConvolutionAxis) : Int32 :=
  ConvolutionProblem.outputExtent axis.input axis.filter axis.padding axis.stride axis.dilation

/-- The length of the input with the padding on both sides. -/
def padded (axis : ConvolutionAxis) : Int := axis.input.toInt + 2 * axis.padding.toInt

/-- The last element of the padded input that the filter reads at a position. -/
def lastRead (axis : ConvolutionAxis) (position : Int) : Int :=
  position * axis.stride.toInt + axis.dilation.toInt * (axis.filter.toInt - 1)

/-- The positions at which the filter stays within the padded input. -/
def positions (axis : ConvolutionAxis) : Set ℕ :=
  {position | axis.lastRead position < axis.padded}

theorem mem_positions {position : ℕ} :
    position ∈ axis.positions ↔ axis.lastRead position < axis.padded := Iff.rfl

/-- How far the filter can move. -/
def span (axis : ConvolutionAxis) : Int := axis.padded - axis.lastRead 0 - 1

/-- The number of moves and the position before them; none if the filter does not fit at all, since
the quotient of a negative span is rounded down. -/
def count (axis : ConvolutionAxis) : ℕ := (axis.span / axis.stride.toInt + 1).toNat

theorem positions_eq (forward : 0 < axis.stride.toInt) : axis.positions = Set.Iio axis.count := by
  ext position
  have moves : (position : Int) ≤ axis.span / axis.stride.toInt ↔
      position * axis.stride.toInt ≤ axis.span := Int.le_ediv_iff_mul_le forward
  rw [mem_positions, Set.mem_Iio, count]
  simp only [span, lastRead] at moves ⊢
  omega

/-- The computed extent is the number of positions if a word holds it. -/
theorem toInt_extent (forward : 0 < axis.stride.toInt) : axis.extent.toInt =
    if axis.count ≤ Int32.maxValue.toInt then (axis.count : Int) else 0 := by
  have moving : ¬axis.stride ≤ 0 := by
    rw [Int32.not_le, Int32.lt_iff_toInt_lt, Int32.toInt_zero]
    exact forward
  have distance : axis.input.toInt + 2 * axis.padding.toInt -
      axis.dilation.toInt * (axis.filter.toInt - 1) - 1 = axis.span := by
    simp only [span, padded, lastRead]
    omega
  unfold extent ConvolutionProblem.outputExtent
  rw [if_neg moving]
  dsimp only
  rw [distance]
  by_cases short : axis.span < 0
  · have none : axis.count = 0 := by
      have := Int.ediv_neg_of_neg_of_pos short forward
      unfold count
      omega
    rw [if_pos short, none]
    rfl
  · have counted : (axis.count : Int) = axis.span / axis.stride.toInt + 1 := by
      have := Int.ediv_nonneg (Int.not_lt.mp short) forward.le
      unfold count
      omega
    rw [if_neg short, counted]
    split
    case isTrue fits =>
      have := Int.ediv_nonneg (Int.not_lt.mp short) forward.le
      have lower : Int32.minValue.toInt ≤ 0 := by decide
      exact Int32.toInt_ofInt_of_le (by omega) (Int.lt_add_one_of_le fits)
    case isFalse => rfl

/-- A filter that reaches one element past the input has no position, although the quotient of its
span is zero when it is rounded towards zero. -/
example : (ConvolutionAxis.mk 4 3 0 3 2).extent = 0 := by decide

/-- The extent is the number of positions, as far as a word holds it. -/
structure Counts (axis : ConvolutionAxis) (extent : Int32) : Prop where
  finite : axis.positions.Finite
  number : extent.toInt =
    if axis.positions.ncard ≤ Int32.maxValue.toInt then (axis.positions.ncard : Int) else 0

theorem counts_extent (forward : 0 < axis.stride.toInt) : axis.Counts axis.extent := by
  have range : axis.positions = ↑(Finset.range axis.count) := by
    rw [positions_eq forward, Finset.coe_range]
  constructor
  case finite =>
    rw [range]
    exact Finset.finite_toSet _
  case number =>
    rw [range, Set.ncard_coe_finset, Finset.card_range]
    exact toInt_extent forward

/-- The last position reads within the padded input, and a further one would not. -/
structure EndsAt (axis : ConvolutionAxis) (extent : Int32) : Prop where
  within : axis.lastRead (extent.toInt - 1) < axis.padded
  past : axis.padded ≤ axis.lastRead extent.toInt

theorem endsAt_extent (forward : 0 < axis.stride.toInt) (some : 0 < axis.extent.toInt) :
    axis.EndsAt axis.extent := by
  have counted : axis.extent.toInt = axis.count := by
    have number := toInt_extent forward
    split at number
    · exact number
    · omega
  have last : axis.count - 1 ∈ axis.positions := by
    rw [positions_eq forward, Set.mem_Iio]
    omega
  have next : axis.count ∉ axis.positions := by
    rw [positions_eq forward, Set.mem_Iio]
    exact Nat.lt_irrefl _
  constructor
  case within =>
    rw [mem_positions, Int.natCast_sub (by omega)] at last
    exact counted ▸ last
  case past =>
    rw [mem_positions, Int.not_lt] at next
    exact counted ▸ next

/-- The computation of the span in 64-bit words, one operation after the other; none if the program
stops. -/
def spanIn (axis : ConvolutionAxis) (arithmetic : Arithmetic) : Option Int64 := do
  let margins ← arithmetic.word? (2 * axis.padding.toInt)
  let padded ← arithmetic.word? (axis.input.toInt + margins.toInt)
  let gaps ← arithmetic.word? (axis.filter.toInt - 1)
  let reach ← arithmetic.word? (axis.dilation.toInt * gaps.toInt)
  let room ← arithmetic.word? (padded.toInt - reach.toInt)
  arithmetic.word? (room.toInt - 1)

/-- The computation of the extent in 64-bit words. -/
def extentIn (axis : ConvolutionAxis) (arithmetic : Arithmetic) : Option Int32 :=
  if axis.stride ≤ 0 then some 0
  else do
    let span ← axis.spanIn arithmetic
    if span < 0 then some 0
    else do
      let moves ← arithmetic.word? (span.toInt.tdiv axis.stride.toInt)
      let positions ← arithmetic.word? (moves.toInt + 1)
      some (if positions.toInt ≤ Int32.maxValue.toInt then Int32.ofInt positions.toInt else 0)

/-- The reach of a filter is a product of words, give or take one. -/
theorem reach_le (axis : ConvolutionAxis) :
    |axis.dilation.toInt * (axis.filter.toInt - 1)| ≤ 2 ^ 31 * (2 ^ 31 + 1) := by
  have gaps : |axis.filter.toInt - 1| ≤ 2 ^ 31 + 1 :=
    (abs_sub _ _).trans (add_le_add (abs_word_le axis.filter) (by norm_num))
  rw [abs_mul]
  exact mul_le_mul (abs_word_le axis.dilation) gaps (abs_nonneg _) (by norm_num)

theorem span_eq (axis : ConvolutionAxis) : axis.span = axis.input.toInt + 2 * axis.padding.toInt -
    axis.dilation.toInt * (axis.filter.toInt - 1) - 1 := by
  simp only [span, padded, lastRead]
  omega

/-- The span is far from the bounds of the 64-bit words. -/
theorem abs_span_le (axis : ConvolutionAxis) : |axis.span| ≤ 2 ^ 63 - 2 := by
  have := axis.input.le_toInt
  have := axis.input.toInt_lt
  have := axis.padding.le_toInt
  have := axis.padding.toInt_lt
  obtain ⟨_, _⟩ := abs_le.mp axis.reach_le
  rw [span_eq, abs_le]
  omega

theorem isWord64_span (axis : ConvolutionAxis) : IsWord64 axis.span := by
  obtain ⟨lower, upper⟩ := abs_le.mp axis.abs_span_le
  exact isWord64_iff.mpr (by omega)

/-- The computation of the span never leaves the 64-bit words. -/
theorem spanIn_eq (axis : ConvolutionAxis) (arithmetic : Arithmetic) :
    axis.spanIn arithmetic = some (Int64.ofInt axis.span) := by
  have span := axis.isWord64_span
  have := axis.input.le_toInt
  have := axis.input.toInt_lt
  have := axis.padding.le_toInt
  have := axis.padding.toInt_lt
  have := axis.filter.le_toInt
  have := axis.filter.toInt_lt
  obtain ⟨_, _⟩ := abs_le.mp axis.reach_le
  rw [span_eq] at span ⊢
  have margins : IsWord64 (2 * axis.padding.toInt) := isWord64_iff.mpr (by omega)
  have padded : IsWord64 (axis.input.toInt + 2 * axis.padding.toInt) := isWord64_iff.mpr (by omega)
  have gaps : IsWord64 (axis.filter.toInt - 1) := isWord64_iff.mpr (by omega)
  have reach : IsWord64 (axis.dilation.toInt * (axis.filter.toInt - 1)) :=
    isWord64_iff.mpr (by omega)
  have room : IsWord64 (axis.input.toInt + 2 * axis.padding.toInt -
      axis.dilation.toInt * (axis.filter.toInt - 1)) := isWord64_iff.mpr (by omega)
  simp only [spanIn, Arithmetic.word?_of_isWord64, toInt_ofInt_of_isWord64, margins, padded, gaps,
    reach, room, span, Option.bind_eq_bind, Option.bind_some]

/-- The computation never leaves the 64-bit words, whatever the words of the axis are. -/
theorem extentIn_eq (axis : ConvolutionAxis) (arithmetic : Arithmetic) :
    axis.extentIn arithmetic = some axis.extent := by
  have value := toInt_ofInt_of_isWord64 axis.isWord64_span
  unfold extentIn extent ConvolutionProblem.outputExtent
  rw [spanIn_eq, ← span_eq]
  by_cases still : axis.stride ≤ 0
  · rw [if_pos still, if_pos still]
  rw [if_neg still, if_neg still]
  dsimp only [Option.bind_eq_bind, Option.bind_some]
  have sign : Int64.ofInt axis.span < 0 ↔ axis.span < 0 := by
    rw [Int64.lt_iff_toInt_lt, value, Int64.toInt_zero]
  by_cases short : axis.span < 0
  · rw [if_pos short, if_pos (sign.mpr short)]
  rw [if_neg short, if_neg (mt sign.mp short), value]
  rw [Int32.not_le, Int32.lt_iff_toInt_lt, Int32.toInt_zero] at still
  have natural := Int.not_lt.mp short
  have lower := Int.ediv_nonneg natural still.le
  have upper := Int.ediv_le_self axis.stride.toInt natural
  obtain ⟨-, room⟩ := abs_le.mp axis.abs_span_le
  have moves : IsWord64 (axis.span / axis.stride.toInt) := isWord64_iff.mpr (by omega)
  have positions : IsWord64 (axis.span / axis.stride.toInt + 1) := isWord64_iff.mpr (by omega)
  simp only [Int.tdiv_eq_ediv_of_nonneg natural, Arithmetic.word?_of_isWord64,
    toInt_ofInt_of_isWord64, moves, positions, Option.bind_some]

end ConvolutionAxis

namespace ConvolutionProblem

variable {problem : ConvolutionProblem}

def rowAxis (problem : ConvolutionProblem) : ConvolutionAxis :=
  ⟨problem.h, problem.r, problem.padding.height, problem.stride.height, problem.dilation.height⟩

def columnAxis (problem : ConvolutionProblem) : ConvolutionAxis :=
  ⟨problem.w, problem.s, problem.padding.width, problem.stride.width, problem.dilation.width⟩

/-- In both dimensions, the computed output extent is the number of positions of the filter as far as
a word holds it, and its computation never leaves the 64-bit words. The last position of an accepted
problem reads within the padded input, and a further one would not. -/
theorem ofExtents_counts (input filter : TensorExtent) (padding stride dilation : ImagePair)
    (mode slices groups : Int32) :
    ∃ problem, problem = ofExtents input filter padding stride dilation mode slices groups ∧
      (0 < stride.height.toInt → problem.rowAxis.Counts problem.p) ∧
      (0 < stride.width.toInt → problem.columnAxis.Counts problem.q) ∧
      (∀ arithmetic, problem.rowAxis.extentIn arithmetic = some problem.p ∧
        problem.columnAxis.extentIn arithmetic = some problem.q) ∧
      ∀ arithmetic, problem.validateIn arithmetic = .ok () →
        problem.rowAxis.EndsAt problem.p ∧ problem.columnAxis.EndsAt problem.q := by
  refine ⟨_, rfl, ?_, ?_, ?_, ?_⟩
  · exact fun forward => ConvolutionAxis.counts_extent forward
  · exact fun forward => ConvolutionAxis.counts_extent forward
  · exact fun arithmetic => ⟨ConvolutionAxis.extentIn_eq _ arithmetic,
      ConvolutionAxis.extentIn_eq _ arithmetic⟩
  · intro arithmetic accepted
    obtain ⟨shaped, -⟩ := validateIn_ok.mp accepted
    exact ⟨ConvolutionAxis.endsAt_extent shaped.stride.1 shaped.outputs.1,
      ConvolutionAxis.endsAt_extent shaped.stride.2 shaped.outputs.2⟩

/-- A padded input whose filter is dilated in one dimension. -/
theorem ofExtents_counts_dilated : ∃ problem,
    problem = ofExtents ⟨1, 32, 27, 8⟩ ⟨8, 3, 3, 8⟩ ⟨1, 1⟩ ⟨2, 2⟩ ⟨2, 1⟩ 0 1 1 ∧
      problem.validateIn .checked = .ok () ∧
      problem.rowAxis.Counts 15 ∧ problem.rowAxis.EndsAt 15 ∧
      problem.columnAxis.Counts 14 ∧ problem.columnAxis.EndsAt 14 := by
  obtain ⟨problem, same, rows, columns, -, ends⟩ :=
    ofExtents_counts ⟨1, 32, 27, 8⟩ ⟨8, 3, 3, 8⟩ ⟨1, 1⟩ ⟨2, 2⟩ ⟨2, 1⟩ 0 1 1
  subst same
  have accepted : (ofExtents ⟨1, 32, 27, 8⟩ ⟨8, 3, 3, 8⟩ ⟨1, 1⟩ ⟨2, 2⟩ ⟨2, 1⟩ 0 1 1).validateIn
      .checked = .ok () := by decide +kernel
  obtain ⟨rowEnds, columnEnds⟩ := ends .checked accepted
  exact ⟨_, rfl, accepted, rows (by decide), rowEnds, columns (by decide), columnEnds⟩

end ConvolutionProblem

end DeviceKernels
