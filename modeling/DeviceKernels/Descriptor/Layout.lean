import DeviceKernels.Json.Form

namespace DeviceKernels

inductive Layout where
  | rowMajor
  | columnMajor
  | tensorNhwc
  deriving DecidableEq, Repr, Inhabited

namespace Layout

/-- The transpose letter of a matrix layout: `t` for rows and `n` for columns. -/
def shortName : Layout → String
  | rowMajor => "t"
  | columnMajor => "n"
  | tensorNhwc => "nhwc"

def tag : Layout → String
  | rowMajor => "cutlass::layout::RowMajor"
  | columnMajor => "cutlass::layout::ColumnMajor"
  | tensorNhwc => "cutlass::layout::TensorNHWC"

/-- The leading dimension of a dense matrix: the length of one contiguous line. -/
def leadingDimension {Count : Type} (layout : Layout) (rows columns : Count) : Count :=
  match layout with
  | columnMajor => rows
  | _ => columns

/-- The pair of layouts that two transpose letters name. -/
def ofLetters? (letters : String) : Option (Layout × Layout) :=
  let ofLetter? : Char → Option Layout := fun letter =>
    if letter == 't' then some rowMajor else if letter == 'n' then some columnMajor else none
  match letters.toList with
  | [first, second] => do some (← ofLetter? first, ← ofLetter? second)
  | _ => none

instance : Named Layout where
  all := [rowMajor, columnMajor, tensorNhwc]
  name
    | rowMajor => "row_major"
    | columnMajor => "column_major"
    | tensorNhwc => "tensor_nhwc"

end Layout

end DeviceKernels
