import DeviceKernels.Text.Utf8

/-
Positions in the bytes of a text. A text is cut only where no character lies across the cut, and
such a position is searched for from the limit backwards.
-/

namespace DeviceKernels.Text

/-- Whether a byte belongs to a character that begins before it. -/
def continuesCharacter (byte : UInt8) : Bool := 0x80 ≤ byte && byte < 0xC0

/-- Whether a character begins or the text ends at a position. -/
def isBoundary (text : String) (position : Nat) : Bool :=
  position == 0 ||
    match (utf8 text)[position]? with
    | some byte => !continuesCharacter byte
    | none => position == utf8Length text

theorem isBoundary_zero (text : String) : isBoundary text 0 = true := rfl

/-- A position at which a text can be cut. -/
structure Boundary (text : String) where
  position : Nat
  isBoundary : isBoundary text position = true

/-- The last boundary up to a position. The search goes back byte by byte, to the beginning of the
text at the latest. -/
def lastBoundary (text : String) : Nat → Boundary text
  | 0 => ⟨0, isBoundary_zero text⟩
  | position + 1 =>
      if found : isBoundary text (position + 1) = true then ⟨position + 1, found⟩
      else lastBoundary text position

/-- The text before a boundary. -/
def Boundary.before {text : String} (boundary : Boundary text) : String :=
  String.ofList (takeBytes boundary.position text.toList)

end DeviceKernels.Text
