import DeviceKernels.Number.Word

/-
The encoding of text as bytes. A reader that meets an invalid sequence takes its longest valid
beginning as one unreadable piece.
-/

namespace DeviceKernels.Text

def utf8 (text : String) : Bytes := text.toByteArray.data.toList

def utf8Length (text : String) : Nat := text.toByteArray.size

/-- What a leading byte announces: its own bits, the number of bytes that follow, and the range of
the first of them. -/
def leadByte? (byte : Nat) : Option (Nat × Nat × Nat × Nat) :=
  if byte < 0x80 then some (byte, 0, 0x80, 0xBF)
  else if byte < 0xC2 then none
  else if byte < 0xE0 then some (byte - 0xC0, 1, 0x80, 0xBF)
  else if byte == 0xE0 then some (0, 2, 0xA0, 0xBF)
  else if byte == 0xED then some (0xD, 2, 0x80, 0x9F)
  else if byte < 0xF0 then some (byte - 0xE0, 2, 0x80, 0xBF)
  else if byte == 0xF0 then some (0, 3, 0x90, 0xBF)
  else if byte < 0xF4 then some (byte - 0xF0, 3, 0x80, 0xBF)
  else if byte == 0xF4 then some (4, 3, 0x80, 0x8F)
  else none

/-- Reads the bytes that follow a leading byte; the rest begins at the first byte that does not
continue the character. -/
def followingBytes : (count lower upper code : Nat) → Bytes → Option Char × Bytes
  | 0, _, _, code, bytes => (some (Char.ofNat code), bytes)
  | _ + 1, _, _, _, [] => (none, [])
  | count + 1, lower, upper, code, byte :: rest =>
      if lower ≤ byte.toNat ∧ byte.toNat ≤ upper then
        followingBytes count 0x80 0xBF (64 * code + byte.toNat % 64) rest
      else (none, byte :: rest)

theorem followingBytesLength (count lower upper code : Nat) (bytes : Bytes) :
    (followingBytes count lower upper code bytes).2.length ≤ bytes.length := by
  induction count generalizing lower upper code bytes with
  | zero => simp [followingBytes]
  | succ count inductionHypothesis =>
      cases bytes with
      | nil => simp [followingBytes]
      | cons byte rest =>
          rw [followingBytes]
          split
          · exact Nat.le_succ_of_le (inductionHypothesis ..)
          · simp

/-- The characters of a byte string; an unreadable piece gives no character. -/
def utf8Pieces : Bytes → List (Option Char)
  | [] => []
  | byte :: rest =>
      match leadByte? byte.toNat with
      | none => none :: utf8Pieces rest
      | some (code, count, lower, upper) =>
          let piece := followingBytes count lower upper code rest
          piece.1 :: utf8Pieces piece.2
  termination_by bytes => bytes.length
  decreasing_by
    · simp
    · exact Nat.lt_succ_of_le (followingBytesLength ..)

/-- The text with the replacement character for every unreadable piece. -/
def ofUtf8Lossy (bytes : Bytes) : String :=
  String.ofList ((utf8Pieces bytes).map fun piece => piece.getD (Char.ofNat 0xFFFD))

def ofUtf8? (bytes : Bytes) : Option String :=
  (utf8Pieces bytes).mapM id |>.map String.ofList

/-- The longest beginning of whole characters that has at most `limit` bytes. -/
def takeBytes (limit : Nat) : List Char → List Char
  | [] => []
  | character :: rest =>
      if character.utf8Size ≤ limit then character :: takeBytes (limit - character.utf8Size) rest
      else []

def truncateBytes (limit : Nat) (text : String) : String :=
  if utf8Length text ≤ limit then text else String.ofList (takeBytes limit text.toList)

/-- The first bytes of a text as a text. There is none when the cut is inside a character. -/
def cutBytes? (limit : Nat) (text : String) : Option String :=
  let kept := truncateBytes limit text
  if utf8Length kept == min limit (utf8Length text) then some kept else none

end DeviceKernels.Text
