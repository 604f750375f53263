import DeviceKernels.Text.Utf8
import Mathlib.Data.List.Basic

/-
The encoding of text loses nothing: the bytes of a text are read as that text, and different texts
have different bytes.
-/

namespace DeviceKernels.Text

/-- The bytes of a text are those of its characters. -/
theorem utf8_ofList (characters : List Char) :
    utf8 (String.ofList characters) = characters.flatMap String.utf8EncodeChar := by
  rw [utf8, String.toByteArray_ofList, List.utf8Encode, List.data_toByteArray]

theorem utf8_append (first second : String) : utf8 (first ++ second) = utf8 first ++ utf8 second := by
  rw [utf8, String.toByteArray_append, ByteArray.data_append, Array.toList_append, utf8, utf8]

/-- Different texts have different bytes. -/
theorem utf8_injective : Function.Injective utf8 := by
  intro first second same
  apply String.toByteArray_inj.mp
  apply ByteArray.ext
  exact Array.toList_inj.mp same

/-- A byte keeps a number that fits. -/
theorem toNat_byte {number : Nat} (fits : number < 256) : (UInt8.ofNat number).toNat = number := by
  rw [UInt8.toNat_ofNat', Nat.mod_eq_of_lt fits]

/-- A leading byte begins a piece. -/
theorem utf8Pieces_lead {byte : UInt8} {code count lower upper : Nat} (rest : Bytes)
    (lead : leadByte? byte.toNat = some (code, count, lower, upper)) :
    utf8Pieces (byte :: rest) =
      (followingBytes count lower upper code rest).1 ::
        utf8Pieces (followingBytes count lower upper code rest).2 := by
  rw [utf8Pieces, lead]

/-- A byte in its range continues a character. -/
theorem followingBytes_continue {number lower upper : Nat} (count code : Nat) (rest : Bytes)
    (above : lower ≤ number) (below : number ≤ upper) (fits : number < 256) :
    followingBytes (count + 1) lower upper code (UInt8.ofNat number :: rest) =
      followingBytes count 0x80 0xBF (64 * code + number % 64) rest := by
  rw [followingBytes, toNat_byte fits, if_pos ⟨above, below⟩]

/-- The numbers of characters have two ranges. -/
theorem toNat_ranges (character : Char) :
    character.toNat < 0xD800 ∨ 0xDFFF < character.toNat ∧ character.toNat < 0x110000 :=
  character.valid

/-- The leading byte of three announces two more, and excludes long forms and surrogates. -/
theorem leadByte?_three {high : Nat} (small : high < 16) :
    leadByte? (high + 224) =
      some (high, 2, if high = 0 then 0xA0 else 0x80, if high = 13 then 0x9F else 0xBF) := by
  have cases : ∀ index : Fin 16, leadByte? (index.val + 224) =
      some (index.val, 2, if index.val = 0 then 0xA0 else 0x80,
        if index.val = 13 then 0x9F else 0xBF) := by decide
  exact cases ⟨high, small⟩

/-- The leading byte of four announces three more, and excludes long forms and numbers that are
too large. -/
theorem leadByte?_four {high : Nat} (small : high < 5) :
    leadByte? (high + 240) =
      some (high, 3, if high = 0 then 0x90 else 0x80, if high = 4 then 0x8F else 0xBF) := by
  have cases : ∀ index : Fin 5, leadByte? (index.val + 240) =
      some (index.val, 3, if index.val = 0 then 0x90 else 0x80,
        if index.val = 4 then 0x8F else 0xBF) := by decide
  exact cases ⟨high, small⟩

/-- One byte is read as its character. -/
theorem utf8Pieces_one {number : Nat} (rest : Bytes) (small : number ≤ 127) :
    utf8Pieces (UInt8.ofNat number :: rest) = some (Char.ofNat number) :: utf8Pieces rest := by
  have lead : leadByte? (UInt8.ofNat number).toNat = some (number, 0, 0x80, 0xBF) := by
    rw [toNat_byte (by omega), leadByte?, if_pos (by omega)]
  rw [utf8Pieces_lead rest lead, followingBytes]

/-- Two bytes are read as their character. -/
theorem utf8Pieces_two {number : Nat} (rest : Bytes) (large : 127 < number)
    (small : number ≤ 2047) :
    utf8Pieces (UInt8.ofNat (number / 64 % 32 + 192) :: UInt8.ofNat (number % 64 + 128) :: rest) =
      some (Char.ofNat number) :: utf8Pieces rest := by
  have lead : leadByte? (UInt8.ofNat (number / 64 % 32 + 192)).toNat =
      some (number / 64, 1, 0x80, 0xBF) := by
    have code : number / 64 % 32 + 192 - 0xC0 = number / 64 := by omega
    rw [toNat_byte (by omega), leadByte?, if_neg (by omega), if_neg (by omega),
      if_pos (by omega), code]
  have value : 64 * (number / 64) + (number % 64 + 128) % 64 = number := by omega
  rw [utf8Pieces_lead _ lead,
    followingBytes_continue 0 _ rest (by omega) (by omega) (by omega), followingBytes, value]

/-- Three bytes are read as their character. -/
theorem utf8Pieces_three {number : Nat} (rest : Bytes) (large : 2047 < number)
    (small : number ≤ 65535) (noSurrogate : number < 0xD800 ∨ 0xDFFF < number) :
    utf8Pieces (UInt8.ofNat (number / 4096 % 16 + 224) ::
        UInt8.ofNat (number / 64 % 64 + 128) :: UInt8.ofNat (number % 64 + 128) :: rest) =
      some (Char.ofNat number) :: utf8Pieces rest := by
  have lead := leadByte?_three (Nat.mod_lt (number / 4096) (show 0 < 16 by decide))
  rw [← toNat_byte (show number / 4096 % 16 + 224 < 256 by omega)] at lead
  have value : 64 * (64 * (number / 4096 % 16) + (number / 64 % 64 + 128) % 64) +
      (number % 64 + 128) % 64 = number := by omega
  rw [utf8Pieces_lead _ lead,
    followingBytes_continue 1 _ _ (by split <;> omega) (by split <;> omega) (by omega),
    followingBytes_continue 0 _ rest (by omega) (by omega) (by omega), followingBytes, value]

/-- Four bytes are read as their character. -/
theorem utf8Pieces_four {number : Nat} (rest : Bytes) (large : 65535 < number)
    (small : number < 0x110000) :
    utf8Pieces (UInt8.ofNat (number / 262144 % 8 + 240) ::
        UInt8.ofNat (number / 4096 % 64 + 128) :: UInt8.ofNat (number / 64 % 64 + 128) ::
          UInt8.ofNat (number % 64 + 128) :: rest) =
      some (Char.ofNat number) :: utf8Pieces rest := by
  have lead := leadByte?_four (show number / 262144 % 8 < 5 by omega)
  rw [← toNat_byte (show number / 262144 % 8 + 240 < 256 by omega)] at lead
  have value : 64 * (64 * (64 * (number / 262144 % 8) + (number / 4096 % 64 + 128) % 64) +
      (number / 64 % 64 + 128) % 64) + (number % 64 + 128) % 64 = number := by omega
  rw [utf8Pieces_lead _ lead,
    followingBytes_continue 2 _ _ (by split <;> omega) (by split <;> omega) (by omega),
    followingBytes_continue 1 _ _ (by omega) (by omega) (by omega),
    followingBytes_continue 0 _ rest (by omega) (by omega) (by omega), followingBytes, value]

/-- The bytes of a character are read as that character. -/
theorem utf8Pieces_encode (character : Char) (rest : Bytes) :
    utf8Pieces (String.utf8EncodeChar character ++ rest) = some character :: utf8Pieces rest := by
  have ranges := toNat_ranges character
  have whole : some character = some (Char.ofNat character.val.toNat) :=
    congrArg some (Char.ofNat_toNat character).symm
  rw [Char.toNat] at ranges
  rw [String.utf8EncodeChar.eq_1, whole]
  split
  · exact utf8Pieces_one rest (by omega)
  · split
    · exact utf8Pieces_two rest (by omega) (by omega)
    · split
      · exact utf8Pieces_three rest (by omega) (by omega) (by omega)
      · exact utf8Pieces_four rest (by omega) (by omega)

/-- The bytes of characters are read as these characters. -/
theorem utf8Pieces_utf8 (characters : List Char) :
    utf8Pieces (characters.flatMap String.utf8EncodeChar) = characters.map some := by
  induction characters with
  | nil => rw [List.flatMap_nil, utf8Pieces, List.map_nil]
  | cons character rest ih => rw [List.flatMap_cons, utf8Pieces_encode, ih, List.map_cons]

/-- The bytes of a text are read as that text. -/
theorem ofUtf8?_utf8 (text : String) : ofUtf8? (utf8 text) = some text := by
  obtain ⟨characters, rfl⟩ : ∃ characters, text = String.ofList characters :=
    ⟨text.toList, String.ofList_toList.symm⟩
  have read : (characters.map some).mapM id = some characters := by
    induction characters with
    | nil => rfl
    | cons character rest ih => simp [ih]
  rw [ofUtf8?, utf8_ofList, utf8Pieces_utf8, read, Option.map_some]

/-- Nothing is replaced in the bytes of a text. -/
theorem ofUtf8Lossy_utf8 (text : String) : ofUtf8Lossy (utf8 text) = text := by
  obtain ⟨characters, rfl⟩ : ∃ characters, text = String.ofList characters :=
    ⟨text.toList, String.ofList_toList.symm⟩
  rw [ofUtf8Lossy, utf8_ofList, utf8Pieces_utf8, List.map_map]
  exact congrArg String.ofList (List.map_id characters)

/-- A byte is zero only for the number zero. -/
theorem ofNat_ne_zero {number : Nat} (positive : 0 < number) (fits : number < 256) :
    UInt8.ofNat number ≠ 0 := by
  intro zero
  have value := toNat_byte fits
  rw [zero] at value
  exact absurd value (Nat.ne_of_lt positive)

/-- Only the zero character has a zero byte. -/
theorem zero_mem_utf8EncodeChar {character : Char} :
    0 ∈ String.utf8EncodeChar character ↔ character = '\x00' := by
  constructor
  · intro zero
    have small : character.val.toNat < 0x110000 := by
      have ranges := toNat_ranges character
      rw [Char.toNat] at ranges
      omega
    have other {number : Nat} (positive : 0 < number) (fits : number < 256) :
        (0 : UInt8) ≠ UInt8.ofNat number := (ofNat_ne_zero positive fits).symm
    rw [String.utf8EncodeChar.eq_1] at zero
    split at zero
    case isTrue one =>
      rw [List.mem_singleton] at zero
      have number : character.val.toNat = 0 := by
        by_contra nonzero
        exact other (Nat.pos_of_ne_zero nonzero) (by omega) zero
      exact Char.toNat_inj.1 number
    -- The bytes of every other character are at least 128.
    case isFalse =>
      exfalso
      split at zero
      · simp only [List.mem_cons, List.not_mem_nil, or_false] at zero
        rcases zero with zero | zero <;> exact other (by omega) (by omega) zero
      · split at zero
        · simp only [List.mem_cons, List.not_mem_nil, or_false] at zero
          rcases zero with zero | zero | zero <;> exact other (by omega) (by omega) zero
        · simp only [List.mem_cons, List.not_mem_nil, or_false] at zero
          rcases zero with zero | zero | zero | zero <;>
            exact other (by omega) (by omega) zero
  · rintro rfl
    decide

/-- A text has a zero byte exactly if it has a zero character. -/
theorem zero_mem_utf8 (text : String) : 0 ∈ utf8 text ↔ '\x00' ∈ text.toList := by
  obtain ⟨characters, rfl⟩ : ∃ characters, text = String.ofList characters :=
    ⟨text.toList, String.ofList_toList.symm⟩
  simp only [utf8_ofList, List.mem_flatMap, zero_mem_utf8EncodeChar, String.toList_ofList]
  exact ⟨fun ⟨_, member, same⟩ => same ▸ member, fun member => ⟨_, member, rfl⟩⟩

end DeviceKernels.Text
