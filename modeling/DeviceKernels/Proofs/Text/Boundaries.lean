import DeviceKernels.Proofs.Text.Cuts
import DeviceKernels.Proofs.Text.Encoding
import DeviceKernels.Text.Boundary
import Mathlib.Order.Bounds.Basic

/-
The search finds the last boundary within the limit, so the text before it is the longest
beginning that fits, and a text that is too long loses at most three bytes more than it has to.
-/

namespace DeviceKernels.Text

open String (utf8Len)

variable {limit position : Nat} {text kept rest : String}

theorem continuesCharacter_ofNat {number : Nat} (fits : number < 256) :
    continuesCharacter (UInt8.ofNat number) = true ↔ 128 ≤ number ∧ number < 192 := by
  rw [continuesCharacter, Bool.and_eq_true, decide_eq_true_iff, decide_eq_true_iff,
    UInt8.le_iff_toNat_le, UInt8.lt_iff_toNat_lt, toNat_byte fits]
  exact Iff.rfl

/-- The last six bits of a number make a byte that continues a character. -/
theorem continuesCharacter_low (number : Nat) :
    continuesCharacter (UInt8.ofNat (number % 64 + 128)) = true :=
  (continuesCharacter_ofNat (by omega)).2 (by omega)

theorem utf8EncodeChar_parts (character : Char) :
    ∃ first others, String.utf8EncodeChar character = first :: others ∧
      continuesCharacter first = false ∧ ∀ byte ∈ others, continuesCharacter byte = true := by
  have lead {number : Nat} (fits : number < 256) (outside : number < 128 ∨ 192 ≤ number) :
      continuesCharacter (UInt8.ofNat number) = false := by
    rw [← Bool.not_eq_true, continuesCharacter_ofNat fits]
    omega
  have continued (numbers : List Nat) :
      ∀ byte ∈ numbers.map fun number => UInt8.ofNat (number % 64 + 128),
        continuesCharacter byte = true := by
    rw [List.forall_mem_map]
    exact fun number _ => continuesCharacter_low number
  rw [String.utf8EncodeChar.eq_1]
  generalize character.val.toNat = number
  split
  · exact ⟨_, _, rfl, lead (by omega) (by omega), continued []⟩
  · split
    · exact ⟨_, _, rfl, lead (by omega) (by omega), continued [number]⟩
    · split
      · exact ⟨_, _, rfl, lead (by omega) (by omega), continued [number / 64, number]⟩
      · exact ⟨_, _, rfl, lead (by omega) (by omega),
          continued [number / 4096, number / 64, number]⟩

/-- All bytes of a character but the first continue it. -/
theorem continuesCharacter_iff {character : Char} {index : Nat} {byte : UInt8}
    (found : (String.utf8EncodeChar character)[index]? = some byte) :
    continuesCharacter byte = true ↔ index ≠ 0 := by
  obtain ⟨first, others, parts, lead, continued⟩ := utf8EncodeChar_parts character
  rw [parts] at found
  cases index with
  | zero =>
      cases found
      simp [lead]
  | succ index =>
      rw [List.getElem?_cons_succ] at found
      simp [continued byte (List.mem_of_getElem? found)]

/-- The bytes of a text that continue no character are those that begin one. -/
theorem isUTF8FirstByte_iff {byte : UInt8} (member : byte ∈ utf8 text) :
    byte.IsUTF8FirstByte ↔ continuesCharacter byte = false := by
  rw [← String.ofList_toList (s := text), utf8_ofList] at member
  obtain ⟨character, -, inside⟩ := List.mem_flatMap.1 member
  obtain ⟨index, found⟩ := List.mem_iff_getElem?.1 inside
  obtain ⟨bound, same⟩ := List.getElem?_eq_some_iff.1 found
  rw [← Bool.not_eq_true, continuesCharacter_iff found, not_not, ← same,
    UInt8.isUTF8FirstByte_getElem_utf8EncodeChar]

theorem isBoundary_iff_isValid :
    isBoundary text position = true ↔ String.Pos.Raw.IsValid text ⟨position⟩ := by
  rw [String.Pos.Raw.isValid_iff_isUTF8FirstByte, isBoundary, Bool.or_eq_true, beq_iff_eq,
    String.Pos.Raw.ext_iff]
  rcases Nat.lt_or_ge position (utf8Length text) with inside | outside
  · have found : (utf8 text)[position]? = some (text.getUTF8Byte ⟨position⟩ inside) := by
      rw [utf8, Array.getElem?_toList]
      exact Array.getElem?_eq_getElem inside
    have begins := isUTF8FirstByte_iff (List.mem_of_getElem? found)
    have notEnd : position ≠ text.rawEndPos.byteIdx := Nat.ne_of_lt inside
    rw [found]
    simp only [Bool.not_eq_true', ← begins, notEnd, false_or]
    constructor
    · rintro (rfl | first)
      · exact ⟨inside, String.isUTF8FirstByte_getUTF8Byte_zero⟩
      · exact ⟨inside, first⟩
    · rintro ⟨_, first⟩
      exact .inr first
  · have missing : (utf8 text)[position]? = none := by
      rw [utf8, List.getElem?_eq_none_iff]
      exact outside
    have atEnd : text.rawEndPos.byteIdx = utf8Length text := rfl
    have noByte : ¬ (⟨position⟩ : String.Pos.Raw) < text.rawEndPos := Nat.not_lt.2 outside
    simp only [missing, atEnd, noByte, IsEmpty.exists_iff, or_false, beq_iff_eq]
    omega

/-- A boundary divides a text into two. -/
theorem isBoundary_iff : isBoundary text position = true ↔
    ∃ kept rest, text = kept ++ rest ∧ utf8Length kept = position := by
  simp only [isBoundary_iff_isValid, String.Pos.Raw.isValid_iff_exists_append,
    String.Pos.Raw.ext_iff]
  exact exists_congr fun kept => exists_congr fun rest => and_congr_right fun _ => eq_comm

theorem lastBoundary_isGreatest (text : String) (limit : Nat) :
    IsGreatest {position | position ≤ limit ∧ isBoundary text position = true}
      (lastBoundary text limit).position := by
  induction limit with
  | zero =>
      refine ⟨⟨le_rfl, isBoundary_zero text⟩, ?_⟩
      rintro position ⟨first, -⟩
      exact first
  | succ limit inductionHypothesis =>
      rw [lastBoundary]
      split
      case isTrue found =>
        refine ⟨⟨le_rfl, found⟩, ?_⟩
        rintro position ⟨within, -⟩
        exact within
      case isFalse notFound =>
        obtain ⟨⟨within, boundary⟩, greatest⟩ := inductionHypothesis
        refine ⟨⟨Nat.le_succ_of_le within, boundary⟩, ?_⟩
        rintro position ⟨within, boundary⟩
        rcases Nat.le_succ_iff.1 within with below | rfl
        · exact greatest ⟨below, boundary⟩
        · exact absurd boundary notFound

/-- A text that is too long is cut at most three bytes before the limit. -/
theorem limit_lt_lastBoundary (long : limit < utf8Length text) :
    limit < (lastBoundary text limit).position + 4 := by
  obtain ⟨⟨within, boundary⟩, greatest⟩ := lastBoundary_isGreatest text limit
  obtain ⟨kept, rest, whole, size⟩ := isBoundary_iff.1 boundary
  have sizes : utf8Length text = utf8Length kept + utf8Len rest.toList := by
    rw [utf8Len_toList, whole]
    exact String.utf8ByteSize_append
  cases characters : rest.toList with
  | nil =>
      rw [characters, String.utf8Len_nil] at sizes
      omega
  | cons next more =>
      -- The next boundary is one character further, and beyond the limit.
      have further : isBoundary text (utf8Length kept + next.utf8Size) = true := by
        refine isBoundary_iff.2 ⟨kept ++ String.ofList [next], String.ofList more, ?_, ?_⟩
        · rw [whole, ← String.ofList_toList (s := rest), characters, String.append_assoc,
            ← String.ofList_append, List.singleton_append]
        · rw [← utf8Len_toList, String.toList_append, String.toList_ofList, String.utf8Len_append,
            utf8Len_toList, String.utf8Len_cons, String.utf8Len_nil, Nat.zero_add]
      have positive := next.utf8Size_pos
      have small := next.utf8Size_le_four
      by_contra early
      have before := greatest ⟨by omega, further⟩
      omega

theorem takeBytes_append (front rest : List Char) :
    takeBytes (utf8Len front) (front ++ rest) = front := by
  induction front with
  | nil =>
      cases rest with
      | nil => rfl
      | cons character rest =>
          have positive := character.utf8Size_pos
          rw [List.nil_append, takeBytes, if_neg (by rw [String.utf8Len_nil]; omega)]
  | cons character front inductionHypothesis =>
      rw [List.cons_append, takeBytes, if_pos (by rw [String.utf8Len_cons]; omega),
        String.utf8Len_cons, Nat.add_sub_cancel, inductionHypothesis]

/-- A boundary loses no byte before it. -/
theorem before_spec (boundary : Boundary text) :
    ∃ rest, text = boundary.before ++ rest ∧ utf8Length boundary.before = boundary.position := by
  obtain ⟨kept, rest, whole, size⟩ := isBoundary_iff.1 boundary.isBoundary
  have same : boundary.before = kept := by
    rw [Boundary.before, ← size, whole, String.toList_append, ← utf8Len_toList, takeBytes_append,
      String.ofList_toList]
  rw [same]
  exact ⟨rest, whole, size⟩

/-- What is kept of a text within a limit. -/
structure Truncates (limit : Nat) (text kept : String) : Prop where
  whole : utf8Length text ≤ limit → kept = text
  begins : ∃ rest, text = kept ++ rest
  fits : utf8Length kept ≤ limit
  longest : ∀ front rest, text = front ++ rest → utf8Length front ≤ limit →
    utf8Length front ≤ utf8Length kept
  /-- The text ends where the search finds a boundary. -/
  found : limit < utf8Length text → utf8Length kept = (lastBoundary text limit).position
  boundary : isBoundary text (utf8Length kept) = true
  /-- At most three bytes within the limit are lost. -/
  full : limit < utf8Length text → limit < utf8Length kept + 4

theorem truncates_self (fits : utf8Length text ≤ limit) : Truncates limit text text := by
  have joined : text = text ++ "" := String.append_empty.symm
  refine ⟨fun _ => rfl, ⟨"", joined⟩, fits, ?_, fun long => absurd fits (Nat.not_le.2 long),
    isBoundary_iff.2 ⟨text, "", joined, rfl⟩, fun long => absurd fits (Nat.not_le.2 long)⟩
  intro front rest whole _
  have sizes : utf8Length (front ++ rest) = utf8Length front + utf8Length rest :=
    String.utf8ByteSize_append
  rw [whole, sizes]
  exact Nat.le_add_right ..

theorem truncates_before (long : limit < utf8Length text) :
    Truncates limit text (lastBoundary text limit).before := by
  obtain ⟨rest, whole, size⟩ := before_spec (lastBoundary text limit)
  obtain ⟨⟨within, boundary⟩, greatest⟩ := lastBoundary_isGreatest text limit
  refine ⟨fun short => absurd long (Nat.not_lt.2 short), ⟨rest, whole⟩, ?_, ?_, fun _ => size, ?_,
    fun _ => ?_⟩
  · rw [size]
    exact within
  · intro front rest whole fits
    rw [size]
    exact greatest ⟨fits, isBoundary_iff.2 ⟨front, rest, whole, rfl⟩⟩
  · rw [size]
    exact boundary
  · rw [size]
    exact limit_lt_lastBoundary long

/-- A last character across the limit is left out. -/
theorem Truncates.eq_front {front : List Char} {last : Char}
    (truncates : Truncates limit (String.ofList (front ++ [last])) kept)
    (fits : utf8Len front ≤ limit) (across : limit < utf8Len front + last.utf8Size) :
    kept = String.ofList front := by
  obtain ⟨rest, begins⟩ := truncates.begins
  have starts : kept.toList <+: front ++ [last] :=
    ⟨rest.toList, by rw [← String.toList_append, ← begins, String.toList_ofList]⟩
  have within := truncates.fits
  have longest := truncates.longest (String.ofList front) (String.ofList [last])
    String.ofList_append (by rwa [utf8Length_ofList])
  rw [utf8Length_ofList, ← utf8Len_toList] at longest
  rw [← utf8Len_toList] at within
  rcases List.prefix_concat_iff.1 starts with all | ⟨more, inside⟩
  · rw [all, String.utf8Len_append, String.utf8Len_cons, String.utf8Len_nil] at within
    omega
  · rw [← inside, String.utf8Len_append] at longest
    have none : more = [] := String.utf8Len_eq_zero.1 (by omega)
    rw [← inside, none, List.append_nil, String.ofList_toList]

end DeviceKernels.Text
