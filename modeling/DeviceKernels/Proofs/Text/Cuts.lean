import DeviceKernels.Text.Hexadecimal
import DeviceKernels.Text.Utf8
import Mathlib.Data.String.Basic

/-
Cuts of a text at a number of bytes. Whole characters are kept as long as they fit, so a cut loses
nothing but the bytes of a character that it falls into, and a cut that must not lose any exists
exactly on a character boundary.
-/

namespace DeviceKernels.Text

open String (utf8Len)

variable {limit : Nat} {characters front : List Char} {text : String}

theorem utf8Length_ofList (characters : List Char) :
    utf8Length (String.ofList characters) = utf8Len characters :=
  String.utf8ByteSize_ofList characters

theorem utf8Len_toList (text : String) : utf8Len text.toList = utf8Length text :=
  String.utf8Len_toList text

theorem takeBytes_begins (limit : Nat) (characters : List Char) :
    takeBytes limit characters <+: characters := by
  induction characters generalizing limit with
  | nil => exact List.prefix_refl []
  | cons character rest inductionHypothesis =>
      rw [takeBytes]
      split
      · exact List.prefix_cons_inj character |>.2 (inductionHypothesis _)
      · exact List.nil_prefix

theorem takeBytes_fits (limit : Nat) (characters : List Char) :
    utf8Len (takeBytes limit characters) ≤ limit := by
  induction characters generalizing limit with
  | nil => exact Nat.zero_le limit
  | cons character rest inductionHypothesis =>
      rw [takeBytes]
      split
      case isTrue fits =>
        rw [String.utf8Len_cons]
        exact Nat.add_le_of_le_sub fits (inductionHypothesis _)
      case isFalse => exact Nat.zero_le limit

/-- No beginning within the limit is longer. -/
theorem begins_takeBytes (starts : front <+: characters) (fits : utf8Len front ≤ limit) :
    front <+: takeBytes limit characters := by
  induction front generalizing limit characters with
  | nil => exact List.nil_prefix
  | cons character more inductionHypothesis =>
      obtain ⟨rest, rfl, more_rest⟩ := List.cons_prefix_iff.1 starts
      rw [String.utf8Len_cons] at fits
      rw [takeBytes, if_pos (by omega)]
      exact List.prefix_cons_inj character |>.2 (inductionHypothesis more_rest (by omega))

theorem takeBytes_of_fits (fits : utf8Len characters ≤ limit) :
    takeBytes limit characters = characters :=
  (takeBytes_begins limit characters).eq_of_length_le
    (begins_takeBytes (List.prefix_refl characters) fits).length_le

theorem truncateBytes_eq (limit : Nat) (text : String) :
    truncateBytes limit text = String.ofList (takeBytes limit text.toList) := by
  unfold truncateBytes
  split
  case isTrue fits =>
    rw [← utf8Len_toList] at fits
    rw [takeBytes_of_fits fits, String.ofList_toList]
  case isFalse => rfl

/-- A cut keeps the beginning of a text that has exactly as many bytes as the limit, or the whole
text if it is shorter. -/
theorem cutBytes?_eq_some_iff {kept : String} : cutBytes? limit text = some kept ↔
    ∃ rest, text = kept ++ rest ∧ utf8Length kept = min limit (utf8Length text) := by
  have taken : utf8Length (truncateBytes limit text) = utf8Len (takeBytes limit text.toList) := by
    rw [truncateBytes_eq, utf8Length_ofList]
  simp only [cutBytes?, beq_iff_eq, Option.ite_none_right_eq_some, Option.some.injEq]
  constructor
  · rintro ⟨exact, rfl⟩
    obtain ⟨rest, whole⟩ := takeBytes_begins limit text.toList
    refine ⟨String.ofList rest, ?_, exact⟩
    rw [truncateBytes_eq, ← String.ofList_append, whole, String.ofList_toList]
  · rintro ⟨rest, whole, exact⟩
    have starts : kept.toList <+: text.toList := by
      rw [whole, String.toList_append]
      exact List.prefix_append _ _
    have fits : utf8Len kept.toList ≤ limit := by
      rw [utf8Len_toList, exact]
      exact Nat.min_le_left ..
    -- What the cut keeps begins with the given beginning and has no byte more.
    obtain ⟨more, kept_more⟩ := begins_takeBytes starts fits
    have size : utf8Len kept.toList + utf8Len more ≤ min limit (utf8Length text) := by
      rw [← String.utf8Len_append, kept_more, ← utf8Len_toList text]
      exact Nat.le_min.2
        ⟨takeBytes_fits .., String.utf8Len_le_of_prefix (takeBytes_begins ..)⟩
    rw [utf8Len_toList, exact] at size
    have none : more = [] := String.utf8Len_eq_zero.1 (by omega)
    have same : truncateBytes limit text = kept := by
      rw [truncateBytes_eq, ← kept_more, none, List.append_nil, String.ofList_toList]
    exact ⟨same ▸ exact, same⟩

/-- A text can be cut exactly where a character ends. -/
theorem cutBytes?_isSome_iff : (cutBytes? limit text).isSome ↔
    String.Pos.Raw.IsValid text ⟨min limit (utf8Length text)⟩ := by
  simp only [Option.isSome_iff_exists, cutBytes?_eq_some_iff,
    String.Pos.Raw.isValid_iff_exists_append, String.Pos.Raw.ext_iff]
  exact exists_congr fun kept => exists_congr fun rest => and_congr_right fun _ => eq_comm

theorem utf8Len_of_single (single : ∀ character ∈ characters, character.utf8Size = 1) :
    utf8Len characters = characters.length := by
  induction characters with
  | nil => rfl
  | cons character rest inductionHypothesis =>
      obtain ⟨first, others⟩ := List.forall_mem_cons.1 single
      rw [String.utf8Len_cons, first, inductionHypothesis others, List.length_cons]

/-- A text of characters of one byte can be cut anywhere. -/
theorem isValid_of_single (single : ∀ character ∈ text.toList, character.utf8Size = 1)
    (limit : Nat) : String.Pos.Raw.IsValid text ⟨min limit (utf8Length text)⟩ := by
  have kept : ∀ character ∈ text.toList.take limit, character.utf8Size = 1 :=
    fun character member => single character (List.mem_of_mem_take member)
  rw [← cutBytes?_isSome_iff, Option.isSome_iff_exists]
  refine ⟨String.ofList (text.toList.take limit), cutBytes?_eq_some_iff.2
    ⟨String.ofList (text.toList.drop limit), ?_, ?_⟩⟩
  · rw [← String.ofList_append, List.take_append_drop, String.ofList_toList]
  · rw [utf8Length_ofList, utf8Len_of_single kept, ← utf8Len_toList, utf8Len_of_single single,
      List.length_take]

theorem utf8Size_hexDigit {digit : Char} (hexadecimal : (hexValue? digit).isSome) :
    digit.utf8Size = 1 := by
  have single (last : Char) (ascii : last.val ≤ 127) (below : digit ≤ last) :
      digit.utf8Size = 1 :=
    Char.utf8Size_eq_one_iff.2 (UInt32.le_trans below ascii)
  unfold hexValue? at hexadecimal
  split at hexadecimal
  case isTrue number => exact single '9' (by decide) number.2
  split at hexadecimal
  case isTrue lower => exact single 'f' (by decide) lower.2
  split at hexadecimal
  case isTrue upper => exact single 'F' (by decide) upper.2
  cases hexadecimal

end DeviceKernels.Text
