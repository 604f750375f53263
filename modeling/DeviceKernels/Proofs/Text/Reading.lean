import DeviceKernels.Text.Numeral
import Mathlib

/-
Reading a text back. A rendering is legible before a separator if the rendered value, and all that
comes after the separator, can be told from the joined text.
-/

namespace DeviceKernels.Text

variable {Value : Type} {inside : Char → Bool} {first second rest rest' : String}

/-- Every character of the text is of the class. -/
def Within (inside : Char → Bool) (text : String) : Prop := text.toList.all inside = true

/-- The text does not begin with a character of the class. -/
def Outside (inside : Char → Bool) (text : String) : Prop := text.toList.head?.any inside = false

instance (inside : Char → Bool) (text : String) : Decidable (Within inside text) :=
  inferInstanceAs (Decidable (text.toList.all inside = true))

instance (inside : Char → Bool) (text : String) : Decidable (Outside inside text) :=
  inferInstanceAs (Decidable (text.toList.head?.any inside = false))

theorem Within.mono {wider : Char → Bool} (within : Within inside first)
    (included : ∀ character, inside character = true → wider character = true) :
    Within wider first :=
  List.all_eq_true.2 fun character member =>
    included character (List.all_eq_true.1 within character member)

theorem Within.append (within : Within inside first) (more : Within inside second) :
    Within inside (first ++ second) := by
  rw [Within, String.toList_append, List.all_append, within, more]
  rfl

theorem within_append :
    Within inside (first ++ second) ↔ Within inside first ∧ Within inside second := by
  rw [Within, String.toList_append, List.all_append, Bool.and_eq_true]
  rfl

/-- What a text begins with does not depend on how it goes on. -/
theorem Outside.append (outside : Outside inside first) (nonempty : first ≠ "") (rest : String) :
    Outside inside (first ++ rest) := by
  have characters : first.toList ≠ [] := fun empty => nonempty (String.toList_eq_nil_iff.1 empty)
  rw [Outside, String.toList_append, List.head?_append_of_ne_nil _ characters]
  exact outside

theorem Outside.append_outside (outside : Outside inside first) (more : Outside inside second) :
    Outside inside (first ++ second) := by
  by_cases empty : first = ""
  · rwa [empty, String.empty_append]
  · exact outside.append empty second

theorem takeWhile_append (within : Within inside first) (outside : Outside inside rest) :
    (first ++ rest).toList.takeWhile inside = first.toList := by
  rw [String.toList_append, List.takeWhile_append_of_pos (List.all_eq_true.1 within)]
  rw [Outside] at outside
  cases characters : rest.toList with
  | nil => simp
  | cons head tail =>
      rw [characters] at outside
      simp [show inside head = false from outside]

/-- A text of one class ends where the class ends. -/
theorem append_cancel (within : Within inside first) (within' : Within inside second)
    (outside : Outside inside rest) (outside' : Outside inside rest')
    (joined : first ++ rest = second ++ rest') : first = second ∧ rest = rest' := by
  have same : first = second := by
    rw [← String.toList_inj, ← takeWhile_append within outside, joined,
      takeWhile_append within' outside']
  subst same
  exact ⟨rfl, (String.append_right_inj first).1 joined⟩

/-- The value and the text after the separator can be told from the joined text. -/
def Legible (separator : String) (render : Value → String) : Prop :=
  ∀ ⦃first second : Value⦄ ⦃rest rest' : String⦄,
    render first ++ (separator ++ rest) = render second ++ (separator ++ rest') →
      first = second ∧ rest = rest'

/-- A rendering is injective if it gives the values of a complete list different texts. -/
theorem injective_of_nodup {render : Value → String} (all : List Value)
    (complete : ∀ value, value ∈ all) (distinct : (all.map render).Nodup) :
    Function.Injective render :=
  fun first second same =>
    List.inj_on_of_nodup_map distinct (complete first) (complete second) same

/-- Distinct words of one class are legible before a separator that begins outside the class. -/
theorem legible_of_within {render : Value → String} {separator : String}
    (within : ∀ value, Within inside (render value)) (outside : Outside inside separator)
    (nonempty : separator ≠ "") (injective : Function.Injective render) :
    Legible separator render := by
  intro first second rest rest' joined
  obtain ⟨same, tails⟩ := append_cancel (within first) (within second)
    (outside.append nonempty rest) (outside.append nonempty rest') joined
  exact ⟨injective same, (String.append_right_inj separator).1 tails⟩

/-- Distinct words of one class, and a separator that begins outside the class. -/
def Vocabulary (inside : Char → Bool) (separator : String) (words : List String) : Prop :=
  (∀ word ∈ words, Within inside word) ∧ words.Nodup ∧ Outside inside separator ∧ separator ≠ ""

instance (inside : Char → Bool) (separator : String) (words : List String) :
    Decidable (Vocabulary inside separator words) :=
  inferInstanceAs (Decidable ((∀ word ∈ words, Within inside word) ∧ words.Nodup ∧
    Outside inside separator ∧ separator ≠ ""))

/-- The words that a complete list of values is rendered as are legible. -/
theorem legible_of_vocabulary {separator : String} {render : Value → String}
    (inside : Char → Bool) (all : List Value) (complete : ∀ value, value ∈ all)
    (vocabulary : Vocabulary inside separator (all.map render)) : Legible separator render := by
  obtain ⟨within, distinct, outside, nonempty⟩ := vocabulary
  exact legible_of_within (fun value => within _ (List.mem_map_of_mem (complete value))) outside
    nonempty (injective_of_nodup all complete distinct)

/-- The digits of a number are digits. -/
theorem isDigit_toDigits {number : Nat} {digit : Char} (member : digit ∈ Nat.toDigits 10 number) :
    isDigit digit := by
  have classified := Nat.isDigit_of_mem_toDigits (by omega) (by omega) member
  simp only [Char.isDigit, isDigit, Bool.and_eq_true, decide_eq_true_eq] at classified ⊢
  exact classified

theorem decimal_within (number : Nat) : Within isDigit (decimal number) := by
  refine List.all_eq_true.2 fun character member => ?_
  rw [decimal, Nat.repr_eq_ofList_toDigits, String.toList_ofList] at member
  exact isDigit_toDigits member

/-- The class of all characters but one. -/
def isOther (mark character : Char) : Bool := character != mark

/-- A numeral has no mark that is not a digit. -/
theorem decimal_other {mark : Char} (noDigit : isDigit mark = false) (number : Nat) :
    Within (isOther mark) (decimal number) := by
  refine (decimal_within number).mono fun character digit => ?_
  rw [isOther, bne_iff_ne]
  rintro rfl
  rw [noDigit] at digit
  exact Bool.false_ne_true digit

theorem word_injective : Function.Injective fun word : UInt32 => decimal word.toNat :=
  fun _ _ same => UInt32.toNat_inj.1 (Nat.repr_inj.1 same)

/-- A number is legible before any text that does not begin with a digit. -/
theorem word_cancel {number number' : UInt32} (outside : Outside isDigit rest)
    (outside' : Outside isDigit rest')
    (joined : decimal number.toNat ++ rest = decimal number'.toNat ++ rest') :
    number = number' ∧ rest = rest' := by
  obtain ⟨same, tails⟩ := append_cancel (decimal_within _) (decimal_within _) outside outside' joined
  exact ⟨word_injective same, tails⟩

theorem word_legible {separator : String} (outside : Outside isDigit separator)
    (nonempty : separator ≠ "") : Legible separator fun word : UInt32 => decimal word.toNat :=
  legible_of_within (fun word => decimal_within word.toNat) outside nonempty word_injective

/-- Parts of one class can be told from the joined text if every separator has a character outside
the class. Only the first of these characters counts, so the separator may begin with a mark. -/
theorem join_cancel {mark gap : String} (withinMark : Within inside mark)
    (outside : Outside inside gap) (nonempty : gap ≠ "") :
    ∀ {parts parts' : List String}, parts.length = parts'.length →
      (∀ part ∈ parts, Within inside part) → (∀ part ∈ parts', Within inside part) →
      join (mark ++ gap) parts = join (mark ++ gap) parts' → parts = parts'
  | [], [], _, _, _, _ => rfl
  | [part], [part'], _, _, _, joined => by
      simp only [join, String.intercalate_singleton] at joined
      rw [joined]
  | part :: next :: parts, part' :: next' :: parts', lengths, within, within', joined => by
      have marked : (part ++ mark) ++ (gap ++ join (mark ++ gap) (next :: parts)) =
          (part' ++ mark) ++ (gap ++ join (mark ++ gap) (next' :: parts')) := by
        simpa only [join, String.intercalate_cons_cons, String.append_assoc] using joined
      obtain ⟨head, tail⟩ := append_cancel
        ((within part List.mem_cons_self).append withinMark)
        ((within' part' List.mem_cons_self).append withinMark)
        (outside.append nonempty _) (outside.append nonempty _) marked
      have rest := join_cancel withinMark outside nonempty (Nat.succ.inj lengths)
        (fun part member => within part (List.mem_cons_of_mem _ member))
        (fun part member => within' part (List.mem_cons_of_mem _ member))
        ((String.append_right_inj gap).1 tail)
      rw [(String.append_left_inj mark).1 head, rest]

end DeviceKernels.Text
