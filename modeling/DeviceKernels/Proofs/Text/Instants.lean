import DeviceKernels.Proofs.Text.Calendar
import DeviceKernels.Proofs.Text.Numerals

/-
Instants there and back. Every part of the written form ends in a mark or a letter that stops its
reader, and the parts are the date and the time of day that the instant falls on.
-/

namespace DeviceKernels.Instant

variable {digits rest : List Char} {width number : Nat}

/-- A digit is no white space. -/
theorem isBlank_digit {digit : Char} (within : Text.isDigit digit) : Text.isBlank digit = false := by
  have range : 48 ≤ digit.toNat ∧ digit.toNat ≤ 57 := by
    simp only [Text.isDigit, Bool.and_eq_true, decide_eq_true_eq] at within
    exact within
  simp only [Text.isBlank, Text.blankRanges, List.any_cons, List.any_nil, Bool.or_false,
    Bool.or_eq_false_iff, Bool.and_eq_false_iff, decide_eq_false_iff_not]
  omega

theorem trimStart_cons {character : Char} (visible : Text.isBlank character = false) :
    Text.trimStart (character :: rest) = character :: rest :=
  List.dropWhile_cons_of_neg (by simpa using visible)

/-- Digits of at most the width are read up to where they end. -/
theorem readNumber_digits (some : digits ≠ []) (within : ∀ digit ∈ digits, Text.isDigit digit)
    (fits : digits.length ≤ width) (stops : Text.Stops Text.isDigit rest) :
    readNumber width (digits ++ rest) = .some (Text.ofDigits digits, rest) := by
  simp [readNumber, Text.takeWhile_stops within stops, List.take_of_length_le fits, some]

/-- A padded numeral begins with a digit. -/
theorem paddedDecimal_begins (width number : Nat) : ∃ digit others,
    (Text.paddedDecimal width number).toList = digit :: others ∧ Text.isDigit digit := by
  cases characters : (Text.paddedDecimal width number).toList with
  | nil =>
      rw [Text.toList_paddedDecimal] at characters
      exact absurd characters (by simp)
  | cons digit others =>
      exact ⟨digit, others, rfl, Text.isDigit_paddedDecimal (characters ▸ List.mem_cons_self)⟩

/-- A padded numeral of at most the width is read as its number. -/
theorem readNumber_paddedDecimal {width' : Nat}
    (fits : (Text.paddedDecimal width number).toList.length ≤ width')
    (stops : Text.Stops Text.isDigit rest) :
    readNumber width' ((Text.paddedDecimal width number).toList ++ rest) = some (number, rest) := by
  obtain ⟨digit, others, characters, -⟩ := paddedDecimal_begins width number
  have some : (Text.paddedDecimal width number).toList ≠ [] := by simp [characters]
  rw [readNumber_digits some (fun _ => Text.isDigit_paddedDecimal) fits stops,
    Text.ofDigits_paddedDecimal]

theorem trimStart_paddedDecimal : Text.trimStart ((Text.paddedDecimal width number).toList ++ rest) =
    (Text.paddedDecimal width number).toList ++ rest := by
  obtain ⟨digit, others, characters, within⟩ := paddedDecimal_begins width number
  rw [characters]
  exact trimStart_cons (isBlank_digit within)

/-- A number of two digits is read as it is written. -/
theorem readField_paddedDecimal (small : number < 100) (stops : Text.Stops Text.isDigit rest) :
    readField ((Text.paddedDecimal 2 number).toList ++ rest) = some (number, rest) := by
  rw [readField, trimStart_paddedDecimal]
  exact readNumber_paddedDecimal (Text.length_paddedDecimal (by omega) small).le stops

theorem readMark_cons {mark : Char} (visible : Text.isBlank mark = false) :
    readMark mark (mark :: rest) = some rest := by
  simp [readMark, trimStart_cons visible]

/-- A mark and the number of two digits after it are read as they are written. -/
theorem readMark_readField {α : Type} {mark : Char} (visible : Text.isBlank mark = false)
    (small : number < 100) (stops : Text.Stops Text.isDigit rest)
    (more : Nat × List Char → Option α) :
    ((readMark mark (mark :: ((Text.paddedDecimal 2 number).toList ++ rest))).bind
      fun text => (readField text).bind more) = more (number, rest) := by
  rw [readMark_cons visible, Option.bind_some, readField_paddedDecimal small stops, Option.bind_some]

/-- A year without a sign has at most four digits. -/
theorem readYear_unsigned {digit : Char} (within : Text.isDigit digit) :
    readYear (digit :: rest) =
      (readNumber 4 (digit :: rest)).map fun (year, rest) => ((year : Int), rest) := by
  have minus : digit ≠ '-' := by rintro rfl; exact absurd within (by decide)
  have plus : digit ≠ '+' := by rintro rfl; exact absurd within (by decide)
  rw [readYear, trimStart_cons (isBlank_digit within)]
  simp [minus, plus]

/-- A year with a sign has any number of digits. -/
theorem readYear_signed (negative : Bool) :
    readYear ((if negative then '-' else '+') :: rest) = (readNumber rest.length rest).map
      fun (year, rest) => (if negative then -(year : Int) else year, rest) := by
  cases negative <;>
  · rw [readYear, trimStart_cons (by decide)]
    rfl

/-- A year is read as it is written. -/
theorem readYear_renderYear (year : Int) (stops : Text.Stops Text.isDigit rest) :
    readYear ((renderYear year).toList ++ rest) = some (year, rest) := by
  rw [renderYear]
  split
  case isTrue four =>
    have read := readNumber_paddedDecimal
      (@Text.length_paddedDecimal 4 year.toNat (by decide) (by omega)).le stops
    obtain ⟨digit, others, characters, within⟩ := paddedDecimal_begins 4 year.toNat
    rw [characters, List.cons_append] at read ⊢
    rw [readYear_unsigned within, read]
    simp [four.1]
  case isFalse other =>
    have fits : (Text.paddedDecimal 4 year.natAbs).toList.length ≤
        ((Text.paddedDecimal 4 year.natAbs).toList ++ rest).length := by simp
    have read := readNumber_paddedDecimal fits stops
    have marked : (if year < 0 then "-" else "+").toList =
        [if decide (year < 0) then '-' else '+'] := by
      by_cases before : year < 0 <;> simp [before]
    rw [String.toList_append, List.append_assoc, marked, List.singleton_append, readYear_signed,
      read]
    simp only [Option.map_some, decide_eq_true_eq, Option.some.injEq, Prod.mk.injEq, and_true]
    omega

/-- A fraction of enough digits is read as its nanoseconds. -/
theorem readFraction_exact {nanoseconds : Nat} (some : 0 < width) (most : width ≤ 9)
    (small : nanoseconds < 1000000000) (exact : nanoseconds % 10 ^ (9 - width) = 0)
    (stops : Text.Stops Text.isDigit rest) :
    readFraction (("." ++ Text.paddedDecimal width (nanoseconds / 10 ^ (9 - width))).toList ++ rest) =
      .some (nanoseconds, rest) := by
  have short : nanoseconds / 10 ^ (9 - width) < 10 ^ width := by
    apply Nat.div_lt_of_lt_mul
    rw [← pow_add, Nat.sub_add_cancel most]
    exact small
  have length := Text.length_paddedDecimal some short
  obtain ⟨digit, others, characters, -⟩ :=
    paddedDecimal_begins width (nanoseconds / 10 ^ (9 - width))
  have nonempty : (Text.paddedDecimal width (nanoseconds / 10 ^ (9 - width))).toList.isEmpty =
      false := by
    rw [characters]
    rfl
  have scaled : nanoseconds / 10 ^ (9 - width) * Nat.pow 10 (9 - width) = nanoseconds :=
    Nat.div_mul_cancel (Nat.dvd_of_mod_eq_zero exact)
  have point (text : String) : ("." ++ text).toList ++ rest = '.' :: (text.toList ++ rest) := by simp
  rw [point, readFraction, Text.takeWhile_stops (fun _ => Text.isDigit_paddedDecimal) stops]
  dsimp only
  rw [nonempty, List.take_of_length_le (length.trans_le most), length, Text.ofDigits_paddedDecimal,
    List.drop_left' length, scaled]
  rfl

/-- A fraction is written with as many digits as it needs. -/
theorem readFraction_renderFraction {nanoseconds : Nat} (small : nanoseconds < 1000000000) :
    readFraction ((renderFraction nanoseconds).toList ++ 'Z' :: rest) =
      some (nanoseconds, 'Z' :: rest) := by
  have stops : Text.Stops Text.isDigit ('Z' :: rest) := Text.stops_cons (by decide)
  unfold renderFraction
  split
  case isTrue zero =>
    rw [eq_of_beq zero]
    rfl
  split
  case isTrue whole =>
    exact @readFraction_exact _ 3 _ (by decide) (by decide) small (eq_of_beq whole) stops
  split
  case isTrue whole =>
    exact @readFraction_exact _ 6 _ (by decide) (by decide) small (eq_of_beq whole) stops
  case isFalse =>
    simpa using @readFraction_exact _ 9 _ (by decide) (by decide) small (Nat.mod_one _) stops

/-- An instant that the calendar has: it has the year, and only the last second of a minute can be
followed by a leap second. -/
structure InRange (instant : Instant) : Prop where
  year : hasYear instant.year
  nanoseconds : instant.nanoseconds < 1000000000 ∨
    instant.nanoseconds < 2000000000 ∧ instant.seconds % 60 = 59

/-- The instant that counts no seconds is in range. -/
theorem inRange_zero : InRange ⟨0, 0⟩ := ⟨by decide, .inl (by decide)⟩

/-- The written form of a date and a time of day in universal time. -/
def written (year : Int) (month day hour minute second nanoseconds : Nat) : List Char :=
  (renderYear year).toList ++ '-' :: ((Text.paddedDecimal 2 month).toList ++
    '-' :: ((Text.paddedDecimal 2 day).toList ++ 'T' :: ((Text.paddedDecimal 2 hour).toList ++
      ':' :: ((Text.paddedDecimal 2 minute).toList ++ ':' :: ((Text.paddedDecimal 2 second).toList ++
        ((renderFraction nanoseconds).toList ++ ['Z']))))))

/-- What follows the seconds is no digit. -/
theorem stops_renderFraction (nanoseconds : Nat) :
    Text.Stops Text.isDigit ((renderFraction nanoseconds).toList ++ 'Z' :: rest) := by
  unfold renderFraction
  repeat' split
  all_goals simp [Text.Stops, Text.isDigit]

/-- A date and a time of day are read as they are written. -/
theorem parse?_written {text : String} {year : Int} {month day hour minute second nanoseconds : Nat}
    {instant : Instant} (date : IsDate year month day) (bounded : hasYear year) (hours : hour < 24)
    (minutes : minute < 60) (seconds : second ≤ 60) (small : nanoseconds < 1000000000)
    (same : text.toList = written year month day hour minute second nanoseconds)
    (made : ⟨daysFromDate year month day * 86400 +
      (hour * 3600 + minute * 60 + (if second = 60 then 59 else second)),
        if second = 60 then nanoseconds + 1000000000 else nanoseconds⟩ = instant)
    (inRange : hasYear instant.year) : parse? text = some instant := by
  obtain ⟨month_pos, month_le, day_pos, day_le⟩ := date
  have days := daysInMonth_le year month
  -- No check at the end of the reader fails.
  have valid : (!(Text.trimStart []).isEmpty || decide ((0 : Int).natAbs ≥ 86400) ||
      !hasYear year || decide (month < 1) || decide (12 < month) ||
      decide (day < 1) || decide (daysInMonth year month < day) || decide (23 < hour) ||
      decide (59 < minute) || decide (60 < second)) = false := by
    simp [Text.trimStart, bounded]
    omega
  rw [parse?, same, written]
  dsimp only [Option.bind_eq_bind]
  rw [readYear_renderYear year (Text.stops_cons (by decide)), Option.bind_some]
  dsimp only
  rw [readMark_readField (by decide) (by omega) (Text.stops_cons (by decide))]
  dsimp only
  rw [readMark_readField (by decide) (by omega) (Text.stops_cons (by decide))]
  dsimp only
  split
  case h_1 rest begun =>
    obtain rfl := (List.cons.inj begun).2
    rw [Option.bind_some, readField_paddedDecimal (by omega) (Text.stops_cons (by decide)),
      Option.bind_some]
    dsimp only
    rw [readMark_readField (by decide) (by omega) (Text.stops_cons (by decide))]
    dsimp only
    rw [readMark_readField (by decide) (by omega) (stops_renderFraction nanoseconds)]
    dsimp only
    rw [readFraction_renderFraction small, Option.bind_some]
    dsimp only
    rw [trimStart_cons (by decide), readZone]
    dsimp only [Option.bind_some]
    rw [valid]
    subst made
    simpa using inRange
  case h_2 begun => exact absurd (List.cons.inj begun).1 (by decide)
  case h_3 begun => exact absurd (List.cons.inj begun).1 (by decide)
  case h_4 other _ _ => exact absurd rfl (other _)

/-- The written form of an instant is that of its date and its time of day. -/
theorem toList_render (instant : Instant) : instant.render.toList =
    written (dateFromDays (instant.seconds / 86400)).1 (dateFromDays (instant.seconds / 86400)).2.1
      (dateFromDays (instant.seconds / 86400)).2.2 ((instant.seconds % 86400).toNat / 3600)
      ((instant.seconds % 86400).toNat / 60 % 60)
      ((instant.seconds % 86400).toNat % 60 + instant.nanoseconds / 1000000000)
      (instant.nanoseconds % 1000000000) := by
  simp [render, renderDate, renderTime, written]

/-- An instant is read as it is written. -/
theorem parse?_render {instant : Instant} (inRange : instant.InRange) :
    parse? instant.render = some instant := by
  obtain ⟨date, days⟩ := daysFromDate_dateFromDays (instant.seconds / 86400)
  have second : (instant.seconds % 86400).toNat % 60 + instant.nanoseconds / 1000000000 ≤ 60 ∧
      ((instant.seconds % 86400).toNat % 60 + instant.nanoseconds / 1000000000 = 60 ↔
        1000000000 ≤ instant.nanoseconds) := by
    have bounded := inRange.nanoseconds
    omega
  refine parse?_written date inRange.year (by omega) (by omega) second.1 (Nat.mod_lt _ (by decide))
    (toList_render instant) ?_ inRange.year
  rw [days]
  simp only [second.2]
  have bounded := inRange.nanoseconds
  by_cases leap : 1000000000 ≤ instant.nanoseconds
  · rw [if_pos leap, if_pos leap]
    congr 2
    · omega
    · omega
  · rw [if_neg leap, if_neg leap]
    congr 2
    · omega
    · omega

/-- The last year ends in universal time. -/
example : parse? "+262142-12-31T23:59:59-01:00" = none := by decide +kernel

end DeviceKernels.Instant
