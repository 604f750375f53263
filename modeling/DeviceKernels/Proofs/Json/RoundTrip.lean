import DeviceKernels.Proofs.Json.Scalars

/-
JSON values there and back. The indented form of a value that the reader allows is read as that
value.
-/

namespace DeviceKernels.Json

variable {rest source : Rest} {fuel depth level : Nat}

mutual

/-- Whether the reader allows a value where so many levels may be open: every array and object opens
a level, and a decimal is in range. -/
def isReadable (depth : Nat) : Json → Bool
  | .array items => 1 < depth && areReadable (depth - 1) items
  | .object fields => 1 < depth && areReadableFields (depth - 1) fields
  | .decimal _ digits exponent => decimalInRange digits exponent
  | _ => true

def areReadable (depth : Nat) : List Json → Bool
  | [] => true
  | item :: rest => isReadable depth item && areReadable depth rest

def areReadableFields (depth : Nat) : List (String × Json) → Bool
  | [] => true
  | (_, value) :: rest => isReadable depth value && areReadableFields depth rest

end

/-- The white space that the reader skips. -/
def isSpace (character : Char) : Bool :=
  character == ' ' || character == '\n' || character == '\t' || character == '\r'

@[simp]
theorem skipBlank_nil : skipBlank [] = [] := List.dropWhile_nil

theorem skipBlank_cons {character : Char} (visible : isSpace character = false) :
    skipBlank (character :: rest) = character :: rest :=
  List.dropWhile_cons_of_neg (by simpa [isSpace] using visible)

theorem skipBlank_lineBreak : skipBlank ((lineBreak level).toList ++ source) = skipBlank source := by
  rw [lineBreak, String.toList_ofList, skipBlank, List.dropWhile_append_of_pos]
  intro character member
  rcases List.mem_cons.mp member with rfl | member
  · rfl
  · rw [(List.mem_replicate.mp member).2]
    rfl

/-- A mark on the next line is read next. -/
theorem skipBlank_mark {mark : Char} (visible : isSpace mark = false) :
    skipBlank ((lineBreak level).toList ++ mark :: rest) = mark :: rest := by
  rw [skipBlank_lineBreak, skipBlank_cons visible]

theorem readValue_lineBreak :
    readValue fuel depth ((lineBreak level).toList ++ source) = readValue fuel depth source := by
  cases fuel with
  | zero => rfl
  | succ fuel => rw [readValue, readValue, skipBlank_lineBreak]

theorem readValue_space :
    readValue fuel depth (' ' :: source) = readValue fuel depth source := by
  cases fuel with
  | zero => rfl
  | succ fuel =>
      rw [readValue, readValue]
      rfl

theorem readItems_lineBreak :
    readItems fuel depth ((lineBreak level).toList ++ source) = readItems fuel depth source := by
  cases fuel with
  | zero => rfl
  | succ fuel => rw [readItems, readItems, readValue_lineBreak]

theorem readFields_lineBreak :
    readFields fuel depth ((lineBreak level).toList ++ source) = readFields fuel depth source := by
  cases fuel with
  | zero => rfl
  | succ fuel => rw [readFields, readFields, readName, readName, skipBlank_lineBreak]

theorem length_lineBreak (level : Nat) : (lineBreak level).toList.length = 2 * level + 1 := by
  simp [lineBreak]

/-- A line break ends a number. -/
theorem stops_lineBreak (level : Nat) (rest : Rest) :
    Text.Stops isNumeric ((lineBreak level).toList ++ rest) := by
  rw [lineBreak, String.toList_ofList]
  exact Text.stops_cons rfl

/-- The items of an array, a line each, up to its closing bracket. -/
def itemLines (level : Nat) (items : List Json) (rest : Rest) : Rest :=
  (Text.join ("," ++ lineBreak (level + 1)) (indentedItems (level + 1) items)).toList ++
    ((lineBreak level).toList ++ ']' :: rest)

/-- The fields of an object, a line each, up to its closing brace. -/
def fieldLines (level : Nat) (fields : List (String × Json)) (rest : Rest) : Rest :=
  (Text.join ("," ++ lineBreak (level + 1)) (indentedFields (level + 1) fields)).toList ++
    ((lineBreak level).toList ++ '\x7d' :: rest)

theorem join_lines (line next : String) (lines : List String) :
    (Text.join ("," ++ lineBreak level) (line :: next :: lines)).toList =
      line.toList ++ ',' :: ((lineBreak level).toList ++
        (Text.join ("," ++ lineBreak level) (next :: lines)).toList) := by
  simp [Text.join, String.intercalate_cons_cons]

theorem itemLines_single (item : Json) : itemLines level [item] rest =
    (indented (level + 1) item).toList ++ ((lineBreak level).toList ++ ']' :: rest) := by
  simp [itemLines, indentedItems, Text.join]

theorem itemLines_cons (item next : Json) (items : List Json) :
    itemLines level (item :: next :: items) rest =
      (indented (level + 1) item).toList ++ ',' :: ((lineBreak (level + 1)).toList ++
        itemLines level (next :: items) rest) := by
  simp [itemLines, indentedItems, join_lines]

theorem fieldLines_single (name : String) (value : Json) :
    fieldLines level [(name, value)] rest = (quote name).toList ++ (':' :: ' ' ::
      ((indented (level + 1) value).toList ++ ((lineBreak level).toList ++ '\x7d' :: rest))) := by
  simp [fieldLines, indentedFields, Text.join]

theorem fieldLines_cons (name : String) (value : Json) (next : String × Json)
    (fields : List (String × Json)) :
    fieldLines level ((name, value) :: next :: fields) rest = (quote name).toList ++ (':' :: ' ' ::
      ((indented (level + 1) value).toList ++ ',' :: ((lineBreak (level + 1)).toList ++
        fieldLines level (next :: fields) rest))) := by
  simp [fieldLines, indentedFields, join_lines]

theorem indented_array (item : Json) (items : List Json) :
    (indented level (.array (item :: items))).toList ++ rest =
      '[' :: ((lineBreak (level + 1)).toList ++ itemLines level (item :: items) rest) := by
  simp [indented, itemLines]

theorem indented_object (field : String × Json) (fields : List (String × Json)) :
    (indented level (.object (field :: fields))).toList ++ rest =
      '\x7b' :: ((lineBreak (level + 1)).toList ++ fieldLines level (field :: fields) rest) := by
  simp [indented, fieldLines]

/-- The text begins with a character that is no white space and closes nothing. -/
def Opens (source : Rest) : Prop :=
  ∃ head tail, source = head :: tail ∧ isSpace head = false ∧ head ≠ ']' ∧ head ≠ '\x7d'

theorem Opens.skipBlank (opens : Opens source) : skipBlank source = source := by
  obtain ⟨head, tail, rfl, visible, -⟩ := opens
  exact skipBlank_cons visible

theorem Numeral.opens (numeral : Numeral source) : Opens source := by
  obtain ⟨head, tail, rfl, -⟩ := id numeral
  have other {mark : Char} (sign : mark ≠ '-') (digit : Text.isDigit mark = false) :=
    numeral.head_ne sign digit
  refine ⟨head, tail, rfl, ?_, other (by decide) (by decide), other (by decide) (by decide)⟩
  simp only [isSpace, Bool.or_eq_false_iff, beq_eq_false_iff_ne]
  exact ⟨⟨⟨other (by decide) (by decide), other (by decide) (by decide)⟩,
    other (by decide) (by decide)⟩, other (by decide) (by decide)⟩

theorem opens_quote (text : String) (rest : Rest) : Opens ((quote text).toList ++ rest) := by
  obtain ⟨body, written, -⟩ := readQuoted_quote text
  exact ⟨'"', body, written, by decide⟩

/-- A written value opens. -/
theorem opens_indented (level : Nat) (json : Json) (rest : Rest) :
    Opens ((indented level json).toList ++ rest) := by
  cases json with
  | null => exact ⟨'n', _, by rw [indented]; rfl, by decide⟩
  | boolean value =>
      cases value with
      | false => exact ⟨'f', _, by rw [indented]; rfl, by decide⟩
      | true => exact ⟨'t', _, by rw [indented]; rfl, by decide⟩
  | integer value =>
      rw [indented]
      exact (numeral_integer value).opens
  | decimal negative digits exponent =>
      rw [indented]
      exact (numeral_decimal negative digits exponent).opens
  | text value =>
      rw [indented]
      exact opens_quote value rest
  | array items =>
      cases items with
      | nil => exact ⟨'[', _, by rw [indented]; rfl, by decide⟩
      | cons item items => exact ⟨'[', _, indented_array item items, by decide⟩
  | object fields =>
      cases fields with
      | nil => exact ⟨'\x7b', _, by rw [indented]; rfl, by decide⟩
      | cons field fields => exact ⟨'\x7b', _, indented_object field fields, by decide⟩

theorem opens_itemLines (item : Json) (items : List Json) :
    Opens (itemLines level (item :: items) rest) := by
  cases items with
  | nil =>
      rw [itemLines_single]
      exact opens_indented _ _ _
  | cons next items =>
      rw [itemLines_cons]
      exact opens_indented _ _ _

theorem opens_fieldLines (field : String × Json) (fields : List (String × Json)) :
    Opens (fieldLines level (field :: fields) rest) := by
  cases fields with
  | nil =>
      rw [fieldLines_single]
      exact opens_quote _ _
  | cons next fields =>
      rw [fieldLines_cons]
      exact opens_quote _ _

/-- The name of a field is read as it is written. -/
theorem readName_quote (name : String) :
    readName ((quote name).toList ++ ':' :: rest) = some (name, rest) := by
  obtain ⟨body, written, named⟩ := @readQuoted_quote (':' :: rest) name
  rw [written, readName, skipBlank_cons (by decide)]
  simp [named, skipBlank_cons (by decide : isSpace ':' = false)]

/-- What begins like a number is read as a number. -/
theorem readValue_numeral (numeral : Numeral source) :
    readValue (fuel + 1) depth source = readNumber source := by
  obtain ⟨head, tail, rfl, -⟩ := id numeral
  have other {mark : Char} (sign : mark ≠ '-') (digit : Text.isDigit mark = false) :=
    numeral.head_ne sign digit
  have null := other (by decide : 'n' ≠ '-') (by decide)
  have yes := other (by decide : 't' ≠ '-') (by decide)
  have no := other (by decide : 'f' ≠ '-') (by decide)
  have text := other (by decide : '"' ≠ '-') (by decide)
  have array := other (by decide : '[' ≠ '-') (by decide)
  have object := other (by decide : '\x7b' ≠ '-') (by decide)
  rw [readValue, numeral.opens.skipBlank]
  simp [null, yes, no, text, array, object]

/-- An array with items is read from its first item on. -/
theorem readValue_items {items : List Json} (nested : 1 < depth) (opens : Opens source)
    (read : readItems fuel (depth - 1) source = some (items, rest)) :
    readValue (fuel + 1) depth ('[' :: ((lineBreak level).toList ++ source)) =
      some (.array items, rest) := by
  obtain ⟨head, tail, rfl, visible, bracket, -⟩ := opens
  rw [readValue, skipBlank_cons (by decide)]
  simp [skipBlank_mark visible, bracket, read, Nat.not_le.mpr nested]

/-- An object with fields is read from its first field on. -/
theorem readValue_fields {fields : List (String × Json)} (nested : 1 < depth) (opens : Opens source)
    (read : readFields fuel (depth - 1) source = some (fields, rest)) :
    readValue (fuel + 1) depth ('\x7b' :: ((lineBreak level).toList ++ source)) =
      some (.object fields, rest) := by
  obtain ⟨head, tail, rfl, visible, -, brace⟩ := opens
  rw [readValue, skipBlank_cons (by decide)]
  simp [skipBlank_mark visible, brace, read, Nat.not_le.mpr nested]

/-- Fuel for every character and one more reads a value as it is written. -/
def ReadsValue (fuel : Nat) : Prop :=
  ∀ (depth level : Nat) (json : Json) (rest : Rest), isReadable depth json →
    ((indented level json).toList ++ rest).length < fuel → Text.Stops isNumeric rest →
      readValue fuel depth ((indented level json).toList ++ rest) = some (json, rest)

/-- Items need one more, which the bracket before them leaves. -/
def ReadsItems (fuel : Nat) : Prop :=
  ∀ (depth level : Nat) (item : Json) (items : List Json) (rest : Rest),
    areReadable depth (item :: items) → (itemLines level (item :: items) rest).length + 1 < fuel →
      readItems fuel depth (itemLines level (item :: items) rest) = some (item :: items, rest)

/-- Fields need one more, which the brace before them leaves. -/
def ReadsFields (fuel : Nat) : Prop :=
  ∀ (depth level : Nat) (field : String × Json) (fields : List (String × Json)) (rest : Rest),
    areReadableFields depth (field :: fields) →
      (fieldLines level (field :: fields) rest).length + 1 < fuel →
        readFields fuel depth (fieldLines level (field :: fields) rest) =
          some (field :: fields, rest)

theorem readsItems_succ (values : ReadsValue fuel) (others : ReadsItems fuel) :
    ReadsItems (fuel + 1) := by
  intro depth level item items rest readable enough
  rw [areReadable, Bool.and_eq_true] at readable
  cases items with
  | nil =>
      rw [itemLines_single] at enough ⊢
      have read := values depth (level + 1) item _ readable.1 (by omega)
        (stops_lineBreak level (']' :: rest))
      rw [readItems, read]
      simp [skipBlank_mark (by decide : isSpace ']' = false)]
  | cons next items =>
      rw [itemLines_cons] at enough ⊢
      have read := values depth (level + 1) item _ readable.1 (Nat.lt_of_succ_lt_succ enough)
        (Text.stops_cons rfl)
      simp only [List.length_append, List.length_cons] at enough
      have tail := others depth level next items rest readable.2 (by omega)
      rw [readItems, read]
      simp [skipBlank_cons (by decide : isSpace ',' = false), readItems_lineBreak, tail]

theorem readsFields_succ (values : ReadsValue fuel) (others : ReadsFields fuel) :
    ReadsFields (fuel + 1) := by
  rintro depth level ⟨name, value⟩ fields rest readable enough
  rw [areReadableFields, Bool.and_eq_true] at readable
  cases fields with
  | nil =>
      rw [fieldLines_single] at enough ⊢
      rw [List.length_append, List.length_cons, List.length_cons] at enough
      have read := values depth (level + 1) value _ readable.1 (by omega)
        (stops_lineBreak level ('\x7d' :: rest))
      rw [readFields, readName_quote]
      simp [readValue_space, read, skipBlank_mark (by decide : isSpace '\x7d' = false)]
  | cons next fields =>
      rw [fieldLines_cons] at enough ⊢
      rw [List.length_append, List.length_cons, List.length_cons] at enough
      have ended : Text.Stops isNumeric (',' :: ((lineBreak (level + 1)).toList ++
        fieldLines level (next :: fields) rest)) := Text.stops_cons rfl
      have read := values depth (level + 1) value _ readable.1 (by omega) ended
      simp only [List.length_append, List.length_cons] at enough
      have tail := others depth level next fields rest readable.2 (by omega)
      rw [readFields, readName_quote]
      simp [readValue_space, read, skipBlank_cons (by decide : isSpace ',' = false),
        readFields_lineBreak, tail]

theorem readsValue_succ (others : ReadsItems fuel) (otherFields : ReadsFields fuel) :
    ReadsValue (fuel + 1) := by
  intro depth level json rest readable enough stops
  cases json with
  | null =>
      rw [indented, readValue]
      rfl
  | boolean value =>
      rw [indented, readValue]
      cases value <;> rfl
  | integer value =>
      rw [indented, readValue_numeral (numeral_integer value), readNumber_integer value stops]
  | decimal negative digits exponent =>
      rw [isReadable] at readable
      rw [indented, readValue_numeral (numeral_decimal negative digits exponent),
        readNumber_decimal negative readable stops]
  | text value =>
      obtain ⟨body, written, read⟩ := readQuoted_quote value
      rw [indented, written, readValue, skipBlank_cons (by decide)]
      simp [read]
  | array items =>
      simp only [isReadable, Bool.and_eq_true, decide_eq_true_eq] at readable
      cases items with
      | nil =>
          rw [indented, readValue]
          simp [skipBlank_cons (by decide : isSpace '[' = false),
            skipBlank_cons (by decide : isSpace ']' = false), Nat.not_le.mpr readable.1]
      | cons item items =>
          rw [indented_array] at enough ⊢
          simp only [List.length_cons, List.length_append, length_lineBreak] at enough
          exact readValue_items readable.1 (opens_itemLines item items)
            (others _ level item items rest readable.2 (by omega))
  | object fields =>
      simp only [isReadable, Bool.and_eq_true, decide_eq_true_eq] at readable
      cases fields with
      | nil =>
          rw [indented, readValue]
          simp [skipBlank_cons (by decide : isSpace '\x7b' = false),
            skipBlank_cons (by decide : isSpace '\x7d' = false), Nat.not_le.mpr readable.1]
      | cons field fields =>
          rw [indented_object] at enough ⊢
          simp only [List.length_cons, List.length_append, length_lineBreak] at enough
          exact readValue_fields readable.1 (opens_fieldLines field fields)
            (otherFields _ level field fields rest readable.2 (by omega))

/-- The reader undoes the writer at any fuel that the text leaves. -/
theorem reads_written (fuel : Nat) : ReadsValue fuel ∧ ReadsItems fuel ∧ ReadsFields fuel := by
  induction fuel with
  | zero =>
      exact ⟨fun _ _ _ _ _ enough => absurd enough (Nat.not_lt_zero _),
        fun _ _ _ _ _ _ enough => absurd enough (Nat.not_lt_zero _),
        fun _ _ _ _ _ _ enough => absurd enough (Nat.not_lt_zero _)⟩
  | succ fuel ih =>
      obtain ⟨values, items, fields⟩ := ih
      exact ⟨readsValue_succ items fields, readsItems_succ values items,
        readsFields_succ values fields⟩

/-- Where all fields have one of the names, a record is read like any object. -/
theorem readRecord_known {names : List String} {fields : List (String × Json)}
    (read : readFields fuel depth source = some (fields, rest))
    (known : fields.map Prod.fst ⊆ names) :
    readRecord names fuel depth source = some (fields, rest) := by
  induction fuel generalizing source fields with
  | zero => cases read
  | succ fuel ih =>
      simp only [readFields, Option.bind_eq_bind, Option.bind_eq_some_iff] at read
      obtain ⟨⟨name, afterName⟩, named, ⟨value, afterValue⟩, valued, read⟩ := read
      rw [readRecord, named]
      split at read
      case h_1 others marked =>
        obtain ⟨⟨tail, left⟩, tailed, made⟩ := Option.bind_eq_some_iff.mp read
        cases made
        rw [List.map_cons, List.cons_subset] at known
        simp [known.1, valued, marked, ih tailed known.2]
      case h_2 marked =>
        cases read
        have member : name ∈ names := known List.mem_cons_self
        simp [member, valued, marked]
      case h_3 => cases read

/-- The indented form of a record is read as the record if the reader allows its fields and knows
their names. -/
theorem parseRecord?_pretty {names : List String} {fields : List (String × Json)}
    (readable : isReadable 128 (.object fields)) (known : fields.map Prod.fst ⊆ names) :
    parseRecord? names (Json.object fields).pretty = some (.object fields) := by
  simp only [isReadable, Bool.and_eq_true, decide_eq_true_eq] at readable
  cases fields with
  | nil => rfl
  | cons field fields =>
      have written := @indented_object [] 0 field fields
      rw [List.append_nil] at written
      have enough : (fieldLines 0 (field :: fields) []).length + 1 <
          (indented 0 (.object (field :: fields))).toList.length := by
        simp only [written, List.length_cons, List.length_append, length_lineBreak]
        omega
      have read := readRecord_known
        ((reads_written _).2.2 127 0 field fields [] readable.2 enough) known
      obtain ⟨head, tail, opened, visible, -, brace⟩ := @opens_fieldLines [] 0 field fields
      rw [opened] at written read
      rw [parseRecord?, pretty]
      generalize (indented 0 (.object (field :: fields))).toList.length = fuel at read ⊢
      rw [written, skipBlank_cons (by decide)]
      simp [skipBlank_mark visible, brace, read]

/-- What is skipped need not be in range or a character. -/
example : (parseRecord? ["a"] "\x7b\"b\": [1e999, \"\\ud800\"], \"a\": 1\x7d").isSome := by
  decide +kernel

end DeviceKernels.Json
