import DeviceKernels.Config.Basic

/-
Values of variables that cannot be read. A number or a flag that cannot be read counts as missing,
so the file's setting is used. A family of devices that is unknown does not: it hides the file's
family, and the device is the host.
-/

namespace DeviceKernels

/-- A numeral of a number up to a limit, with or without a plus sign. -/
def Text.Numeral (limit : Nat) (text : String) : Prop :=
  ∃ digits : List Char, (text.toList = digits ∨ text.toList = '+' :: digits) ∧ digits ≠ [] ∧
    (∀ digit ∈ digits, isDigit digit) ∧ ofDigits digits ≤ limit

theorem Text.readNatural?_isSome {limit : Nat} {text : String} :
    (readNatural? limit text).isSome ↔ Numeral limit text := by
  have read (digits : List Char) :
      (if digits.isEmpty || !digits.all isDigit then none
        else if ofDigits digits ≤ limit then some (ofDigits digits) else none).isSome ↔
      digits ≠ [] ∧ (∀ digit ∈ digits, isDigit digit) ∧ ofDigits digits ≤ limit := by
    simp only [List.isEmpty_iff, Bool.or_eq_true, Bool.not_eq_true', List.all_eq_false]
    grind
  unfold readNatural? Numeral
  split
  case h_1 rest signed =>
    rw [read, signed]
    constructor
    · intro numeral
      exact ⟨rest, .inr rfl, numeral⟩
    · rintro ⟨digits, rfl | same, numeral⟩
      · have digit := numeral.2.1 '+' List.mem_cons_self
        simp [isDigit] at digit
      · cases same
        exact numeral
  case h_2 unsigned =>
    rw [read]
    constructor
    · intro numeral
      exact ⟨text.toList, .inl rfl, numeral⟩
    · rintro ⟨digits, rfl | same, numeral⟩
      · exact numeral
      · exact absurd same (unsigned digits)

/-- The words of a flag, in any case and with white space around them. -/
def Environment.flagWords : List String := ["1", "true", "yes", "on", "0", "false", "no", "off"]

theorem Environment.readFlag?_isSome {value : String} :
    (readFlag? value).isSome ↔ Text.lowerAscii (Text.trim value) ∈ flagWords := by
  unfold readFlag? flagWords
  grind

/-- The names of the families of devices, in any case. -/
def DeviceFamily.names : List String := ["cuda", "sycl", "xe", "cpu", "host"]

theorem DeviceFamily.ofName_isSome {name : String} :
    (ofName name).toOption.isSome ↔ Text.lowerAscii name ∈ names := by
  unfold ofName names
  grind [Except.toOption]

/-- How the value of a variable is read. -/
inductive Reading where
  | text
  | number
  | flag
  | family
  deriving DecidableEq

namespace Variable

def reading : Variable → Reading
  | cacheCapacity => .number
  | poolInitial => .number
  | poolMaximum => .number
  | poolGrowth => .number
  | optimization => .number
  | computeCapability => .number
  | deviceMemory => .number
  | multiprocessors => .number
  | sharedMemory => .number
  | requireGpu => .flag
  | deviceFamily => .family
  | _ => .text

/-- The values that can be read. White space does not matter to a number and to a flag. -/
def Accepts (key : Variable) (value : String) : Prop :=
  match key.reading with
  | .text => True
  | .number => Text.Numeral key.numberLimit (Text.trim value)
  | .flag => Text.lowerAscii (Text.trim value) ∈ Environment.flagWords
  | .family => Text.lowerAscii value ∈ DeviceFamily.names

end Variable

namespace Environment

variable {environment : Environment} {key other : Variable} {value : String}

theorem text?_unset_ne (different : other ≠ key) :
    (environment.unset key).text? other = environment.text? other := by
  simp only [text?, unset, set, if_neg different]

theorem text?_unset_self : (environment.unset key).text? key = none := by
  simp only [text?, unset, set, if_true, Option.filter_none]

/-- What is read of a variable does not change when a variable is unset whose value could not be
read. -/
theorem bind_text?_unset {Result : Type} {read : String → Option Result}
    (given : environment.value? key = some value) (unread : other = key → read value = none) :
    ((environment.unset key).text? other).bind read = (environment.text? other).bind read := by
  by_cases same : other = key
  · subst same
    rw [text?_unset_self, text?, given, Option.filter_some, Option.bind_none]
    split
    · rw [Option.bind_some, unread rfl]
    · rfl
  · rw [text?_unset_ne same]

/-- A number that cannot be read counts as missing. -/
theorem number?_unset (given : environment.value? key = some value) (refused : ¬key.Accepts value)
    (numeric : other.reading = .number) :
    (environment.unset key).number? other = environment.number? other := by
  refine bind_text?_unset given ?_
  rintro rfl
  rw [Variable.Accepts, numeric] at refused
  exact Option.not_isSome_iff_eq_none.mp (mt Text.readNatural?_isSome.mp refused)

/-- A flag that cannot be read counts as missing. -/
theorem flag?_unset (given : environment.value? key = some value) (refused : ¬key.Accepts value)
    (binary : other.reading = .flag) :
    (environment.unset key).flag? other = environment.flag? other := by
  refine bind_text?_unset given ?_
  rintro rfl
  rw [Variable.Accepts, binary] at refused
  exact Option.not_isSome_iff_eq_none.mp (mt readFlag?_isSome.mp refused)

/-- Nothing is wrong with a text. -/
theorem text?_unset (refused : ¬key.Accepts value) (textual : other.reading = .text) :
    (environment.unset key).text? other = environment.text? other := by
  apply text?_unset_ne
  rintro rfl
  rw [Variable.Accepts, textual] at refused
  exact refused trivial

end Environment

namespace Config

variable {environment environment' : Environment} {file : FileSettings}

/-- What is resolved depends on the readings of the variables and on the family of the device. -/
theorem resolve_congr {name : Option String}
    (texts : ∀ key : Variable, key.reading = .text → environment'.text? key = environment.text? key)
    (numbers : ∀ key : Variable, key.reading = .number →
      environment'.number? key = environment.number? key)
    (flags : ∀ key : Variable, key.reading = .flag → environment'.flag? key = environment.flag? key)
    (family : resolveFamily environment' { file with deviceFamily := name } =
      resolveFamily environment file) :
    resolve environment' { file with deviceFamily := name } = resolve environment file := by
  have number_eq (key : Variable) (numeric : key.reading = .number) (given : Option Nat)
      (absent : Nat) : number environment' key given absent = number environment key given absent :=
    congrArg (fun read => (read.or given).getD absent) (numbers key numeric)
  have words_eq : environment'.words? .compilerFlags = environment.words? .compilerFlags :=
    congrArg (Option.map Text.words) (texts .compilerFlags rfl)
  have pool_eq : resolvePool environment' { file with deviceFamily := name } =
      resolvePool environment file := by
    simp only [resolvePool, number_eq .poolMaximum rfl, number_eq .poolInitial rfl,
      number_eq .poolGrowth rfl]
  have device_eq : resolveDevice environment' { file with deviceFamily := name } =
      resolveDevice environment file := by
    simp only [resolveDevice, family, flags .requireGpu rfl, number_eq .computeCapability rfl,
      number_eq .multiprocessors rfl, number_eq .deviceMemory rfl, number_eq .sharedMemory rfl]
  simp only [resolve, pool_eq, device_eq, words_eq, texts .cachePath rfl, texts .compiler rfl,
    number_eq .cacheCapacity rfl, number_eq .optimization rfl]

/-- The family of a file. Without one, and with an unknown one, the device is the host. -/
theorem resolveFamily_missing (missing : environment.text? .deviceFamily = none) :
    resolveFamily environment file = .cpu ↔
      ∀ name, file.deviceFamily = some name →
        ∀ family, DeviceFamily.ofName name = .ok family → family = .cpu := by
  unfold resolveFamily
  rw [missing, Option.none_or]
  cases file.deviceFamily with
  | none => simp
  | some name =>
      cases found : DeviceFamily.ofName name <;> simp [found, Except.toOption]

/-- The host stands for a family that is unknown. -/
theorem resolveFamily_refused {value : String}
    (given : environment.value? .deviceFamily = some value)
    (refused : ¬Variable.Accepts .deviceFamily value) (some : (Text.trim value).isEmpty = false) :
    resolveFamily environment file = .cpu := by
  have unknown : (DeviceFamily.ofName value).toOption = none :=
    Option.not_isSome_iff_eq_none.mp (mt DeviceFamily.ofName_isSome.mp refused)
  have text : environment.text? .deviceFamily = .some value := by
    simp [Environment.text?, given, some]
  simp only [resolveFamily, text, Option.some_or, unknown, Option.getD_none]

variable {key : Variable} {value : String}

/-- Unsetting a variable whose value cannot be read changes the family of the device at most. -/
theorem resolve_unset (given : environment.value? key = some value) (refused : ¬key.Accepts value)
    {name : Option String}
    (family : resolveFamily (environment.unset key) { file with deviceFamily := name } =
      resolveFamily environment file) :
    resolve (environment.unset key) { file with deviceFamily := name } = resolve environment file :=
  resolve_congr (fun _ => Environment.text?_unset refused)
    (fun _ => Environment.number?_unset given refused)
    (fun _ => Environment.flag?_unset given refused) family

/-- A blank name counts as missing. -/
theorem resolveFamily_unset (given : environment.value? key = some value)
    (ignored : key ≠ .deviceFamily ∨ (Text.trim value).isEmpty) :
    resolveFamily (environment.unset key) file = resolveFamily environment file := by
  have text : (environment.unset key).text? .deviceFamily = environment.text? .deviceFamily := by
    by_cases same : .deviceFamily = key
    · subst same
      have blank := ignored.resolve_left (by simp)
      rw [Environment.text?_unset_self, Environment.text?, given, Option.filter_some, blank]
      rfl
    · exact Environment.text?_unset_ne same
  rw [resolveFamily, text]
  rfl

/-- A value that cannot be read is ignored, and the file's setting takes its place. A name of a
device that is not blank is the exception: it takes away the file's family too, which makes no
difference exactly if the file names no device but the host. -/
theorem resolve_refused (given : environment.value? key = some value)
    (refused : ¬key.Accepts value) (file : FileSettings) :
    (key ≠ .deviceFamily ∨ (Text.trim value).isEmpty →
      resolve environment file = resolve (environment.unset key) file) ∧
    (key = .deviceFamily → (Text.trim value).isEmpty = false →
      resolve environment file =
        resolve (environment.unset key) { file with deviceFamily := none } ∧
      (resolve environment file = resolve (environment.unset key) file ↔
        ∀ name, file.deviceFamily = some name →
          ∀ family, DeviceFamily.ofName name = .ok family → family = .cpu)) := by
  constructor
  · intro ignored
    exact (resolve_unset given refused (resolveFamily_unset given ignored)).symm
  · rintro rfl named
    have host : resolveFamily environment file = .cpu := resolveFamily_refused given refused named
    have missing : (environment.unset .deviceFamily).text? .deviceFamily = none :=
      Environment.text?_unset_self
    constructor
    · refine (resolve_unset given refused ?_).symm
      rw [host, resolveFamily_missing missing]
      intro name absent
      cases absent
    · rw [← resolveFamily_missing missing]
      constructor
      · intro same
        exact (congrArg (fun config => config.device.family) same).symm.trans host
      · intro family
        exact (resolve_unset given refused (family.trans host.symm)).symm

theorem resolve_refused_pair :
    let environment := Environment.ofList
      [("FORGE_MAX_CACHED_ARTIFACTS", "lots"), ("FORGE_DEVICE_BACKEND", "tpu")]
    let file := { FileSettings.empty with cacheCapacity := some 64, deviceFamily := some "cuda" }
    resolve environment file = resolve (environment.unset .cacheCapacity) file ∧
      resolve environment file =
        resolve (environment.unset .deviceFamily) { file with deviceFamily := none } ∧
      (resolve environment file).cacheCapacity = 64 := by
  intro environment file
  have capacity : environment.value? .cacheCapacity = some "lots" := by decide +kernel
  have notNumber : ¬Variable.Accepts .cacheCapacity "lots" :=
    mt Text.readNatural?_isSome.mpr (by decide +kernel)
  have family : environment.value? .deviceFamily = some "tpu" := by decide +kernel
  have unknown : Text.lowerAscii "tpu" ∉ DeviceFamily.names := by decide +kernel
  obtain ⟨ignored, -⟩ := resolve_refused capacity notNumber file
  obtain ⟨-, hides⟩ := resolve_refused family unknown file
  exact ⟨ignored (.inl (by decide)), (hides rfl (by decide +kernel)).1, by decide +kernel⟩

/-- An unknown name turns the device that the file describes into the host. -/
theorem unknown_family_hides_file :
    let environment := Environment.ofList [("FORGE_DEVICE_BACKEND", "tpu")]
    let file := { FileSettings.empty with deviceFamily := some "cuda" }
    environment.value? .deviceFamily = some "tpu" ∧ ¬Variable.Accepts .deviceFamily "tpu" ∧
      (resolve environment file).device.family = .cpu ∧
      (resolve (environment.unset .deviceFamily) file).device.family = .cuda := by
  intro environment file
  have unknown : Text.lowerAscii "tpu" ∉ DeviceFamily.names := by decide +kernel
  exact ⟨by decide +kernel, unknown, by decide +kernel, by decide +kernel⟩

end Config

end DeviceKernels
