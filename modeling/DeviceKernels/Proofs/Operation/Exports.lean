import DeviceKernels.Proofs.Operation.Modules
import DeviceKernels.Proofs.Operation.Sources

/-
The symbols in a source. The source of an operation has one opening bracket, and the exported
symbol stands between it and a comma.
-/

namespace DeviceKernels

open Text

def isIdentifier (character : Char) : Bool := character.isAlphanum || character == '_'

/-- An identifier has no mark. -/
theorem identifier_other {mark : Char} {text : String} (noLetter : isIdentifier mark = false)
    (identifier : Within isIdentifier text) : Within (isOther mark) text := by
  refine identifier.mono fun character letter => ?_
  rw [isOther, bne_iff_ne]
  rintro rfl
  rw [noLetter] at letter
  exact Bool.false_ne_true letter

theorem decimal_identifier (number : Nat) : Within isIdentifier (decimal number) := by
  refine (decimal_within number).mono fun character digit => ?_
  have isDigit : character.isDigit = true := digit
  rw [isIdentifier, Char.isAlphanum, isDigit, Bool.or_true, Bool.true_or]

theorem OpcodeClass.shortName_identifier (opcodeClass : OpcodeClass) :
    Within isIdentifier opcodeClass.shortName := by
  cases opcodeClass <;> decide

theorem ElementType.shortName_identifier (element : ElementType) :
    Within isIdentifier element.shortName := by
  cases element <;> decide

theorem Layout.shortName_identifier (layout : Layout) : Within isIdentifier layout.shortName := by
  cases layout <;> decide

theorem IteratorAlgorithm.shortName_identifier (iterator : IteratorAlgorithm) :
    Within isIdentifier iterator.shortName := by
  cases iterator <;> decide

theorem ConvolutionKind.shortName_identifier (kind : ConvolutionKind) :
    Within isIdentifier kind.shortName := by
  cases kind <;> decide

theorem MathInstruction.accumulatorLetter_identifier (instruction : MathInstruction) :
    Within isIdentifier instruction.accumulatorLetter := by
  rw [accumulatorLetter]
  split <;> decide

theorem MathInstruction.shapeName_identifier (instruction : MathInstruction) :
    Within isIdentifier instruction.shapeName := by
  rw [shapeName]
  split
  · decide
  · exact ((decimal_identifier _).append (decimal_identifier _)).append (decimal_identifier _)

theorem TileDescription.proceduralName_identifier (tile : TileDescription) :
    Within isIdentifier tile.proceduralName := by
  unfold proceduralName
  simp only [within_append, and_assoc]
  exact ⟨decimal_identifier _, by decide, decimal_identifier _, by decide, decimal_identifier _,
    by decide, decimal_identifier _⟩

theorem Epilogue.proceduralSuffix_identifier (epilogue : Epilogue) :
    Within isIdentifier epilogue.proceduralSuffix := by
  rw [proceduralSuffix, within_append]
  constructor
  · cases epilogue.activation <;> decide
  · split <;> decide

theorem GemmOperation.proceduralName_identifier (operation : GemmOperation) :
    Within isIdentifier operation.proceduralName := by
  have kind : Within isIdentifier operation.kind.suffix := by
    cases operation.kind <;> decide
  unfold proceduralName coreName
  simp only [within_append, and_assoc]
  exact ⟨by decide, decimal_identifier _, by decide, OpcodeClass.shortName_identifier _, by decide,
    MathInstruction.accumulatorLetter_identifier _, MathInstruction.shapeName_identifier _,
    by decide, by decide, ElementType.shortName_identifier _, by decide,
    ElementType.shortName_identifier _, by decide, operation.tile.proceduralName_identifier,
    by decide, Layout.shortName_identifier _, Layout.shortName_identifier _, by decide,
    decimal_identifier _, operation.epilogue.proceduralSuffix_identifier, kind⟩

theorem ConvolutionOperation.proceduralName_identifier (operation : ConvolutionOperation) :
    Within isIdentifier operation.proceduralName := by
  have strideSupport : Within isIdentifier operation.strideSupport.suffix := by
    cases operation.strideSupport <;> decide
  unfold proceduralName coreName
  simp only [within_append, and_assoc]
  exact ⟨by decide, decimal_identifier _, by decide, OpcodeClass.shortName_identifier _, by decide,
    MathInstruction.accumulatorLetter_identifier _, MathInstruction.shapeName_identifier _,
    ConvolutionKind.shortName_identifier _, by decide, IteratorAlgorithm.shortName_identifier _,
    by decide, ElementType.shortName_identifier _, by decide, ElementType.shortName_identifier _,
    by decide, operation.tile.proceduralName_identifier, by decide, decimal_identifier _,
    operation.epilogue.proceduralSuffix_identifier, strideSupport⟩

theorem ReductionOperation.proceduralName_identifier (operation : ReductionOperation) :
    Within isIdentifier operation.proceduralName := by
  unfold proceduralName
  simp only [within_append, and_assoc]
  exact ⟨by decide, decimal_identifier _, by decide, ElementType.shortName_identifier _, by decide,
    ElementType.shortName_identifier _, by decide, decimal_identifier _, by decide,
    decimal_identifier _, by decide, decimal_identifier _,
    operation.epilogue.proceduralSuffix_identifier⟩

/-- The class of all characters but the opening bracket. -/
def isUnbracketed : Char → Bool := isOther '('

theorem unbracketed_of_inline {text : String} (inside : Within isInline text) :
    Within isUnbracketed text := by
  refine inside.mono fun character inside => ?_
  rw [isInline, Bool.and_eq_true] at inside
  exact inside.2

theorem unbracketed_of_identifier {text : String} (identifier : Within isIdentifier text) :
    Within isUnbracketed text := identifier_other (by decide) identifier

/-- Joined parts are of a class if the parts and the separator are. -/
theorem join_within {inside : Char → Bool} {separator : String}
    (between : Within inside separator) :
    ∀ {parts : List String}, (∀ part ∈ parts, Within inside part) →
      Within inside (join separator parts)
  | [], _ => rfl
  | [part], within => by
      rw [join, String.intercalate_singleton]
      exact within part List.mem_cons_self
  | part :: next :: parts, within => by
      rw [join, String.intercalate_cons_cons]
      exact ((within part List.mem_cons_self).append between).append
        (join_within between fun part member => within part (List.mem_cons_of_mem _ member))

/-- The symbol of the kernel stands between the only opening bracket of the source and a comma. -/
structure Kernel.HasEntry (kernel : Kernel) : Prop where
  identifier : Within isIdentifier kernel.symbol
  parts : ∃ before after,
    kernel.source = before ++ ("(" ++ (kernel.symbol ++ ("," ++ after))) ∧
      Within isUnbracketed before ∧ Within isUnbracketed after

/-- A source that ends with the entry of its name has one entry if no bracket comes before it. -/
theorem Kernel.hasEntry_of_lead {kernel : Kernel} {lead : String}
    (source : kernel.source = lead ++ kernelEntry kernel.name)
    (unbracketed : Within isUnbracketed lead) (identifier : Within isIdentifier kernel.name) :
    kernel.HasEntry where
  identifier := within_append.2 ⟨identifier, by decide⟩
  parts := by
    have name := unbracketed_of_identifier identifier
    refine ⟨lead ++ ("struct " ++ kernel.name ++ "_type : public " ++ kernel.name ++
      "_base \x7b \x7d;\nFORGE_KERNEL_ENTRY"), " " ++ kernel.name ++ "_type)\n", ?_, ?_, ?_⟩
    · rw [source, ← String.toList_inj]
      unfold kernelEntry
      simp [Kernel.symbol, String.toList_append]
    · simp only [within_append, and_assoc]
      exact ⟨unbracketed, by decide, name, by decide, name, by decide⟩
    · simp only [within_append, and_assoc]
      exact ⟨by decide, name, by decide⟩

theorem GemmOperation.hasEntry (operation : GemmOperation) : operation.kernel.HasEntry := by
  have name := unbracketed_of_identifier operation.proceduralName_identifier
  have template : Within isUnbracketed operation.template := by
    rw [GemmOperation.template]
    split <;> decide
  have arguments : Within isUnbracketed (join ",\n    " operation.templateArguments) :=
    join_within (by decide) fun part member =>
      unbracketed_of_inline (operation.templateArguments_inline part member)
  refine Kernel.hasEntry_of_lead rfl ?_ operation.proceduralName_identifier
  simp only [within_append, and_assoc]
  exact ⟨by decide, name, by decide, name, by decide, template, by decide, arguments, by decide⟩

theorem ConvolutionOperation.hasEntry (operation : ConvolutionOperation) :
    operation.kernel.HasEntry := by
  have name := unbracketed_of_identifier operation.proceduralName_identifier
  have kind := unbracketed_of_identifier (ConvolutionKind.shortName_identifier operation.kind)
  have template : Within isUnbracketed operation.kind.template := by
    cases operation.kind <;> decide
  have arguments : Within isUnbracketed (join ",\n    " operation.emitArguments) :=
    join_within (by decide) fun part member =>
      unbracketed_of_inline (operation.emitArguments_inline part member)
  refine Kernel.hasEntry_of_lead rfl ?_ operation.proceduralName_identifier
  simp only [within_append, and_assoc]
  exact ⟨by decide, kind, by decide, name, by decide, name, by decide, template, by decide,
    arguments, by decide⟩

theorem ReductionOperation.hasEntry (operation : ReductionOperation) :
    operation.kernel.HasEntry := by
  have name := unbracketed_of_identifier operation.proceduralName_identifier
  have number (value : Nat) := unbracketed_of_inline (decimal_inline value)
  have accumulator := unbracketed_of_inline (ElementType.tag_inline operation.elementAccumulator)
  have epilogue := unbracketed_of_inline operation.epilogue.emit_inline
  refine Kernel.hasEntry_of_lead rfl ?_ operation.proceduralName_identifier
  simp only [within_append, and_assoc]
  exact ⟨by decide, name, by decide, name, by decide, number _, by decide, number _, by decide,
    epilogue, by decide, accumulator, by decide, accumulator, by decide, number _, by decide,
    number _, by decide⟩

/-- Whether an operation is one of the three described families, and no kernel made by hand. -/
def Operation.IsDescribed : Operation → Prop
  | custom _ => False
  | _ => True

/-- Every described operation has an entry. -/
theorem Operation.IsDescribed.hasEntry {operation : Operation} (described : operation.IsDescribed) :
    operation.toKernel.HasEntry := by
  cases operation with
  | gemm operation => exact operation.hasEntry
  | convolution operation => exact operation.hasEntry
  | reduction operation => exact operation.hasEntry
  | custom made => exact described.elim

/-- The texts between an opening bracket and a comma. -/
def entrySymbols (text : String) : List String :=
  (text.toList.splitOn '(').tail.map fun part => String.ofList (part.takeWhile (isOther ','))

/-- Items before the first mark belong to the first part. -/
theorem splitOn_append_of_notMem {mark : Char} {lead : List Char} (free : mark ∉ lead)
    (text : List Char) :
    (lead ++ text).splitOn mark = (text.splitOn mark).modifyHead (lead ++ ·) := by
  induction lead with
  | nil =>
      rw [List.nil_append]
      cases text.splitOn mark <;> rfl
  | cons head lead ih =>
      have different : (head == mark) = false :=
        beq_eq_false_iff_ne.2 fun same => free (same ▸ List.mem_cons_self)
      rw [List.cons_append, List.splitOn_cons_eq_if_modifyHead,
        ih (fun member => free (List.mem_cons_of_mem head member)), different,
        if_neg Bool.false_ne_true]
      cases text.splitOn mark <;> rfl

theorem notMem_of_other {mark : Char} {text : String} (other : Within (isOther mark) text) :
    mark ∉ text.toList := by
  intro member
  have different := List.all_eq_true.1 other mark member
  rw [isOther, bne_self_eq_false] at different
  exact Bool.false_ne_true different

/-- A text without a bracket adds no symbol in front. -/
theorem entrySymbols_lead {lead : String} (unbracketed : Within isUnbracketed lead)
    (rest : String) : entrySymbols (lead ++ rest) = entrySymbols rest := by
  rw [entrySymbols, entrySymbols, String.toList_append,
    splitOn_append_of_notMem (notMem_of_other unbracketed)]
  cases rest.toList.splitOn '(' <;> rfl

/-- An entry adds its symbol in front. -/
theorem entrySymbols_entry {symbol : String} (identifier : Within isIdentifier symbol)
    (rest : String) :
    entrySymbols ("(" ++ (symbol ++ ("," ++ rest))) = symbol :: entrySymbols rest := by
  have opening : "(".toList = ['('] := rfl
  have comma : ",".toList = [','] := rfl
  have free : '(' ∉ symbol.toList ++ [','] := by
    have symbolFree := notMem_of_other (unbracketed_of_identifier identifier)
    simpa using symbolFree
  have named : Within (isOther ',') symbol := identifier_other (by decide) identifier
  rw [entrySymbols, entrySymbols, String.toList_append, String.toList_append, String.toList_append,
    opening, comma, ← List.append_assoc symbol.toList, ← List.nil_append ['('], List.append_assoc,
    List.singleton_append, List.splitOn_append_cons_self_of_not_mem List.not_mem_nil,
    List.tail_cons, splitOn_append_of_notMem free]
  obtain ⟨head, tail, split⟩ := List.exists_cons_of_ne_nil (List.splitOn_ne_nil '(' rest.toList)
  rw [split, List.modifyHead_cons, List.map_cons, List.tail_cons, List.append_assoc,
    List.takeWhile_append_of_pos (List.all_eq_true.1 named), List.singleton_append,
    List.takeWhile_cons_of_neg (by decide), List.append_nil, String.ofList_toList]

namespace ModuleSource

variable {kernels kernels' : List Kernel}

/-- The symbols of kernels are read off their sources. -/
theorem entrySymbols_sources (entries : ∀ kernel ∈ kernels, kernel.HasEntry) :
    entrySymbols (String.join (kernels.map fun kernel => kernel.source ++ "\n")) =
      kernels.map Kernel.symbol := by
  induction kernels with
  | nil => rfl
  | cons kernel kernels ih =>
      obtain ⟨identifier, before, after, source, lead, rest⟩ := entries kernel List.mem_cons_self
      have line : Within isUnbracketed (after ++ "\n") := within_append.2 ⟨rest, by decide⟩
      have others := ih fun kernel member => entries kernel (List.mem_cons_of_mem _ member)
      rw [List.map_cons, String.join_cons, source]
      simp only [String.append_assoc]
      rw [entrySymbols_lead lead, entrySymbols_entry identifier, ← String.append_assoc,
        entrySymbols_lead line, others, List.map_cons]

/-- Modules of described kernels that have the same source export the same symbols. -/
theorem symbols_eq_of_source_eq {made made' : ModuleSource}
    (found : ofKernels? kernels = some made) (found' : ofKernels? kernels' = some made')
    (entries : ∀ kernel ∈ kernels, kernel.HasEntry)
    (entries' : ∀ kernel ∈ kernels', kernel.HasEntry)
    (same : made.source = made'.source) : made.symbols = made'.symbols := by
  have read : ∀ {kernels : List Kernel} {made : ModuleSource}, ofKernels? kernels = some made →
      (∀ kernel ∈ kernels, kernel.HasEntry) →
        ∃ text, made.source = moduleHeader ++ text ∧ made.symbols = entrySymbols text := by
    intro kernels made found entries
    unfold ofKernels? at found
    split at found
    · cases found
    · cases found
      refine ⟨body kernels, rfl, ?_⟩
      exact (entrySymbols_sources fun kernel member =>
        entries kernel (distinct_subset [] kernels member)).symm
  obtain ⟨text, source, symbols⟩ := read found entries
  obtain ⟨text', source', symbols'⟩ := read found' entries'
  rw [source, source', String.append_right_inj] at same
  rw [symbols, symbols', same]

end ModuleSource

end DeviceKernels
