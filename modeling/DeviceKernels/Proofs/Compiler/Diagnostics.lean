import DeviceKernels.Compiler.Command
import DeviceKernels.Proofs.Text.Boundaries

/-
The diagnostics in the error of a failed compilation. Whatever bytes the program wrote, the error
keeps the longest beginning of their decoding that ends with a character and has at most 4096
bytes.
-/

namespace DeviceKernels.CommandCompiler

open Text

/-- The program of a compilation completes. -/
def Completes (compiler : CommandCompiler) (tree : FileTree) (source : String)
    (options : CompileOptions) (completed : Shell.Completed) : Prop :=
  Shell.runProgram (compiler.prepare tree source) compiler.program
    (compiler.arguments options (workPath compiler.style.sourceName) (workPath outputName)) =
      .ok completed

/-- Every decoding is truncated to the limit. -/
theorem keptDiagnostics_truncates (diagnostics : Bytes) :
    Truncates maxDiagnosticBytes (ofUtf8Lossy diagnostics) (keptDiagnostics diagnostics) := by
  simp only [keptDiagnostics]
  split
  case isTrue fits => exact truncates_self fits
  case isFalse long => exact truncates_before (Nat.not_le.1 long)

/-- A program that ends otherwise than with status zero is a failed compiler. -/
theorem collect_failed (compiler : CommandCompiler) {completed : Shell.Completed}
    (failed : completed.ending ≠ .status 0) :
    ∃ status, compiler.collect completed =
      .error (.compilerFailed compiler.name status (keptDiagnostics completed.diagnostics)) := by
  unfold collect
  split
  case h_1 => exact ⟨none, rfl⟩
  case h_2 success => exact absurd success failed
  case h_3 code _ _ => exact ⟨some code, rfl⟩

/-- The error of a failed compiler has the decoding of all that the program wrote to its
diagnostics if that is at most 4096 bytes long, and else its longest beginning that ends on a
boundary and fits, which is more than 4092 bytes long. The boundary is what the search finds. -/
theorem failure_truncates (compiler : CommandCompiler) {completed : Shell.Completed}
    (failed : completed.ending ≠ .status 0) :
    ∃ status kept,
      compiler.collect completed = .error (.compilerFailed compiler.name status kept) ∧
        (∀ tree source options, compiler.Completes tree source options completed →
          (compiler.compile tree source options).1 =
            .error (.compilerFailed compiler.name status kept)) ∧
        Truncates 4096 (ofUtf8Lossy completed.diagnostics) kept := by
  obtain ⟨status, collected⟩ := compiler.collect_failed failed
  refine ⟨status, keptDiagnostics completed.diagnostics, collected, ?_,
    keptDiagnostics_truncates completed.diagnostics⟩
  intro tree source options completes
  unfold Completes at completes
  simp only [compile, completes, collected]

/-- A character of two bytes across the limit is left out. -/
theorem failure_truncates_straddling :
    let text := String.ofList (List.replicate 4095 'a' ++ ['é'])
    let completed : Shell.Completed := ⟨.status 1, utf8 text, .initial⟩
    completed.ending ≠ .status 0 ∧
      ∃ status, collect ⟨"cc", .plain⟩ completed =
        .error (.compilerFailed "cc" status (String.ofList (List.replicate 4095 'a'))) := by
  have size : String.utf8Len (List.replicate 4095 'a') = 4095 := by
    have single : ∀ character ∈ List.replicate 4095 'a', character.utf8Size = 1 := by
      intro character member
      rw [List.eq_of_mem_replicate member]
      rfl
    rw [utf8Len_of_single single, List.length_replicate]
  generalize List.replicate 4095 'a' = front at size ⊢
  intro text completed
  have failed : completed.ending ≠ .status 0 := by simp [completed]
  obtain ⟨status, kept, collected, -, truncates⟩ := failure_truncates ⟨"cc", .plain⟩ failed
  have decoded : ofUtf8Lossy completed.diagnostics = text := ofUtf8Lossy_utf8 text
  have across : 4096 < String.utf8Len front + 'é'.utf8Size := by
    rw [size]
    decide
  rw [decoded] at truncates
  rw [truncates.eq_front (by rw [size]; decide) across] at collected
  exact ⟨failed, status, collected⟩

end DeviceKernels.CommandCompiler
