import EbpfNotes.Construction.ObjectFiles
import EbpfNotes.Proof.BpfInsn.RoundTrip

namespace EbpfNotes

open Library

section Instructions

variable {Symbol : Type}

theorem writeInstruction_length (instruction : Instruction Symbol) :
    (writeInstruction instruction).length = instruction.slots := by
  cases instruction <;> rfl

/-- The second `bpf_insn` of a wide constant is no instruction. -/
theorem fetchInsn_second {instruction : Instruction Symbol} {slot : Nat} (later : slot ≠ 0)
    (inside : slot < instruction.slots) (rest : List (BpfInsn × Option Symbol)) :
    fetchInsn (writeInstruction instruction ++ rest) slot = none := by
  have no_code : Opcode.ofCode 0 = none := by decide
  cases instruction with
  | address target symbol offset =>
      obtain rfl : slot = 1 := by
        change slot < 2 at inside
        omega
      simp only [fetchInsn, writeInstruction, List.cons_append, List.nil_append, List.drop_one,
        List.tail_cons, readInstruction, no_code, Option.bind_eq_bind, Option.bind_none, Option.map_none]
  | wide target value =>
      obtain rfl : slot = 1 := by
        change slot < 2 at inside
        omega
      simp only [fetchInsn, writeInstruction, List.cons_append, List.nil_append, List.drop_one,
        List.tail_cons, readInstruction, no_code, Option.bind_eq_bind, Option.bind_none, Option.map_none]
  | _ =>
      change slot < 1 at inside
      omega

/-- Each slot of the series holds the instruction that the program has there. -/
theorem fetchInsn_eq {program : List (Instruction Symbol)}
    (encodable : ∀ instruction ∈ program, Encodable instruction) (slot : Nat) :
    fetchInsn ((instructionFormat Symbol).writeAll program) slot = fetch program slot := by
  induction program generalizing slot with
  | nil =>
      have empty : (instructionFormat Symbol).writeAll [] = [] := rfl
      simp only [empty, fetchInsn, List.drop_nil, readInstruction, Option.map_none, fetch]
  | cons instruction program ih =>
      have first := encodable instruction List.mem_cons_self
      have others : ∀ other ∈ program, Encodable other := fun other member =>
        encodable other (List.mem_cons_of_mem _ member)
      have whole : (instructionFormat Symbol).writeAll (instruction :: program) =
          writeInstruction instruction ++ (instructionFormat Symbol).writeAll program := rfl
      rw [whole, fetch]
      split_ifs with start inside
      · subst start
        rw [fetchInsn, List.drop_zero, readInstruction_write first]
        rfl
      · exact fetchInsn_second start inside _
      · rw [← ih others, fetchInsn, fetchInsn, List.drop_append, writeInstruction_length,
          List.drop_eq_nil_of_le (by rw [writeInstruction_length]; omega), List.nil_append]

end Instructions

section Machine

variable {Symbol Name Kernel : Type} {live : List Name} {size : Name → Nat} [DecidableEq Name]

theorem executeInsns_eq {program : List (Instruction Symbol)}
    (encodable : ∀ instruction ∈ program, Encodable instruction)
    (world : World Symbol Name Kernel live size) (fuel : Nat) (outcome : Outcome Name Kernel) :
    executeInsns world ((instructionFormat Symbol).writeAll program) fuel outcome =
      execution world program fuel outcome := by
  induction fuel generalizing outcome with
  | zero => cases outcome <;> rfl
  | succ fuel ih =>
      cases outcome with
      | running slot state =>
          have stepped : stepInsn world ((instructionFormat Symbol).writeAll program) slot state =
              step world program slot state := by
            rw [stepInsn, fetchInsn_eq encodable]
            rfl
          rw [executeInsns, execution, stepped]
          exact ih _
      | exited state => rfl
      | stuck => rfl

end Machine

/-- Running the series of `bpf_insn` of a section is running the program that the section is taken apart
into. -/
theorem disassemble_executes {Symbol : Type} {programSection : ProgramSection Symbol}
    {program : List (Instruction Symbol)} (reading : disassemble programSection = some program) :
    ∃ insns, programSection.insns = some insns ∧
      ∀ (Name Kernel : Type) [DecidableEq Name] (live : List Name) (size : Name → Nat)
        (world : World Symbol Name Kernel live size) (fuel : Nat) (outcome : Outcome Name Kernel),
        executeInsns world insns fuel outcome = execution world program fuel outcome := by
  obtain ⟨encodable, written⟩ := (disassemble_written programSection program).mp reading
  refine ⟨(instructionFormat Symbol).writeAll program, (insns_iff _ _).mpr written, ?_⟩
  intro Name Kernel _ live size world fuel outcome
  exact executeInsns_eq encodable world fuel outcome

/-- The bytes of `kprobe_exec` run like its listing. -/
theorem kprobeExecSection_executes :
    ∃ insns, HelloVerifier.kprobeExecSection.insns = some insns ∧
      ∀ (Name Kernel : Type) [DecidableEq Name] (live : List Name) (size : Name → Nat)
        (world : World HelloVerifier.Symbol Name Kernel live size) (fuel : Nat)
        (outcome : Outcome Name Kernel), executeInsns world insns fuel outcome =
          execution world HelloVerifier.kprobeExecCode fuel outcome :=
  disassemble_executes (by decide +kernel)

end EbpfNotes
