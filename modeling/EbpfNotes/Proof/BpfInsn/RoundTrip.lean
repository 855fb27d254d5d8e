import EbpfNotes.Construction.BpfInsn

namespace EbpfNotes

open Library

/-- Two neighbouring parts of a number are one part. -/
theorem join_parts {bits : Nat} (value : BitVec bits) (start lower upper : Nat) :
    value.extractLsb' (start + lower) upper ++ value.extractLsb' start lower =
      value.extractLsb' start (upper + lower) :=
  BitVec.extractLsb'_append_extractLsb'_eq_extractLsb' rfl

namespace BpfInsn

theorem join_offset (off : BitVec 16) : (off.extractLsb' 8 8 ++ off.extractLsb' 0 8 : BitVec 16) = off :=
  (join_parts off 0 8 8).trans BitVec.extractLsb'_eq_self

theorem join_imm (imm : BitVec 32) :
    (imm.extractLsb' 24 8 ++ imm.extractLsb' 16 8 ++ imm.extractLsb' 8 8 ++ imm.extractLsb' 0 8 :
      BitVec 32) = imm := by
  have upper : imm.extractLsb' 24 8 ++ imm.extractLsb' 16 8 = imm.extractLsb' 16 16 := join_parts imm 16 8 8
  have middle : imm.extractLsb' 16 16 ++ imm.extractLsb' 8 8 = imm.extractLsb' 8 24 := join_parts imm 8 8 16
  rw [upper, middle]
  exact (join_parts imm 0 8 24).trans BitVec.extractLsb'_eq_self

theorem split_imm (first second third fourth : Byte) :
    (fourth ++ third ++ second ++ first : BitVec 32).extractLsb' 0 8 = first ∧
      (fourth ++ third ++ second ++ first : BitVec 32).extractLsb' 8 8 = second ∧
      (fourth ++ third ++ second ++ first : BitVec 32).extractLsb' 16 8 = third ∧
      (fourth ++ third ++ second ++ first : BitVec 32).extractLsb' 24 8 = fourth := by
  refine ⟨BitVec.extractLsb'_append_eq_right, ?_, ?_, ?_⟩
  · rw [BitVec.extractLsb'_append_eq_of_le (by decide)]
    exact BitVec.extractLsb'_append_eq_right
  · rw [BitVec.extractLsb'_append_eq_of_le (by decide), BitVec.extractLsb'_append_eq_of_le (by decide)]
    exact BitVec.extractLsb'_append_eq_right
  · rw [BitVec.extractLsb'_append_eq_of_le (by decide), BitVec.extractLsb'_append_eq_of_le (by decide)]
    exact BitVec.extractLsb'_append_eq_left

/-- The bytes of a `bpf_insn` show its fields. -/
theorem read_bytes (insn : BpfInsn) (rest : List Byte) : read (insn.bytes ++ rest) = some (insn, rest) := by
  have dstReg : (insn.srcReg ++ insn.dstReg : Byte).extractLsb' 0 4 = insn.dstReg :=
    BitVec.extractLsb'_append_eq_right
  have srcReg : (insn.srcReg ++ insn.dstReg : Byte).extractLsb' 4 4 = insn.srcReg :=
    BitVec.extractLsb'_append_eq_left
  simp only [bytes, List.cons_append, List.nil_append, read, dstReg, srcReg, join_offset, join_imm]

/-- The fields that are read from eight bytes have these bytes. -/
theorem read_sound {input rest : List Byte} {insn : BpfInsn} (reading : read input = some (insn, rest)) :
    input = insn.bytes ++ rest := by
  unfold read at reading
  split at reading
  · next code registers off₀ off₁ imm₀ imm₁ imm₂ imm₃ rest =>
      obtain ⟨rfl, rfl⟩ := Prod.mk.inj (Option.some.inj reading)
      have joined : (registers.extractLsb' 4 4 ++ registers.extractLsb' 0 4 : Byte) = registers :=
        (join_parts registers 0 4 4).trans BitVec.extractLsb'_eq_self
      have low : (off₁ ++ off₀ : BitVec 16).extractLsb' 0 8 = off₀ := BitVec.extractLsb'_append_eq_right
      have high : (off₁ ++ off₀ : BitVec 16).extractLsb' 8 8 = off₁ := BitVec.extractLsb'_append_eq_left
      obtain ⟨first, second, third, fourth⟩ := split_imm imm₀ imm₁ imm₂ imm₃
      simp only [bytes, List.cons_append, List.nil_append, joined, low, high, first, second, third, fourth]
  · cases reading

theorem format_lawful : format.Lawful where
  nonempty _ _ := List.cons_ne_nil _ _
  read_iff input insn rest := by
    constructor
    · intro reading
      exact ⟨trivial, read_sound reading⟩
    · intro written
      obtain ⟨_, rfl⟩ := written
      exact read_bytes insn rest

end BpfInsn

/-- Each kind has a code of its own. -/
theorem Opcode.ofCode_iff (code : BitVec 8) (opcode : Opcode) :
    Opcode.ofCode code = some opcode ↔ opcode.code = code := by
  constructor
  · intro found
    unfold Opcode.ofCode at found
    have matched := List.find?_some found
    exact beq_iff_eq.mp matched
  · intro same
    subst same
    have listed : ∀ opcode ∈ Opcode.all, Opcode.ofCode opcode.code = some opcode := by decide +kernel
    apply listed
    cases opcode with
    | alu operation register => cases operation <;> cases register <;> decide
    | load width => cases width <;> decide
    | store width => cases width <;> decide
    | branch condition register => cases condition <;> cases register <;> decide
    | _ => decide

theorem registerOf_iff (number : BitVec 4) (register : Register) :
    registerOf number = some register ↔ registerNumber register = number := by
  revert number
  cases register <;> decide

theorem registerOf_number (register : Register) : registerOf (registerNumber register) = some register :=
  (registerOf_iff _ register).mpr rfl

/-- A value that is read from a field fits into the field. -/
theorem fitsField_toInt {bits : Nat} (field : BitVec bits) : FitsField bits field.toInt := by
  rw [FitsField, BitVec.ofInt_toInt]

section Instructions

variable {Symbol : Type}

/-- What is read from a single `bpf_insn` is an instruction with these fields. -/
theorem readSingle_sound {opcode : Opcode} {insn : BpfInsn} {instruction : Instruction Symbol}
    (code : opcode.code = insn.code) (reading : readSingle opcode insn = some instruction) :
    Encodable instruction ∧ opcodeOf instruction = opcode ∧ insnOf instruction = insn := by
  obtain ⟨_, dstReg, srcReg, off, imm⟩ := insn
  change _ = _ at code
  subst code
  cases opcode with
  | wide => cases reading
  | alu operation register =>
      cases register with
      | true =>
          simp only [readSingle, Option.bind_eq_bind, Option.bind_eq_some_iff, registerOf_iff,
            Option.ite_none_right_eq_some, Option.some.injEq] at reading
          obtain ⟨target, rfl, source, rfl, zero, rfl⟩ := reading
          obtain ⟨rfl, rfl⟩ := zero
          exact ⟨trivial, rfl, rfl⟩
      | false =>
          simp only [readSingle, Option.bind_eq_bind, Option.bind_eq_some_iff, registerOf_iff,
            Option.ite_none_right_eq_some, Option.some.injEq] at reading
          obtain ⟨target, rfl, zero, rfl⟩ := reading
          obtain ⟨rfl, rfl⟩ := zero
          refine ⟨fitsField_toInt imm, rfl, ?_⟩
          simp only [insnOf, opcodeOf, BitVec.ofInt_toInt]
  | load width =>
      simp only [readSingle, Option.bind_eq_bind, Option.bind_eq_some_iff, registerOf_iff,
        Option.ite_none_right_eq_some, Option.some.injEq] at reading
      obtain ⟨target, rfl, base, rfl, rfl, rfl⟩ := reading
      refine ⟨fitsField_toInt off, rfl, ?_⟩
      simp only [insnOf, opcodeOf, BitVec.ofInt_toInt]
  | store width =>
      simp only [readSingle, Option.bind_eq_bind, Option.bind_eq_some_iff, registerOf_iff,
        Option.ite_none_right_eq_some, Option.some.injEq] at reading
      obtain ⟨base, rfl, source, rfl, rfl, rfl⟩ := reading
      refine ⟨fitsField_toInt off, rfl, ?_⟩
      simp only [insnOf, opcodeOf, BitVec.ofInt_toInt]
  | jump =>
      simp only [readSingle, Option.ite_none_right_eq_some, Option.some.injEq] at reading
      obtain ⟨zero, rfl⟩ := reading
      obtain ⟨rfl, rfl, rfl⟩ := zero
      refine ⟨fitsField_toInt off, rfl, ?_⟩
      simp only [insnOf, opcodeOf, BitVec.ofInt_toInt]
  | branch condition register =>
      cases register with
      | true =>
          simp only [readSingle, Option.bind_eq_bind, Option.bind_eq_some_iff, registerOf_iff,
            Option.ite_none_right_eq_some, Option.some.injEq] at reading
          obtain ⟨left, rfl, right, rfl, rfl, rfl⟩ := reading
          refine ⟨fitsField_toInt off, rfl, ?_⟩
          simp only [insnOf, opcodeOf, BitVec.ofInt_toInt]
      | false =>
          simp only [readSingle, Option.bind_eq_bind, Option.bind_eq_some_iff, registerOf_iff,
            Option.ite_none_right_eq_some, Option.some.injEq] at reading
          obtain ⟨left, rfl, rfl, rfl⟩ := reading
          refine ⟨⟨fitsField_toInt imm, fitsField_toInt off⟩, rfl, ?_⟩
          simp only [insnOf, opcodeOf, BitVec.ofInt_toInt]
  | call =>
      simp only [readSingle, Option.ite_none_right_eq_some, Option.some.injEq] at reading
      obtain ⟨zero, rfl⟩ := reading
      obtain ⟨rfl, rfl, rfl⟩ := zero
      refine ⟨imm.isLt, rfl, ?_⟩
      simp only [insnOf, opcodeOf, BitVec.ofNat_toNat, BitVec.setWidth_eq]
  | exit =>
      simp only [readSingle, Option.ite_none_right_eq_some, Option.some.injEq] at reading
      obtain ⟨zero, rfl⟩ := reading
      obtain ⟨rfl, rfl, rfl, rfl⟩ := zero
      exact ⟨trivial, rfl, rfl⟩

/-- The fields of an instruction give it back. -/
theorem readSingle_insnOf {instruction : Instruction Symbol} (encodable : Encodable instruction)
    (single : opcodeOf instruction ≠ .wide) :
    readSingle (opcodeOf instruction) (insnOf instruction) = some instruction := by
  cases instruction with
  | alu operation target operand =>
      cases operand with
      | register source =>
          simp only [opcodeOf, insnOf, readSingle, registerOf_number, Option.bind_eq_bind, Option.bind_some,
            true_and, if_true]
      | constant value =>
          have kept : (BitVec.ofInt 32 value).toInt = value := encodable
          simp only [opcodeOf, insnOf, readSingle, registerOf_number, Option.bind_eq_bind, Option.bind_some,
            true_and, if_true, kept]
  | address target symbol offset => exact absurd rfl single
  | wide target value => exact absurd rfl single
  | load width target base offset =>
      have kept : (BitVec.ofInt 16 offset).toInt = offset := encodable
      simp only [opcodeOf, insnOf, readSingle, registerOf_number, Option.bind_eq_bind, Option.bind_some,
        if_true, kept]
  | store width base offset source =>
      have kept : (BitVec.ofInt 16 offset).toInt = offset := encodable
      simp only [opcodeOf, insnOf, readSingle, registerOf_number, Option.bind_eq_bind, Option.bind_some,
        if_true, kept]
  | jump offset =>
      have kept : (BitVec.ofInt 16 offset).toInt = offset := encodable
      simp only [opcodeOf, insnOf, readSingle, true_and, if_true, kept]
  | branch condition left right offset =>
      cases right with
      | register right =>
          have kept : (BitVec.ofInt 16 offset).toInt = offset := encodable
          simp only [opcodeOf, insnOf, readSingle, registerOf_number, Option.bind_eq_bind, Option.bind_some,
            if_true, kept]
      | constant value =>
          have value_kept : (BitVec.ofInt 32 value).toInt = value := encodable.1
          have kept : (BitVec.ofInt 16 offset).toInt = offset := encodable.2
          simp only [opcodeOf, insnOf, readSingle, registerOf_number, Option.bind_eq_bind, Option.bind_some,
            if_true, value_kept, kept]
  | call helper =>
      have small : helper < 2 ^ 32 := encodable
      have kept : (BitVec.ofNat 32 helper).toNat = helper := by
        rw [BitVec.toNat_ofNat, Nat.mod_eq_of_lt small]
      simp only [opcodeOf, insnOf, readSingle, true_and, if_true, kept]
  | exit => rfl

theorem insnOf_code (instruction : Instruction Symbol) :
    (insnOf instruction).code = (opcodeOf instruction).code := by
  cases instruction with
  | alu operation target operand => cases operand <;> rfl
  | branch condition left right offset => cases right <;> rfl
  | _ => rfl

theorem writeInstruction_single {instruction : Instruction Symbol} (single : opcodeOf instruction ≠ .wide) :
    writeInstruction instruction = [(insnOf instruction, none)] := by
  cases instruction with
  | address target symbol offset => exact absurd rfl single
  | wide target value => exact absurd rfl single
  | _ => rfl

/-- A wide constant has its lower half in the first `bpf_insn` and its upper half in the second one. -/
theorem readWide_sound {insn : BpfInsn} {symbol : Option Symbol} {input rest : List (BpfInsn × Option Symbol)}
    {instruction : Instruction Symbol} (code : insn.code = Opcode.wide.code)
    (reading : readWide insn symbol input = some (instruction, rest)) :
    Encodable instruction ∧ (insn, symbol) :: input = writeInstruction instruction ++ rest := by
  obtain ⟨_, dstReg, srcReg, off, imm⟩ := insn
  change _ = _ at code
  subst code
  cases input with
  | nil => cases reading
  | cons next input =>
      obtain ⟨second, relocation⟩ := next
      cases relocation with
      | some relocation => cases reading
      | none =>
          simp only [readWide, Option.bind_eq_bind, Option.bind_eq_some_iff, registerOf_iff,
            Option.ite_none_right_eq_some] at reading
          obtain ⟨target, rfl, zero, chosen⟩ := reading
          obtain ⟨rfl, rfl, bare⟩ := zero
          cases symbol with
          | none =>
              obtain ⟨rfl, rfl⟩ := Prod.mk.inj (Option.some.inj chosen)
              refine ⟨trivial, ?_⟩
              simp only [writeInstruction, insnOf, opcodeOf, List.cons_append, List.nil_append]
              rw [BitVec.extractLsb'_append_eq_right, BitVec.extractLsb'_append_eq_left, ← bare]
          | some symbol =>
              simp only [Option.ite_none_right_eq_some, Option.some.injEq, Prod.mk.injEq] at chosen
              obtain ⟨upper, rfl, rfl⟩ := chosen
              rw [upper] at bare
              refine ⟨imm.isLt, ?_⟩
              simp only [writeInstruction, insnOf, opcodeOf, BitVec.ofNat_toNat, BitVec.setWidth_eq,
                List.cons_append, List.nil_append, bare]

theorem readInstruction_sound {input rest : List (BpfInsn × Option Symbol)} {instruction : Instruction Symbol}
    (reading : readInstruction input = some (instruction, rest)) :
    Encodable instruction ∧ input = writeInstruction instruction ++ rest := by
  cases input with
  | nil => cases reading
  | cons first input =>
      obtain ⟨insn, symbol⟩ := first
      simp only [readInstruction, Option.bind_eq_bind, Option.bind_eq_some_iff] at reading
      obtain ⟨opcode, found, reading⟩ := reading
      have code := (Opcode.ofCode_iff _ _).mp found
      by_cases wide : opcode = .wide
      · subst wide
        rw [if_pos rfl] at reading
        exact readWide_sound code.symm reading
      · rw [if_neg wide] at reading
        cases symbol with
        | some symbol => cases reading
        | none =>
            simp only [Option.isNone_none, if_true, Option.map_eq_some_iff, Prod.mk.injEq] at reading
            obtain ⟨_, single, rfl, rfl⟩ := reading
            obtain ⟨encodable, kind, rfl⟩ := readSingle_sound code single
            rw [← kind] at wide
            rw [writeInstruction_single wide]
            exact ⟨encodable, rfl⟩

/-- An instruction that fits into its fields is read back from the front of every series. -/
theorem readInstruction_write {instruction : Instruction Symbol} (encodable : Encodable instruction)
    (rest : List (BpfInsn × Option Symbol)) :
    readInstruction (writeInstruction instruction ++ rest) = some (instruction, rest) := by
  by_cases wide : opcodeOf instruction = .wide
  · cases instruction with
    | address target symbol offset =>
        have small : offset < 2 ^ 32 := encodable
        have kept : (BitVec.ofNat 32 offset).toNat = offset := by
          rw [BitVec.toNat_ofNat, Nat.mod_eq_of_lt small]
        have code : Opcode.ofCode Opcode.wide.code = some .wide := (Opcode.ofCode_iff _ _).mpr rfl
        simp only [writeInstruction, insnOf, opcodeOf, List.cons_append, List.nil_append, readInstruction,
          readWide, code, registerOf_number, Option.bind_eq_bind, Option.bind_some, if_true, true_and, kept]
    | wide target value =>
        have joined : value.extractLsb' 32 32 ++ value.extractLsb' 0 32 = value :=
          (join_parts value 0 32 32).trans BitVec.extractLsb'_eq_self
        have code : Opcode.ofCode Opcode.wide.code = some .wide := (Opcode.ofCode_iff _ _).mpr rfl
        simp only [writeInstruction, insnOf, opcodeOf, List.cons_append, List.nil_append, readInstruction,
          readWide, code, registerOf_number, Option.bind_eq_bind, Option.bind_some, if_true, true_and, joined]
    | alu operation target operand => cases operand <;> cases wide
    | branch condition left right offset => cases right <;> cases wide
    | _ => cases wide
  · have code : Opcode.ofCode (insnOf instruction).code = some (opcodeOf instruction) := by
      rw [insnOf_code]
      exact (Opcode.ofCode_iff _ _).mpr rfl
    rw [writeInstruction_single wide]
    simp only [List.cons_append, List.nil_append, readInstruction, code, Option.bind_eq_bind,
      Option.bind_some, if_neg wide, Option.isNone_none, if_true, readSingle_insnOf encodable wide,
      Option.map_some]

theorem writeInstruction_ne_nil (instruction : Instruction Symbol) : writeInstruction instruction ≠ [] := by
  cases instruction <;> exact List.cons_ne_nil _ _

theorem instructionFormat_lawful : (instructionFormat Symbol).Lawful where
  nonempty instruction _ := writeInstruction_ne_nil instruction
  read_iff input instruction rest := by
    constructor
    · exact readInstruction_sound
    · intro written
      obtain ⟨encodable, rfl⟩ := written
      exact readInstruction_write encodable rest

/-- The relocations of a series do not stand in front of it. -/
theorem relocationsFrom_offset {offset : Nat} {marked : List (BpfInsn × Option Symbol)}
    {relocation : Nat × Symbol} (member : relocation ∈ relocationsFrom offset marked) :
    offset ≤ relocation.1 := by
  induction marked generalizing offset with
  | nil => cases member
  | cons first rest ih =>
      obtain ⟨insn, symbol⟩ := first
      cases symbol with
      | none => exact le_trans (Nat.le_add_right offset 8) (ih member)
      | some symbol =>
          rcases List.mem_cons.mp member with rfl | later
          · exact le_rfl
          · exact le_trans (Nat.le_add_right offset 8) (ih later)

/-- Without a relocation at its offset, a `bpf_insn` gets no symbol. -/
theorem markFrom_none {offset : Nat} {relocations : List (Nat × Symbol)}
    (behind : ∀ relocation ∈ relocations, offset < relocation.1) (insn : BpfInsn) (rest : List BpfInsn) :
    markFrom offset relocations (insn :: rest) =
      (markFrom (offset + 8) relocations rest).map ((insn, none) :: ·) := by
  cases relocations with
  | nil => rfl
  | cons relocation relocations =>
      have later := behind relocation List.mem_cons_self
      obtain ⟨place, symbol⟩ := relocation
      rw [markFrom, if_neg (Nat.ne_of_gt later)]

theorem markFrom_relocations (offset : Nat) (marked : List (BpfInsn × Option Symbol)) :
    markFrom offset (relocationsFrom offset marked) (marked.map Prod.fst) = some marked := by
  induction marked generalizing offset with
  | nil => rfl
  | cons first rest ih =>
      obtain ⟨insn, symbol⟩ := first
      cases symbol with
      | none =>
          have behind : ∀ relocation ∈ relocationsFrom (offset + 8) rest, offset < relocation.1 := by
            intro relocation member
            have later := relocationsFrom_offset member
            omega
          rw [relocationsFrom, List.map_cons, markFrom_none behind, ih]
          rfl
      | some symbol =>
          rw [relocationsFrom, List.map_cons, markFrom, if_pos rfl, ih]
          rfl

theorem markFrom_sound {offset : Nat} {relocations : List (Nat × Symbol)} {insns : List BpfInsn}
    {marked : List (BpfInsn × Option Symbol)} (reading : markFrom offset relocations insns = some marked) :
    marked.map Prod.fst = insns ∧ relocationsFrom offset marked = relocations := by
  induction insns generalizing offset relocations marked with
  | nil =>
      cases relocations with
      | nil =>
          obtain rfl := Option.some.inj reading
          exact ⟨rfl, rfl⟩
      | cons relocation relocations => cases reading
  | cons insn insns ih =>
      cases relocations with
      | nil =>
          simp only [markFrom, Option.map_eq_some_iff] at reading
          obtain ⟨rest, behind, rfl⟩ := reading
          obtain ⟨same, empty⟩ := ih behind
          exact ⟨congrArg (insn :: ·) same, empty⟩
      | cons relocation relocations =>
          obtain ⟨place, symbol⟩ := relocation
          rw [markFrom] at reading
          split_ifs at reading with here
          · simp only [Option.map_eq_some_iff] at reading
            obtain ⟨rest, behind, rfl⟩ := reading
            obtain ⟨same, others⟩ := ih behind
            refine ⟨congrArg (insn :: ·) same, ?_⟩
            rw [relocationsFrom, others, here]
          · simp only [Option.map_eq_some_iff] at reading
            obtain ⟨rest, behind, rfl⟩ := reading
            obtain ⟨same, others⟩ := ih behind
            exact ⟨congrArg (insn :: ·) same, others⟩

/-- A marked series consists of the given `bpf_insn` and has the given relocations. -/
theorem markFrom_iff (offset : Nat) (relocations : List (Nat × Symbol)) (insns : List BpfInsn)
    (marked : List (BpfInsn × Option Symbol)) :
    markFrom offset relocations insns = some marked ↔
      marked.map Prod.fst = insns ∧ relocationsFrom offset marked = relocations := by
  constructor
  · exact markFrom_sound
  · intro same
    obtain ⟨rfl, rfl⟩ := same
    exact markFrom_relocations offset marked

/-- The series of a section is the one that is written as its bytes and relocations. -/
theorem insns_iff (programSection : ProgramSection Symbol) (marked : List (BpfInsn × Option Symbol)) :
    programSection.insns = some marked ↔
      (⟨BpfInsn.format.writeAll (marked.map Prod.fst), relocationsFrom 0 marked⟩ :
        ProgramSection Symbol) = programSection := by
  simp only [ProgramSection.insns, Option.bind_eq_bind, Option.bind_eq_some_iff,
    BpfInsn.format_lawful.readAll_iff, markFrom_iff]
  constructor
  · intro reading
    obtain ⟨insns, written, rfl, relocations⟩ := reading
    rw [written.2, relocations]
  · intro written
    subst written
    exact ⟨_, ⟨fun _ _ => trivial, rfl⟩, rfl, rfl⟩

/-- The sections that are taken apart into a program are exactly the ones that are assembled from an
encodable program. -/
theorem disassemble_written (programSection : ProgramSection Symbol) (program : List (Instruction Symbol)) :
    disassemble programSection = some program ↔
      (∀ instruction ∈ program, Encodable instruction) ∧ assemble program = programSection := by
  simp only [disassemble, Option.bind_eq_bind, Option.bind_eq_some_iff, insns_iff,
    instructionFormat_lawful.readAll_iff]
  constructor
  · intro reading
    obtain ⟨marked, written, encodable, rfl⟩ := reading
    exact ⟨encodable, written⟩
  · intro written
    obtain ⟨encodable, rfl⟩ := written
    exact ⟨_, rfl, encodable, rfl⟩

/-- An assembled program is read back exactly when its constants and distances fit into the fields, and a
section that is read at all is the one that is assembled from its program. -/
theorem disassemble_roundTrip :
    (∀ program : List (Instruction Symbol), disassemble (assemble program) = some program ↔
      ∀ instruction ∈ program, Encodable instruction) ∧
    ∀ (programSection : ProgramSection Symbol) (program : List (Instruction Symbol)),
      disassemble programSection = some program → assemble program = programSection := by
  constructor
  · intro program
    rw [disassemble_written, and_iff_left rfl]
  · intro programSection program reading
    exact ((disassemble_written programSection program).mp reading).2

end Instructions

end EbpfNotes
