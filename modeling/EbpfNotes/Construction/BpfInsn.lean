/-
This file models `struct bpf_insn` of `Notes/working_of_eBPF.md`, with the codes that the dumps of the
programs show, and the section of an object file that holds a program.
-/

import EbpfNotes.Library.Bytecode
import EbpfNotes.Library.Format

namespace EbpfNotes

open Library

structure BpfInsn where
  code : BitVec 8
  dstReg : BitVec 4
  srcReg : BitVec 4
  off : BitVec 16
  imm : BitVec 32
  deriving DecidableEq, Repr

namespace BpfInsn

/-- The destination is the lower half of its byte, and the numbers are little-endian. -/
def bytes (insn : BpfInsn) : List Byte := [
  insn.code,
  insn.srcReg ++ insn.dstReg,
  insn.off.extractLsb' 0 8,
  insn.off.extractLsb' 8 8,
  insn.imm.extractLsb' 0 8,
  insn.imm.extractLsb' 8 8,
  insn.imm.extractLsb' 16 8,
  insn.imm.extractLsb' 24 8]

def read : List Byte → Option (BpfInsn × List Byte)
  | code :: registers :: off₀ :: off₁ :: imm₀ :: imm₁ :: imm₂ :: imm₃ :: rest =>
    some (⟨code, registers.extractLsb' 0 4, registers.extractLsb' 4 4, off₁ ++ off₀,
      imm₃ ++ imm₂ ++ imm₁ ++ imm₀⟩, rest)
  | _ => none

/-- Every value of the fields has its eight bytes. -/
def format : Format Byte BpfInsn where
  accepts _ := True
  write := bytes
  read := read

end BpfInsn

/-- The kinds of instructions, where a source is a register or a constant. -/
inductive Opcode where
  | alu (operation : Operation) (register : Bool)
  | wide
  | load (width : Width)
  | store (width : Width)
  | jump
  | branch (condition : Condition) (register : Bool)
  | call
  | exit
  deriving DecidableEq, Repr

def operationCode : Operation → BitVec 8
  | .add => 0x07
  | .or => 0x47
  | .lsh => 0x67
  | .rsh => 0x77
  | .mov => 0xb7
  | .arsh => 0xc7

def widthCode : Width → BitVec 8
  | .u32 => 0x60
  | .u16 => 0x68
  | .u8 => 0x70
  | .u64 => 0x78

def conditionCode : Condition → BitVec 8
  | .eq => 0x15
  | .gt => 0x25

/-- The bit `0x08` says that the source is a register. -/
def sourceCode (register : Bool) : BitVec 8 := if register then 0x08 else 0x00

namespace Opcode

def code : Opcode → BitVec 8
  | .alu operation register => operationCode operation + sourceCode register
  | .wide => 0x18
  | .load width => widthCode width + 0x01
  | .store width => widthCode width + 0x03
  | .jump => 0x05
  | .branch condition register => conditionCode condition + sourceCode register
  | .call => 0x85
  | .exit => 0x95

def all : List Opcode := [
  .wide, .jump, .call, .exit,
  .alu .mov false, .alu .add false, .alu .or false, .alu .lsh false, .alu .rsh false, .alu .arsh false,
  .alu .mov true, .alu .add true, .alu .or true, .alu .lsh true, .alu .rsh true, .alu .arsh true,
  .load .u8, .load .u16, .load .u32, .load .u64,
  .store .u8, .store .u16, .store .u32, .store .u64,
  .branch .eq false, .branch .gt false, .branch .eq true, .branch .gt true]

def ofCode (code : BitVec 8) : Option Opcode := all.find? fun opcode => opcode.code == code

end Opcode

def registers : List Register := [.r0, .r1, .r2, .r3, .r4, .r5, .r6, .r7, .r8, .r9, .r10]

def registerNumber (register : Register) : BitVec 4 := BitVec.ofNat 4 (registers.idxOf register)

def registerOf (number : BitVec 4) : Option Register := registers[number.toNat]?

section Instructions

variable {Symbol : Type}

/-- A signed field of the given number of bits holds the value. -/
def FitsField (bits : Nat) (value : Int) : Prop := (BitVec.ofInt bits value).toInt = value

instance (bits : Nat) (value : Int) : Decidable (FitsField bits value) :=
  inferInstanceAs (Decidable (_ = _))

/-- The constants and distances of an instruction fit into the fields. -/
def Encodable : Instruction Symbol → Prop
  | .alu _ _ (.constant value) => FitsField 32 value
  | .address _ _ offset => offset < 2 ^ 32
  | .load _ _ _ offset | .store _ _ offset _ | .jump offset => FitsField 16 offset
  | .branch _ _ (.constant value) offset => FitsField 32 value ∧ FitsField 16 offset
  | .branch _ _ (.register _) offset => FitsField 16 offset
  | .call helper => helper < 2 ^ 32
  | _ => True

instance : ∀ instruction : Instruction Symbol, Decidable (Encodable instruction)
  | .alu _ _ (.register _) | .wide .. | .exit => inferInstanceAs (Decidable True)
  | .alu _ _ (.constant _) => inferInstanceAs (Decidable (FitsField _ _))
  | .address .. | .call _ => inferInstanceAs (Decidable (_ < _))
  | .load .. | .store .. | .jump _ => inferInstanceAs (Decidable (FitsField _ _))
  | .branch _ _ (.constant _) _ => inferInstanceAs (Decidable (FitsField _ _ ∧ FitsField _ _))
  | .branch _ _ (.register _) _ => inferInstanceAs (Decidable (FitsField _ _))

def opcodeOf : Instruction Symbol → Opcode
  | .alu operation _ (.register _) => .alu operation true
  | .alu operation _ (.constant _) => .alu operation false
  | .address .. | .wide .. => .wide
  | .load width .. => .load width
  | .store width .. => .store width
  | .jump _ => .jump
  | .branch condition _ (.register _) _ => .branch condition true
  | .branch condition _ (.constant _) _ => .branch condition false
  | .call _ => .call
  | .exit => .exit

/-- The first `bpf_insn` of an instruction. -/
def insnOf (instruction : Instruction Symbol) : BpfInsn :=
  let code := (opcodeOf instruction).code
  match instruction with
  | .alu _ target (.register source) => ⟨code, registerNumber target, registerNumber source, 0, 0⟩
  | .alu _ target (.constant value) => ⟨code, registerNumber target, 0, 0, BitVec.ofInt 32 value⟩
  | .address target _ offset => ⟨code, registerNumber target, 0, 0, BitVec.ofNat 32 offset⟩
  | .wide target value => ⟨code, registerNumber target, 0, 0, value.extractLsb' 0 32⟩
  | .load _ target base offset =>
    ⟨code, registerNumber target, registerNumber base, BitVec.ofInt 16 offset, 0⟩
  | .store _ base offset source =>
    ⟨code, registerNumber base, registerNumber source, BitVec.ofInt 16 offset, 0⟩
  | .jump offset => ⟨code, 0, 0, BitVec.ofInt 16 offset, 0⟩
  | .branch _ left (.register right) offset =>
    ⟨code, registerNumber left, registerNumber right, BitVec.ofInt 16 offset, 0⟩
  | .branch _ left (.constant value) offset =>
    ⟨code, registerNumber left, 0, BitVec.ofInt 16 offset, BitVec.ofInt 32 value⟩
  | .call helper => ⟨code, 0, 0, 0, BitVec.ofNat 32 helper⟩
  | .exit => ⟨code, 0, 0, 0, 0⟩

/-- An address is a wide constant with a relocation, which names the symbol. -/
def writeInstruction (instruction : Instruction Symbol) : List (BpfInsn × Option Symbol) :=
  match instruction with
  | .address _ symbol _ => [(insnOf instruction, some symbol), (⟨0, 0, 0, 0, 0⟩, none)]
  | .wide _ value => [(insnOf instruction, none), (⟨0, 0, 0, 0, value.extractLsb' 32 32⟩, none)]
  | _ => [(insnOf instruction, none)]

/-- The fields that an instruction does not use are zero. -/
def readSingle (opcode : Opcode) (insn : BpfInsn) : Option (Instruction Symbol) :=
  match opcode with
  | .wide => none
  | .alu operation true => do
    let target ← registerOf insn.dstReg
    let source ← registerOf insn.srcReg
    if insn.off = 0 ∧ insn.imm = 0 then some (.alu operation target (.register source)) else none
  | .alu operation false => do
    let target ← registerOf insn.dstReg
    if insn.srcReg = 0 ∧ insn.off = 0 then some (.alu operation target (.constant insn.imm.toInt)) else none
  | .load width => do
    let target ← registerOf insn.dstReg
    let base ← registerOf insn.srcReg
    if insn.imm = 0 then some (.load width target base insn.off.toInt) else none
  | .store width => do
    let base ← registerOf insn.dstReg
    let source ← registerOf insn.srcReg
    if insn.imm = 0 then some (.store width base insn.off.toInt source) else none
  | .jump =>
    if insn.dstReg = 0 ∧ insn.srcReg = 0 ∧ insn.imm = 0 then some (.jump insn.off.toInt) else none
  | .branch condition true => do
    let left ← registerOf insn.dstReg
    let right ← registerOf insn.srcReg
    if insn.imm = 0 then some (.branch condition left (.register right) insn.off.toInt) else none
  | .branch condition false => do
    let left ← registerOf insn.dstReg
    if insn.srcReg = 0 then some (.branch condition left (.constant insn.imm.toInt) insn.off.toInt) else none
  | .call =>
    if insn.dstReg = 0 ∧ insn.srcReg = 0 ∧ insn.off = 0 then some (.call insn.imm.toNat) else none
  | .exit =>
    if insn.dstReg = 0 ∧ insn.srcReg = 0 ∧ insn.off = 0 ∧ insn.imm = 0 then some .exit else none

/-- The second `bpf_insn` of a wide constant holds only the upper half. -/
def readWide (insn : BpfInsn) (symbol : Option Symbol) :
    List (BpfInsn × Option Symbol) → Option (Instruction Symbol × List (BpfInsn × Option Symbol))
  | (second, none) :: rest => do
    let target ← registerOf insn.dstReg
    if insn.srcReg = 0 ∧ insn.off = 0 ∧ second = ⟨0, 0, 0, 0, second.imm⟩ then
      match symbol with
      | none => some (.wide target (second.imm ++ insn.imm), rest)
      | some symbol =>
        if second.imm = 0 then some (.address target symbol insn.imm.toNat, rest) else none
    else none
  | _ => none

def readInstruction :
    List (BpfInsn × Option Symbol) → Option (Instruction Symbol × List (BpfInsn × Option Symbol))
  | [] => none
  | (insn, symbol) :: rest => do
    let opcode ← Opcode.ofCode insn.code
    if opcode = .wide then readWide insn symbol rest
    else if symbol.isNone then (readSingle opcode insn).map fun instruction => (instruction, rest)
    else none

def instructionFormat (Symbol : Type) : Format (BpfInsn × Option Symbol) (Instruction Symbol) where
  accepts := Encodable
  write := writeInstruction
  read := readInstruction

/-- A section of an object file has the bytes of a program and the symbols at the offsets of its
relocations. -/
structure ProgramSection (Symbol : Type) where
  bytes : List Byte
  relocations : List (Nat × Symbol)
  deriving DecidableEq, Repr

/-- The relocations of a series of `bpf_insn` in the order of their offsets. -/
def relocationsFrom : Nat → List (BpfInsn × Option Symbol) → List (Nat × Symbol)
  | _, [] => []
  | offset, (_, none) :: rest => relocationsFrom (offset + 8) rest
  | offset, (_, some symbol) :: rest => (offset, symbol) :: relocationsFrom (offset + 8) rest

/-- Each relocation belongs to the `bpf_insn` at its offset, and none is left over. -/
def markFrom : Nat → List (Nat × Symbol) → List BpfInsn → Option (List (BpfInsn × Option Symbol))
  | _, [], [] => some []
  | _, _ :: _, [] => none
  | offset, [], insn :: rest => (markFrom (offset + 8) [] rest).map ((insn, none) :: ·)
  | offset, (place, symbol) :: relocations, insn :: rest =>
    if place = offset then
      (markFrom (offset + 8) relocations rest).map ((insn, some symbol) :: ·)
    else (markFrom (offset + 8) ((place, symbol) :: relocations) rest).map ((insn, none) :: ·)

/-- The series of `bpf_insn` that a section holds. -/
def ProgramSection.insns (programSection : ProgramSection Symbol) :
    Option (List (BpfInsn × Option Symbol)) := do
  let insns ← BpfInsn.format.readAll programSection.bytes
  markFrom 0 programSection.relocations insns

def assemble (program : List (Instruction Symbol)) : ProgramSection Symbol :=
  let insns := (instructionFormat Symbol).writeAll program
  ⟨BpfInsn.format.writeAll (insns.map Prod.fst), relocationsFrom 0 insns⟩

def disassemble (programSection : ProgramSection Symbol) : Option (List (Instruction Symbol)) := do
  let insns ← programSection.insns
  (instructionFormat Symbol).readAll insns

/-- The machine fetches its next instruction from the series that was loaded. -/
def fetchInsn (insns : List (BpfInsn × Option Symbol)) (slot : Nat) : Option (Instruction Symbol) :=
  (readInstruction (insns.drop slot)).map Prod.fst

end Instructions

section Machine

variable {Symbol Name Kernel : Type} {live : List Name} {size : Name → Nat} [DecidableEq Name]

def stepInsn (world : World Symbol Name Kernel live size) (insns : List (BpfInsn × Option Symbol))
    (slot : Nat) (state : State Name Kernel) : Outcome Name Kernel :=
  match fetchInsn insns slot with
  | none => .stuck
  | some .exit => .exited state
  | some (.jump offset) => goto slot offset state
  | some (.branch condition left right offset) =>
    if condition.holds (state.registers left) (right.value state) then goto slot offset state
    else .running (slot + 1) state
  | some instruction =>
    match effect world instruction state with
    | some next => .running (slot + instruction.slots) next
    | none => .stuck

/-- The run takes at most as many steps as it has fuel. -/
def executeInsns (world : World Symbol Name Kernel live size) (insns : List (BpfInsn × Option Symbol)) :
    Nat → Outcome Name Kernel → Outcome Name Kernel
  | fuel + 1, .running slot state => executeInsns world insns fuel (stepInsn world insns slot state)
  | _, outcome => outcome

end Machine

end EbpfNotes
