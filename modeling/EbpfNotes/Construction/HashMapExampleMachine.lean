/-
This file models the machine code of `hello` in `bpf_maps/hash_map_example.asm`.
-/

import EbpfNotes.Construction.HashMapExampleBytecode
import EbpfNotes.Library.Lowering

namespace EbpfNotes.HashMapExample

open Library

/-- The machine code of `hello`. -/
def helloListing : X86.Listing := [
  (0x0, .nop),
  (0x5, .nop),
  (0x7, .pushq .rbp),
  (0x8, .movq .rsp .rbp),
  (0xb, .subq 16 .rsp),
  (0x12, .callq 0xffffffffd528700c),
  (0x17, .shlq 32 .rax),
  (0x1b, .shrq 32 .rax),
  (0x1f, .store .u64 .rax (-8) .rbp),
  (0x23, .movq .rbp .rsi),
  (0x26, .addq (.constant (-8)) .rsi),
  (0x2a, .movabsq (-115576415311872) .rdi),
  (0x34, .callq 0xffffffffd528ec9c),
  (0x39, .testq .rax .rax),
  (0x3c, .je 0x42),
  (0x3e, .addq (.constant 56) .rax),
  (0x42, .movl 1 .rdi),
  (0x47, .testq .rax .rax),
  (0x4a, .je 0x54),
  (0x4c, .load .u64 0 .rax .rdi),
  (0x50, .addq (.constant 1) .rdi),
  (0x54, .store .u64 .rdi (-16) .rbp),
  (0x58, .movq .rbp .rsi),
  (0x5b, .addq (.constant (-8)) .rsi),
  (0x5f, .movq .rbp .rdx),
  (0x62, .addq (.constant (-16)) .rdx),
  (0x66, .movabsq (-115576415311872) .rdi),
  (0x70, .xorl .rcx .rcx),
  (0x72, .callq 0xffffffffd52920cc),
  (0x77, .xorl .rax .rax),
  (0x79, .leave),
  (0x7a, .jmp 0xffffffffd60a33fc)]

/-- Behind the frame the stack holds the frame pointer and the return address of the caller. -/
def machineSize : Name → Nat
  | .stack => 528
  | .element key => objectSize 56 (.element key)

theorem objectSize_le (name : Name) : objectSize 56 name ≤ machineSize name := by
  cases name with
  | stack => decide
  | element key => exact le_rfl

/-- The functions of the kernel that the machine code calls, by the numbers of their calls in the
translated bytecode. -/
def calledHelper : Nat → Nat
  | 0xffffffffd528700c => 235744 -- bpf_get_current_uid_gid
  | 0xffffffffd528ec9c => 267632 -- __htab_map_lookup_elem
  | 0xffffffffd52920cc => 280992 -- htab_map_update_elem
  | _ => 0

/-- A call of the machine code for an event meets a table, at any addresses and with any bytes besides
the values of the table. -/
structure Call (table : CounterTable) (uidGid : Word) extends X86.Setting Name Kernel where
  layout : Layout (liveNames table) machineSize
  bytes : Contents Name

namespace Call

variable {table : CounterTable} {uidGid : Word} (call : Call table uidGid)

/-- The environment of the translated bytecode, whose frame is a part of the stack. -/
def environment : Environment table uidGid 56 where
  layout := call.layout.shrunk fun name _ => objectSize_le name
  map := immediate (-115576415311872)
  registers _ := 0
  bytes := call.bytes
  clobber _ _ := 0

/-- The machine code calls the functions of the kernel at their addresses. -/
def function (target : Nat) (machine : X86.State Name Kernel) : Option (Return Name Kernel) :=
  (call.environment.translatedHelper (calledHelper target) (argumentView machine)).map
    (call.leave call.layout .stack machine)

def processor : X86.Processor Name Kernel (liveNames table) machineSize where
  layout := call.layout
  image := call.image
  thunk := 0xffffffffd60a33fc
  function := call.function
  scratch := call.scratch

def enter (log : List Access) : X86.State Name Kernel where
  registers register :=
    if register = .rsp then call.layout.pointer .stack 520 else call.registers register
  flags := call.flags
  contents := showTable 56 table call.bytes
  kernel := ⟨table, log⟩

end Call

/-- An event arrives, and its call takes the table as it finds it. -/
structure Arrival where
  uidGid : Word
  finds : ∀ table, Call table uidGid

/-- The return address lies on the top of the stack. -/
def Arrival.meet (arrival : Arrival) (_ : Contents Name) (kernel : Kernel) : X86.Call Name Kernel where
  live := liveNames kernel.counterTable
  size := machineSize
  processor := (arrival.finds kernel.counterTable).processor
  initial := (arrival.finds kernel.counterTable).enter kernel.accesses
  returnAddress :=
    BitVec.ofNat 64 (((arrival.finds kernel.counterTable).bytes).number (.stack, 520) 8)

end EbpfNotes.HashMapExample
