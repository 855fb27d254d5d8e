/-
This file models the machine code of `packet_count` in `packet_count/packet_count.asm`.
-/

import EbpfNotes.Construction.PacketCountBytecode
import EbpfNotes.Library.Lowering

namespace EbpfNotes.PacketCount

open Library

/-- The machine code of `packet_count`. -/
def packetCountListing : X86.Listing := [
  (0x0, .nop),
  (0x5, .nop),
  (0x7, .pushq .rbp),
  (0x8, .movq .rsp .rbp),
  (0xb, .pushq .rbx),
  (0xc, .movabsq (-79770420068352) .rbx),
  (0x16, .load .u32 0 .rbx .rdx),
  (0x19, .movabsq (-109408656120560) .rdi),
  (0x23, .movl 3 .rsi),
  (0x28, .callq 0xffffffffc9c462cc),
  (0x2d, .load .u32 0 .rbx .rdi),
  (0x30, .addq (.constant 1) .rdi),
  (0x34, .store .u32 .rdi 0 .rbx),
  (0x37, .movl 2 .rax),
  (0x3c, .popq .rbx),
  (0x3d, .leave),
  (0x3e, .retq),
  (0x3f, .int3)]

/-- Behind the frame the stack holds the frame pointer and the return address of the caller. -/
def machineSize : Name → Nat
  | .stack => 528
  | name => objectSize name

theorem objectSize_le (name : Name) : objectSize name ≤ machineSize name := by
  cases name <;> decide

/-- The machine code calls one function of the kernel. -/
def calledHelper : Nat → Nat
  | 0xffffffffc9c462cc => 4294858880 -- bpf_trace_printk, at -108416
  | _ => 0

/-- The listing fixes the addresses of the counter and of the format string. The rest of the setting of a
call, its stack and the result that the program ignores are arbitrary. -/
structure Call extends X86.Setting Name (List Printk) where
  layout : Layout liveNames machineSize
  counter_base : layout.base .counter = immediate (-79770420068352)
  rodata_base : layout.base .rodata = immediate (-109408656120560)
  stack : Nat → Byte
  status : State Name (List Printk) → Word

namespace Call

variable (call : Call)

/-- The environment of the translated bytecode, whose frame is a part of the stack. -/
def environment : Environment where
  layout := call.layout.shrunk fun name _ => objectSize_le name
  ctx := call.registers .rdi
  registers _ := 0
  stack := call.stack
  status := call.status
  clobber _ _ := 0

def world : World Symbol Name (List Printk) liveNames objectSize :=
  call.environment.world (2 ^ 32 - 108416)

/-- The machine code calls the function of the kernel at its address. -/
def function (target : Nat) (machine : X86.State Name (List Printk)) :
    Option (Return Name (List Printk)) :=
  (call.world.helper (calledHelper target) (argumentView machine)).map
    (call.leave call.layout .stack machine)

/-- The listing has no jump to a return thunk. -/
def processor : X86.Processor Name (List Printk) liveNames machineSize where
  layout := call.layout
  image := call.image
  thunk := 0x10000000000000000
  function := call.function
  scratch := call.scratch

/-- The call finds its own stack, and the memory and the trace of the calls before. -/
def enter (memory : Contents Name) (lines : List Printk) : X86.State Name (List Printk) where
  registers register :=
    if register = .rsp then call.layout.pointer .stack 520 else call.registers register
  flags := call.flags
  contents name index :=
    match name with
    | .stack => call.stack index
    | name => memory name index
  kernel := lines

/-- The translated bytecode starts with the same memory and the same trace. -/
def start (memory : Contents Name) (lines : List Printk) : State Name (List Printk) :=
  ⟨call.environment.entry, (call.enter memory lines).contents, lines⟩

/-- The return address lies on the top of the stack. -/
def meet (memory : Contents Name) (lines : List Printk) : X86.Call Name (List Printk) where
  live := liveNames
  size := machineSize
  processor := call.processor
  initial := call.enter memory lines
  returnAddress := BitVec.ofNat 64 (decode 8 fun index => call.stack (520 + index))

end Call

end EbpfNotes.PacketCount
