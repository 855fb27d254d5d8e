/-
This file models the machine code of `kprobe_exec` in `verifier_example/hello-verifier.asm`.
-/

import EbpfNotes.Construction.HelloVerifierTranslated
import EbpfNotes.Library.Lowering

namespace EbpfNotes.HelloVerifier

open Library

/-- The machine code of `kprobe_exec`. -/
def kprobeExecListing : X86.Listing := [
  (0x0, .nop),
  (0x5, .nop),
  (0x7, .pushq .rbp),
  (0x8, .movq .rsp .rbp),
  (0xb, .subq 48 .rsp),
  (0x12, .pushq .rbx),
  (0x13, .pushq .r13),
  (0x15, .movq .rdi .rbx),
  (0x18, .movabsq (-72830813560832) .rdi),
  (0x22, .load .u32 0 .rdi .rsi),
  (0x25, .movq .rsi .rdx),
  (0x28, .addq (.constant 1) .rdx),
  (0x2c, .store .u32 .rdx 0 .rdi),
  (0x2f, .xorl .rdi .rdi),
  (0x31, .store .u32 .rdi (-8) .rbp),
  (0x34, .store .u32 .rdi (-12) .rbp),
  (0x37, .store .u32 .rdi (-16) .rbp),
  (0x3a, .store .u32 .rdi (-20) .rbp),
  (0x3d, .store .u32 .rdi (-24) .rbp),
  (0x40, .store .u32 .rdi (-28) .rbp),
  (0x43, .store .u32 .rdi (-4) .rbp),
  (0x46, .store .u32 .rsi (-32) .rbp),
  (0x49, .callq 0xffffffffd5286c14),
  (0x4e, .store .u32 .rax (-40) .rbp),
  (0x51, .callq 0xffffffffd5286e44),
  (0x56, .store .u32 .rax (-36) .rbp),
  (0x59, .shlq 32 .rax),
  (0x5d, .shrq 32 .rax),
  (0x61, .store .u64 .rax (-48) .rbp),
  (0x65, .movq .rbp .rsi),
  (0x68, .addq (.constant (-48)) .rsi),
  (0x6c, .movabsq (-115581529390080) .rdi),
  (0x76, .callq 0xffffffffd528ead4),
  (0x7b, .testq .rax .rax),
  (0x7e, .je 0x84),
  (0x80, .addq (.constant 56) .rax),
  (0x84, .movq .rax .r13),
  (0x87, .testq .r13 .r13),
  (0x8a, .je 0xbe),
  (0x8c, .load .u8 0 .r13 .rdx),
  (0x91, .shlq 56 .rdx),
  (0x95, .sarq 56 .rdx),
  (0x99, .movabsq (-115581794723056) .rdi),
  (0xa3, .movl 3 .rsi),
  (0xa8, .callq 0xffffffffd5232be4),
  (0xad, .movq .rbp .rdi),
  (0xb0, .addq (.constant (-12)) .rdi),
  (0xb4, .movl 12 .rsi),
  (0xb9, .movq .r13 .rdx),
  (0xbc, .jmp 0xd4),
  (0xbe, .movq .rbp .rdi),
  (0xc1, .addq (.constant (-12)) .rdi),
  (0xc5, .movl 12 .rsi),
  (0xca, .movabsq (-72830813560828) .rdx),
  (0xd4, .callq 0xffffffffd522ff34),
  (0xd9, .movabsq (-72830813560832) .r13),
  (0xe3, .load .u32 0 .r13 .rdi),
  (0xe7, .cmpq 11 .rdi),
  (0xeb, .ja 0x150),
  (0xed, .movabsq (-72830813560828) .rsi),
  (0xf7, .addq (.register .rdi) .rsi),
  (0xfa, .load .u8 0 .rsi .rdx),
  (0xff, .shlq 56 .rdx),
  (0x103, .sarq 56 .rdx),
  (0x107, .movabsq (-115581794723053) .rdi),
  (0x111, .movl 3 .rsi),
  (0x116, .callq 0xffffffffd5232be4),
  (0x11b, .load .u32 0 .r13 .rdi),
  (0x11f, .cmpq 11 .rdi),
  (0x123, .ja 0x150),
  (0x125, .movq .rbp .rsi),
  (0x128, .addq (.constant (-40)) .rsi),
  (0x12c, .addq (.register .rdi) .rsi),
  (0x12f, .load .u8 28 .rsi .rdx),
  (0x134, .shlq 56 .rdx),
  (0x138, .sarq 56 .rdx),
  (0x13c, .movabsq (-115581794723050) .rdi),
  (0x146, .movl 3 .rsi),
  (0x14b, .callq 0xffffffffd5232be4),
  (0x150, .movq .rbp .rdi),
  (0x153, .addq (.constant (-28)) .rdi),
  (0x157, .movl 16 .rsi),
  (0x15c, .callq 0xffffffffd5286ed4),
  (0x161, .movq .rbp .rcx),
  (0x164, .addq (.constant (-40)) .rcx),
  (0x168, .movq .rbx .rdi),
  (0x16b, .movabsq (-115581529362432) .rsi),
  (0x175, .movl 4294967295 .rdx),
  (0x17a, .movl 40 .r8),
  (0x180, .callq 0xffffffffd52327c4),
  (0x185, .xorl .rax .rax),
  (0x187, .popq .r13),
  (0x189, .popq .rbx),
  (0x18a, .leave),
  (0x18b, .jmp 0xffffffffd60a3234)]

/-- Behind the frame the stack holds the frame pointer and the return address of the caller. -/
def machineSize : Name → Nat
  | .stack => 528
  | name => objectSize name

theorem objectSize_le (name : Name) : objectSize name ≤ machineSize name := by
  cases name with
  | stack => decide
  | _ => exact le_rfl

/-- The functions of the kernel that the machine code calls, by the numbers of their calls in the
translated bytecode. -/
def calledHelper : Nat → Nat
  | 0xffffffffd5286c14 => 235360 -- bpf_get_current_pid_tgid
  | 0xffffffffd5286e44 => 235920 -- bpf_get_current_uid_gid
  | 0xffffffffd528ead4 => 267808 -- __htab_map_lookup_elem
  | 0xffffffffd5232be4 => 4294858544 -- bpf_trace_printk
  | 0xffffffffd522ff34 => 4294847104 -- bpf_probe_read_kernel
  | 0xffffffffd5286ed4 => 236064 -- bpf_get_current_comm
  | 0xffffffffd52327c4 => 4294857488 -- bpf_perf_event_output
  | _ => 0

/-- A call of the machine code meets a configuration and an event. The listing fixes the addresses of the
global variables and of the format strings. The rest of its setting, its stack and the results that the
program ignores are arbitrary. -/
structure Call extends X86.Setting Name (List KernelCall) where
  myConfig : MyConfig
  event : Event
  layout : Layout (liveNames myConfig) machineSize
  c_base : layout.base .c = immediate (-72830813560832)
  message_base : layout.base .message = immediate (-72830813560828)
  rodata_base : layout.base .rodata = immediate (-115581794723056)
  element_nonnull : ∀ key ∈ myConfig.keys, layout.base (.element key) ≠ immediate 56
  stack : Nat → Byte
  status : State Name (List KernelCall) → Word

namespace Call

variable (call : Call)

/-- The environment of the translated bytecode, whose frame is a part of the stack. -/
def environment (globals : Globals) : TranslatedEnvironment call.myConfig globals call.event where
  layout := call.layout.shrunk fun name _ => objectSize_le name
  mapAddress := immediate (-115581529390080)
  outputAddress := immediate (-115581529362432)
  ctx := call.registers .rdi
  registers _ := 0
  stack := call.stack
  status := call.status
  clobber _ _ := 0
  element_nonnull := call.element_nonnull

/-- The machine code calls the functions of the kernel at their addresses. -/
def function (target : Nat) (machine : X86.State Name (List KernelCall)) :
    Option (Return Name (List KernelCall)) :=
  ((call.environment Globals.loaded).translatedHelper (calledHelper target)
    (argumentView machine)).map (call.leave call.layout .stack machine)

def processor : X86.Processor Name (List KernelCall) (liveNames call.myConfig) machineSize where
  layout := call.layout
  image := call.image
  thunk := 0xffffffffd60a3234
  function := call.function
  scratch := call.scratch

/-- The call finds its own stack, the configuration of its time and the memory that the calls share. -/
def enter (memory : Contents Name) (log : List KernelCall) : X86.State Name (List KernelCall) where
  registers register :=
    if register = .rsp then call.layout.pointer .stack 520 else call.registers register
  flags := call.flags
  contents name index :=
    match name with
    | .stack => call.stack index
    | .element key =>
      (((call.myConfig.lookup key).map fun msg => msg.message.toList).getD []).getD index 0
    | name => memory name index
  kernel := log

/-- The return address lies on the top of the stack. -/
def meet (memory : Contents Name) (log : List KernelCall) : X86.Call Name (List KernelCall) where
  live := liveNames call.myConfig
  size := machineSize
  processor := call.processor
  initial := call.enter memory log
  returnAddress := BitVec.ofNat 64 (decode 8 fun index => call.stack (520 + index))

end Call

/-- The global variables and the format strings in memory. -/
def globalsMemory (globals : Globals) : Contents Name := fun name index =>
  match name with
  | .c => (littleBytes 4 globals.c.toNat).getD index 0
  | .message => globals.message.toList.getD index 0
  | .rodata => formats.getD index 0
  | _ => 0

end EbpfNotes.HelloVerifier
