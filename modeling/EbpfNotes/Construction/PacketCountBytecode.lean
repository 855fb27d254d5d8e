/-
This file models the object bytecode and the translated bytecode of `packet_count/packet_count_eBPF.md`
and the object bytecode of `packet_count_float/packet_count.bpf.s`.
-/

import EbpfNotes.Construction.PacketCount
import EbpfNotes.Library.Threads

namespace EbpfNotes.PacketCount

open Library

/-- The objects in memory are the stack frame, the counter and the format string. -/
inductive Name where
  | stack
  | counter
  | rodata
  deriving DecidableEq, Repr

inductive Symbol where
  | counter
  | rodata
  deriving DecidableEq, Repr

def objectSize : Name → Nat
  | .stack => 512
  | .counter => 4
  | .rodata => 3

def liveNames : List Name := [.stack, .counter, .rodata]

/-- The three listings differ in the number of the helper and in the result. -/
def packetCountCode (tracePrintk : Nat) (result : Int) : List (Instruction Symbol) := [
  .address .r6 .counter 0,
  .load .u32 .r3 .r6 0,
  .address .r1 .rodata 0,
  .alu .mov .r2 (.constant 3),
  .call tracePrintk,
  .load .u32 .r1 .r6 0,
  .alu .add .r1 (.constant 1),
  .store .u32 .r6 0 .r1,
  .alu .mov .r0 (.constant result),
  .exit]

def objectCode : List (Instruction Symbol) := packetCountCode 6 2

/-- The translated program calls the function of the kernel directly, at a negative distance. -/
def translatedCode : List (Instruction Symbol) := packetCountCode (2 ^ 32 - 108416) 2

/-- The program of `packet_count_float` returns the bits of `2.0`. -/
def floatCode : List (Instruction Symbol) := packetCountCode 6 1073741824

/-- The environment of a run: the addresses, the registers and the stack before it, the word that the
helper returns and the clobbered registers. -/
structure Environment where
  layout : Layout liveNames objectSize
  ctx : Word
  registers : Register → Word
  stack : Nat → Byte
  status : State Name (List Printk) → Word
  clobber : State Name (List Printk) → Register → Word

namespace Environment

variable (environment : Environment)

/-- The counter has its value, and the stack is arbitrary. -/
def contents (counter : BitVec 32) : Contents Name := fun name index =>
  match name with
  | .stack => environment.stack index
  | .counter => (littleBytes 4 counter.toNat).getD index 0
  | .rodata => (literal "%d").getD index 0

/-- The first argument is the context, and the frame pointer is the end of the stack. -/
def entry : Register → Word
  | .r1 => environment.ctx
  | .r10 => environment.layout.pointer .stack 512
  | register => environment.registers register

def address : Symbol → Word
  | .counter => environment.layout.pointer .counter 0
  | .rodata => environment.layout.pointer .rodata 0

def tracePrintk : State Name (List Printk) → Option (Return Name (List Printk)) :=
  bpfTracePrintk environment.layout environment.status id

def world (tracePrintk : Nat) : World Symbol Name (List Printk) liveNames objectSize where
  layout := environment.layout
  address := environment.address
  helper number state := if number = tracePrintk then environment.tracePrintk state else none
  clobber := environment.clobber

end Environment

/-- Each invocation has its own stack frame. -/
def Name.owned : Name → Bool
  | .stack => true
  | _ => false

abbrev PacketThread := Thread Symbol Name (List Printk) liveNames objectSize

def Environment.thread (environment : Environment) (tracePrintk : Nat) : PacketThread where
  world := environment.world tracePrintk
  own := environment.contents initialCounter
  progress := .running 0 environment.entry

/-- The loaded counter is zero, and no line has been traced. -/
def loaded : Shared Name (List Printk) where
  contents
    | .stack, _ => 0
    | .counter, index => (littleBytes 4 initialCounter.toNat).getD index 0
    | .rodata, index => (literal "%d").getD index 0
  kernel := []

/-- Each packet starts an invocation of its own, and all of them run at the same time. -/
def packetThreads (tracePrintk : Nat) (environments : List Environment) :
    Configuration (Shared Name (List Printk)) PacketThread :=
  ⟨loaded, environments.map fun environment => environment.thread tracePrintk⟩

/-- Each instruction of each invocation is one step. -/
def packetInstructionStep (tracePrintk : Nat) (result : Int) :
    Protocol (Shared Name (List Printk)) PacketThread :=
  instructionStep Name.owned (packetCountCode tracePrintk result)

/-- The number that a slot of the program has loaded and has not yet sent. -/
def pendingAt (slot : Nat) (registers : Register → Word) : List Int :=
  if slot = 3 ∨ slot = 5 ∨ slot = 6 then [((registers .r3).setWidth 32).toInt] else []

def pendingValues (thread : PacketThread) : List Int :=
  match thread.progress with
  | .running slot registers => pendingAt slot registers
  | _ => []

end EbpfNotes.PacketCount
