/-
This file models the object bytecode of `kprobe_exec` in `verifier_example/hello-verifier.md`.
-/

import EbpfNotes.Construction.HelloVerifier
import EbpfNotes.Library.Bytecode

namespace EbpfNotes.HelloVerifier

open Library

/-- The objects in memory are the stack frame, the global variables, the format strings and one
element for each key of the configuration. -/
inductive Name where
  | stack
  | c
  | message
  | rodata
  | element (key : Vector Byte 4)
  deriving DecidableEq, Repr

inductive Symbol where
  | myConfig
  | output
  | c
  | message
  | rodata
  deriving DecidableEq, Repr

/-- The format strings of the object file, one behind another. -/
def formats : List Byte := literal "%d" ++ literal "%c" ++ literal "%c" ++ literal "%x %x"

def objectSize : Name → Nat
  | .stack => 512
  | .c => 4
  | .message => 12
  | .rodata => 15
  | .element _ => 12

def liveNames (myConfig : MyConfig) : List Name :=
  .stack :: .c :: .message :: .rodata :: myConfig.keys.map .element

/-- The kernel records the trace lines and the events that the helpers send. -/
inductive KernelCall where
  | printk (line : Printk)
  | output (ctx flags : Word) (bytes : List Byte)
  deriving DecidableEq, Repr

/-- The forty bytes of a record on a little-endian target. -/
def DataT.bytes (data : DataT) : List Byte :=
  littleBytes 4 data.pid.toNat ++ littleBytes 4 data.uid.toNat ++ littleBytes 4 data.counter.toNat ++
    data.command.toList ++ data.message.toList

/-- The helper calls that show an action of the program to the outside. -/
def Action.observed (ctx : Word) : Action → Option KernelCall
  | .printk line => some (.printk line)
  | .index _ _ => none
  | .output flags data => some (.output ctx flags data.bytes)

/-- The environment of a run: the memory and the registers before it, the words that the program
ignores and the clobbered registers. -/
structure Environment (myConfig : MyConfig) (globals : Globals) (event : Event) where
  layout : Layout (liveNames myConfig) objectSize
  mapAddress : Word
  outputAddress : Word
  ctx : Word
  registers : Register → Word
  stack : Nat → Byte
  status : State Name (List KernelCall) → Word
  clobber : State Name (List KernelCall) → Register → Word

namespace Environment

variable {myConfig : MyConfig} {globals : Globals} {event : Event}
  (environment : Environment myConfig globals event)

/-- The global variables and the elements have their values, and the stack is arbitrary. -/
def contents : Contents Name := fun name index =>
  match name with
  | .stack => environment.stack index
  | .c => (littleBytes 4 globals.c.toNat).getD index 0
  | .message => globals.message.toList.getD index 0
  | .rodata => formats.getD index 0
  | .element key => (((myConfig.lookup key).map fun msg => msg.message.toList).getD []).getD index 0

/-- The first argument is the context, and the frame pointer is the end of the stack. -/
def initial : State Name (List KernelCall) where
  registers
    | .r1 => environment.ctx
    | .r10 => environment.layout.pointer .stack 512
    | register => environment.registers register
  contents := environment.contents
  kernel := []

def address : Symbol → Word
  | .myConfig => environment.mapAddress
  | .output => environment.outputAddress
  | .c => environment.layout.pointer .c 0
  | .message => environment.layout.pointer .message 0
  | .rodata => environment.layout.pointer .rodata 0

/-- The lookup reads the four bytes of a key at its pointer. -/
def mapLookupElem (state : State Name (List KernelCall)) : Option (Return Name (List KernelCall)) :=
  if state.registers .r1 = environment.mapAddress then do
    let place ← environment.layout.locate (state.registers .r2) 4
    let key : Vector Byte 4 := Vector.ofFn fun index => state.contents place.1 (place.2 + index)
    let p := bpfMapLookupElem myConfig key
    some ⟨if p.isSome then environment.layout.pointer (.element key) 0 else 0, state.contents,
      state.kernel⟩
  else none

def tracePrintk : State Name (List KernelCall) → Option (Return Name (List KernelCall)) :=
  bpfTracePrintk environment.layout environment.status .printk

/-- The probe read copies the bytes from one object to another. -/
def probeReadKernel (state : State Name (List KernelCall)) : Option (Return Name (List KernelCall)) := do
  let size := (state.registers .r2).toNat
  let target ← environment.layout.locate (state.registers .r1) size
  let source ← environment.layout.locate (state.registers .r3) size
  let bytes := state.contents.read source.1 source.2 size
  some ⟨0, state.contents.write target.1 target.2 bytes, state.kernel⟩

def getCurrentComm (state : State Name (List KernelCall)) : Option (Return Name (List KernelCall)) := do
  let size := (state.registers .r2).toNat
  let place ← environment.layout.locate (state.registers .r1) size
  let bytes := event.comm.toList.take size
  some ⟨0, state.contents.write place.1 place.2 bytes, state.kernel⟩

/-- The event carries the bytes at the pointer and goes to the perf array. -/
def perfEventOutput (state : State Name (List KernelCall)) : Option (Return Name (List KernelCall)) :=
  if state.registers .r2 = environment.outputAddress then do
    let size := (state.registers .r5).toNat
    let place ← environment.layout.locate (state.registers .r4) size
    let bytes := state.contents.read place.1 place.2 size
    some ⟨environment.status state, state.contents,
      state.kernel ++ [.output (state.registers .r1) (state.registers .r3) bytes]⟩
  else none

def helper : Nat → State Name (List KernelCall) → Option (Return Name (List KernelCall))
  | 1 => environment.mapLookupElem
  | 6 => environment.tracePrintk
  | 14 => fun state => some ⟨event.pidTgid, state.contents, state.kernel⟩
  | 15 => fun state => some ⟨event.uidGid, state.contents, state.kernel⟩
  | 16 => environment.getCurrentComm
  | 25 => environment.perfEventOutput
  | 113 => environment.probeReadKernel
  | _ => fun _ => none

def world : World Symbol Name (List KernelCall) (liveNames myConfig) objectSize where
  layout := environment.layout
  address := environment.address
  helper := environment.helper
  clobber := environment.clobber

end Environment

/-- The counter is incremented, the record is cleared and keeps the old counter. -/
def startBlock : List (Instruction Symbol) := [
  .alu .mov .r6 (.register .r1),
  .address .r1 .c 0,
  .load .u32 .r2 .r1 0,
  .alu .mov .r3 (.register .r2),
  .alu .add .r3 (.constant 1),
  .store .u32 .r1 0 .r3,
  .alu .mov .r1 (.constant 0),
  .store .u32 .r10 (-8) .r1,
  .store .u32 .r10 (-12) .r1,
  .store .u32 .r10 (-16) .r1,
  .store .u32 .r10 (-20) .r1,
  .store .u32 .r10 (-24) .r1,
  .store .u32 .r10 (-28) .r1,
  .store .u32 .r10 (-4) .r1,
  .store .u32 .r10 (-32) .r2]

/-- The record gets the two identities, and the user is looked up. -/
def identifyBlock : List (Instruction Symbol) := [
  .call 14,
  .store .u32 .r10 (-40) .r0,
  .call 15,
  .store .u32 .r10 (-36) .r0,
  .alu .lsh .r0 (.constant 32),
  .alu .rsh .r0 (.constant 32),
  .store .u64 .r10 (-48) .r0,
  .alu .mov .r2 (.register .r10),
  .alu .add .r2 (.constant (-48)),
  .address .r1 .myConfig 0,
  .call 1,
  .alu .mov .r7 (.register .r0)]

/-- The first character of the configured message is printed, and the message is to be copied. -/
def configuredBlock : List (Instruction Symbol) := [
  .load .u8 .r3 .r7 0,
  .alu .lsh .r3 (.constant 56),
  .alu .arsh .r3 (.constant 56),
  .address .r1 .rodata 0,
  .alu .mov .r2 (.constant 3),
  .call 6,
  .alu .mov .r1 (.register .r10),
  .alu .add .r1 (.constant (-12)),
  .alu .mov .r2 (.constant 12),
  .alu .mov .r3 (.register .r7)]

/-- Behind the label `LBB0_2` the global message is to be copied. -/
def defaultBlock : List (Instruction Symbol) := [
  .alu .mov .r1 (.register .r10),
  .alu .add .r1 (.constant (-12)),
  .alu .mov .r2 (.constant 12),
  .address .r3 .message 0]

/-- Behind the label `LBB0_3` the message is copied, and the counter is loaded. -/
def copyBlock : List (Instruction Symbol) := [
  .call 113,
  .address .r7 .c 0,
  .load .u32 .r1 .r7 0]

/-- The character of the global message is printed, and the counter is loaded again. -/
def messageBlock : List (Instruction Symbol) := [
  .address .r2 .message 0,
  .alu .add .r2 (.register .r1),
  .load .u8 .r3 .r2 0,
  .alu .lsh .r3 (.constant 56),
  .alu .arsh .r3 (.constant 56),
  .address .r1 .rodata 3,
  .alu .mov .r2 (.constant 3),
  .call 6,
  .load .u32 .r1 .r7 0]

/-- The character of the message in the record is printed. -/
def dataMessageBlock : List (Instruction Symbol) := [
  .alu .mov .r2 (.register .r10),
  .alu .add .r2 (.constant (-40)),
  .alu .add .r2 (.register .r1),
  .load .u8 .r3 .r2 28,
  .alu .lsh .r3 (.constant 56),
  .alu .arsh .r3 (.constant 56),
  .address .r1 .rodata 6,
  .alu .mov .r2 (.constant 3),
  .call 6]

/-- Behind the label `LBB0_6` the record gets the command and is sent. -/
def outputBlock : List (Instruction Symbol) := [
  .alu .mov .r1 (.register .r10),
  .alu .add .r1 (.constant (-28)),
  .alu .mov .r2 (.constant 16),
  .call 16,
  .alu .mov .r4 (.register .r10),
  .alu .add .r4 (.constant (-40)),
  .alu .mov .r1 (.register .r6),
  .address .r2 .output 0,
  .wide .r3 4294967295,
  .alu .mov .r5 (.constant 40),
  .call 25,
  .alu .mov .r0 (.constant 0)]

/-- The object bytecode of `kprobe_exec`. -/
def kprobeExecCode : List (Instruction Symbol) :=
  startBlock ++ identifyBlock ++ [.branch .eq .r7 (.constant 0) 12] ++
    configuredBlock ++ [.jump 5] ++ defaultBlock ++ copyBlock ++
    [.branch .gt .r1 (.constant 11) 22] ++ messageBlock ++
    [.branch .gt .r1 (.constant 11) 10] ++ dataMessageBlock ++ outputBlock ++ [.exit]

end EbpfNotes.HelloVerifier
