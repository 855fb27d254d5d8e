/-
This file models the recorded bytecode `xdp_drop_prog/xdp_drop_prog.bpf.s`, the variant with the loop
over `h_proto` that the source keeps as a comment.
-/

import EbpfNotes.Construction.XdpDropProg
import EbpfNotes.Library.Observation

namespace EbpfNotes.XdpDropProg

open Library

/-- The objects in memory are the stack frame, the context, the packet and the format strings. -/
inductive Name where
  | stack
  | ctx
  | packet
  | rodata
  deriving DecidableEq, Repr

inductive Symbol where
  | rodata
  deriving DecidableEq, Repr

/-- The format strings of the object file, one behind another. -/
def formats : List Byte := literal "The value of h_proto is %d" ++ literal "There is an ipv4 packet"

/-- No object lies at the null address, so a packet at this address starts with its second byte. -/
def packetStart (ctx : XdpMd) : Nat := max 1 ctx.data.toNat

/-- The packet ends at `data_end`, and it is empty when this end lies below its start. -/
def objectSize (ctx : XdpMd) : Name → Nat
  | .stack => 512
  | .ctx => 24
  | .packet => ctx.dataEnd.toNat - packetStart ctx
  | .rodata => 51

def liveNames : List Name := [.stack, .ctx, .packet, .rodata]

/-- The environment of a run: the memory and the registers before it, the words that the program
ignores and the clobbered registers. -/
structure Environment (ctx : XdpMd) (memory : Word → Byte) where
  layout : Layout liveNames (objectSize ctx)
  packetBase : layout.base .packet = BitVec.ofNat 64 (packetStart ctx)
  registers : Register → Word
  stack : Nat → Byte
  fields : Nat → Byte
  status : State Name (List Printk) → Word
  clobber : State Name (List Printk) → Register → Word

/-- A run is observed where it reads memory, where it enters the loop body and where it calls a helper. -/
inductive Observation where
  | read (name : Name) (address : Word)
  | pass
  | call (helper : Nat)
  deriving DecidableEq, Repr

/-- The recorded bytecode of `xdp_drop_prog`. -/
def xdpDropProgCode : List (Instruction Symbol) := [
  .alu .mov .r6 (.constant 1),
  .load .u32 .r2 .r1 4,
  .load .u32 .r1 .r1 0,
  .alu .mov .r3 (.register .r1),
  .alu .add .r3 (.constant 14),
  .branch .gt .r3 (.register .r2) 23,
  .load .u8 .r2 .r1 12,
  .load .u8 .r7 .r1 13,
  .alu .lsh .r7 (.constant 8),
  .alu .or .r7 (.register .r2),
  .alu .mov .r6 (.constant 2),
  .branch .eq .r7 (.constant 0) 17,
  .alu .mov .r8 (.constant 0),
  -- LBB0_3
  .address .r1 .rodata 0,
  .alu .mov .r2 (.constant 27),
  .alu .mov .r3 (.register .r7),
  .call 6,
  .alu .add .r8 (.constant 1),
  .alu .mov .r1 (.register .r8),
  .alu .lsh .r1 (.constant 32),
  .alu .rsh .r1 (.constant 32),
  .branch .gt .r7 (.register .r1) (-10),
  .branch .eq .r7 (.constant 8) 1,
  .jump 4,
  -- LBB0_4
  .address .r1 .rodata 27,
  .alu .mov .r2 (.constant 24),
  .call 6,
  -- LBB0_5
  .alu .mov .r0 (.register .r6),
  .exit]

/-- The slot of the label `LBB0_3`, where each pass through the loop body starts. -/
def loopSlot : Nat := 13

namespace Environment

variable {ctx : XdpMd} {memory : Word → Byte} (environment : Environment ctx memory)

/-- The context starts with its two ends in little-endian order, and its other fields are arbitrary. -/
def contents : Contents Name := fun name index =>
  match name with
  | .stack => environment.stack index
  | .ctx =>
    (littleBytes 4 ctx.data.toNat ++ littleBytes 4 ctx.dataEnd.toNat).getD index (environment.fields index)
  | .packet => memory (BitVec.ofNat 64 (packetStart ctx + index))
  | .rodata => formats.getD index 0

/-- The first argument is the context, and the frame pointer is the end of the stack. -/
def initial : State Name (List Printk) where
  registers
    | .r1 => environment.layout.pointer .ctx 0
    | .r10 => environment.layout.pointer .stack 512
    | register => environment.registers register
  contents := environment.contents
  kernel := []

def tracePrintk : State Name (List Printk) → Option (Return Name (List Printk)) :=
  bpfTracePrintk environment.layout environment.status id

def helper : Nat → State Name (List Printk) → Option (Return Name (List Printk))
  | 6 => environment.tracePrintk
  | _ => fun _ => none

def world : World Symbol Name (List Printk) liveNames (objectSize ctx) where
  layout := environment.layout
  address _ := environment.layout.pointer .rodata 0
  helper := environment.helper
  clobber := environment.clobber

/-- The first instruction of the loop body is neither a load nor a call. -/
def observe : Observer Name (List Printk) Observation := fun slot state =>
  if slot = loopSlot then some .pass
  else
    match fetch xdpDropProgCode slot with
    | some (.load width _ base offset) =>
      let address := state.registers base + immediate offset
      (environment.layout.locate address width.count).map fun place => .read place.1 address
    | some (.call helper) => some (.call helper)
    | _ => none

end Environment

/-- The protocol field of a packet, as a little-endian target loads it. -/
def loadedProto (ctx : XdpMd) (memory : Word → Byte) : BitVec 16 :=
  BitVec.ofNat 16 (Endian.little.load 2 fun index =>
    memory (ctx.data.setWidth 64 + hProtoOffset + BitVec.ofNat 64 index))

end EbpfNotes.XdpDropProg
