/-
This file models the two listings of `bpf_maps/hash_map_example.md`, the object bytecode and the
translated bytecode of `hello`.
-/

import EbpfNotes.Construction.HashMapExample
import EbpfNotes.Library.Bytecode

namespace EbpfNotes.HashMapExample

open Library

/-- The objects in memory are the stack frame and one element for each key of the table. -/
inductive Name where
  | stack
  | element (key : Word)
  deriving DecidableEq, Repr

inductive Symbol where
  | counterTable
  deriving DecidableEq, Repr

/-- An element stores its value behind a header. -/
def objectSize (header : Nat) : Name → Nat
  | .stack => 512
  | .element _ => header + 8

def liveNames (table : CounterTable) : List Name := .stack :: table.keys.map .element

/-- The value of each element shows the entry of the table. -/
def showTable (header : Nat) (table : CounterTable) (contents : Contents Name) : Contents Name :=
  fun name index =>
    match name with
    | .stack => contents .stack index
    | .element key =>
      if header ≤ index then byteAt ((table.lookup key).getD 0).toNat (index - header)
      else contents (.element key) index

/-- The environment of a run: the memory and the registers before it and the clobbered registers. -/
structure Environment (table : CounterTable) (uidGid : Word) (header : Nat) where
  layout : Layout (liveNames table) (objectSize header)
  map : Word
  registers : Register → Word
  bytes : Contents Name
  clobber : State Name Kernel → Register → Word

def getCurrentUidGid (uidGid : Word) (state : State Name Kernel) : Option (Return Name Kernel) :=
  some ⟨uidGid, state.contents, state.kernel⟩

namespace Environment

variable {table : CounterTable} {uidGid : Word} {header : Nat}
  (environment : Environment table uidGid header)

/-- The lookup reads the key at its pointer and returns the address of the element or NULL. -/
def mapLookupElem (state : State Name Kernel) : Option (Return Name Kernel) :=
  if state.registers .r1 = environment.map then do
    let place ← environment.layout.locate (state.registers .r2) 8
    let key := BitVec.ofNat 64 (state.contents.number place 8)
    let (p, kernel) := state.kernel.lookup key
    some ⟨if p.isSome then environment.layout.pointer (.element key) 0 else 0, state.contents, kernel⟩
  else none

/-- The update reads the key and the value at their pointers and takes the flags in a register. -/
def mapUpdateElem (state : State Name Kernel) : Option (Return Name Kernel) :=
  if state.registers .r1 = environment.map then do
    let keyPlace ← environment.layout.locate (state.registers .r2) 8
    let valuePlace ← environment.layout.locate (state.registers .r3) 8
    let key := BitVec.ofNat 64 (state.contents.number keyPlace 8)
    let value := BitVec.ofNat 64 (state.contents.number valuePlace 8)
    let (status, kernel) := state.kernel.update key value (state.registers .r4)
    some ⟨status, showTable header kernel.counterTable state.contents, kernel⟩
  else none

def objectHelper : Nat → State Name Kernel → Option (Return Name Kernel)
  | 1 => environment.mapLookupElem
  | 2 => environment.mapUpdateElem
  | 15 => getCurrentUidGid uidGid
  | _ => fun _ => none

/-- The translated program calls the functions of the kernel directly. -/
def translatedHelper : Nat → State Name Kernel → Option (Return Name Kernel)
  | 267632 => environment.mapLookupElem
  | 280992 => environment.mapUpdateElem
  | 235744 => getCurrentUidGid uidGid
  | _ => fun _ => none

def world (helper : Nat → State Name Kernel → Option (Return Name Kernel)) :
    World Symbol Name Kernel (liveNames table) (objectSize header) where
  layout := environment.layout
  address _ := environment.map
  helper := helper
  clobber := environment.clobber

/-- The frame pointer is the end of the stack, and the other registers and bytes are arbitrary. -/
def initial : State Name Kernel where
  registers register :=
    if register = .r10 then environment.layout.pointer .stack 512 else environment.registers register
  contents := showTable header table environment.bytes
  kernel := ⟨table, []⟩

@[simp] theorem world_layout (helper : Nat → State Name Kernel → Option (Return Name Kernel)) :
    (environment.world helper).layout = environment.layout := rfl

@[simp] theorem world_address (helper : Nat → State Name Kernel → Option (Return Name Kernel))
    (symbol : Symbol) : (environment.world helper).address symbol = environment.map := rfl

end Environment

/-- The object bytecode of `hello`. -/
def objectCode : List (Instruction Symbol) := [
  .call 15,
  .alu .lsh .r0 (.constant 32),
  .alu .rsh .r0 (.constant 32),
  .store .u64 .r10 (-8) .r0,
  .alu .mov .r2 (.register .r10),
  .alu .add .r2 (.constant (-8)),
  .address .r1 .counterTable 0,
  .call 1,
  .alu .mov .r1 (.constant 1),
  .branch .eq .r0 (.constant 0) 2,
  .load .u64 .r1 .r0 0,
  .alu .add .r1 (.constant 1),
  -- LBB0_2
  .store .u64 .r10 (-16) .r1,
  .alu .mov .r2 (.register .r10),
  .alu .add .r2 (.constant (-8)),
  .alu .mov .r3 (.register .r10),
  .alu .add .r3 (.constant (-16)),
  .address .r1 .counterTable 0,
  .alu .mov .r4 (.constant 0),
  .call 2,
  .alu .mov .r0 (.constant 0),
  .exit]

/-- The translated bytecode of `hello`, where the lookup returns an element. -/
def translatedCode : List (Instruction Symbol) := [
  .call 235744,
  .alu .lsh .r0 (.constant 32),
  .alu .rsh .r0 (.constant 32),
  .store .u64 .r10 (-8) .r0,
  .alu .mov .r2 (.register .r10),
  .alu .add .r2 (.constant (-8)),
  .address .r1 .counterTable 0,
  .call 267632,
  .branch .eq .r0 (.constant 0) 1,
  .alu .add .r0 (.constant 56),
  .alu .mov .r1 (.constant 1),
  .branch .eq .r0 (.constant 0) 2,
  .load .u64 .r1 .r0 0,
  .alu .add .r1 (.constant 1),
  .store .u64 .r10 (-16) .r1,
  .alu .mov .r2 (.register .r10),
  .alu .add .r2 (.constant (-8)),
  .alu .mov .r3 (.register .r10),
  .alu .add .r3 (.constant (-16)),
  .address .r1 .counterTable 0,
  .alu .mov .r4 (.constant 0),
  .call 280992,
  .alu .mov .r0 (.constant 0),
  .exit]

end EbpfNotes.HashMapExample
