/-
This file models the kernel helpers that the programs call.
-/

import EbpfNotes.Library.Bytecode
import EbpfNotes.Library.Table

namespace EbpfNotes

open Library

/-- A failing helper returns the negated error number. -/
def errno (number : Nat) : Word := -BitVec.ofNat 64 number

def ENOENT : Nat := 2

def E2BIG : Nat := 7

def EEXIST : Nat := 17

def EINVAL : Nat := 22

def BPF_ANY : Word := 0

def BPF_NOEXIST : Word := 1

def BPF_EXIST : Word := 2

/-- A trace line keeps the format with its NUL and the argument. -/
structure Printk where
  format : List Byte
  argument : Word
  deriving DecidableEq, Repr

/-- The number that the conversion `%d` shows. -/
def Printk.decimal (line : Printk) : Int := (line.argument.setWidth 32).toInt

/-- An `int` argument is shown as its own value. -/
theorem Printk.decimal_signExtend (format : List Byte) (value : BitVec 32) :
    (Printk.mk format (value.signExtend 64)).decimal = value.toInt := by
  have kept : (value.signExtend 64).setWidth 32 = value := by
    ext index inside
    have within : index < 64 := by omega
    rw [BitVec.getElem_setWidth, BitVec.getLsbD_signExtend, if_pos inside, decide_eq_true within,
      Bool.true_and, BitVec.getLsbD_eq_getElem inside]
  rw [Printk.decimal, kept]

/-- The network byte order is big-endian. -/
def htons (endian : Endian) (value : BitVec 16) : BitVec 16 :=
  match endian with
  | .little => value.extractLsb' 0 8 ++ value.extractLsb' 8 8
  | .big => value

section Loop

variable {State : Type}

def BPF_MAX_LOOPS : Nat := 2 ^ 23

/-- The loop stops after the first callback that returns one and counts the calls. -/
def loopFrom (callbackFn : BitVec 32 → State → BitVec 32 × State) (index : Nat) :
    Nat → State → Nat × State
  | 0, state => (index, state)
  | remaining + 1, state =>
    let (verdict, state) := callbackFn (BitVec.ofNat 32 index) state
    if verdict = 1 then (index + 1, state) else loopFrom callbackFn (index + 1) remaining state

/-- The helper refuses flags and more than `BPF_MAX_LOOPS` iterations. -/
def bpfLoop (nrLoops : BitVec 32) (callbackFn : BitVec 32 → State → BitVec 32 × State)
    (callbackCtx : State) (flags : Word) : Word × State :=
  if flags ≠ 0 then (errno EINVAL, callbackCtx)
  else if BPF_MAX_LOOPS < nrLoops.toNat then (errno E2BIG, callbackCtx)
  else
    let (performed, state) := loopFrom callbackFn 0 nrLoops.toNat callbackCtx
    (BitVec.ofNat 64 performed, state)

/-- One call of a callback, with its index and its verdict. -/
structure LoopCall where
  index : BitVec 32
  verdict : BitVec 32
  deriving DecidableEq, Repr

/-- The callback also keeps a record of its calls. -/
def recorded (callbackFn : BitVec 32 → State → BitVec 32 × State) (index : BitVec 32)
    (state : State × List LoopCall) : BitVec 32 × (State × List LoopCall) :=
  let (verdict, next) := callbackFn index state.1
  (verdict, (next, state.2 ++ [⟨index, verdict⟩]))

/-- The calls of the callback that one call of the helper makes. -/
def loopCalls (nrLoops : BitVec 32) (callbackFn : BitVec 32 → State → BitVec 32 × State)
    (callbackCtx : State) (flags : Word) : List LoopCall :=
  (bpfLoop nrLoops (recorded callbackFn) (callbackCtx, []) flags).2.2

/-- A refused loop runs no callback. -/
theorem bpfLoop_refused {nrLoops : BitVec 32} (callbackFn : BitVec 32 → State → BitVec 32 × State)
    (callbackCtx : State) (large : BPF_MAX_LOOPS < nrLoops.toNat) :
    bpfLoop nrLoops callbackFn callbackCtx 0 = (errno E2BIG, callbackCtx) := by
  rw [bpfLoop, if_neg (fun flagged => flagged rfl), if_pos large]

end Loop

section Map

variable {Key Value : Type} [DecidableEq Key] {maxEntries : Nat}

/-- The helper returns the stored value, or none for the NULL pointer. -/
def bpfMapLookupElem (map : Table Key Value maxEntries) (key : Key) : Option Value :=
  map.lookup key

/-- The helper returns its status and the map after the call. -/
def bpfMapUpdateElem (map : Table Key Value maxEntries) (key : Key) (value : Value) (flags : Word) :
    Word × Table Key Value maxEntries :=
  if flags = BPF_NOEXIST ∧ key ∈ map.keys then (errno EEXIST, map)
  else if flags = BPF_EXIST ∧ key ∉ map.keys then (errno ENOENT, map)
  else if BPF_EXIST < flags then (errno EINVAL, map)
  else
    match map.update key value with
    | some map => (0, map)
    | none => (errno E2BIG, map)

/-- Flags zero insert or overwrite, and a full map refuses a new key. -/
theorem bpfMapUpdateElem_any (map : Table Key Value maxEntries) (key : Key) (value : Value) :
    (bpfMapUpdateElem map key value BPF_ANY).2 = map.set key value := by
  unfold bpfMapUpdateElem Table.set
  rw [if_neg (fun exclusive => absurd exclusive.1 (by decide)),
    if_neg (fun existing => absurd existing.1 (by decide)), if_neg (by decide)]
  cases map.update key value <;> rfl

end Map

section Trace

variable {Name Entry : Type} {live : List Name} {size : Name → Nat}

/-- The trace line takes its format from memory and one argument from a register, and the kernel keeps
an entry for the line. -/
def bpfTracePrintk (layout : Layout live size) (status : State Name (List Entry) → Word)
    (entry : Printk → Entry) (state : State Name (List Entry)) : Option (Return Name (List Entry)) := do
  let count := (state.registers .r2).toNat
  let place ← layout.locate (state.registers .r1) count
  let line : Printk := ⟨state.contents.read place.1 place.2 count, state.registers .r3⟩
  some ⟨status state, state.contents, state.kernel ++ [entry line]⟩

theorem bpfTracePrintk_eq {layout : Layout live size} {status : State Name (List Entry) → Word}
    {entry : Printk → Entry} {state : State Name (List Entry)} {name : Name} {offset count : Nat}
    (length : (state.registers .r2).toNat = count)
    (located : layout.locate (state.registers .r1) count = some (name, offset)) :
    bpfTracePrintk layout status entry state = some ⟨status state, state.contents,
      state.kernel ++ [entry ⟨state.contents.read name offset count, state.registers .r3⟩]⟩ := by
  rw [bpfTracePrintk, length, located]
  rfl

end Trace

end EbpfNotes
