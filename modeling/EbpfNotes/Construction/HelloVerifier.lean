/-
This file models `verifier_example/hello-verifier.bpf.c` and `verifier_example/hello-verifier.h`.
-/

import EbpfNotes.Construction.Helpers
import EbpfNotes.Library.Interleaving

namespace EbpfNotes.HelloVerifier

open Library

structure DataT where
  pid : BitVec 32
  uid : BitVec 32
  counter : BitVec 32
  command : Vector Byte 16
  message : Vector Byte 12
  deriving DecidableEq, Repr

structure MsgT where
  message : Vector Byte 12
  deriving DecidableEq, Repr

/-- `my_config` maps the four key bytes of a user to the message of this user. -/
abbrev MyConfig := Table (Vector Byte 4) MsgT 10240

/-- The global variables of the program. -/
structure Globals where
  c : BitVec 32
  message : Vector Byte 12
  deriving DecidableEq, Repr

def Globals.loaded : Globals := ⟨1, charArray 12 "Hello World"⟩

/-- The values that the helpers return in one invocation. -/
structure Event where
  pidTgid : Word
  uidGid : Word
  comm : Vector Byte 16
  deriving DecidableEq, Repr

/-- The two arrays that the counter indexes. -/
inductive Indexed where
  | message
  | dataMessage
  deriving DecidableEq, Repr

/-- The observable actions of an invocation, in their order. -/
inductive Action where
  | printk (line : Printk)
  | index (array : Indexed) (position : Int)
  | output (flags : Word) (data : DataT)
  deriving DecidableEq, Repr

structure Result where
  status : BitVec 32
  globals : Globals
  actions : List Action
  deriving DecidableEq, Repr

def BPF_F_CURRENT_CPU : Word := 0xFFFFFFFF

/-- The bytes that a 64-bit variable holds in memory. -/
def wordBytes (endian : Endian) (value : Word) : Nat → Byte := endian.byte 8 value.toNat

/-- The map reads four bytes at the address of the 64-bit variable. -/
def configKey (endian : Endian) (uid : Word) : Vector Byte 4 :=
  Vector.ofFn fun index => wordBytes endian uid index

/-- A `char` is signed, and the variadic argument is an `int`. -/
def charArgument (character : Byte) : Word := character.signExtend 64

/-- The signed counter is converted to `size_t` for the comparison with the size of an array. -/
def belowSize (c : BitVec 32) (size : Nat) : Bool := decide (c.signExtend 64 < BitVec.ofNat 64 size)

/-- An array is read at a signed index, and an index outside of the array gives none. -/
def indexArray {size : Nat} (array : Vector Byte size) (c : BitVec 32) : Option Byte :=
  if 0 ≤ c.toInt then array[c.toInt.toNat]? else none

/-- A successful bounds check is followed by the read of the array and its trace line. -/
def printChar {size : Nat} (name : Indexed) (array : Vector Byte size) (c : BitVec 32) :
    Option (List Action) :=
  if belowSize c size then do
    let a ← indexArray array c
    some [.index name c.toInt, .printk ⟨literal "%c", charArgument a⟩]
  else some []

/-- The trace line for a configured user shows the first character of the message as a number. -/
def printFirst (p : MsgT) : Action := .printk ⟨literal "%d", charArgument p.message[0]⟩

/-- The record is zero before the invocation fills it. -/
def DataT.zero : DataT := ⟨0, 0, 0, Vector.replicate 16 0, Vector.replicate 12 0⟩

/-- The counter is kept before it is incremented, and the incremented one is used as the index. -/
def kprobeExec (endian : Endian) (myConfig : MyConfig) (globals : Globals) (event : Event) :
    Option Result := do
  let data := { DataT.zero with counter := globals.c }
  let globals := { globals with c := globals.c + 1 }
  let data := { data with pid := event.pidTgid.setWidth 32 }
  let uid := event.uidGid &&& 0xFFFFFFFF
  let data := { data with uid := uid.setWidth 32 }
  let p := bpfMapLookupElem myConfig (configKey endian uid)
  let configured :=
    match p with
    | some msg => [printFirst msg]
    | none => []
  let data :=
    match p with
    | some msg => { data with message := msg.message }
    | none => { data with message := globals.message }
  let first ← printChar .message globals.message globals.c
  let second ← printChar .dataMessage data.message globals.c
  let data := { data with command := event.comm }
  some ⟨0, globals, configured ++ first ++ second ++ [.output BPF_F_CURRENT_CPU data]⟩

/-- The invocations run one after another, each with the configuration that it finds. -/
def kprobeRun (endian : Endian) : Globals → List (MyConfig × Event) → Option (Globals × List Result)
  | globals, [] => some (globals, [])
  | globals, (myConfig, event) :: rest => do
    let result ← kprobeExec endian myConfig globals event
    let (globals, results) ← kprobeRun endian result.globals rest
    some (globals, result :: results)

def Action.submitted : Action → Option DataT
  | .output _ data => some data
  | _ => none

def Action.indexed : Action → Option (Indexed × Int)
  | .index array position => some (array, position)
  | _ => none

/-- The records that an invocation submits. -/
def Result.outputs (result : Result) : List DataT := result.actions.filterMap Action.submitted

/-- The reads of the two arrays, in their order. -/
def Result.indices (result : Result) : List (Indexed × Int) := result.actions.filterMap Action.indexed

/-- Each read and each write of the shared counter is one step of an invocation. -/
inductive Phase where
  | start
  | counted
  | incrementing (value : BitVec 32)
  | incremented
  | insideMessage
  | afterMessage
  | insideDataMessage
  | done
  deriving DecidableEq, Repr

/-- An invocation keeps the counter that it reports and the indices that it has used. -/
structure Invocation where
  phase : Phase
  counter : BitVec 32
  indices : List (Indexed × Int)
  deriving DecidableEq, Repr

def kprobeStep : Protocol (BitVec 32) Invocation := fun c invocation =>
  match invocation.phase with
  | .start => some (c, { invocation with phase := .counted, counter := c })
  | .counted => some (c, { invocation with phase := .incrementing c })
  | .incrementing value => some (value + 1, { invocation with phase := .incremented })
  | .incremented =>
    some (c, { invocation with phase := if belowSize c 12 then .insideMessage else .afterMessage })
  | .insideMessage =>
    some (c, { invocation with
      phase := .afterMessage
      indices := invocation.indices ++ [(.message, c.toInt)] })
  | .afterMessage =>
    some (c, { invocation with phase := if belowSize c 12 then .insideDataMessage else .done })
  | .insideDataMessage =>
    some (c, { invocation with
      phase := .done
      indices := invocation.indices ++ [(.dataMessage, c.toInt)] })
  | .done => none

/-- The invocations start on the loaded counter. -/
def initial (count : Nat) : Configuration (BitVec 32) Invocation :=
  ⟨Globals.loaded.c, List.replicate count ⟨.start, 0, []⟩⟩

/-- The invocation has passed a bounds check and has not yet used the index. -/
def Invocation.checked (invocation : Invocation) : Bool :=
  match invocation.phase with
  | .insideMessage | .insideDataMessage => true
  | _ => false

end EbpfNotes.HelloVerifier
