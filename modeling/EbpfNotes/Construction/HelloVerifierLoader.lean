/-
This file models `main` of `verifier_example/hello-verifier.c`: the loop that prints the verifier log,
the calls that set the program up, and the loop that polls the perf buffer.
-/

import EbpfNotes.Construction.HelloVerifierUser

namespace EbpfNotes.HelloVerifierUser

open Library
open HelloVerifier (MsgT)

/-- The size of `log_buf`. -/
def logBufSize : Nat := 64 * 1024

/-- The largest value of an `int`. -/
def INT_MAX : Nat := 2 ^ 31 - 1

/-- The second operand is read only behind a zero byte. A read outside of the buffer and an `int`
beyond its largest value give none. -/
def endsLog (logBuf : List Byte) (i : Nat) : Option Bool := do
  let byte ← logBuf[i]?
  if byte = 0 then
    if i < INT_MAX then do
      let next ← logBuf[i + 1]?
      some (next = 0)
    else none
  else some false

/-- The loop at index `i` gives the characters that it still prints. -/
def printLogFrom (logBuf : List Byte) (i : Nat) : Option (List Byte) :=
  if i < logBuf.length then do
    let ends ← endsLog logBuf i
    if ends then some []
    else do
      let byte ← logBuf[i]?
      if i < INT_MAX then do
        let printed ← printLogFrom logBuf (i + 1)
        some (byte :: printed)
      else none
  else some []
termination_by logBuf.length - i

def printLog (logBuf : List Byte) : Option (List Byte) := printLogFrom logBuf 0

def EINTR : BitVec 32 := 4

inductive Stream where
  | stdout
  | stderr
  deriving DecidableEq, Repr

/-- The calls of `main` in their order, each with its result. -/
inductive Action (Skeleton PerfBuffer : Type) where
  | openOpts (result : Option Skeleton)
  | load (skel : Skeleton) (result : BitVec 32)
  | log (printed : List Byte)
  | updateElem (skel : Skeleton) (key : Vector Byte 4) (msg : MsgT) (flags : Word) (result : BitVec 32)
  | attach (skel : Skeleton) (result : BitVec 32)
  | perfBufferNew (skel : Skeleton) (pages : Nat) (result : Option PerfBuffer)
  | poll (pb : PerfBuffer) (timeout : Nat) (result : BitVec 32)
  | print (stream : Stream) (format : String) (argument : Option Int)
  | free (pb : PerfBuffer)
  | destroy (skel : Skeleton)
  deriving DecidableEq, Repr

/-- The results of the calls that set the program up. -/
structure Setup (Skeleton PerfBuffer : Type) where
  openOpts : Option Skeleton
  load : BitVec 32
  updateElem : BitVec 32
  attach : BitVec 32
  perfBufferNew : Option PerfBuffer
  deriving DecidableEq, Repr

/-- A run without a status still polls. -/
structure Run (Skeleton PerfBuffer : Type) where
  status : Option (BitVec 32)
  actions : List (Action Skeleton PerfBuffer)
  deriving DecidableEq, Repr

variable {Skeleton PerfBuffer : Type}

variable (Skeleton) in
/-- The loop ends with the value of `err` at the first negative result. -/
def pollLoop (pb : PerfBuffer) :
    List (BitVec 32) → Option (BitVec 32) × List (Action Skeleton PerfBuffer)
  | [] => (none, [])
  | err :: polls =>
    if err = -EINTR then (some 0, [.poll pb 100 err])
    else if err.toInt < 0 then
      (some err, [.poll pb 100 err,
        .print .stdout "Error polling perf buffer: %d\n" (some err.toInt)])
    else
      let (status, actions) := pollLoop pb polls
      (status, .poll pb 100 err :: actions)

/-- The stack holds the bytes of `msg` before the copy, the loop over `log_buf` prints the text, and the
polls are the results so far. -/
def main (endian : Endian) (stack : Vector Byte 12) (printed : List Byte)
    (setup : Setup Skeleton PerfBuffer) (polls : List (BitVec 32)) : Run Skeleton PerfBuffer :=
  let actions := [.openOpts setup.openOpts]
  match setup.openOpts with
  | none => ⟨some 1, actions ++ [.print .stdout "Failed to open BPF object\n" none]⟩
  | some skel =>
    let err := setup.load
    let actions := actions ++ [.load skel err, .log printed]
    if err ≠ 0 then
      ⟨some 1, actions ++ [.print .stdout "Failed to load BPF object\n" none, .destroy skel]⟩
    else
      let key : BitVec 32 := 501
      let m := ascii "hello Liz"
      let msg : MsgT := ⟨strncpy stack m m.length⟩
      let actions := actions ++ [.updateElem skel (keyBytes endian key) msg 0 setup.updateElem]
      let err := setup.attach
      let actions := actions ++ [.attach skel err]
      if err ≠ 0 then
        ⟨some 1, actions ++
          [.print .stderr "Failed to attach BPF skeleton: %d\n" (some err.toInt), .destroy skel]⟩
      else
        let actions := actions ++ [.perfBufferNew skel 8 setup.perfBufferNew]
        match setup.perfBufferNew with
        | none =>
          ⟨some 1, actions ++ [.print .stderr "Failed to create ring buffer\n" none, .destroy skel]⟩
        | some pb =>
          let (err, polled) := pollLoop Skeleton pb polls
          match err with
          | none => ⟨none, actions ++ polled⟩
          | some err => ⟨some (-err), actions ++ polled ++ [.free pb, .destroy skel]⟩

/-- The loop runs when the skeleton is open, and a read outside of `log_buf` gives none. -/
def mainWithLog (endian : Endian) (stack : Vector Byte 12) (logBuf : List Byte)
    (setup : Setup Skeleton PerfBuffer) (polls : List (BitVec 32)) : Option (Run Skeleton PerfBuffer) :=
  match setup.openOpts with
  | none => some (main endian stack [] setup polls)
  | some _ => (printLog logBuf).map fun printed => main endian stack printed setup polls

def Action.opened : Action Skeleton PerfBuffer → Option Skeleton
  | .openOpts result => result
  | _ => none

def Action.destroyed : Action Skeleton PerfBuffer → Option Skeleton
  | .destroy skel => some skel
  | _ => none

def Action.created : Action Skeleton PerfBuffer → Option PerfBuffer
  | .perfBufferNew _ _ result => result
  | _ => none

def Action.freed : Action Skeleton PerfBuffer → Option PerfBuffer
  | .free pb => some pb
  | _ => none

def Action.polled : Action Skeleton PerfBuffer → Option (BitVec 32)
  | .poll _ _ result => some result
  | _ => none

end EbpfNotes.HelloVerifierUser
