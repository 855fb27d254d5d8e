/-
This file runs the calls of `main` in `verifier_example/hello-verifier.c` on the memory of the process.
-/

import EbpfNotes.Construction.HelloVerifierLoader
import EbpfNotes.Construction.HelloVerifierSkeleton

namespace EbpfNotes.HelloVerifierSkeleton

open Library
open HelloVerifier (MsgT)
open HelloVerifierUser (Setup keyBytes)

/-- The functions of libbpf for maps and perf buffers. A poll may give any result, and its handlers only
print. -/
structure LoaderLibbpf extends Libbpf where
  mapFd : Address → Process → Option (BitVec 32)
  mapUpdateElem : Address → Vector Byte 4 → MsgT → Word → Process → Option (BitVec 32 × Process)
  perfBufferNew : BitVec 32 → Nat → Process → Address × Process
  perfBufferPoll : Address → Nat → BitVec 32 → Process → Option Process
  perfBufferFree : Address → Process → Option Process
  mapFds : ∀ {process map}, process.heap map = some (.part .map) → ∃ fd, mapFd map process = some fd
  /-- The entries of a map are in the kernel. -/
  updates : ∀ {process map}, process.heap map = some (.part .map) → ∀ key msg flags,
    ∃ result after, mapUpdateElem map key msg flags process = some (result, after) ∧
      after.heap = process.heap
  creates : ∀ fd pages process, ∃ pb after, perfBufferNew fd pages process = (pb, after) ∧
    ((pb = 0 ∧ after.heap = process.heap) ∨
      (pb ≠ 0 ∧ process.heap pb = none ∧ after.heap = process.heap.set pb .perfBuffer))
  polls : ∀ {process pb}, process.heap pb = some .perfBuffer → ∀ timeout result,
    ∃ after, perfBufferPoll pb timeout result process = some after ∧ after.heap = process.heap
  frees_null : ∀ process, perfBufferFree 0 process = some process
  frees : ∀ {process pb}, pb ≠ 0 → process.heap pb = some .perfBuffer →
    ∃ after, perfBufferFree pb process = some after ∧ after.heap = process.heap.without [pb]

variable (allocator : Allocator) (libbpf : LoaderLibbpf)

def updateElem (process : Process) (skel : Address) (key : Vector Byte 4) (msg : MsgT) (flags : Word) :
    Option (BitVec 32 × Process) := do
  let fields ← readObject process skel
  libbpf.mapUpdateElem (fields.maps .myConfig) key msg flags process

def perfBufferNew (process : Process) (skel : Address) (pages : Nat) : Option (Address × Process) := do
  let fields ← readObject process skel
  let fd ← libbpf.mapFd (fields.maps .output) process
  some (libbpf.perfBufferNew fd pages process)

/-- A pointer as the result that `main` tests. -/
def pointer (address : Address) : Option Address := if address = 0 then none else some address

/-- Each call must find its memory and give the result that the run has seen. -/
def performAction (process : Process) : HelloVerifierUser.Action Address Address → Option Process
  | .openOpts result => do
    let (obj, process) ← openOpts allocator libbpf.toLibbpf process
    if result = pointer obj then some process else none
  | .load skel result => do
    let (err, process) ← load libbpf.toLibbpf process skel
    if result = err then some process else none
  | .log _ => some process
  | .updateElem skel key msg flags result => do
    let (err, process) ← updateElem libbpf process skel key msg flags
    if result = err then some process else none
  | .attach skel result => do
    let (err, process) ← attach libbpf.toLibbpf process skel
    if result = err then some process else none
  | .perfBufferNew skel pages result => do
    let (pb, process) ← perfBufferNew libbpf process skel pages
    if result = pointer pb then some process else none
  | .poll pb timeout result => libbpf.perfBufferPoll pb timeout result process
  | .print _ _ _ => some process
  | .free pb => libbpf.perfBufferFree pb process
  | .destroy skel => destroy libbpf.toLibbpf process skel

def performActions (process : Process) (actions : List (HelloVerifierUser.Action Address Address)) :
    Option Process :=
  actions.foldlM (performAction allocator libbpf) process

/-- The results that the calls of `main` give one after the other. A call that is not made has none. -/
def setupFrom (endian : Endian) (stack : Vector Byte 12) (process : Process) :
    Option (Setup Address Address) := do
  let (obj, process) ← openOpts allocator libbpf.toLibbpf process
  if obj = 0 then some ⟨none, 0, 0, 0, none⟩
  else
    let (loaded, process) ← load libbpf.toLibbpf process obj
    if loaded ≠ 0 then some ⟨some obj, loaded, 0, 0, none⟩
    else
      let msg : MsgT := ⟨strncpy stack (ascii "hello Liz") (ascii "hello Liz").length⟩
      let (updated, process) ← updateElem libbpf process obj (keyBytes endian 501) msg 0
      let (attached, process) ← attach libbpf.toLibbpf process obj
      if attached ≠ 0 then some ⟨some obj, loaded, updated, attached, none⟩
      else
        let (pb, _) ← perfBufferNew libbpf process obj 8
        some ⟨some obj, loaded, updated, attached, pointer pb⟩

end EbpfNotes.HelloVerifierSkeleton
