/-
This file models the functions of `verifier_example/hello-verifier.skel.h` and the memory that they
allocate and free.
-/

import EbpfNotes.Library.Heap
import Mathlib.Algebra.GroupWithZero.Nat

namespace EbpfNotes.HelloVerifierSkeleton

open Library

/-- The address 0 is NULL. -/
abbrev Address := Nat

/-- The members of `maps` in `struct hello_verifier_bpf`. -/
inductive MapField where
  | myConfig
  | output
  | data
  | rodata
  deriving DecidableEq, Repr

/-- The members of `progs`, and those of `links`. -/
inductive ProgField where
  | kprobeExec
  | xdpHello
  deriving DecidableEq, Repr

structure HelloVerifierBpf where
  skeleton : Address
  obj : Address
  maps : MapField → Address
  progs : ProgField → Address
  links : ProgField → Address
  data : Address

/-- The object as `calloc` returns it. -/
def HelloVerifierBpf.zero : HelloVerifierBpf := ⟨0, 0, fun _ => 0, fun _ => 0, fun _ => 0, 0⟩

/-- The skeleton points to the field `obj` of its `struct hello_verifier_bpf` and to its two arrays. -/
structure BpfObjectSkeleton where
  obj : Address
  maps : Address
  progs : Address
  deriving DecidableEq, Repr

/-- The memory of a map is reached through the field `data` of the object when `mmaped` is set. -/
structure BpfMapSkeleton where
  name : String
  map : MapField
  mmaped : Bool
  deriving DecidableEq, Repr

structure BpfProgSkeleton where
  name : String
  prog : ProgField
  link : ProgField
  deriving DecidableEq, Repr

def mapSkeletons : List BpfMapSkeleton := [
  ⟨"my_config", .myConfig, false⟩,
  ⟨"output", .output, false⟩,
  ⟨"hello_ve.data", .data, true⟩,
  ⟨"hello_ve.rodata", .rodata, false⟩]

def progSkeletons : List BpfProgSkeleton := [
  ⟨"kprobe_exec", .kprobeExec, .kprobeExec⟩,
  ⟨"xdp_hello", .xdpHello, .xdpHello⟩]

/-- What belongs to an open object of libbpf. -/
inductive Part where
  | map
  | program
  deriving DecidableEq, Repr

/-- An array of a skeleton has no entries until they are filled in. An object of libbpf keeps the
addresses of its maps and programs. -/
inductive Block where
  | object (fields : HelloVerifierBpf)
  | skeleton (fields : BpfObjectSkeleton)
  | maps (entries : List BpfMapSkeleton)
  | progs (entries : List BpfProgSkeleton)
  | bpfObject (parts : List (Address × Part))
  | part (kind : Part)
  | link
  | perfBuffer

structure Process where
  heap : Heap Address Block
  errno : BitVec 32
  callocs : Nat

/-- An allocation fails with NULL or returns an address that is not in use. -/
structure Allocator where
  calloc : Nat → Heap Address Block → Address
  fresh : ∀ callocs heap, calloc callocs heap ≠ 0 → heap (calloc callocs heap) = none

/-- A skeleton with its object and its two arrays. -/
structure Filled (heap : Heap Address Block) (s : Address) (fields : BpfObjectSkeleton)
    (object : HelloVerifierBpf) (maps : List BpfMapSkeleton) (progs : List BpfProgSkeleton) : Prop where
  skeleton : heap s = some (.skeleton fields)
  object : heap fields.obj = some (.object object)
  maps : heap fields.maps = some (.maps maps)
  progs : heap fields.progs = some (.progs progs)

/-- The object of libbpf is open with its maps and programs. -/
structure Opened (heap : Heap Address Block) (object : HelloVerifierBpf)
    (parts : List (Address × Part)) : Prop where
  object : heap object.obj = some (.bpfObject parts)
  parts : ∀ part ∈ parts, heap part.1 = some (.part part.2)

/-- The programs have their links, or NULL, and no two members share a link. -/
structure Linked (heap : Heap Address Block) (object : HelloVerifierBpf)
    (progs : List BpfProgSkeleton) : Prop where
  links : ∀ entry ∈ progs, object.links entry.link = 0 ∨ heap (object.links entry.link) = some .link
  apart : ∀ first ∈ progs, ∀ second ∈ progs, object.links first.link = object.links second.link →
    first.link = second.link ∨ object.links first.link = 0

def linkAddresses (object : HelloVerifierBpf) (progs : List BpfProgSkeleton) : List Address :=
  progs.map fun entry => object.links entry.link

/-- The links of the programs are set to NULL when they are detached. -/
def HelloVerifierBpf.detached (object : HelloVerifierBpf) (progs : List BpfProgSkeleton) :
    HelloVerifierBpf :=
  { object with links := fun field =>
      if field ∈ progs.map BpfProgSkeleton.link then 0 else object.links field }

def partCells (parts : List (Address × Part)) : List (Address × Block) :=
  parts.map fun part => (part.1, .part part.2)

/-- The pointers of the object when libbpf has opened it. A failure may leave some of them. -/
structure OpensTo (result : BitVec 32) (object now : HelloVerifierBpf) (maps : List BpfMapSkeleton)
    (progs : List BpfProgSkeleton) (parts : List (Address × Part)) : Prop where
  skeleton : now.skeleton = object.skeleton
  links : now.links = object.links
  maps : result = 0 → ∀ entry ∈ maps, (now.maps entry.map, .map) ∈ parts
  progs : result = 0 → ∀ entry ∈ progs, (now.progs entry.prog, .program) ∈ parts

/-- The functions of libbpf behave as documented when the memory that they use is there. They may change
`errno`, and each may fail. The private memory of an open object belongs to its block. -/
structure Libbpf where
  openSkeleton : Address → Process → Option (BitVec 32 × Process)
  loadSkeleton : Address → Process → Option (BitVec 32 × Process)
  attachSkeleton : Address → Process → Option (BitVec 32 × Process)
  detachSkeleton : Address → Process → Option Process
  destroySkeleton : Address → Process → Option Process
  /-- The object is stored through the pointer of the skeleton, also when a later part of the opening
  fails. -/
  opens : ∀ {process s fields object maps progs}, Filled process.heap s fields object maps progs →
    ∃ result after, openSkeleton s process = some (result, after) ∧
      ((result ≠ 0 ∧ after.heap = process.heap) ∨
        ∃ now parts, OpensTo result object now maps progs parts ∧
          process.heap.Fresh (now.obj :: parts.map Prod.fst) ∧
          after.heap = process.heap.store
            ((fields.obj, .object now) :: (now.obj, .bpfObject parts) :: partCells parts))
  /-- The memory of a map may move. -/
  loads : ∀ {process s fields object maps progs parts}, Filled process.heap s fields object maps progs →
    Opened process.heap object parts →
    ∃ result after data, loadSkeleton s process = some (result, after) ∧
      (data = object.data ∨ ∃ entry ∈ maps, entry.mmaped = true) ∧
      after.heap = process.heap.set fields.obj (.object { object with data := data })
  /-- Each program without a link may get one, also when a later program fails. -/
  attaches : ∀ {process s fields object maps progs parts},
    Filled process.heap s fields object maps progs → Opened process.heap object parts →
    (∀ entry ∈ progs, (object.progs entry.prog, .program) ∈ parts) →
    Linked process.heap object progs →
    ∃ result after, ∃ links : ProgField → Address, ∃ added : List ProgField,
      attachSkeleton s process = some (result, after) ∧
      (∀ field ∈ added, object.links field = 0 ∧ field ∈ progs.map BpfProgSkeleton.link) ∧
      (∀ field, field ∉ added → links field = object.links field) ∧
      process.heap.Fresh (added.map links) ∧
      after.heap = process.heap.store
        ((fields.obj, .object { object with links := links }) ::
          added.map fun field => (links field, .link))
  /-- The links are destroyed. -/
  detaches : ∀ {process s fields object maps progs}, Filled process.heap s fields object maps progs →
    Linked process.heap object progs →
    ∃ after, detachSkeleton s process = some after ∧
      after.heap = (process.heap.without (linkAddresses object progs)).set fields.obj
        (.object (object.detached progs))
  destroys_null : ∀ process, destroySkeleton 0 process = some process
  /-- The links are destroyed and the object is closed when there are some, and the arrays and the
  skeleton are freed. -/
  destroys : ∀ {process s fields object progs parts}, s ≠ 0 → process.heap 0 = none →
    process.heap s = some (.skeleton fields) → process.heap fields.obj = some (.object object) →
    (fields.maps = 0 ∨ ∃ maps, process.heap fields.maps = some (.maps maps)) →
    (fields.progs = 0 ∧ progs = [] ∨ process.heap fields.progs = some (.progs progs)) →
    (object.obj = 0 ∧ parts = [] ∨ Opened process.heap object parts) →
    Linked process.heap object progs →
    ∃ after, destroySkeleton s process = some after ∧
      after.heap = (process.heap.without ([s, fields.maps, fields.progs, object.obj] ++
        parts.map Prod.fst ++ linkAddresses object progs)).set fields.obj
        (.object (object.detached progs))

def ENOMEM : BitVec 32 := 12

section Functions

variable (allocator : Allocator) (libbpf : Libbpf)

/-- The new block is stored when the allocation succeeds. -/
def calloc (process : Process) (block : Block) : Address × Process :=
  let address := allocator.calloc process.callocs process.heap
  (address, { process with
    heap := if address = 0 then process.heap else process.heap.set address block
    callocs := process.callocs + 1 })

/-- Only a block in use may be written. -/
def write (process : Process) (address : Address) (block : Block) : Option Process :=
  if (process.heap address).isSome then some { process with heap := process.heap.set address block }
  else none

/-- Only NULL and a block in use may be freed. -/
def free (process : Process) (address : Address) : Option Process :=
  if address = 0 then some process
  else if (process.heap address).isSome then
    some { process with heap := process.heap.without [address] }
  else none

def readObject (process : Process) (obj : Address) : Option HelloVerifierBpf :=
  match process.heap obj with
  | some (.object fields) => some fields
  | _ => none

def destroy (process : Process) (obj : Address) : Option Process :=
  if obj = 0 then some process
  else do
    let fields ← readObject process obj
    let process ← if fields.skeleton = 0 then some process
      else libbpf.destroySkeleton fields.skeleton process
    free process obj

/-- The skeleton becomes a part of the object only when it is complete. -/
def createSkeleton (process : Process) (obj : Address) : Option (BitVec 32 × Process) := do
  let (s, process) := calloc allocator process (.skeleton ⟨0, 0, 0⟩)
  if s = 0 then
    let process ← libbpf.destroySkeleton s process
    some (-ENOMEM, process)
  else
    let process ← write process s (.skeleton ⟨obj, 0, 0⟩)
    let (maps, process) := calloc allocator process (.maps [])
    let process ← write process s (.skeleton ⟨obj, maps, 0⟩)
    if maps = 0 then
      let process ← libbpf.destroySkeleton s process
      some (-ENOMEM, process)
    else
      let process ← write process maps (.maps mapSkeletons)
      let (progs, process) := calloc allocator process (.progs [])
      let process ← write process s (.skeleton ⟨obj, maps, progs⟩)
      if progs = 0 then
        let process ← libbpf.destroySkeleton s process
        some (-ENOMEM, process)
      else
        let process ← write process progs (.progs progSkeletons)
        let fields ← readObject process obj
        let process ← write process obj (.object { fields with skeleton := s })
        some (0, process)

/-- The failure leaves its number in `errno` after the object is destroyed. -/
def fail (process : Process) (obj : Address) (err : BitVec 32) : Option (Address × Process) := do
  let process ← destroy libbpf process obj
  some (0, { process with errno := -err })

def openOpts (process : Process) : Option (Address × Process) := do
  let (obj, process) := calloc allocator process (.object .zero)
  if obj = 0 then some (0, { process with errno := ENOMEM })
  else
    let (err, process) ← createSkeleton allocator libbpf process obj
    if err ≠ 0 then fail libbpf process obj err
    else
      let fields ← readObject process obj
      let (err, process) ← libbpf.openSkeleton fields.skeleton process
      if err ≠ 0 then fail libbpf process obj err
      else some (obj, process)

def load (process : Process) (obj : Address) : Option (BitVec 32 × Process) := do
  let fields ← readObject process obj
  libbpf.loadSkeleton fields.skeleton process

def openAndLoad (process : Process) : Option (Address × Process) := do
  let (obj, process) ← openOpts allocator libbpf process
  if obj = 0 then some (0, process)
  else
    let (err, process) ← load libbpf process obj
    if err ≠ 0 then fail libbpf process obj err
    else some (obj, process)

def attach (process : Process) (obj : Address) : Option (BitVec 32 × Process) := do
  let fields ← readObject process obj
  libbpf.attachSkeleton fields.skeleton process

def detach (process : Process) (obj : Address) : Option Process := do
  let fields ← readObject process obj
  libbpf.detachSkeleton fields.skeleton process

/-- The calls of a program that works with the objects it has opened. -/
inductive Command where
  | openOpts
  | openAndLoad
  | load (index : Nat)
  | attach (index : Nat)
  | detach (index : Nat)
  | destroy (index : Nat)
  deriving DecidableEq, Repr

structure Client where
  process : Process
  objects : List Address

/-- A call on an object that is not open is left out. -/
def Client.perform (client : Client) : Command → Option Client
  | .openOpts => do
    let (obj, process) ← openOpts allocator libbpf client.process
    some ⟨process, if obj = 0 then client.objects else obj :: client.objects⟩
  | .openAndLoad => do
    let (obj, process) ← openAndLoad allocator libbpf client.process
    some ⟨process, if obj = 0 then client.objects else obj :: client.objects⟩
  | .load index =>
    match client.objects[index]? with
    | none => some client
    | some obj => (load libbpf client.process obj).map fun result => ⟨result.2, client.objects⟩
  | .attach index =>
    match client.objects[index]? with
    | none => some client
    | some obj => (attach libbpf client.process obj).map fun result => ⟨result.2, client.objects⟩
  | .detach index =>
    match client.objects[index]? with
    | none => some client
    | some obj => (detach libbpf client.process obj).map fun process => ⟨process, client.objects⟩
  | .destroy index =>
    match client.objects[index]? with
    | none => some client
    | some obj =>
      (destroy libbpf client.process obj).map fun process => ⟨process, client.objects.eraseIdx index⟩

def Client.run (client : Client) (commands : List Command) : Option Client :=
  commands.foldlM (Client.perform allocator libbpf) client

end Functions

end EbpfNotes.HelloVerifierSkeleton
