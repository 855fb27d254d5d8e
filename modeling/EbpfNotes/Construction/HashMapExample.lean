/-
This file models `bpf_maps/hash_map_example.bpf.c`.
-/

import EbpfNotes.Construction.Helpers
import EbpfNotes.Library.Interleaving

namespace EbpfNotes.HashMapExample

open Library

/-- `counter_table` maps a user to the number of programs that this user has run. -/
abbrev CounterTable := Table Word Word 5000000

/-- One helper call on `counter_table`, with the key, value and flags that the kernel reads. -/
inductive Access where
  | lookup (key : Word)
  | update (key value flags : Word)
  deriving DecidableEq, Repr

/-- The kernel keeps the table; the accesses record the helper calls in order. -/
structure Kernel where
  counterTable : CounterTable
  accesses : List Access

/-- The maps are empty when the program is loaded. -/
def Kernel.loaded : Kernel := ⟨Table.empty, []⟩

def Kernel.lookup (kernel : Kernel) (key : Word) : Option Word × Kernel :=
  (bpfMapLookupElem kernel.counterTable key,
    { kernel with accesses := kernel.accesses ++ [.lookup key] })

def Kernel.update (kernel : Kernel) (key value flags : Word) : Word × Kernel :=
  let updated := bpfMapUpdateElem kernel.counterTable key value flags
  (updated.1, ⟨updated.2, kernel.accesses ++ [.update key value flags]⟩)

/-- The user id is the lower half of the value of `bpf_get_current_uid_gid`. -/
def maskUid (uidGid : Word) : Word := uidGid &&& 0xFFFFFFFF

/-- The counter starts at zero and is loaded only through a non-null pointer. -/
def loadCounter (p : Option Word) : Word :=
  match p with
  | some value => value
  | none => 0

/-- The result is the return value and the kernel after the call. -/
def hello (kernel : Kernel) (uidGid : Word) : BitVec 32 × Kernel :=
  let uid := maskUid uidGid
  let (p, kernel) := kernel.lookup uid
  let counter := loadCounter p
  let counter := counter + 1
  let (_, kernel) := kernel.update uid counter 0
  (0, kernel)

/-- The events run one after another on the same table. -/
def helloRun (kernel : Kernel) (events : List Word) : Kernel :=
  events.foldl (fun kernel uidGid => (hello kernel uidGid).2) kernel

/-- Each helper call on the table is atomic, so an invocation stops between the two. -/
inductive Phase where
  | start
  | loaded (counter : Word)
  | done
  deriving DecidableEq, Repr

structure Invocation where
  uidGid : Word
  phase : Phase
  deriving DecidableEq, Repr

def Invocation.uid (invocation : Invocation) : Word := maskUid invocation.uidGid

/-- The first step looks up and loads the counter; the second step writes it plus one. -/
def helloStep : Protocol CounterTable Invocation := fun counterTable invocation =>
  match invocation.phase with
  | .start =>
    let counter := loadCounter (bpfMapLookupElem counterTable invocation.uid)
    some (counterTable, { invocation with phase := .loaded counter })
  | .loaded counter =>
    let updated := bpfMapUpdateElem counterTable invocation.uid (counter + 1) 0
    some (updated.2, { invocation with phase := .done })
  | .done => none

/-- All invocations start on the empty table. -/
def initial (uidGids : List Word) : Configuration CounterTable Invocation :=
  ⟨Table.empty, uidGids.map fun uidGid => ⟨uidGid, .start⟩⟩

/-- An invocation for the user waits between its lookup and its update. -/
def Invocation.pending (uid : Word) (invocation : Invocation) : Bool :=
  invocation.uid = uid && match invocation.phase with
    | .loaded _ => true
    | _ => false

/-- An invocation for the user has completed its update. -/
def Invocation.completed (uid : Word) (invocation : Invocation) : Bool :=
  invocation.uid = uid && invocation.phase = .done

/-- The invocations for one user that wait for their update. -/
def waiting (config : Configuration CounterTable Invocation) (uid : Word) : Nat :=
  config.invocations.countP (Invocation.pending uid)

/-- The completed updates for one user. -/
def completions (config : Configuration CounterTable Invocation) (uid : Word) : Nat :=
  config.invocations.countP (Invocation.completed uid)

/-- Every invocation has completed its update. -/
def Finished (config : Configuration CounterTable Invocation) : Prop :=
  ∀ invocation ∈ config.invocations, invocation.phase = .done

end EbpfNotes.HashMapExample
