/-
This file models `bpf_maps_dup/hash_map_example.bpf.c`, where `uid` is a global variable.
-/

import EbpfNotes.Construction.HashMapExample

namespace EbpfNotes.HashMapExampleDup

open Library
open HashMapExample (CounterTable Kernel maskUid loadCounter)

/-- The program and the kernel share the global `uid` with all processors. -/
structure Globals where
  uid : Word
  kernel : Kernel

/-- The result is the return value and the globals after the call. -/
def hello (globals : Globals) (uidGid : Word) : BitVec 32 × Globals :=
  let globals := { globals with uid := maskUid uidGid }
  let (p, kernel) := globals.kernel.lookup globals.uid
  let counter := loadCounter p
  let counter := counter + 1
  let (_, kernel) := kernel.update globals.uid counter 0
  (0, { globals with kernel := kernel })

/-- The interleaved invocations share the global and the table. -/
structure Shared where
  uid : Word
  counterTable : CounterTable

/-- The phases keep the keys that the two helper calls read from the global. -/
inductive Phase where
  | start
  | stored
  | loaded (loadKey counter : Word)
  | done (loadKey updateKey : Word)
  deriving DecidableEq, Repr

structure Invocation where
  uidGid : Word
  phase : Phase
  deriving DecidableEq, Repr

/-- The user that this invocation fetches. -/
def Invocation.uid (invocation : Invocation) : Word := maskUid invocation.uidGid

/-- The steps store the global, look up at the global, and update at the global. -/
def helloStep : Protocol Shared Invocation := fun shared invocation =>
  match invocation.phase with
  | .start => some ({ shared with uid := invocation.uid }, { invocation with phase := .stored })
  | .stored =>
    let counter := loadCounter (bpfMapLookupElem shared.counterTable shared.uid)
    some (shared, { invocation with phase := .loaded shared.uid counter })
  | .loaded loadKey counter =>
    let updated := bpfMapUpdateElem shared.counterTable shared.uid (counter + 1) 0
    some ({ shared with counterTable := updated.2 },
      { invocation with phase := .done loadKey shared.uid })
  | .done _ _ => none

/-- The global has its initial value zero and the table is empty. -/
def initial (uidGids : List Word) : Configuration Shared Invocation :=
  ⟨⟨0, Table.empty⟩, uidGids.map fun uidGid => ⟨uidGid, .start⟩⟩

/-- The invocation stands between its store to the global and its update. -/
def Invocation.active (invocation : Invocation) : Bool :=
  match invocation.phase with
  | .stored | .loaded _ _ => true
  | _ => false

/-- The invocation for the user has made its update. -/
def Invocation.completed (uid : Word) (invocation : Invocation) : Bool :=
  invocation.uid = uid && match invocation.phase with
    | .done _ _ => true
    | _ => false

def completions (config : Configuration Shared Invocation) (uid : Word) : Nat :=
  config.invocations.countP (Invocation.completed uid)

end EbpfNotes.HashMapExampleDup
