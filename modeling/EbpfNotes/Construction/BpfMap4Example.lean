/-
This file models `bpf_map4/example.bpf.c`.
-/

import EbpfNotes.Construction.Helpers

namespace EbpfNotes.BpfMap4Example

open Library

structure UserMsgT where
  message : Vector Byte 12
  deriving DecidableEq, Repr

/-- `config` maps the four key bytes of a user to the message of this user. -/
abbrev Config := Table (Vector Byte 4) UserMsgT 10240

structure DataT where
  pid : BitVec 32
  uid : BitVec 32
  command : Vector Byte 16
  message : Vector Byte 12
  deriving DecidableEq, Repr

/-- The values that the helpers return in one invocation. -/
structure Event where
  pidTgid : Word
  uidGid : Word
  comm : Vector Byte 16
  deriving DecidableEq, Repr

/-- The map reads the four bytes of the field `uid`. -/
def configKey (endian : Endian) (uid : BitVec 32) : Vector Byte 4 :=
  Vector.ofFn fun index => endian.byte 4 uid.toNat index

/-- The record is zero before the invocation fills it. -/
def DataT.zero : DataT := ⟨0, 0, Vector.replicate 16 0, Vector.replicate 12 0⟩

/-- The result is the return value and the record that the invocation submits. -/
def hello (endian : Endian) (config : Config) (event : Event) : BitVec 32 × DataT :=
  let message := charArray 12 "Hello World"
  let data := { DataT.zero with pid := (event.pidTgid >>> 32).setWidth 32 }
  let data := { data with uid := (event.uidGid &&& 0xFFFFFFFF).setWidth 32 }
  let data := { data with command := event.comm }
  let p := bpfMapLookupElem config (configKey endian data.uid)
  let data :=
    match p with
    | some msg => { data with message := msg.message }
    | none => { data with message := message }
  (0, data)

end EbpfNotes.BpfMap4Example
