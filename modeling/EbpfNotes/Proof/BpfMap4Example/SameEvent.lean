import EbpfNotes.Construction.BpfMap4Example
import EbpfNotes.Proof.HelloVerifier.Strings

namespace EbpfNotes.BpfMap4Example

open Library
open HelloVerifier (MyConfig MsgT Globals kprobeExec kprobeExec_eq kprobeExec_outputs)
open HelloVerifierUser (configKey_eq_iff)

/-- The records of the two programs report one process in the same way. -/
structure SameEvent (processId : BitVec 32) (data : HelloVerifier.DataT) (other : DataT) : Prop where
  pid : data.pid = processId
  otherPid : other.pid = processId
  uid : data.uid = other.uid
  command : data.command = other.command
  message : data.message = other.message

/-- The message of a configured user, or the default one. -/
def configuredMessage (endian : Endian) (config : Config) (uid : BitVec 32) : Vector Byte 12 :=
  ((config.lookup (configKey endian uid)).map UserMsgT.message).getD (charArray 12 "Hello World")

/-- The invocation submits the upper half of the first helper as the process. -/
theorem hello_eq (endian : Endian) (config : Config) (event : Event) :
    (hello endian config event).2 =
      ⟨(event.pidTgid >>> 32).setWidth 32, (event.uidGid &&& 0xFFFFFFFF).setWidth 32, event.comm,
        configuredMessage endian config ((event.uidGid &&& 0xFFFFFFFF).setWidth 32)⟩ := by
  unfold hello configuredMessage bpfMapLookupElem
  cases found : config.lookup (configKey endian ((event.uidGid &&& 0xFFFFFFFF).setWidth 32)) with
  | none => simp only [found]; rfl
  | some msg => simp only [found]; rfl

/-- On a little-endian target the wide and the narrow variable hold the same key. -/
theorem configKey_eq (uid : Word) :
    HelloVerifier.configKey .little uid = configKey .little (uid.setWidth 32) :=
  (configKey_eq_iff uid (uid.setWidth 32)).mpr rfl

/-- Maps with equal contents give both programs the same message. -/
theorem configuredMessage_eq {myConfig : MyConfig} {config : Config}
    (equal : ∀ key, (myConfig.lookup key).map MsgT.message = (config.lookup key).map UserMsgT.message)
    (c : BitVec 32) (uid : Word) :
    HelloVerifier.configuredMessage .little myConfig { Globals.loaded with c := c } uid =
      configuredMessage .little config (uid.setWidth 32) := by
  rw [HelloVerifier.configuredMessage, configuredMessage, configKey_eq, equal]
  rfl

/-- With equal maps the records report the same event exactly when the lower half of the first helper
equals the upper one: only one of the programs shifts the process into the field. -/
theorem hello_sameEvent_iff (c : BitVec 32) (pidTgid uidGid : Word) (comm : Vector Byte 16)
    {myConfig : MyConfig} {config : Config}
    (equal : ∀ key, (myConfig.lookup key).map MsgT.message = (config.lookup key).map UserMsgT.message) :
    (∃ result data, kprobeExec .little myConfig { Globals.loaded with c := c } ⟨pidTgid, uidGid, comm⟩ =
      some result ∧ result.outputs = [data] ∧
      SameEvent ((pidTgid >>> 32).setWidth 32) data (hello .little config ⟨pidTgid, uidGid, comm⟩).2) ↔
      (pidTgid.setWidth 32 : BitVec 32) = (pidTgid >>> 32).setWidth 32 := by
  have executed := kprobeExec_eq .little myConfig { Globals.loaded with c := c } ⟨pidTgid, uidGid, comm⟩
  have submitted := kprobeExec_outputs executed
  constructor
  · rintro ⟨result, data, ran, outputs, same⟩
    obtain rfl := Option.some.inj (executed.symm.trans ran)
    obtain rfl := (List.cons.inj (submitted.symm.trans outputs)).1
    exact same.pid
  · intro main
    refine ⟨_, _, executed, submitted, ?_⟩
    rw [hello_eq]
    constructor
    · exact main
    · rfl
    · rfl
    · rfl
    · exact configuredMessage_eq equal c (uidGid &&& 0xFFFFFFFF)

/-- The two maps with one message for the user 501. -/
def myConfig501 : MyConfig :=
  Table.empty.set (configKey .little 501) ⟨charArray 12 "hello Liz"⟩

def config501 : Config :=
  Table.empty.set (configKey .little 501) ⟨charArray 12 "hello Liz"⟩

theorem config501_equal (key : Vector Byte 4) :
    (myConfig501.lookup key).map MsgT.message = (config501.lookup key).map UserMsgT.message := by
  rw [myConfig501, config501, Table.lookup_set, Table.lookup_set]
  have room : (Table.empty : MyConfig).Admits (configKey .little 501) := by decide
  have also : (Table.empty : Config).Admits (configKey .little 501) := by decide
  by_cases hit : key = configKey .little 501
  · rw [if_pos ⟨hit, room⟩, if_pos ⟨hit, also⟩]
    rfl
  · rw [if_neg fun both => hit both.1, if_neg fun both => hit both.1]
    rfl

/-- The first thread of a process is reported by both programs as its process. -/
theorem hello_sameEvent_firstThread :
    ∃ result data, kprobeExec .little myConfig501 { Globals.loaded with c := 1 }
        ⟨0x4d2000004d2, 501, Vector.replicate 16 0⟩ = some result ∧ result.outputs = [data] ∧
      SameEvent 0x4d2 data (hello .little config501 ⟨0x4d2000004d2, 501, Vector.replicate 16 0⟩).2 :=
  (hello_sameEvent_iff 1 0x4d2000004d2 501 (Vector.replicate 16 0) config501_equal).mpr (by decide)

/-- Another thread of the process is reported as its process by only one of the programs. -/
theorem hello_sameEvent_otherThread :
    ¬ ∀ (c : BitVec 32) (pidTgid uidGid : Word) (comm : Vector Byte 16) (myConfig : MyConfig)
      (config : Config),
      (∀ key, (myConfig.lookup key).map MsgT.message = (config.lookup key).map UserMsgT.message) →
      ∃ result data, kprobeExec .little myConfig { Globals.loaded with c := c } ⟨pidTgid, uidGid, comm⟩ =
        some result ∧ result.outputs = [data] ∧
        SameEvent ((pidTgid >>> 32).setWidth 32) data
          (hello .little config ⟨pidTgid, uidGid, comm⟩).2 := by
  intro always
  obtain ⟨result, data, ran, outputs, same⟩ := always 1 0x4d2000004d3 501 (Vector.replicate 16 0)
    Table.empty Table.empty (fun _ => rfl)
  have expected := kprobeExec_eq .little Table.empty { Globals.loaded with c := 1 }
    ⟨0x4d2000004d3, 501, Vector.replicate 16 0⟩
  obtain rfl := Option.some.inj (expected.symm.trans ran)
  obtain rfl := (List.cons.inj ((kprobeExec_outputs expected).symm.trans outputs)).1
  exact absurd same.pid (by decide)

end EbpfNotes.BpfMap4Example
