/-
This file models `verifier_example/hello-verifier.c`, which configures the program and prints its records.
-/

import EbpfNotes.Construction.HelloVerifier

namespace EbpfNotes.HelloVerifierUser

open Library
open HelloVerifier (DataT MsgT MyConfig Globals Event kprobeRun)

/-- The bytes of a `uint32_t` key in memory. -/
def keyBytes (endian : Endian) (key : BitVec 32) : Vector Byte 4 :=
  Vector.ofFn fun index => endian.byte 4 key.toNat index

/-- The message is copied without its NUL over the bytes that the stack holds. -/
def configure (endian : Endian) (stack : Vector Byte 12) (myConfig : MyConfig) : Word × MyConfig :=
  let key : BitVec 32 := 501
  let m := ascii "hello Liz"
  let msg : MsgT := ⟨strncpy stack m m.length⟩
  bpfMapUpdateElem myConfig (keyBytes endian key) msg 0

/-- The fields that one line of the printer shows. -/
structure Line where
  pid : Int
  uid : Int
  counter : Int
  command : List Byte
  message : List Byte
  deriving DecidableEq, Repr

/-- The command runs on into the message, and a read past the record gives none. -/
def handleEvent (m : DataT) : Option Line := do
  let command ← cString (m.command.toList ++ m.message.toList)
  let message ← cString m.message.toList
  some ⟨m.pid.toInt, m.uid.toInt, m.counter.toInt, command, message⟩

/-- The configured program handles the events, and its records go to the printer in order. -/
def records (endian : Endian) (stack : Vector Byte 12) (events : List Event) : Option (List DataT) :=
  let myConfig := (configure endian stack Table.empty).2
  (kprobeRun endian Globals.loaded (events.map fun event => (myConfig, event))).map
    fun ran => ran.2.flatMap HelloVerifier.Result.outputs

end EbpfNotes.HelloVerifierUser
