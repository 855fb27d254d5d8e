/-
This file runs several invocations of the object bytecode of `kprobe_exec` at the same time.
-/

import EbpfNotes.Construction.HelloVerifierBytecode
import EbpfNotes.Library.Threads

namespace EbpfNotes.HelloVerifier

open Library

/-- Each invocation has its own stack frame. -/
def Name.owned : Name → Bool
  | .stack => true
  | _ => false

/-- An event arrives on a processor with its own registers, stack and addresses. -/
structure Arrival (myConfig : MyConfig) (globals : Globals) where
  event : Event
  environment : Environment myConfig globals event

abbrev KprobeThread (myConfig : MyConfig) :=
  Thread Symbol Name (List KernelCall) (liveNames myConfig) objectSize

/-- The program starts at its first slot. -/
def Arrival.thread {myConfig : MyConfig} {globals : Globals} (arrival : Arrival myConfig globals) :
    KprobeThread myConfig where
  world := arrival.environment.world
  own := arrival.environment.contents
  progress := .running 0 arrival.environment.initial.registers

/-- All invocations start at once on the shared memory. -/
def kprobeThreads {myConfig : MyConfig} {globals : Globals} (shared : Shared Name (List KernelCall))
    (arrivals : List (Arrival myConfig globals)) :
    Configuration (Shared Name (List KernelCall)) (KprobeThread myConfig) :=
  ⟨shared, arrivals.map Arrival.thread⟩

/-- Each instruction of each invocation is one step. -/
def kprobeInstructionStep {myConfig : MyConfig} :
    Protocol (Shared Name (List KernelCall)) (KprobeThread myConfig) :=
  instructionStep Name.owned kprobeExecCode

end EbpfNotes.HelloVerifier
