/-
This file models the translated bytecode of `kprobe_exec` in `verifier_example/hello-verifier.md`.
-/

import EbpfNotes.Construction.HelloVerifierBytecode
import EbpfNotes.Library.Inlining

namespace EbpfNotes.HelloVerifier

open Library

/-- The lookup of the kernel finds the elements of the map, where each value stands 56 bytes behind the
start of its element. -/
structure TranslatedEnvironment (myConfig : MyConfig) (globals : Globals) (event : Event)
    extends Environment myConfig globals event where
  element_nonnull : ∀ key ∈ myConfig.keys, layout.base (.element key) ≠ immediate 56

namespace TranslatedEnvironment

variable {myConfig : MyConfig} {globals : Globals} {event : Event}
  (environment : TranslatedEnvironment myConfig globals event)

/-- The lookup returns the start of the element. -/
def htabMapLookupElem (state : State Name (List KernelCall)) : Option (Return Name (List KernelCall)) :=
  if state.registers .r1 = environment.mapAddress then do
    let place ← environment.layout.locate (state.registers .r2) 4
    let key : Vector Byte 4 := Vector.ofFn fun index => state.contents place.1 (place.2 + index)
    let p := bpfMapLookupElem myConfig key
    some ⟨if p.isSome then environment.layout.base (.element key) - immediate 56 else 0, state.contents,
      state.kernel⟩
  else none

/-- The translated program calls the functions of the kernel at their distance from a base, a signed
number of 32 bits. -/
def translatedHelper : Nat → State Name (List KernelCall) → Option (Return Name (List KernelCall))
  | 267808 => environment.htabMapLookupElem
  | 4294858544 => environment.tracePrintk -- -108752
  | 235360 => fun state => some ⟨event.pidTgid, state.contents, state.kernel⟩
  | 235920 => fun state => some ⟨event.uidGid, state.contents, state.kernel⟩
  | 236064 => environment.getCurrentComm
  | 4294857488 => environment.perfEventOutput -- -109808
  | 4294847104 => environment.probeReadKernel -- -120192
  | _ => fun _ => none

def translatedWorld : World Symbol Name (List KernelCall) (liveNames myConfig) objectSize :=
  { environment.world with helper := environment.translatedHelper }

end TranslatedEnvironment

/-- The translated bytecode of `kprobe_exec`. -/
def kprobeExecTranslatedCode : List (Instruction Symbol) := [
  .alu .mov .r6 (.register .r1),
  .address .r1 .c 0,
  .load .u32 .r2 .r1 0,
  .alu .mov .r3 (.register .r2),
  .alu .add .r3 (.constant 1),
  .store .u32 .r1 0 .r3,
  .alu .mov .r1 (.constant 0),
  .store .u32 .r10 (-8) .r1,
  .store .u32 .r10 (-12) .r1,
  .store .u32 .r10 (-16) .r1,
  .store .u32 .r10 (-20) .r1,
  .store .u32 .r10 (-24) .r1,
  .store .u32 .r10 (-28) .r1,
  .store .u32 .r10 (-4) .r1,
  .store .u32 .r10 (-32) .r2,
  .call 235360,
  .store .u32 .r10 (-40) .r0,
  .call 235920,
  .store .u32 .r10 (-36) .r0,
  .alu .lsh .r0 (.constant 32),
  .alu .rsh .r0 (.constant 32),
  .store .u64 .r10 (-48) .r0,
  .alu .mov .r2 (.register .r10),
  .alu .add .r2 (.constant (-48)),
  .address .r1 .myConfig 0,
  .call 267808,
  .branch .eq .r0 (.constant 0) 1,
  .alu .add .r0 (.constant 56),
  .alu .mov .r7 (.register .r0),
  .branch .eq .r7 (.constant 0) 12,
  .load .u8 .r3 .r7 0,
  .alu .lsh .r3 (.constant 56),
  .alu .arsh .r3 (.constant 56),
  .address .r1 .rodata 0,
  .alu .mov .r2 (.constant 3),
  .call 4294858544,
  .alu .mov .r1 (.register .r10),
  .alu .add .r1 (.constant (-12)),
  .alu .mov .r2 (.constant 12),
  .alu .mov .r3 (.register .r7),
  .jump 5,
  .alu .mov .r1 (.register .r10),
  .alu .add .r1 (.constant (-12)),
  .alu .mov .r2 (.constant 12),
  .address .r3 .message 0,
  .call 4294847104,
  .address .r7 .c 0,
  .load .u32 .r1 .r7 0,
  .branch .gt .r1 (.constant 11) 22,
  .address .r2 .message 0,
  .alu .add .r2 (.register .r1),
  .load .u8 .r3 .r2 0,
  .alu .lsh .r3 (.constant 56),
  .alu .arsh .r3 (.constant 56),
  .address .r1 .rodata 3,
  .alu .mov .r2 (.constant 3),
  .call 4294858544,
  .load .u32 .r1 .r7 0,
  .branch .gt .r1 (.constant 11) 10,
  .alu .mov .r2 (.register .r10),
  .alu .add .r2 (.constant (-40)),
  .alu .add .r2 (.register .r1),
  .load .u8 .r3 .r2 28,
  .alu .lsh .r3 (.constant 56),
  .alu .arsh .r3 (.constant 56),
  .address .r1 .rodata 6,
  .alu .mov .r2 (.constant 3),
  .call 4294858544,
  .alu .mov .r1 (.register .r10),
  .alu .add .r1 (.constant (-28)),
  .alu .mov .r2 (.constant 16),
  .call 236064,
  .alu .mov .r4 (.register .r10),
  .alu .add .r4 (.constant (-40)),
  .alu .mov .r1 (.register .r6),
  .address .r2 .output 0,
  .wide .r3 4294967295,
  .alu .mov .r5 (.constant 40),
  .call 4294857488,
  .alu .mov .r0 (.constant 0),
  .exit]

end EbpfNotes.HelloVerifier
