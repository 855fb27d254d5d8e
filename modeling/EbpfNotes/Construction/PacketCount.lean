/-
This file models `packet_count/packet_count.bpf.c` and `error_packet_count/error_packet_count.bpf.c`.
-/

import EbpfNotes.Construction.Helpers
import EbpfNotes.Construction.Packet
import EbpfNotes.Library.Interleaving

namespace EbpfNotes.PacketCount

open Library

/-- The initial value of the global `counter`. -/
def initialCounter : BitVec 32 := 0

/-- The trace line of a packet shows the counter as an `int`. -/
def counterLine (counter : BitVec 32) : Printk := ⟨literal "%d", counter.signExtend 64⟩

/-- A function without a result has no verdict. -/
structure Result where
  verdict : Option (BitVec 32)
  counter : BitVec 32
  printed : List Printk
  deriving DecidableEq, Repr

/-- Both programs print the counter and increment it, and only one of them returns a verdict. -/
def count (verdict : Option (BitVec 32)) (counter : BitVec 32) : Result :=
  ⟨verdict, counter + 1, [counterLine counter]⟩

def packetCount : BitVec 32 → Result := count (some XDP_PASS)

def errorPacketCount : BitVec 32 → Result := count none

/-- The counter that the given number of packets leaves after the load. -/
def packetCountRun : Nat → BitVec 32
  | 0 => initialCounter
  | packets + 1 => (packetCount (packetCountRun packets)).counter

/-- The counter is read twice and then written. -/
inductive Phase where
  | start
  | printed
  | loaded (value : BitVec 32)
  | done (verdict : Option (BitVec 32))
  deriving DecidableEq, Repr

/-- An invocation keeps the trace lines that it has sent. -/
structure Invocation where
  phase : Phase
  lines : List Printk
  deriving DecidableEq, Repr

/-- Each read and the write of the shared counter is one step. -/
def countStep (verdict : Option (BitVec 32)) : Protocol (BitVec 32) Invocation :=
  fun counter invocation =>
    match invocation.phase with
    | .start =>
      some (counter, { invocation with
        phase := .printed
        lines := invocation.lines ++ [counterLine counter] })
    | .printed => some (counter, { invocation with phase := .loaded counter })
    | .loaded value => some (value + 1, { invocation with phase := .done verdict })
    | .done _ => none

def packetCountStep : Protocol (BitVec 32) Invocation := countStep (some XDP_PASS)

def errorPacketCountStep : Protocol (BitVec 32) Invocation := countStep none

/-- All invocations start on the loaded counter. -/
def initial (packets : Nat) : Configuration (BitVec 32) Invocation :=
  ⟨initialCounter, List.replicate packets ⟨.start, []⟩⟩

/-- The invocation has printed the counter and has not yet written it. -/
def Invocation.active (invocation : Invocation) : Bool :=
  match invocation.phase with
  | .printed | .loaded _ => true
  | _ => false

def Invocation.finished (invocation : Invocation) : Bool :=
  match invocation.phase with
  | .done _ => true
  | _ => false

/-- The numbers that the invocations have printed. -/
def printedValues (config : Configuration (BitVec 32) Invocation) : List Int :=
  config.invocations.flatMap fun invocation => invocation.lines.map Printk.decimal

end EbpfNotes.PacketCount
