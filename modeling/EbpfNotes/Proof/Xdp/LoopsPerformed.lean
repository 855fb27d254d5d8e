import EbpfNotes.Construction.BpfLoopEx
import EbpfNotes.Proof.Helpers.LoopCalls
import EbpfNotes.Proof.XdpDropProg.Verdict

namespace EbpfNotes

open Library
open XdpDropProg (xdpDropProg xdpDropProgCalls sumLine IsIpv4)
open BpfLoopEx (xdpParserFunc xdpParserFuncCalls)

/-- The two programs that ask the helper for a loop. -/
inductive LoopProgram where
  | xdpDropProg
  | xdpParserFunc
  deriving DecidableEq, Repr

/-- The number of iterations that the program passes. -/
def LoopProgram.nrLoops : LoopProgram → BitVec 32
  | .xdpDropProg => 100000000
  | .xdpParserFunc => 1

/-- The calls of the callback, or none when the run does not reach the loop. -/
def LoopProgram.calls (program : LoopProgram) (packet : Packet) : Option (List LoopCall) :=
  match program with
  | .xdpDropProg => xdpDropProgCalls packet.context
  | .xdpParserFunc => some (xdpParserFuncCalls packet.context packet.memory)

/-- The trace line of one call. -/
def callLine (call : LoopCall) : Printk :=
  ⟨literal "The value of h_proto is %d", call.index.setWidth 64⟩

theorem xdpDropProgCalls_eq (packet : Packet) :
    xdpDropProgCalls packet.context =
      if packet.bytes.length < 14 then none else some (loopCalls 100000000 XdpDropProg.doCheck [] 0) := by
  unfold xdpDropProgCalls
  by_cases short : packet.bytes.length < 14
  · rw [if_pos short]
    exact if_pos ((XdpDropProg.short_iff packet).mpr short)
  · rw [if_neg short]
    exact if_neg (mt (XdpDropProg.short_iff packet).mp short)

/-- The calls are those of the run: each of them leaves its trace line. -/
theorem xdpDropProg_printed (endian : Endian) (packet : Packet) (hProto : BitVec 16)
    {calls : List LoopCall} (reached : xdpDropProgCalls packet.context = some calls) :
    (xdpDropProg endian packet.context packet.memory hProto).printed =
      calls.map callLine ++ if IsIpv4 packet.bytes then [sumLine hProto] else [] := by
  rw [xdpDropProgCalls_eq] at reached
  rw [XdpDropProg.xdpDropProg_eq]
  by_cases short : packet.bytes.length < 14
  · rw [if_pos short] at reached
    cases reached
  · rw [if_neg short] at reached ⊢
    rw [← Option.some.inj reached, loopCalls_refused _ _ (by decide)]
    rfl

/-- The loop is performed exactly for `xdpParserFunc` and for the packets that `xdpDropProg` drops before
its loop, whose number of iterations is above the limit of the helper. -/
theorem loops_performed_iff (program : LoopProgram) (packet : Packet) :
    (∀ calls, program.calls packet = some calls → Performed program.nrLoops.toNat calls) ↔
      program = .xdpParserFunc ∨ packet.bytes.length < 14 := by
  cases program with
  | xdpParserFunc =>
      apply iff_of_true _ (Or.inl rfl)
      intro calls reached
      obtain rfl := Option.some.inj reached
      exact (performed_iff 1 _ _).mpr (by decide)
  | xdpDropProg =>
      rw [or_iff_right (by decide), LoopProgram.calls, xdpDropProgCalls_eq]
      by_cases short : packet.bytes.length < 14
      · rw [if_pos short]
        exact iff_of_true (fun calls reached => by cases reached) short
      · rw [if_neg short]
        apply iff_of_false _ short
        intro performed
        exact absurd ((performed_iff _ _ _).mp (performed _ rfl)) (by decide)

/-- A packet with an Ethernet header reaches the loop of `xdpDropProg`, and no callback runs. -/
theorem xdpDropProg_performs_no_loop :
    ¬ ∀ (program : LoopProgram) (packet : Packet) (calls : List LoopCall),
      program.calls packet = some calls → Performed program.nrLoops.toNat calls := by
  intro always
  let packet : Packet :=
    ⟨[0xff, 0xff, 0xff, 0xff, 0xff, 0xff, 0, 0, 0, 0, 0, 1, 0x08, 0x00], 4096, fun _ => 0, by decide⟩
  have reached := (xdpDropProgCalls_eq packet).trans (if_neg (by decide))
  have performed := always .xdpDropProg packet _ reached
  exact absurd ((performed_iff _ _ _).mp performed) (by decide)

end EbpfNotes
