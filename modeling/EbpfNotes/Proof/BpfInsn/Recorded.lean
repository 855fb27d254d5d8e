import EbpfNotes.Proof.BpfInsn.Execution
import EbpfNotes.Proof.HashMapExample.Bytecode
import EbpfNotes.Proof.HelloVerifier.Translated

namespace EbpfNotes

open Library

section Reaches

variable {Symbol Name Kernel : Type} {live : List Name} {size : Name → Nat} [DecidableEq Name]

/-- The series that the bytes of a section show takes the first outcome to the second one. -/
def SectionReaches (world : World Symbol Name Kernel live size) (programSection : ProgramSection Symbol)
    (first second : Outcome Name Kernel) : Prop :=
  ∃ insns fuel, programSection.insns = some insns ∧ executeInsns world insns fuel first = second

/-- The bytes of an encodable program reach what the program reaches. -/
theorem assembled_reaches {world : World Symbol Name Kernel live size} {program : List (Instruction Symbol)}
    {programSection : ProgramSection Symbol} (listing : disassemble programSection = some program)
    {first second : Outcome Name Kernel} (reaches : Reaches world program first second) :
    SectionReaches world programSection first second := by
  obtain ⟨encodable, written⟩ := (disassemble_written programSection program).mp listing
  obtain ⟨fuel, ran⟩ := reaches
  refine ⟨(instructionFormat Symbol).writeAll program, fuel, (insns_iff _ _).mpr written, ?_⟩
  rw [executeInsns_eq encodable, ran]

end Reaches

/-- The recorded bytes of each object file are the bytes of its listing. -/
theorem helloSection_listing :
    disassemble HashMapExample.helloSection = some HashMapExample.objectCode := by
  decide +kernel

theorem kprobeExecSection_listing :
    disassemble HelloVerifier.kprobeExecSection = some HelloVerifier.kprobeExecCode := by
  decide +kernel

theorem packetCountSection_listing :
    disassemble PacketCount.packetCountSection = some PacketCount.objectCode := by
  decide +kernel

theorem floatSection_listing : disassemble PacketCount.floatSection = some PacketCount.floatCode := by
  decide +kernel

theorem xdpDropProgSection_listing :
    disassemble XdpDropProg.xdpDropProgSection = some XdpDropProg.xdpDropProgCode := by
  decide +kernel

/-- The bytes of `hello` leave the accesses of the source, the bytes of `kprobe_exec` send its lines and
its record and leave its global variables, and the bytes of the other programs are their listings. -/
theorem recorded_refine {table : HashMapExample.CounterTable} {uidGid : Word}
    (first : HashMapExample.Environment table uidGid 0) {myConfig : HelloVerifier.MyConfig}
    {globals : HelloVerifier.Globals} {event : HelloVerifier.Event}
    (second : HelloVerifier.Environment myConfig globals event) :
    (∃ final, SectionReaches (first.world first.objectHelper) HashMapExample.helloSection
        (.running 0 first.initial) (.exited final) ∧
      final.registers .r0 = 0 ∧ final.kernel = (HashMapExample.hello ⟨table, []⟩ uidGid).2) ∧
    (∃ final result, SectionReaches second.world HelloVerifier.kprobeExecSection
        (.running 0 second.initial) (.exited final) ∧
      HelloVerifier.kprobeExec .little myConfig globals event = some result ∧
      final.registers .r0 = 0 ∧
      final.kernel = result.actions.filterMap (HelloVerifier.Action.observed second.ctx) ∧
      final.contents.read .c 0 4 = littleBytes 4 result.globals.c.toNat ∧
      final.contents.read .message 0 12 = result.globals.message.toList) ∧
    disassemble PacketCount.packetCountSection = some PacketCount.objectCode ∧
    disassemble PacketCount.floatSection = some PacketCount.floatCode ∧
    disassemble XdpDropProg.xdpDropProgSection = some XdpDropProg.xdpDropProgCode := by
  obtain ⟨hello, helloReaches, helloFinished⟩ := HashMapExample.objectCode_refines first
  obtain ⟨final, reaches, zero, stage⟩ := HelloVerifier.kprobeExecCode_final second
  have helloRan := assembled_reaches helloSection_listing helloReaches
  have kprobeRan := assembled_reaches kprobeExecSection_listing reaches
  have source := HelloVerifier.kprobeExec_eq .little myConfig globals event
  have message : final.contents.read .message 0 12 = globals.message.toList := stage.message
  exact ⟨⟨hello, helloRan, helloFinished⟩,
    ⟨final, _, kprobeRan, source, zero, stage.kernel, stage.counter, message⟩,
    packetCountSection_listing, floatSection_listing, xdpDropProgSection_listing⟩

end EbpfNotes
