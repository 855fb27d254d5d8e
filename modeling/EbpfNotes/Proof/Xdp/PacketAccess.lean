import EbpfNotes.Construction.BpfLoopEx
import EbpfNotes.Construction.XdpDropProg
import EbpfNotes.Proof.Helpers.LoopCalls

namespace EbpfNotes

open Library

/-- The address lies between the two ends of the packet. -/
def XdpMd.Contains (ctx : XdpMd) (address : Word) : Prop :=
  ctx.data.toNat ≤ address.toNat ∧ address.toNat < ctx.dataEnd.toNat

/-- The length check covers both bytes of the protocol. -/
theorem XdpDropProg.xdpDropProg_reads (endian : Endian) (ctx : XdpMd) (memory : Word → Byte)
    (hProto : BitVec 16) :
    ∀ address ∈ (XdpDropProg.xdpDropProg endian ctx memory hProto).reads, ctx.Contains address := by
  have header : (ctx.data.setWidth 64 + XdpDropProg.ethhdrSize : Word).toNat = ctx.data.toNat + 14 :=
    toNat_pointer_add ctx.data 14
  have first : (ctx.data.setWidth 64 + XdpDropProg.hProtoOffset : Word).toNat = ctx.data.toNat + 12 :=
    toNat_pointer_add ctx.data 12
  have second : (ctx.data.setWidth 64 + XdpDropProg.hProtoOffset + 1 : Word).toNat =
      ctx.data.toNat + 13 := by
    rw [BitVec.add_assoc]
    exact toNat_pointer_add ctx.data 13
  intro address member
  simp only [XdpDropProg.xdpDropProg, BitVec.lt_def, header, toNat_pointer] at member
  split at member
  · cases member
  · simp only [List.mem_cons, List.not_mem_nil, or_false] at member
    rcases member with rfl | rfl
    · constructor <;> omega
    · constructor <;> omega

/-- A call reads at most the byte that it has compared with both ends. -/
theorem BpfLoopEx.doCheck_reads (ctx : XdpMd) (memory : Word → Byte) (index : BitVec 32)
    {reads : List Word} (inside : ∀ address ∈ reads, ctx.Contains address) :
    ∀ address ∈ (BpfLoopEx.doCheck memory ⟨ctx⟩ index reads).2, ctx.Contains address := by
  have appended (compared : (ctx.data.setWidth 64 : Word) ≤ ctx.data.setWidth 64 + 100 ∧
      (ctx.data.setWidth 64 + 100 : Word) < ctx.dataEnd.setWidth 64) :
      ∀ address ∈ reads ++ [ctx.data.setWidth 64 + 100], ctx.Contains address := by
    intro address member
    rcases List.mem_append.mp member with old | new
    · exact inside address old
    · rw [List.mem_singleton.mp new]
      rw [BitVec.le_def, BitVec.lt_def, toNat_pointer, toNat_pointer] at compared
      exact compared
  simp only [BpfLoopEx.doCheck]
  split
  · split
    · next compared => split <;> exact appended compared
    · exact inside
  · exact inside

/-- All calls of a loop read inside of the packet. -/
theorem BpfLoopEx.bpfLoop_reads (ctx : XdpMd) (memory : Word → Byte) (nrLoops : BitVec 32) :
    ∀ address ∈ (bpfLoop nrLoops (BpfLoopEx.doCheck memory ⟨ctx⟩) [] 0).2, ctx.Contains address :=
  bpfLoop_invariant (fun reads => ∀ address ∈ reads, ctx.Contains address)
    (fun index _ inside => BpfLoopEx.doCheck_reads ctx memory index inside) nrLoops 0
    (List.forall_mem_nil _)

/-- Every packet byte that the two programs read lies between the ends of the packet, and none of the
pointer sums wraps. -/
theorem packet_accesses (endian : Endian) (ctx : XdpMd) (memory : Word → Byte) (hProto : BitVec 16)
    (index nrLoops : BitVec 32) :
    (∀ address ∈ (XdpDropProg.xdpDropProg endian ctx memory hProto).reads, ctx.Contains address) ∧
    (∀ address ∈ (BpfLoopEx.doCheck memory ⟨ctx⟩ index []).2, ctx.Contains address) ∧
    (∀ address ∈ (bpfLoop nrLoops (BpfLoopEx.doCheck memory ⟨ctx⟩) [] 0).2, ctx.Contains address) ∧
    (ctx.data.setWidth 64 + XdpDropProg.ethhdrSize : Word).toNat = ctx.data.toNat + 14 ∧
    (ctx.data.setWidth 64 + index.setWidth 64 : Word).toNat = ctx.data.toNat + index.toNat ∧
    (ctx.data.setWidth 64 + 100 : Word).toNat = ctx.data.toNat + 100 := by
  refine ⟨XdpDropProg.xdpDropProg_reads endian ctx memory hProto, ?_,
    BpfLoopEx.bpfLoop_reads ctx memory nrLoops, toNat_pointer_add ctx.data 14,
    toNat_pointer_add ctx.data index, toNat_pointer_add ctx.data 100⟩
  exact BpfLoopEx.doCheck_reads ctx memory index (List.forall_mem_nil _)

end EbpfNotes
