import EbpfNotes.Construction.XdpDropProg

namespace EbpfNotes.XdpDropProg

open Library

/-- The length check fails exactly on the packets that are shorter than the header. -/
theorem short_iff (packet : Packet) :
    (packet.context.dataEnd.setWidth 64 : Word) < packet.context.data.setWidth 64 + ethhdrSize ↔
      packet.bytes.length < 14 := by
  have header : (packet.context.data.setWidth 64 + ethhdrSize : Word).toNat = packet.data.toNat + 14 :=
    packet.offset_toNat (by decide)
  rw [BitVec.lt_def, header, packet.dataEnd_toNat]
  omega

/-- Two loaded bytes are a value in network order exactly when the first is its high byte. -/
theorem load_eq_htons (endian : Endian) (bytes : Nat → Byte) (value : BitVec 16) :
    BitVec.ofNat 16 (endian.load 2 bytes) = htons endian value ↔
      bytes 0 = value.extractLsb' 8 8 ∧ bytes 1 = value.extractLsb' 0 8 := by
  have first := (bytes 0).isLt
  have second := (bytes 1).isLt
  have bound := value.isLt
  have low : (value.extractLsb' 0 8).toNat = value.toNat % 256 := by simp [BitVec.extractLsb'_toNat]
  have high : (value.extractLsb' 8 8).toNat = value.toNat / 256 := by
    simp only [BitVec.extractLsb'_toNat, Nat.shiftRight_eq_div_pow]
    omega
  have swapped : (value.extractLsb' 0 8 ++ value.extractLsb' 8 8 : BitVec 16).toNat =
      256 * (value.toNat % 256) + value.toNat / 256 := by
    rw [BitVec.toNat_append, ← Nat.shiftLeft_add_eq_or_of_lt (BitVec.isLt _), low, high,
      Nat.shiftLeft_eq]
    omega
  cases endian with
  | little =>
      rw [← BitVec.toNat_inj, ← BitVec.toNat_inj, ← BitVec.toNat_inj, htons, low, high, swapped]
      simp only [Endian.load, decode, BitVec.toNat_ofNat, Nat.zero_add]
      rw [Nat.mod_eq_of_lt (by omega)]
      omega
  | big =>
      rw [← BitVec.toNat_inj, ← BitVec.toNat_inj, ← BitVec.toNat_inj, htons, low, high]
      simp only [Endian.load, decode, BitVec.toNat_ofNat, Nat.zero_add, Nat.sub_self, Nat.sub_zero,
        Nat.add_one_sub_one]
      rw [Nat.mod_eq_of_lt (by omega)]
      omega

/-- The load of the protocol compares as IPv4 exactly on IPv4 packets, in both byte orders. -/
theorem hProto_iff (endian : Endian) (packet : Packet) (long : 14 ≤ packet.bytes.length) :
    BitVec.ofNat 16 (endian.load 2 fun index => packet.memory
      (packet.context.data.setWidth 64 + hProtoOffset + BitVec.ofNat 64 index)) =
        htons endian ETH_P_IPV4 ↔ IsIpv4 packet.bytes := by
  have byte (index : Nat) (small : index < 2) : packet.memory
      (packet.context.data.setWidth 64 + hProtoOffset + BitVec.ofNat 64 index) =
        packet.bytes[12 + index] := by
    rw [BitVec.add_assoc, show hProtoOffset = BitVec.ofNat 64 12 from rfl, ← BitVec.ofNat_add,
      packet.memory_offset]
  rw [load_eq_htons, byte 0 (by decide), byte 1 (by decide), IsIpv4,
    List.getElem?_eq_getElem (by omega), List.getElem?_eq_getElem (by omega), Option.some_inj,
    Option.some_inj]
  rfl

/-- The trace line that reports the sum. -/
def sumLine (hProto : BitVec 16) : Printk :=
  ⟨literal "There is an ipv4 packet and sum is %d\n", (sumLoop hProto).2.signExtend 64⟩

/-- A short packet is dropped unread, and a longer one passes after both bytes of the protocol. -/
theorem xdpDropProg_eq (endian : Endian) (packet : Packet) (hProto : BitVec 16) :
    xdpDropProg endian packet.context packet.memory hProto =
      if packet.bytes.length < 14 then ⟨XDP_DROP, [], []⟩
      else ⟨XDP_PASS, if IsIpv4 packet.bytes then [sumLine hProto] else [],
        [packet.context.data.setWidth 64 + hProtoOffset,
          packet.context.data.setWidth 64 + hProtoOffset + 1]⟩ := by
  unfold xdpDropProg
  by_cases short : packet.bytes.length < 14
  · rw [if_pos short]
    exact if_pos ((short_iff packet).mpr short)
  · rw [if_neg short]
    apply (if_neg (mt (short_iff packet).mp short)).trans
    have refused : bpfLoop 100000000 doCheck [] 0 = (errno E2BIG, []) :=
      bpfLoop_refused doCheck [] (by decide)
    simp only [refused, hProto_iff endian packet (by omega)]
    rfl

/-- The verdict is the described one exactly for the short packets and the IPv4 packets. -/
theorem xdpDropProg_verdict_iff (endian : Endian) (packet : Packet) (hProto : BitVec 16) :
    (xdpDropProg endian packet.context packet.memory hProto).verdict = ipv4Filter packet.bytes ↔
      packet.bytes.length < 14 ∨ IsIpv4 packet.bytes := by
  rw [xdpDropProg_eq]
  by_cases short : packet.bytes.length < 14
  · have described : ipv4Filter packet.bytes = XDP_DROP := if_neg fun passes => by omega
    rw [if_pos short, described]
    exact iff_of_true rfl (Or.inl short)
  · rw [if_neg short]
    by_cases ipv4 : IsIpv4 packet.bytes
    · have described : ipv4Filter packet.bytes = XDP_PASS := if_pos ⟨by omega, ipv4⟩
      rw [described]
      exact iff_of_true rfl (Or.inr ipv4)
    · have described : ipv4Filter packet.bytes = XDP_DROP := if_neg fun passes => ipv4 passes.2
      have passes : XDP_PASS ≠ XDP_DROP := by decide
      rw [described]
      exact iff_of_false passes (not_or.mpr ⟨short, ipv4⟩)

/-- An IPv6 header passes, although the described filter drops it. -/
theorem xdpDropProg_passes_ipv6 :
    ¬ ∀ (endian : Endian) (packet : Packet) (hProto : BitVec 16),
      (xdpDropProg endian packet.context packet.memory hProto).verdict = ipv4Filter packet.bytes := by
  intro described
  have verdict := described .little
    ⟨[0xff, 0xff, 0xff, 0xff, 0xff, 0xff, 0, 0, 0, 0, 0, 1, 0x86, 0xdd], 4096, fun _ => 0, by decide⟩ 0
  rw [xdpDropProg_eq] at verdict
  exact absurd verdict (by decide)

end EbpfNotes.XdpDropProg
