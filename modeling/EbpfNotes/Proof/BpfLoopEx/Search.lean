import EbpfNotes.Construction.BpfLoopEx
import EbpfNotes.Proof.Helpers.LoopCalls

namespace EbpfNotes.BpfLoopEx

open Library

/-- The verdict of a call depends on its index and on byte 100 of the packet. -/
def checkVerdict (packet : Packet) (index : BitVec 32) : BitVec 32 :=
  if (0 < index ∧ index ≤ 100) ∧ packet.bytes[100]? = some 123 then 1 else 0

/-- The two comparisons let exactly the packets with a byte 100 through. -/
theorem thisByte_inside (packet : Packet) :
    ((packet.context.data.setWidth 64 : Word) ≤ packet.context.data.setWidth 64 + 100 ∧
      (packet.context.data.setWidth 64 + 100 : Word) < packet.context.dataEnd.setWidth 64) ↔
      100 < packet.bytes.length := by
  have offset : (packet.context.data.setWidth 64 + 100 : Word).toNat = packet.data.toNat + 100 :=
    packet.offset_toNat (by decide)
  rw [BitVec.le_def, BitVec.lt_def, offset, packet.data_toNat, packet.dataEnd_toNat]
  omega

/-- A call compares byte 100 of the packet, whatever its index is. -/
theorem doCheck_verdict (packet : Packet) (index : BitVec 32) (reads : List Word) :
    (doCheck packet.memory ⟨packet.context⟩ index reads).1 = checkVerdict packet index := by
  unfold doCheck checkVerdict
  by_cases checked : 0 < index ∧ index ≤ 100
  · simp only [if_pos checked, and_iff_right checked]
    by_cases inside : 100 < packet.bytes.length
    · have byte : packet.memory (packet.context.data.setWidth 64 + 100) = packet.bytes[100] :=
        packet.memory_offset inside
      simp only [if_pos ((thisByte_inside packet).mpr inside), byte, List.getElem?_eq_getElem inside,
        Option.some_inj]
      split <;> rfl
    · have missing : packet.bytes[100]? ≠ some 123 := by
        rw [List.getElem?_eq_none (by omega)]
        exact nofun
      simp only [if_neg (mt (thisByte_inside packet).mp inside), if_neg missing]
  · simp only [if_neg checked, if_neg fun both => checked (And.left both)]

theorem checkVerdict_iff (packet : Packet) {index : Nat} (small : index < 2 ^ 32) :
    checkVerdict packet (BitVec.ofNat 32 index) = 1 ↔
      (0 < index ∧ index ≤ 100) ∧ packet.bytes[100]? = some 123 := by
  have range : ((0 : BitVec 32) < BitVec.ofNat 32 index ∧ BitVec.ofNat 32 index ≤ 100) ↔
      0 < index ∧ index ≤ 100 := by
    rw [BitVec.lt_def, BitVec.le_def, BitVec.toNat_ofNat, Nat.mod_eq_of_lt small]
    rfl
  rw [checkVerdict, ← range]
  split
  · next holds => exact iff_of_true rfl holds
  · next fails => exact iff_of_false (by decide) fails

/-- A loop covers an offset of the packet that holds 123. -/
def Covers (packet : Packet) (nrLoops offset : Nat) : Prop :=
  1 ≤ offset ∧ offset ≤ 100 ∧ offset < nrLoops ∧ packet.bytes[offset]? = some 123

instance (packet : Packet) (nrLoops offset : Nat) : Decidable (Covers packet nrLoops offset) :=
  inferInstanceAs (Decidable (_ ∧ _))

/-- The loop performs its calls, and it stops early exactly at index one when byte 100 is 123. -/
theorem doCheck_stopsAt (packet : Packet) (nrLoops : BitVec 32)
    (accepted : nrLoops.toNat ≤ BPF_MAX_LOOPS) :
    let calls := loopCalls nrLoops (doCheck packet.memory ⟨packet.context⟩) [] 0
    Performed nrLoops.toNat calls ∧
      ∀ index, StopsAt calls index ↔
        index = 1 ∧ 2 ≤ nrLoops.toNat ∧ packet.bytes[100]? = some 123 := by
  have performed := (performed_iff nrLoops (doCheck packet.memory ⟨packet.context⟩) []).mpr accepted
  apply And.intro performed
  intro index
  have bound := nrLoops.isLt
  rw [loopCalls_eq _ _ accepted, callsFrom_stopsAt (doCheck_verdict packet)]
  constructor
  · intro stops
    obtain ⟨stop, _, before, rfl, one, first⟩ := stops
    obtain ⟨⟨positive, small⟩, byte⟩ := (checkVerdict_iff packet (by omega)).mp one
    have earliest : stop = 1 := by
      by_contra other
      exact first 1 (by decide) (by omega) ((checkVerdict_iff packet (by decide)).mpr ⟨by decide, byte⟩)
    subst earliest
    exact ⟨rfl, by omega, byte⟩
  · intro found
    obtain ⟨rfl, several, byte⟩ := found
    refine ⟨1, by decide, by omega, rfl, (checkVerdict_iff packet (by decide)).mpr ⟨by decide, byte⟩, ?_⟩
    intro earlier _ before one
    obtain ⟨⟨positive, _⟩, _⟩ := (checkVerdict_iff packet (by omega)).mp one
    omega

/-- A packet of 101 bytes with a last byte 123 stops a loop of ten iterations at index one. -/
theorem doCheck_stopsAt_hundred :
    let packet : Packet := ⟨List.replicate 100 0 ++ [123], 4096, fun _ => 0, by decide⟩
    let calls := loopCalls 10 (doCheck packet.memory ⟨packet.context⟩) [] 0
    Performed 10 calls ∧
      ∀ index, StopsAt calls index ↔ index = 1 ∧ 2 ≤ 10 ∧ packet.bytes[100]? = some 123 :=
  doCheck_stopsAt ⟨List.replicate 100 0 ++ [123], 4096, fun _ => 0, by decide⟩ 10 (by decide)

/-- A byte 123 at offset one does not stop the loop. -/
theorem doCheck_misses_byte :
    ¬ ∀ (packet : Packet) (nrLoops : BitVec 32), nrLoops.toNat ≤ BPF_MAX_LOOPS →
      ∀ index, StopsAt (loopCalls nrLoops (doCheck packet.memory ⟨packet.context⟩) [] 0) index ↔
        Covers packet nrLoops.toNat index.toNat ∧
          ∀ earlier < index.toNat, ¬ Covers packet nrLoops.toNat earlier := by
  intro always
  have stops := (always ⟨[0, 123], 4096, fun _ => 0, by decide⟩ 2 (by decide) 1).mpr (by decide)
  exact absurd stops (by unfold StopsAt; decide +kernel)

end EbpfNotes.BpfLoopEx
