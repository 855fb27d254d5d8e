import EbpfNotes.Construction.PacketCount

namespace EbpfNotes.PacketCount

open Library

/-- The next invocation prints the number of the packets before it and leaves their new number. -/
structure Counted (packets : Nat) (result : Result) : Prop where
  printed : result.printed.map Printk.decimal = [(packets : Int)]
  counter : result.counter.toInt = packets + 1

theorem decimal_counterLine (counter : BitVec 32) : (counterLine counter).decimal = counter.toInt :=
  Printk.decimal_signExtend _ _

/-- A run adds its length to the counter modulo the width. -/
theorem packetCountRun_eq (packets : Nat) : packetCountRun packets = BitVec.ofNat 32 packets := by
  induction packets with
  | zero => rfl
  | succ packets ih =>
      rw [packetCountRun, ih, BitVec.ofNat_add]
      rfl

/-- An `int` holds a count exactly while the count is below `2 ^ 31`. -/
theorem toInt_ofNat_iff (count : Nat) : (BitVec.ofNat 32 count).toInt = count ↔ count < 2 ^ 31 := by
  constructor
  · intro exact
    have bound : (BitVec.ofNat 32 count).toInt < 2 ^ 31 := BitVec.toInt_lt
    omega
  · intro small
    have residue : (BitVec.ofNat 32 count).toNat = count := by
      rw [BitVec.toNat_ofNat]
      omega
    rw [BitVec.toInt_eq_toNat_of_lt (by omega), residue]

/-- After any number of packets the next invocation counts exactly while the new number is an `int`. -/
theorem packetCount_counted_iff (packets : Nat) :
    Counted packets (packetCount (packetCountRun packets)) ↔ packets + 1 < 2 ^ 31 := by
  have printed : (packetCount (packetCountRun packets)).printed.map Printk.decimal =
      [(BitVec.ofNat 32 packets).toInt] := by
    rw [packetCountRun_eq, ← decimal_counterLine]
    rfl
  have counter : (packetCount (packetCountRun packets)).counter = BitVec.ofNat 32 (packets + 1) :=
    packetCountRun_eq (packets + 1)
  rw [← toInt_ofNat_iff, ← counter, Nat.cast_add, Nat.cast_one]
  constructor
  · exact Counted.counter
  · intro exact
    have small : packets < 2 ^ 31 := by
      rw [counter] at exact
      have bound := (toInt_ofNat_iff (packets + 1)).mp (by rw [exact, Nat.cast_add, Nat.cast_one])
      omega
    exact ⟨by rw [printed, (toInt_ofNat_iff packets).mpr small], exact⟩

/-- The packet after `2 ^ 31 - 1` others leaves a negative counter. -/
theorem packetCount_overflows :
    ¬ ∀ packets : Nat, Counted packets (packetCount (packetCountRun packets)) := by
  intro always
  have counter := (always (2 ^ 31 - 1)).counter
  rw [packetCountRun_eq] at counter
  exact absurd counter (by decide)

end EbpfNotes.PacketCount
