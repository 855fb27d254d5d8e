import EbpfNotes.Proof.XdpDropProg.Verdict
import Mathlib.Algebra.BigOperators.Intervals

namespace EbpfNotes.XdpDropProg

open Library

/-- No addition of the loop leaves the range of `int`. -/
structure Exact (hProto : BitVec 16) : Prop where
  element : ∀ i < 1024, (BitVec.ofNat 32 i + hProto.setWidth 32 : BitVec 32).toInt = i + hProto.toNat
  sum : ∀ passes ≤ 1024, (sumAfter hProto passes).2.toInt =
    ∑ i ∈ Finset.range passes, ((i : Int) + hProto.toNat)

/-- The protocol field of the packet, as the target loads it. -/
def packetProto (endian : Endian) (packet : Packet) : BitVec 16 :=
  BitVec.ofNat 16 (endian.load 2 fun index => packet.bytes.getD (12 + index) 0)

def sumFormat : List Byte := literal "There is an ipv4 packet and sum is %d\n"

/-- The numbers in the trace lines that report a sum. -/
def reportedSums (printed : List Printk) : List Int :=
  (printed.filter fun line => line.format = sumFormat).map Printk.decimal

/-- Two runs on one packet agree, and both report the sum of the packet's own protocol field. -/
structure Reported (endian : Endian) (packet : Packet) (first second : BitVec 16) : Prop where
  verdict : (xdpDropProg endian packet.context packet.memory first).verdict =
    (xdpDropProg endian packet.context packet.memory second).verdict
  printed : (xdpDropProg endian packet.context packet.memory first).printed =
    (xdpDropProg endian packet.context packet.memory second).printed
  sum : 14 ≤ packet.bytes.length → IsIpv4 packet.bytes → ∀ hProto ∈ [first, second],
    reportedSums (xdpDropProg endian packet.context packet.memory hProto).printed =
      [∑ i ∈ Finset.range 1024, ((i : Int) + (packetProto endian packet).toNat)] ∧ Exact hProto

theorem sumAfter_succ (hProto : BitVec 16) {passes : Nat} (inside : passes < 1024) :
    sumAfter hProto (passes + 1) = sumStep hProto (sumAfter hProto passes) ⟨passes, inside⟩ := by
  have listed : passes < (List.finRange 1024).length := by rwa [List.length_finRange]
  rw [sumAfter, List.take_succ_eq_append_getElem listed, List.foldl_append, List.getElem_finRange]
  rfl

/-- One pass adds the index and the protocol to the sum. -/
theorem sumStep_sum (hProto : BitVec 16) (state : Vector (BitVec 32) 1024 × BitVec 32) (i : Fin 1024) :
    (sumStep hProto state i).2 = state.2 + (BitVec.ofNat 32 i + hProto.setWidth 32) := by
  simp [sumStep]

theorem element_toNat (hProto : BitVec 16) {i : Nat} (inside : i < 1024) :
    (BitVec.ofNat 32 i + hProto.setWidth 32 : BitVec 32).toNat = i + hProto.toNat := by
  have bound := hProto.isLt
  rw [BitVec.toNat_add, BitVec.toNat_ofNat, BitVec.toNat_setWidth]
  omega

/-- The sums of all passes stay far below the largest `int`. -/
theorem sum_lt (hProto : BitVec 16) {passes : Nat} (inside : passes ≤ 1024) :
    ∑ i ∈ Finset.range passes, (i + hProto.toNat) < 2 ^ 31 := by
  have bound := hProto.isLt
  calc ∑ i ∈ Finset.range passes, (i + hProto.toNat)
      ≤ (Finset.range passes).card • (1024 + 65536) := by
        apply Finset.sum_le_card_nsmul
        intro i member
        rw [Finset.mem_range] at member
        omega
    _ = passes * 66560 := by rw [Finset.card_range, smul_eq_mul]
    _ < 2 ^ 31 := by omega

theorem sumAfter_toNat (hProto : BitVec 16) {passes : Nat} (inside : passes ≤ 1024) :
    (sumAfter hProto passes).2.toNat = ∑ i ∈ Finset.range passes, (i + hProto.toNat) := by
  induction passes with
  | zero => rfl
  | succ passes ih =>
      have small := sum_lt hProto inside
      rw [Finset.sum_range_succ] at small
      rw [sumAfter_succ hProto inside, sumStep_sum, BitVec.toNat_add, ih (by omega),
        element_toNat hProto inside, Finset.sum_range_succ, Nat.mod_eq_of_lt (by omega)]

/-- The loop never overflows, whatever `h_proto` holds. -/
theorem exact (hProto : BitVec 16) : Exact hProto where
  element i inside := by
    have bound := hProto.isLt
    have element := element_toNat hProto inside
    rw [BitVec.toInt_eq_toNat_of_lt (by omega), element, Nat.cast_add]
  sum passes inside := by
    have small := sum_lt hProto inside
    have sum := sumAfter_toNat hProto inside
    rw [BitVec.toInt_eq_toNat_of_lt (by omega), sum, Nat.cast_sum]
    exact Finset.sum_congr rfl fun i _ => Nat.cast_add i _

theorem sumLoop_toInt (hProto : BitVec 16) :
    (sumLoop hProto).2.toInt = ∑ i ∈ Finset.range 1024, ((i : Int) + hProto.toNat) := by
  have whole : sumLoop hProto = sumAfter hProto 1024 := by
    rw [sumLoop, sumAfter, List.take_of_length_le (by rw [List.length_finRange])]
  rw [whole, (exact hProto).sum 1024 le_rfl]

/-- Different protocols have different sums. -/
theorem sum_inj (first second : BitVec 16) :
    ∑ i ∈ Finset.range 1024, ((i : Int) + first.toNat) =
      ∑ i ∈ Finset.range 1024, ((i : Int) + second.toNat) ↔ first = second := by
  rw [Finset.sum_add_distrib, Finset.sum_add_distrib, Finset.sum_const, Finset.sum_const,
    Finset.card_range, nsmul_eq_mul, nsmul_eq_mul, ← BitVec.toNat_inj]
  omega

theorem reportedSums_sumLine (hProto : BitVec 16) :
    reportedSums [sumLine hProto] = [∑ i ∈ Finset.range 1024, ((i : Int) + hProto.toNat)] := by
  have kept : (sumLine hProto).format = sumFormat := rfl
  simp only [reportedSums, List.filter_cons, kept, decide_true, if_true, List.filter_nil,
    List.map_singleton]
  rw [← sumLoop_toInt, sumLine, Printk.decimal_signExtend]

/-- The runs agree and report the packet's sum exactly when no sum is reported or the local variable
already held the protocol of the packet in both runs. -/
theorem xdpDropProg_reported_iff (endian : Endian) (packet : Packet) (first second : BitVec 16) :
    Reported endian packet first second ↔
      packet.bytes.length < 14 ∨ ¬ IsIpv4 packet.bytes ∨
        first = packetProto endian packet ∧ second = packetProto endian packet := by
  by_cases reports : 14 ≤ packet.bytes.length ∧ IsIpv4 packet.bytes
  · have printed (hProto : BitVec 16) :
        (xdpDropProg endian packet.context packet.memory hProto).printed = [sumLine hProto] := by
      rw [xdpDropProg_eq, if_neg (by omega)]
      exact if_pos reports.2
    rw [or_iff_right (by omega), or_iff_right (not_not.mpr reports.2)]
    constructor
    · intro reported
      have sums (hProto : BitVec 16) (member : hProto ∈ [first, second]) :
          hProto = packetProto endian packet := by
        have sum := (reported.sum reports.1 reports.2 hProto member).1
        rw [printed, reportedSums_sumLine] at sum
        exact (sum_inj _ _).mp (List.cons.inj sum).1
      exact ⟨sums first (by simp), sums second (by simp)⟩
    · intro own
      obtain ⟨rfl, rfl⟩ := own
      constructor
      · rfl
      · rfl
      · intro _ _ hProto member
        have own : hProto = packetProto endian packet := by simpa using member
        rw [own, printed, reportedSums_sumLine]
        exact ⟨rfl, exact _⟩
  · have silent (hProto : BitVec 16) : xdpDropProg endian packet.context packet.memory hProto =
        xdpDropProg endian packet.context packet.memory 0 := by
      rw [xdpDropProg_eq, xdpDropProg_eq]
      by_cases short : packet.bytes.length < 14
      · rw [if_pos short, if_pos short]
      · have other : ¬ IsIpv4 packet.bytes := fun ipv4 => reports ⟨by omega, ipv4⟩
        rw [if_neg other, if_neg other]
    apply iff_of_true
    · constructor
      · rw [silent first, silent second]
      · rw [silent first, silent second]
      · exact fun long ipv4 => absurd ⟨long, ipv4⟩ reports
    · by_cases short : packet.bytes.length < 14
      · exact Or.inl short
      · exact Or.inr (Or.inl fun ipv4 => reports ⟨by omega, ipv4⟩)

/-- Two contents of the stack let one IPv4 packet print two sums. -/
theorem xdpDropProg_sum_varies :
    ¬ ∀ (endian : Endian) (packet : Packet) (first second : BitVec 16),
      Reported endian packet first second := by
  intro always
  have printed := (always .little
    ⟨[0xff, 0xff, 0xff, 0xff, 0xff, 0xff, 0, 0, 0, 0, 0, 1, 0x08, 0x00], 4096, fun _ => 0, by decide⟩
    0 1).printed
  rw [xdpDropProg_eq, xdpDropProg_eq] at printed
  have sums : reportedSums [sumLine 0] = reportedSums [sumLine 1] := congrArg reportedSums printed
  rw [reportedSums_sumLine, reportedSums_sumLine] at sums
  exact absurd ((sum_inj _ _).mp (List.cons.inj sums).1) (by decide)

end EbpfNotes.XdpDropProg
