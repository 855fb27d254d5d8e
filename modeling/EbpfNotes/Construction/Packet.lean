/-
This file models the context of an XDP program and the packet that it describes.
-/

import EbpfNotes.Construction.Helpers

namespace EbpfNotes

open Library

def XDP_DROP : BitVec 32 := 1

def XDP_PASS : BitVec 32 := 2

/-- The context gives the two ends of the packet as 32-bit addresses. -/
structure XdpMd where
  data : BitVec 32
  dataEnd : BitVec 32
  deriving DecidableEq, Repr

/-- A 32-bit address keeps its value in 64 bits. -/
theorem toNat_pointer (data : BitVec 32) : (data.setWidth 64 : Word).toNat = data.toNat :=
  BitVec.toNat_setWidth_of_le (by decide)

/-- The sum of two 32-bit numbers does not wrap in 64 bits. -/
theorem toNat_pointer_add (data offset : BitVec 32) :
    (data.setWidth 64 + offset.setWidth 64 : Word).toNat = data.toNat + offset.toNat := by
  have dataBound := data.isLt
  have offsetBound := offset.isLt
  rw [BitVec.toNat_add, toNat_pointer, toNat_pointer]
  omega

/-- A packet lies in memory so that its end has a 32-bit address. -/
structure Packet where
  bytes : List Byte
  data : BitVec 32
  outside : Word → Byte
  fits : data.toNat + bytes.length < 2 ^ 32

namespace Packet

def context (packet : Packet) : XdpMd :=
  ⟨packet.data, packet.data + BitVec.ofNat 32 packet.bytes.length⟩

/-- The packet occupies its own addresses and the rest of the memory is arbitrary. -/
def memory (packet : Packet) (address : Word) : Byte :=
  if packet.data.toNat ≤ address.toNat then
    packet.bytes.getD (address.toNat - packet.data.toNat) (packet.outside address)
  else packet.outside address

theorem data_toNat (packet : Packet) :
    (packet.context.data.setWidth 64 : Word).toNat = packet.data.toNat := toNat_pointer packet.data

theorem dataEnd_toNat (packet : Packet) :
    (packet.context.dataEnd.setWidth 64 : Word).toNat = packet.data.toNat + packet.bytes.length := by
  have fits := packet.fits
  simp only [context, toNat_pointer, BitVec.toNat_add, BitVec.toNat_ofNat]
  omega

/-- A small offset from the start of the packet does not wrap. -/
theorem offset_toNat (packet : Packet) {offset : Nat} (small : offset < 2 ^ 32) :
    (packet.context.data.setWidth 64 + BitVec.ofNat 64 offset : Word).toNat =
      packet.data.toNat + offset := by
  have bound := packet.data.isLt
  rw [BitVec.toNat_add, data_toNat, BitVec.toNat_ofNat]
  omega

/-- An offset from the start of the packet addresses a byte of the packet. -/
theorem memory_offset (packet : Packet) {offset : Nat} (inside : offset < packet.bytes.length) :
    packet.memory (packet.context.data.setWidth 64 + BitVec.ofNat 64 offset) =
      packet.bytes[offset] := by
  have fits := packet.fits
  rw [memory, offset_toNat packet (by omega), if_pos (Nat.le_add_right _ _), Nat.add_sub_cancel_left,
    List.getD_eq_getElem?_getD, List.getElem?_eq_getElem inside, Option.getD_some]

end Packet

end EbpfNotes
