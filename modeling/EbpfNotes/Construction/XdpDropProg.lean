/-
This file models `xdp_drop_prog/xdp_drop_prog.bpf.c`.
-/

import EbpfNotes.Construction.Packet

namespace EbpfNotes.XdpDropProg

open Library

def ETH_P_IPV4 : BitVec 16 := 0x0800

/-- The size of `struct ethhdr`. -/
def ethhdrSize : Word := 14

/-- The offset of `h_proto` in `struct ethhdr`. -/
def hProtoOffset : Word := 12

/-- A run gives its verdict, its trace lines and the packet addresses that it reads. -/
structure Result where
  verdict : BitVec 32
  printed : List Printk
  reads : List Word
  deriving DecidableEq, Repr

def doCheck (index : BitVec 32) (printed : List Printk) : BitVec 32 × List Printk :=
  (0, printed ++ [⟨literal "The value of h_proto is %d", index.setWidth 64⟩])

/-- One pass of the loop stores an element and adds it to the sum. -/
def sumStep (hProto : BitVec 16) (state : Vector (BitVec 32) 1024 × BitVec 32) (i : Fin 1024) :
    Vector (BitVec 32) 1024 × BitVec 32 :=
  let arr := state.1.set i (BitVec.ofNat 32 i + hProto.setWidth 32)
  (arr, state.2 + arr[i])

/-- The initialiser of the array gives its first element, and the rest is zero. -/
def sumLoop (hProto : BitVec 16) : Vector (BitVec 32) 1024 × BitVec 32 :=
  (List.finRange 1024).foldl (sumStep hProto) ((Vector.replicate 1024 0).set 0 1, 0)

/-- The array and the sum after the given number of passes. -/
def sumAfter (hProto : BitVec 16) (passes : Nat) : Vector (BitVec 32) 1024 × BitVec 32 :=
  ((List.finRange 1024).take passes).foldl (sumStep hProto) ((Vector.replicate 1024 0).set 0 1, 0)

/-- The condition has no braces, so it guards the trace line and every longer packet passes. -/
def xdpDropProg (endian : Endian) (ctx : XdpMd) (memory : Word → Byte) (hProto : BitVec 16) :
    Result :=
  let dataEnd : Word := ctx.dataEnd.setWidth 64
  let data : Word := ctx.data.setWidth 64
  let sum := (sumLoop hProto).2
  if dataEnd < data + ethhdrSize then ⟨XDP_DROP, [], []⟩
  else
    let address := data + hProtoOffset
    let hProto := BitVec.ofNat 16 (endian.load 2 fun index => memory (address + BitVec.ofNat 64 index))
    let (_, printed) := bpfLoop 100000000 doCheck [] 0
    let printed :=
      if hProto = htons endian ETH_P_IPV4 then
        printed ++ [⟨literal "There is an ipv4 packet and sum is %d\n", sum.signExtend 64⟩]
      else printed
    ⟨XDP_PASS, printed, [address, address + 1]⟩

/-- The calls of `doCheck` in a run of `xdpDropProg`, or none when the run returns before the loop. -/
def xdpDropProgCalls (ctx : XdpMd) : Option (List LoopCall) :=
  let dataEnd : Word := ctx.dataEnd.setWidth 64
  let data : Word := ctx.data.setWidth 64
  if dataEnd < data + ethhdrSize then none else some (loopCalls 100000000 doCheck [] 0)

/-- The type field of the Ethernet header names IPv4. -/
def IsIpv4 (bytes : List Byte) : Prop := bytes[12]? = some 0x08 ∧ bytes[13]? = some 0x00

instance (bytes : List Byte) : Decidable (IsIpv4 bytes) := inferInstanceAs (Decidable (_ ∧ _))

/-- The filter as it is described: only IPv4 packets pass. -/
def ipv4Filter (bytes : List Byte) : BitVec 32 :=
  if 14 ≤ bytes.length ∧ IsIpv4 bytes then XDP_PASS else XDP_DROP

end EbpfNotes.XdpDropProg
