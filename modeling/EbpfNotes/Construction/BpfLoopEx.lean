/-
This file models `bpf_loop/bpf_loop_ex.bpf.c`.
-/

import EbpfNotes.Construction.Packet

namespace EbpfNotes.BpfLoopEx

open Library

structure ContextT where
  ctx : XdpMd
  deriving DecidableEq, Repr

/-- The result keeps the packet addresses that the callbacks have read. -/
def doCheck (memory : Word → Byte) (searchCtx : ContextT) (index : BitVec 32) (reads : List Word) :
    BitVec 32 × List Word :=
  let data : Word := searchCtx.ctx.data.setWidth 64
  let dataEnd : Word := searchCtx.ctx.dataEnd.setWidth 64
  if 0 < index ∧ index ≤ 100 then
    -- The address `data + index` is overwritten before it is used.
    let thisByte := data + 100
    if data ≤ thisByte ∧ thisByte < dataEnd then
      if memory thisByte = 123 then (1, reads ++ [thisByte]) else (0, reads ++ [thisByte])
    else (0, reads)
  else (0, reads)

structure Result where
  verdict : BitVec 32
  reads : List Word
  deriving DecidableEq, Repr

def xdpParserFunc (ctx : XdpMd) (memory : Word → Byte) : Result :=
  let searchCtx : ContextT := ⟨ctx⟩
  let (_, reads) := bpfLoop 1 (doCheck memory searchCtx) [] 0
  ⟨XDP_PASS, reads⟩

/-- The calls of `doCheck` in a run of `xdpParserFunc`. -/
def xdpParserFuncCalls (ctx : XdpMd) (memory : Word → Byte) : List LoopCall :=
  loopCalls 1 (doCheck memory ⟨ctx⟩) [] 0

end EbpfNotes.BpfLoopEx
