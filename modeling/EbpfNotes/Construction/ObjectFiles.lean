/-
This file models the bytes that the dumps of the object files show.
-/

import EbpfNotes.Construction.BpfInsn
import EbpfNotes.Construction.HashMapExampleBytecode
import EbpfNotes.Construction.HelloVerifierBytecode
import EbpfNotes.Construction.PacketCountBytecode
import EbpfNotes.Construction.XdpDropProgBytecode

namespace EbpfNotes

open Library

/-- A row of a dump shows eight bytes from left to right. -/
def dumpBytes (rows : List Nat) : List Byte :=
  rows.flatMap fun row => (List.range 8).map fun index => byteAt row (7 - index)

namespace HashMapExample

/-- The dump of `bpf_maps/hash_map_example.md`. -/
def helloSection : ProgramSection Symbol where
  bytes := dumpBytes [
    0x850000000f000000, 0x6700000020000000, 0x7700000020000000, 0x7b0af8ff00000000, 0xbfa2000000000000,
    0x07020000f8ffffff, 0x1801000000000000, 0x0000000000000000, 0x8500000001000000, 0xb701000001000000,
    0x1500020000000000, 0x7901000000000000, 0x0701000001000000, 0x7b1af0ff00000000, 0xbfa2000000000000,
    0x07020000f8ffffff, 0xbfa3000000000000, 0x07030000f0ffffff, 0x1801000000000000, 0x0000000000000000,
    0xb704000000000000, 0x8500000002000000, 0xb700000000000000, 0x9500000000000000]
  relocations := [(48, .counterTable), (144, .counterTable)]

end HashMapExample

namespace PacketCount

/-- The dump of `packet_count/packet_count_eBPF.md`. -/
def packetCountSection : ProgramSection Symbol where
  bytes := dumpBytes [
    0x1806000000000000, 0x0000000000000000, 0x6163000000000000, 0x1801000000000000, 0x0000000000000000,
    0xb702000003000000, 0x8500000006000000, 0x6161000000000000, 0x0701000001000000, 0x6316000000000000,
    0xb700000002000000, 0x9500000000000000]
  relocations := [(0, .counter), (24, .rodata)]

/-- The dump of `packet_count_float/packet_count.bpf.s`. -/
def floatSection : ProgramSection Symbol where
  bytes := dumpBytes [
    0x1806000000000000, 0x0000000000000000, 0x6163000000000000, 0x1801000000000000, 0x0000000000000000,
    0xb702000003000000, 0x8500000006000000, 0x6161000000000000, 0x0701000001000000, 0x6316000000000000,
    0xb700000000000040, 0x9500000000000000]
  relocations := [(0, .counter), (24, .rodata)]

end PacketCount

namespace XdpDropProg

/-- The dump of `xdp_drop_prog/xdp_drop_prog.bpf.s`. -/
def xdpDropProgSection : ProgramSection Symbol where
  bytes := dumpBytes [
    0xb706000001000000, 0x6112040000000000, 0x6111000000000000, 0xbf13000000000000, 0x070300000e000000,
    0x2d23170000000000, 0x71120c0000000000, 0x71170d0000000000, 0x6707000008000000, 0x4f27000000000000,
    0xb706000002000000, 0x1507110000000000, 0xb708000000000000, 0x1801000000000000, 0x0000000000000000,
    0xb70200001b000000, 0xbf73000000000000, 0x8500000006000000, 0x0708000001000000, 0xbf81000000000000,
    0x6701000020000000, 0x7701000020000000, 0x2d17f6ff00000000, 0x1507010008000000, 0x0500040000000000,
    0x180100001b000000, 0x0000000000000000, 0xb702000018000000, 0x8500000006000000, 0xbf60000000000000,
    0x9500000000000000]
  relocations := [(104, .rodata), (200, .rodata)]

end XdpDropProg

namespace HelloVerifier

/-- The dump of `verifier_example/hello-verifier.md`. The image in `hello-verifier.skel.h` holds the same bytes
from the offset `0x40` on and names the same symbols. -/
def kprobeExecSection : ProgramSection Symbol where
  bytes := dumpBytes [
    0xbf16000000000000, 0x1801000000000000, 0x0000000000000000, 0x6112000000000000, 0xbf23000000000000,
    0x0703000001000000, 0x6331000000000000, 0xb701000000000000, 0x631af8ff00000000, 0x631af4ff00000000,
    0x631af0ff00000000, 0x631aecff00000000, 0x631ae8ff00000000, 0x631ae4ff00000000, 0x631afcff00000000,
    0x632ae0ff00000000, 0x850000000e000000, 0x630ad8ff00000000, 0x850000000f000000, 0x630adcff00000000,
    0x6700000020000000, 0x7700000020000000, 0x7b0ad0ff00000000, 0xbfa2000000000000, 0x07020000d0ffffff,
    0x1801000000000000, 0x0000000000000000, 0x8500000001000000, 0xbf07000000000000, 0x15070c0000000000,
    0x7173000000000000, 0x6703000038000000, 0xc703000038000000, 0x1801000000000000, 0x0000000000000000,
    0xb702000003000000, 0x8500000006000000, 0xbfa1000000000000, 0x07010000f4ffffff, 0xb70200000c000000,
    0xbf73000000000000, 0x0500050000000000, 0xbfa1000000000000, 0x07010000f4ffffff, 0xb70200000c000000,
    0x1803000000000000, 0x0000000000000000, 0x8500000071000000, 0x1807000000000000, 0x0000000000000000,
    0x6171000000000000, 0x250116000b000000, 0x1802000000000000, 0x0000000000000000, 0x0f12000000000000,
    0x7123000000000000, 0x6703000038000000, 0xc703000038000000, 0x1801000003000000, 0x0000000000000000,
    0xb702000003000000, 0x8500000006000000, 0x6171000000000000, 0x25010a000b000000, 0xbfa2000000000000,
    0x07020000d8ffffff, 0x0f12000000000000, 0x71231c0000000000, 0x6703000038000000, 0xc703000038000000,
    0x1801000006000000, 0x0000000000000000, 0xb702000003000000, 0x8500000006000000, 0xbfa1000000000000,
    0x07010000e4ffffff, 0xb702000010000000, 0x8500000010000000, 0xbfa4000000000000, 0x07040000d8ffffff,
    0xbf61000000000000, 0x1802000000000000, 0x0000000000000000, 0x18030000ffffffff, 0x0000000000000000,
    0xb705000028000000, 0x8500000019000000, 0xb700000000000000, 0x9500000000000000]
  relocations := [(8, .c), (200, .myConfig), (264, .rodata), (360, .message), (384, .c),
    (416, .message), (464, .rodata), (560, .rodata), (648, .output)]

end HelloVerifier

end EbpfNotes
