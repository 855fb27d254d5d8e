import EbpfNotes.Proof.XdpDropProg.Bytecode
import EbpfNotes.Proof.HashMapExample.LostUpdate
import EbpfNotes.Proof.HashMapExample.GlobalUid
import EbpfNotes.Proof.HashMapExample.Bytecode
import EbpfNotes.Proof.Helpers.LoopCalls
import EbpfNotes.Proof.XdpDropProg.Verdict
import EbpfNotes.Proof.XdpDropProg.Sum
import EbpfNotes.Proof.Xdp.PacketAccess
import EbpfNotes.Proof.Xdp.LoopsPerformed
import EbpfNotes.Proof.HelloVerifier.Strings
import EbpfNotes.Proof.HelloVerifier.Race
import EbpfNotes.Proof.HelloVerifier.Bytecode
import EbpfNotes.Proof.HelloVerifier.ConfigKey
import EbpfNotes.Proof.HelloVerifier.Loader
import EbpfNotes.Proof.HelloVerifier.Log
import EbpfNotes.Proof.BpfLoopEx.Search
import EbpfNotes.Proof.PacketCount.Race
import EbpfNotes.Proof.PacketCount.Undercount
import EbpfNotes.Proof.BpfMap4Example.SameEvent
import EbpfNotes.Proof.HelloVerifier.Threads
import EbpfNotes.Proof.HelloVerifier.Translated
import EbpfNotes.Proof.PacketCount.Bytecode
import EbpfNotes.Proof.HelloVerifier.Machine
import EbpfNotes.Proof.HashMapExample.Machine
import EbpfNotes.Proof.PacketCount.Machine
import EbpfNotes.Proof.BpfInsn.Recorded
import EbpfNotes.Proof.IntroCompcert.Bsearch
import EbpfNotes.Proof.HelloVerifier.LoaderMemory
