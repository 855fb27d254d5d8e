import EbpfNotes.Construction.XdpDropProgBytecode

namespace EbpfNotes.XdpDropProg

open Library

variable {ctx : XdpMd} {memory : Word → Byte} (environment : Environment ctx memory)

/-- The context is asked for both ends of the packet. -/
def contextReads : List Observation :=
  [.read .ctx (environment.layout.pointer .ctx 4), .read .ctx (environment.layout.pointer .ctx 0)]

/-- The packet is asked for the two bytes of its protocol. -/
def packetReads (ctx : XdpMd) : List Observation :=
  [.read .packet (ctx.data.setWidth 64 + 12), .read .packet (ctx.data.setWidth 64 + 13)]

/-- Each pass makes one helper call. -/
def passLog (passes : Nat) : List Observation := (List.replicate passes [.pass, .call 6]).flatten

def hProtoLine (hProto : BitVec 16) : Printk :=
  ⟨literal "The value of h_proto is %d", hProto.setWidth 64⟩

/-- A finished run with its observations, for a packet that is too short for its header and for a longer
one. The last line has no conversion, so its argument is not shown. -/
structure Finished (final : State Name (List Printk)) (log : List Observation) : Prop where
  short : ctx.dataEnd.toNat < ctx.data.toNat + 14 →
    final.registers .r0 = 1 ∧ log = contextReads environment ∧ final.kernel = []
  long : ctx.data.toNat + 14 ≤ ctx.dataEnd.toNat →
    final.registers .r0 = 2 ∧
    log = contextReads environment ++ packetReads ctx ++ passLog (loadedProto ctx memory).toNat ++
      (if loadedProto ctx memory = 8 then [.call 6] else []) ∧
    ∃ argument, final.kernel =
      List.replicate (loadedProto ctx memory).toNat (hProtoLine (loadedProto ctx memory)) ++
        (if loadedProto ctx memory = 8 then [⟨literal "There is an ipv4 packet", argument⟩] else [])
  bounded : log.count .pass ≤ 65535

/-- The objects besides the packet stand above the 32-bit addresses. -/
def sampleBase (ctx : XdpMd) : Name → Nat
  | .stack => 2 ^ 32
  | .ctx => 2 ^ 32 + 512
  | .packet => packetStart ctx
  | .rodata => 2 ^ 32 + 536

/-- Every context and every memory have an environment. -/
theorem environment_exists (ctx : XdpMd) (memory : Word → Byte) : Nonempty (Environment ctx memory) := by
  have dataBound := ctx.data.isLt
  have endBound := ctx.dataEnd.isLt
  have address (name : Name) : (BitVec.ofNat 64 (sampleBase ctx name)).toNat = sampleBase ctx name := by
    rw [BitVec.toNat_ofNat]
    cases name <;> simp only [sampleBase, packetStart] <;> omega
  have nonnull (name : Name) : BitVec.ofNat 64 (sampleBase ctx name) ≠ 0 := by
    intro null
    have zero := congrArg BitVec.toNat null
    rw [address] at zero
    cases name <;> simp [sampleBase, packetStart] at zero
  have inside (name : Name) : sampleBase ctx name + objectSize ctx name ≤ 2 ^ 64 := by
    cases name <;> simp only [sampleBase, objectSize, packetStart] <;> omega
  have separate (first second : Name) (different : first ≠ second) :
      sampleBase ctx first + objectSize ctx first ≤ sampleBase ctx second ∨
        sampleBase ctx second + objectSize ctx second ≤ sampleBase ctx first := by
    cases first <;> cases second <;>
      first
      | exact absurd rfl different
      | simp only [sampleBase, objectSize, packetStart]; omega
  let layout : Layout liveNames (objectSize ctx) :=
    ⟨fun name => BitVec.ofNat 64 (sampleBase ctx name), fun name _ => nonnull name,
      fun name _ => by rw [address]; exact inside name,
      fun first _ second _ different => by rw [address, address]; exact separate first second different⟩
  exact ⟨⟨layout, rfl, fun _ => 0, fun _ => 0, fun _ => 0, fun _ => 0, fun _ _ => 0⟩⟩

/-- The object of the packet misses at most its first byte. -/
theorem packetStart_le (ctx : XdpMd) {offset : Nat} (positive : 0 < offset) :
    packetStart ctx ≤ ctx.data.toNat + offset := by
  rw [packetStart]
  omega

namespace Environment

@[simp] theorem world_layout : environment.world.layout = environment.layout := rfl

theorem locate_ctx {offset count : Nat} (positive : 0 < count) (within : offset + count ≤ 24) :
    environment.layout.locate (environment.layout.pointer .ctx offset) count = some (.ctx, offset) :=
  environment.layout.locate_pointer (by decide) positive within

theorem locate_rodata {offset count : Nat} (positive : 0 < count) (within : offset + count ≤ 51) :
    environment.layout.locate (environment.layout.pointer .rodata offset) count =
      some (.rodata, offset) :=
  environment.layout.locate_pointer (by decide) positive within

/-- A byte of the packet lies inside of the object of the packet, away from the null address. -/
theorem locate_packet {offset : Nat} (positive : 0 < offset)
    (inside : ctx.data.toNat + offset < ctx.dataEnd.toNat) :
    environment.layout.locate (ctx.data.setWidth 64 + BitVec.ofNat 64 offset) 1 =
      some (.packet, ctx.data.toNat + offset - packetStart ctx) := by
  have behind := packetStart_le ctx positive
  have pointer : ctx.data.setWidth 64 + BitVec.ofNat 64 offset =
      environment.layout.pointer .packet (ctx.data.toNat + offset - packetStart ctx) := by
    rw [Layout.pointer, environment.packetBase, ← BitVec.ofNat_add, Nat.add_sub_cancel' behind,
      BitVec.ofNat_add, BitVec.ofNat_toNat]
  rw [pointer]
  apply environment.layout.locate_pointer (by decide) (by decide)
  change _ ≤ ctx.dataEnd.toNat - packetStart ctx
  omega

/-- The context holds the address of the packet. -/
theorem word_data :
    BitVec.ofNat 64 (environment.contents.number (.ctx, 0) 4) = ctx.data.setWidth 64 := by
  have stored : environment.contents.read .ctx 0 4 = littleBytes 4 ctx.data.toNat := rfl
  rw [Contents.half_eq stored, BitVec.ofNat_toNat]

/-- The context holds the address of the end of the packet. -/
theorem word_dataEnd :
    BitVec.ofNat 64 (environment.contents.number (.ctx, 4) 4) = ctx.dataEnd.setWidth 64 := by
  have stored : environment.contents.read .ctx 4 4 = littleBytes 4 ctx.dataEnd.toNat := rfl
  rw [Contents.half_eq stored, BitVec.ofNat_toNat]

/-- The object of the packet shows the bytes of the memory. -/
theorem word_packet {offset : Nat} (positive : 0 < offset) :
    BitVec.ofNat 64 (environment.contents.number (.packet, ctx.data.toNat + offset - packetStart ctx) 1) =
      (memory (ctx.data.setWidth 64 + BitVec.ofNat 64 offset)).setWidth 64 := by
  have behind := packetStart_le ctx positive
  rw [Contents.number_one, contents, Nat.add_sub_cancel' behind, BitVec.ofNat_add, BitVec.ofNat_toNat,
    BitVec.ofNat_toNat]

end Environment

/-- The slot holds neither a load nor a call, and it is not the start of the loop body. -/
def quietSlot (slot : Nat) : Bool :=
  slot != loopSlot &&
    match fetch xdpDropProgCode slot with
    | some (.load ..) | some (.call _) => false
    | _ => true

/-- Nothing is observed at a quiet slot. -/
theorem silent_of_quiet {first last : Nat} (quiet : ∀ slot < last, first ≤ slot → quietSlot slot = true) :
    Silent environment.observe first last := by
  intro slot behind before state
  have silent := quiet slot before behind
  unfold quietSlot at silent
  obtain ⟨other, plain⟩ := Bool.and_eq_true_iff.mp silent
  rw [Environment.observe, if_neg (bne_iff_ne.mp other)]
  cases fetched : fetch xdpDropProgCode slot with
  | none => rfl
  | some instruction =>
      rw [fetched] at plain
      cases instruction with
      | load width target base offset => cases plain
      | call helper => cases plain
      | _ => rfl

/-- The program takes the first outcome to the second one, and the run leaves the notes. -/
abbrev Environment.Runs (first : Outcome Name (List Printk)) (log : List Observation)
    (second : Outcome Name (List Printk)) : Prop :=
  Logs environment.world xdpDropProgCode environment.observe first log second

/-- A load from a live object is observed as a read. -/
theorem Environment.load_runs {slot : Nat} {width : Width} {target base : Register} {offset : Int}
    (state : State Name (List Printk)) {place : Name × Nat} {address value : Word}
    (code : CodeAt xdpDropProgCode slot [.load width target base offset]) (other : slot ≠ loopSlot)
    (pointer : state.registers base + immediate offset = address)
    (located : environment.layout.locate address width.count = some place)
    (loaded : BitVec.ofNat 64 (state.contents.number place width.count) = value) :
    environment.Runs (.running slot state) [.read place.1 address]
      (.running (slot + 1) (state.set target value)) := by
  have executed : effect environment.world (.load width target base offset) state =
      some (state.set target value) := by
    simp only [effect, Environment.world_layout, pointer, located, Option.map_some, loaded]
  have notes : environment.observe slot state = some (.read place.1 address) := by
    simp only [Environment.observe, if_neg other, fetch_codeAt code, pointer, located, Option.map_some]
  exact Logs.noted (step_effect code executed) notes

/-- A byte of the packet is loaded through the register that holds the start of the packet. -/
theorem Environment.packet_runs {slot : Nat} {target : Register} (offset : Nat)
    (state : State Name (List Printk))
    (code : CodeAt xdpDropProgCode slot [.load .u8 target .r1 offset]) (other : slot ≠ loopSlot)
    (start : state.registers .r1 = ctx.data.setWidth 64) (same : state.contents = environment.contents)
    (positive : 0 < offset) (inside : ctx.data.toNat + offset < ctx.dataEnd.toNat) :
    environment.Runs (.running slot state)
      [.read .packet (ctx.data.setWidth 64 + BitVec.ofNat 64 offset)] (.running (slot + 1)
        (state.set target ((memory (ctx.data.setWidth 64 + BitVec.ofNat 64 offset)).setWidth 64))) := by
  have pointer : state.registers .r1 + immediate offset =
      ctx.data.setWidth 64 + BitVec.ofNat 64 offset := by
    rw [start, immediate_natCast]
  apply environment.load_runs state code other pointer (environment.locate_packet positive inside)
  rw [same]
  exact environment.word_packet positive

/-- A helper call is observed, and the program continues with its answer. -/
theorem Environment.call_runs {slot helper : Nat} {state : State Name (List Printk)}
    {answer : Return Name (List Printk)} (code : CodeAt xdpDropProgCode slot [.call helper])
    (other : slot ≠ loopSlot) (answered : environment.helper helper state = some answer) :
    environment.Runs (.running slot state) [.call helper]
      (.running (slot + 1) (environment.world.resume state answer)) := by
  have executed : effect environment.world (.call helper) state =
      some (environment.world.resume state answer) := by
    change (environment.helper helper state).map _ = _
    rw [answered]
    rfl
  have notes : environment.observe slot state = some (.call helper) := by
    simp only [Environment.observe, if_neg other, fetch_codeAt code]
  exact Logs.noted (step_effect code executed) notes

/-- The state behind the loads of both ends of the packet and the sum for the length check. -/
structure Headed (state : State Name (List Printk)) : Prop where
  data : state.registers .r1 = ctx.data.setWidth 64
  dataEnd : state.registers .r2 = ctx.dataEnd.setWidth 64
  header : state.registers .r3 = ctx.data.setWidth 64 + immediate 14
  verdict : state.registers .r6 = immediate 1
  contents : state.contents = environment.contents
  kernel : state.kernel = []

theorem header_runs :
    ∃ state, environment.Runs (.running 0 environment.initial) (contextReads environment)
      (.running 5 state) ∧ Headed environment state := by
  have verdict : environment.Runs (.running 0 environment.initial) []
      (.running 1 (environment.initial.set .r6 (immediate 1))) :=
    Logs.quiet (step_effect (codeAt_slice xdpDropProgCode 0 1) rfl) rfl
  have dataEnd := environment.load_runs (environment.initial.set .r6 (immediate 1))
    (codeAt_slice xdpDropProgCode 1 1) (by decide)
    (environment.layout.pointer_immediate .ctx (by decide : ((0 : Nat) : Int) + 4 = (4 : Nat)))
    (environment.locate_ctx (by decide) (by decide : 4 + 4 ≤ 24)) environment.word_dataEnd
  have data := environment.load_runs
    ((environment.initial.set .r6 (immediate 1)).set .r2 (ctx.dataEnd.setWidth 64))
    (codeAt_slice xdpDropProgCode 2 1) (by decide)
    (environment.layout.pointer_immediate .ctx (by decide : ((0 : Nat) : Int) + 0 = (0 : Nat)))
    (environment.locate_ctx (by decide) (by decide : 0 + 4 ≤ 24)) environment.word_data
  have sum : Executes environment.world
      [.alu .mov .r3 (.register .r1), .alu .add .r3 (.constant 14)]
      (((environment.initial.set .r6 (immediate 1)).set .r2 (ctx.dataEnd.setWidth 64)).set .r1
        (ctx.data.setWidth 64)) (Headed environment) := by
    rw [executes_alu, executes_alu, executes_nil]
    exact ⟨rfl, rfl, rfl, rfl, rfl, rfl⟩
  obtain ⟨state, ran, headed⟩ := sum.logs (codeAt_slice xdpDropProgCode 3 2)
    (silent_of_quiet environment (by decide))
  exact ⟨state, verdict.trans (dataEnd.trans (data.trans ran)), headed⟩

/-- The program returns the verdict that the sixth register holds. -/
theorem finish_runs (state : State Name (List Printk)) :
    environment.Runs (.running 29 state) [] (.exited (state.set .r0 (state.registers .r6))) := by
  have result : environment.Runs (.running 29 state) []
      (.running 30 (state.set .r0 (state.registers .r6))) :=
    Logs.quiet (step_effect (codeAt_slice xdpDropProgCode 27 1) rfl) rfl
  have exit : environment.Runs (.running 30 (state.set .r0 (state.registers .r6))) []
      (.exited (state.set .r0 (state.registers .r6))) :=
    Logs.quiet (step_exit (codeAt_slice xdpDropProgCode 28 1)) rfl
  exact result.trans exit

variable {environment}

theorem Headed.header_toNat {state : State Name (List Printk)} (headed : Headed environment state) :
    (state.registers .r3).toNat = ctx.data.toNat + 14 := by
  rw [headed.header]
  exact toNat_pointer_add ctx.data 14

theorem Headed.dataEnd_toNat {state : State Name (List Printk)} (headed : Headed environment state) :
    (state.registers .r2).toNat = ctx.dataEnd.toNat := by
  rw [headed.dataEnd, toNat_pointer]

/-- A packet without room for the header ends the program. -/
theorem Headed.short_runs {state : State Name (List Printk)} (headed : Headed environment state)
    (short : ctx.dataEnd.toNat < ctx.data.toNat + 14) :
    environment.Runs (.running 5 state) [] (.running 29 state) := by
  have above : (state.registers .r2).toNat < (state.registers .r3).toNat := by
    rwa [headed.header_toNat, headed.dataEnd_toNat]
  exact Logs.quiet (step_taken (codeAt_slice xdpDropProgCode 5 1) (Condition.gt_holds above) rfl) rfl

/-- The state behind the loads of the protocol. -/
structure Protocol (environment : Environment ctx memory) (state : State Name (List Printk)) : Prop where
  proto : state.registers .r7 = (loadedProto ctx memory).setWidth 64
  verdict : state.registers .r6 = immediate 2
  contents : state.contents = environment.contents
  kernel : state.kernel = []

/-- The two loaded bytes make up the protocol. -/
theorem loadedProto_word (ctx : XdpMd) (memory : Word → Byte) :
    (memory (ctx.data.setWidth 64 + 13)).setWidth 64 <<< 8 |||
        (memory (ctx.data.setWidth 64 + 12)).setWidth 64 = (loadedProto ctx memory).setWidth 64 := by
  have second : ctx.data.setWidth 64 + hProtoOffset + 1 = ctx.data.setWidth 64 + 13 :=
    BitVec.add_assoc _ _ _
  have number : loadedProto ctx memory = BitVec.ofNat 16
      ((memory (ctx.data.setWidth 64 + 12)).toNat +
        256 * ((memory (ctx.data.setWidth 64 + hProtoOffset + 1)).toNat + 256 * 0)) := by
    simp only [loadedProto, Endian.load, decode, BitVec.add_zero, Nat.zero_add]
    rfl
  rw [second] at number
  generalize memory (ctx.data.setWidth 64 + 12) = low at number ⊢
  generalize memory (ctx.data.setWidth 64 + 13) = high at number ⊢
  have lowBound := low.isLt
  have highBound := high.isLt
  have lowWord : (low.setWidth 64).toNat = low.toNat := BitVec.toNat_setWidth_of_le (by decide)
  have highWord : (high.setWidth 64).toNat = high.toNat := BitVec.toNat_setWidth_of_le (by decide)
  have shifted : high.toNat <<< 8 % 2 ^ 64 = high.toNat <<< 8 := by
    rw [Nat.shiftLeft_eq]
    omega
  apply BitVec.eq_of_toNat_eq
  rw [number, BitVec.toNat_or, BitVec.toNat_shiftLeft, lowWord, highWord, shifted,
    ← Nat.shiftLeft_add_eq_or_of_lt lowBound, Nat.shiftLeft_eq, BitVec.toNat_setWidth, BitVec.toNat_ofNat]
  omega

theorem Headed.long_runs {state : State Name (List Printk)} (headed : Headed environment state)
    (long : ctx.data.toNat + 14 ≤ ctx.dataEnd.toNat) :
    ∃ next, environment.Runs (.running 5 state) (packetReads ctx) (.running 11 next) ∧
      Protocol environment next := by
  have below : (state.registers .r3).toNat ≤ (state.registers .r2).toNat := by
    rwa [headed.header_toNat, headed.dataEnd_toNat]
  have fallen : environment.Runs (.running 5 state) [] (.running 6 state) :=
    Logs.quiet (step_fallen (codeAt_slice xdpDropProgCode 5 1) (Condition.gt_fails below)) rfl
  have low := environment.packet_runs 12 state (codeAt_slice xdpDropProgCode 6 1) (by decide)
    headed.data headed.contents (by decide) (by omega)
  have high := environment.packet_runs 13
    (state.set .r2 ((memory (ctx.data.setWidth 64 + 12)).setWidth 64))
    (codeAt_slice xdpDropProgCode 7 1) (by decide) headed.data headed.contents (by decide) (by omega)
  have proto : Executes environment.world
      [.alu .lsh .r7 (.constant 8), .alu .or .r7 (.register .r2), .alu .mov .r6 (.constant 2)]
      ((state.set .r2 ((memory (ctx.data.setWidth 64 + 12)).setWidth 64)).set .r7
        ((memory (ctx.data.setWidth 64 + 13)).setWidth 64)) (Protocol environment) := by
    rw [executes_alu, executes_alu, executes_alu, executes_nil]
    exact ⟨loadedProto_word ctx memory, rfl, headed.contents, headed.kernel⟩
  obtain ⟨next, ran, protocol⟩ := proto.logs (codeAt_slice xdpDropProgCode 8 3)
    (silent_of_quiet environment (by decide))
  exact ⟨next, fallen.trans (low.trans (high.trans ran)), protocol⟩

theorem read_hProtoFormat :
    environment.contents.read .rodata 0 27 = literal "The value of h_proto is %d" := rfl

theorem read_ipv4Format :
    environment.contents.read .rodata 27 24 = literal "There is an ipv4 packet" := rfl

/-- A call of the helper appends a line with the format in memory and keeps the saved registers. -/
theorem Environment.print_runs {slot start size : Nat} {state : State Name (List Printk)}
    {format : List Byte} (code : CodeAt xdpDropProgCode slot [.call 6]) (other : slot ≠ loopSlot)
    (same : state.contents = environment.contents)
    (pointer : state.registers .r1 = environment.layout.pointer .rodata start)
    (length : state.registers .r2 = immediate size) (positive : 0 < size) (within : start + size ≤ 51)
    (stored : environment.contents.read .rodata start size = format) :
    ∃ next, environment.Runs (.running slot state) [.call 6] (.running (slot + 1) next) ∧
      (∀ register : Register, register.clobbered = false →
        next.registers register = state.registers register) ∧
      next.contents = environment.contents ∧
      next.kernel = state.kernel ++ [⟨format, state.registers .r3⟩] := by
  have count : (state.registers .r2).toNat = size := by
    rw [length, immediate_natCast, BitVec.toNat_ofNat]
    omega
  have answered : environment.helper 6 state = some ⟨environment.status state, environment.contents,
      state.kernel ++ [⟨format, state.registers .r3⟩]⟩ := by
    change environment.tracePrintk state = _
    rw [Environment.tracePrintk,
      bpfTracePrintk_eq count (pointer ▸ environment.locate_rodata positive within), same, stored]
    rfl
  refine ⟨_, environment.call_runs code other answered, ?_, rfl, rfl⟩
  intro register saved
  exact environment.world.resume_saved state _ saved

/-- The state inside of the loop at a value of the counter and behind some lines of the trace. -/
structure Looping (environment : Environment ctx memory) (counter lines : Nat)
    (state : State Name (List Printk)) : Prop where
  counter : state.registers .r8 = BitVec.ofNat 64 counter
  proto : state.registers .r7 = (loadedProto ctx memory).setWidth 64
  verdict : state.registers .r6 = immediate 2
  contents : state.contents = environment.contents
  kernel : state.kernel = List.replicate lines (hProtoLine (loadedProto ctx memory))

/-- The arguments of the helper call in the loop body. -/
structure Printing (environment : Environment ctx memory) (state : State Name (List Printk)) : Prop where
  format : state.registers .r1 = environment.layout.pointer .rodata 0
  size : state.registers .r2 = immediate 27
  argument : state.registers .r3 = (loadedProto ctx memory).setWidth 64

theorem Looping.arguments_run {counter lines : Nat} {state : State Name (List Printk)}
    (looping : Looping environment counter lines state) :
    ∃ next, environment.Runs (.running 13 state) [.pass] (.running 17 next) ∧
      Looping environment counter lines next ∧ Printing environment next := by
  have pass : environment.Runs (.running 13 state) [.pass]
      (.running 15 (state.set .r1 (environment.layout.pointer .rodata 0 + BitVec.ofNat 64 0))) :=
    Logs.noted (step_effect (codeAt_slice xdpDropProgCode 13 1) rfl) rfl
  have arguments : Executes environment.world
      [.alu .mov .r2 (.constant 27), .alu .mov .r3 (.register .r7)]
      (state.set .r1 (environment.layout.pointer .rodata 0 + BitVec.ofNat 64 0)) fun next =>
        Looping environment counter lines next ∧ Printing environment next := by
    rw [executes_alu, executes_alu, executes_nil, BitVec.add_zero]
    exact ⟨⟨looping.counter, looping.proto, looping.verdict, looping.contents, looping.kernel⟩,
      ⟨rfl, rfl, looping.proto⟩⟩
  obtain ⟨next, ran, ready⟩ := arguments.logs (codeAt_slice xdpDropProgCode 14 2)
    (silent_of_quiet environment (by decide))
  exact ⟨next, pass.trans ran, ready⟩

/-- The helper keeps the registers of the loop and appends a line. -/
theorem Looping.print_runs {counter lines : Nat} {state : State Name (List Printk)}
    (looping : Looping environment counter lines state) (printing : Printing environment state) :
    ∃ next, environment.Runs (.running 17 state) [.call 6] (.running 18 next) ∧
      Looping environment counter (lines + 1) next := by
  obtain ⟨next, ran, saved, same, printed⟩ := environment.print_runs (codeAt_slice xdpDropProgCode 16 1)
    (by decide) looping.contents printing.format printing.size (by decide) (by decide) read_hProtoFormat
  have appended : next.kernel = List.replicate (lines + 1) (hProtoLine (loadedProto ctx memory)) := by
    rw [printed, printing.argument, looping.kernel, List.replicate_succ', hProtoLine]
  exact ⟨next, ran, ⟨(saved .r8 rfl).trans looping.counter, (saved .r7 rfl).trans looping.proto,
    (saved .r6 rfl).trans looping.verdict, same, appended⟩⟩

/-- The counter grows by one, and its lower half is ready for the comparison. -/
theorem Looping.count_runs {counter lines : Nat} {state : State Name (List Printk)}
    (looping : Looping environment counter lines state) :
    ∃ next, environment.Runs (.running 18 state) [] (.running 22 next) ∧
      Looping environment (counter + 1) lines next ∧
      next.registers .r1 = BitVec.ofNat 64 (counter + 1) &&& 0xFFFFFFFF := by
  have increment : state.registers .r8 + immediate 1 = BitVec.ofNat 64 (counter + 1) := by
    rw [looping.counter, BitVec.ofNat_add]
    rfl
  have counts : Executes environment.world
      [.alu .add .r8 (.constant 1), .alu .mov .r1 (.register .r8), .alu .lsh .r1 (.constant 32),
        .alu .rsh .r1 (.constant 32)] state fun next => Looping environment (counter + 1) lines next ∧
      next.registers .r1 = BitVec.ofNat 64 (counter + 1) &&& 0xFFFFFFFF := by
    rw [executes_alu, executes_alu, executes_alu, executes_alu, executes_nil]
    refine ⟨⟨increment, looping.proto, looping.verdict, looping.contents, looping.kernel⟩, ?_⟩
    rw [← increment]
    exact shifts_lowerHalf _
  exact counts.logs (codeAt_slice xdpDropProgCode 17 4) (silent_of_quiet environment (by decide))

/-- One pass through the loop body prints one line. -/
theorem Looping.pass_runs {passes : Nat} {state : State Name (List Printk)}
    (looping : Looping environment passes passes state) :
    ∃ next, environment.Runs (.running 13 state) [.pass, .call 6] (.running 22 next) ∧
      Looping environment (passes + 1) (passes + 1) next ∧
      next.registers .r1 = BitVec.ofNat 64 (passes + 1) &&& 0xFFFFFFFF := by
  obtain ⟨ready, arguments, looping, printing⟩ := looping.arguments_run
  obtain ⟨printed, print, looping⟩ := looping.print_runs printing
  obtain ⟨next, count, looping, lower⟩ := looping.count_runs
  exact ⟨next, arguments.trans (print.trans count), looping, lower⟩

/-- The lower half of a counter of at most 16 bits is the counter. -/
theorem lowerHalf_counter {counter : Nat} (bound : counter < 2 ^ 16) :
    (BitVec.ofNat 64 counter &&& 0xFFFFFFFF).toNat = counter := by
  rw [toNat_lowerHalf, BitVec.toNat_ofNat]
  omega

theorem Looping.proto_toNat {counter lines : Nat} {state : State Name (List Printk)}
    (looping : Looping environment counter lines state) :
    (state.registers .r7).toNat = (loadedProto ctx memory).toNat := by
  rw [looping.proto]
  exact BitVec.toNat_setWidth_of_le (by decide)

/-- Before the last pass the loop body takes the program back to its start. -/
theorem Looping.again_runs {passes : Nat} {state : State Name (List Printk)}
    (looping : Looping environment passes passes state)
    (before : passes + 1 < (loadedProto ctx memory).toNat) :
    ∃ next, environment.Runs (.running 13 state) [.pass, .call 6] (.running 13 next) ∧
      Looping environment (passes + 1) (passes + 1) next := by
  have bound := (loadedProto ctx memory).isLt
  obtain ⟨next, pass, looping, lower⟩ := looping.pass_runs
  have below : (next.registers .r1).toNat < (next.registers .r7).toNat := by
    rw [looping.proto_toNat, lower, lowerHalf_counter (by omega)]
    exact before
  have back : environment.Runs (.running 22 next) [] (.running 13 next) :=
    Logs.quiet (step_taken (codeAt_slice xdpDropProgCode 21 1) (Condition.gt_holds below) rfl) rfl
  exact ⟨next, pass.trans back, looping⟩

/-- The last pass takes the program out of the loop. -/
theorem Looping.last_runs {passes : Nat} {state : State Name (List Printk)}
    (looping : Looping environment passes passes state)
    (last : passes + 1 = (loadedProto ctx memory).toNat) :
    ∃ next, environment.Runs (.running 13 state) [.pass, .call 6] (.running 23 next) ∧
      Looping environment (passes + 1) (passes + 1) next := by
  have bound := (loadedProto ctx memory).isLt
  obtain ⟨next, pass, looping, lower⟩ := looping.pass_runs
  have reached : (next.registers .r7).toNat ≤ (next.registers .r1).toNat := by
    rw [looping.proto_toNat, lower, lowerHalf_counter (by omega)]
    exact last.ge
  have leaves : environment.Runs (.running 22 next) [] (.running 23 next) :=
    Logs.quiet (step_fallen (codeAt_slice xdpDropProgCode 21 1) (Condition.gt_fails reached)) rfl
  exact ⟨next, pass.trans leaves, looping⟩

/-- The last pass stands behind the others in the log. -/
theorem passLog_succ (passes : Nat) : passLog (passes + 1) = passLog passes ++ [.pass, .call 6] :=
  flatten_replicate_succ passes _

/-- The log of the passes notes each of them. -/
theorem passLog_count (passes : Nat) : (passLog passes).count .pass = passes := by
  induction passes with
  | zero => rfl
  | succ passes ih =>
      have one : [Observation.pass, .call 6].count .pass = 1 := rfl
      rw [passLog_succ, List.count_append, ih, one]

/-- The loop makes one pass for each unit of the protocol. -/
theorem Looping.loop_runs {state : State Name (List Printk)} (looping : Looping environment 0 0 state)
    (positive : 0 < (loadedProto ctx memory).toNat) :
    ∃ next, environment.Runs (.running 13 state) (passLog (loadedProto ctx memory).toNat)
        (.running 23 next) ∧
      Looping environment (loadedProto ctx memory).toNat (loadedProto ctx memory).toNat next := by
  obtain ⟨passes, last⟩ := Nat.exists_eq_add_of_lt positive
  rw [Nat.zero_add] at last
  have again (index : Nat) (before : index < passes) (current : State Name (List Printk))
      (kept : Looping environment index index current) := kept.again_runs (by omega)
  obtain ⟨middle, front, kept⟩ := Logs.iterate passes again looping
  obtain ⟨next, back, after⟩ := kept.last_runs last.symm
  rw [last, passLog_succ]
  exact ⟨next, front.trans back, after⟩

/-- The state before the last two instructions behind the loads of the protocol. -/
structure Printed (ctx : XdpMd) (memory : Word → Byte) (state : State Name (List Printk)) : Prop where
  verdict : state.registers .r6 = immediate 2
  kernel : ∃ argument, state.kernel =
    List.replicate (loadedProto ctx memory).toNat (hProtoLine (loadedProto ctx memory)) ++
      (if loadedProto ctx memory = 8 then [⟨literal "There is an ipv4 packet", argument⟩] else [])

/-- A comparison with a small constant sees the protocol itself. -/
theorem proto_immediate {proto : BitVec 16} {value : Nat} (small : value < 2 ^ 16) :
    proto.setWidth 64 = immediate value ↔ proto = BitVec.ofNat 16 value := by
  rw [immediate_natCast, ← BitVec.toNat_inj, ← BitVec.toNat_inj, BitVec.toNat_ofNat, BitVec.toNat_ofNat,
    BitVec.toNat_setWidth_of_le (by decide)]
  omega

/-- The protocol of IPv4 prints one further line. -/
theorem Looping.ipv4_runs {state : State Name (List Printk)}
    (looping : Looping environment (loadedProto ctx memory).toNat (loadedProto ctx memory).toNat state)
    (ipv4 : loadedProto ctx memory = 8) :
    ∃ next, environment.Runs (.running 23 state) [.call 6] (.running 29 next) ∧
      Printed ctx memory next := by
  have same : state.registers .r7 = immediate 8 := by
    rw [looping.proto, ipv4]
    rfl
  have taken : environment.Runs (.running 23 state) [] (.running 25 state) :=
    Logs.quiet (step_taken (codeAt_slice xdpDropProgCode 22 1) (Condition.eq_holds same) rfl) rfl
  have arguments : Executes environment.world
      [.address .r1 .rodata 27, .alu .mov .r2 (.constant 24)] state fun next =>
        next.registers .r1 = environment.layout.pointer .rodata 27 ∧
        next.registers .r2 = immediate 24 ∧ next.registers .r6 = immediate 2 ∧
        next.contents = environment.contents ∧ next.kernel = state.kernel := by
    rw [executes_address, executes_alu, executes_nil]
    exact ⟨environment.layout.pointer_offset .rodata 0 27, rfl, looping.verdict,
      looping.contents, rfl⟩
  obtain ⟨ready, ran, format, length, verdict, contents, kernel⟩ :=
    arguments.logs (codeAt_slice xdpDropProgCode 24 2) (silent_of_quiet environment (by decide))
  obtain ⟨next, called, saved, _, printed⟩ := environment.print_runs (codeAt_slice xdpDropProgCode 26 1)
    (by decide) contents format length (by decide) (by decide) read_ipv4Format
  rw [kernel, looping.kernel] at printed
  refine ⟨next, taken.trans (ran.trans called), ⟨(saved .r6 rfl).trans verdict, ready.registers .r3, ?_⟩⟩
  rw [if_pos ipv4]
  exact printed

/-- Every other protocol goes to the end of the program. -/
theorem Looping.other_runs {state : State Name (List Printk)}
    (looping : Looping environment (loadedProto ctx memory).toNat (loadedProto ctx memory).toNat state)
    (other : loadedProto ctx memory ≠ 8) :
    environment.Runs (.running 23 state) [] (.running 29 state) ∧ Printed ctx memory state := by
  have different : state.registers .r7 ≠ immediate 8 := by
    rw [looping.proto]
    exact fun same => other ((proto_immediate (by decide : 8 < 2 ^ 16)).mp same)
  have fallen : environment.Runs (.running 23 state) [] (.running 24 state) :=
    Logs.quiet (step_fallen (codeAt_slice xdpDropProgCode 22 1) (Condition.eq_fails different)) rfl
  have jump : environment.Runs (.running 24 state) [] (.running 29 state) :=
    Logs.quiet (step_jump (codeAt_slice xdpDropProgCode 23 1) rfl) rfl
  refine ⟨fallen.trans jump, ⟨looping.verdict, 0, ?_⟩⟩
  rw [if_neg other, List.append_nil]
  exact looping.kernel

/-- A packet with the protocol zero skips the loop. -/
theorem Protocol.skip_runs {state : State Name (List Printk)} (protocol : Protocol environment state)
    (zero : loadedProto ctx memory = 0) :
    environment.Runs (.running 11 state) [] (.running 29 state) ∧ Printed ctx memory state := by
  have same : state.registers .r7 = immediate 0 := by
    rw [protocol.proto, zero]
    rfl
  have taken : environment.Runs (.running 11 state) [] (.running 29 state) :=
    Logs.quiet (step_taken (codeAt_slice xdpDropProgCode 11 1) (Condition.eq_holds same) rfl) rfl
  refine ⟨taken, ⟨protocol.verdict, 0, ?_⟩⟩
  rw [zero]
  exact protocol.kernel

/-- Every other packet goes through the loop. -/
theorem Protocol.loop_runs {state : State Name (List Printk)} (protocol : Protocol environment state)
    (nonzero : loadedProto ctx memory ≠ 0) :
    ∃ next, environment.Runs (.running 11 state) (passLog (loadedProto ctx memory).toNat)
        (.running 23 next) ∧
      Looping environment (loadedProto ctx memory).toNat (loadedProto ctx memory).toNat next := by
  have different : state.registers .r7 ≠ immediate 0 := by
    rw [protocol.proto]
    exact fun same => nonzero ((proto_immediate (by decide : 0 < 2 ^ 16)).mp same)
  have fallen : environment.Runs (.running 11 state) [] (.running 12 state) :=
    Logs.quiet (step_fallen (codeAt_slice xdpDropProgCode 11 1) (Condition.eq_fails different)) rfl
  have counter : environment.Runs (.running 12 state) []
      (.running 13 (state.set .r8 (immediate 0))) :=
    Logs.quiet (step_effect (codeAt_slice xdpDropProgCode 12 1) rfl) rfl
  have start : Looping environment 0 0 (state.set .r8 (immediate 0)) :=
    ⟨rfl, protocol.proto, protocol.verdict, protocol.contents, protocol.kernel⟩
  have positive : 0 < (loadedProto ctx memory).toNat :=
    Nat.pos_of_ne_zero fun none => nonzero (BitVec.eq_of_toNat_eq none)
  obtain ⟨next, loop, looping⟩ := start.loop_runs positive
  exact ⟨next, fallen.trans (counter.trans loop), looping⟩

/-- Behind the loads of the protocol the program runs the loop and the comparison with IPv4. -/
theorem Protocol.body_runs {state : State Name (List Printk)} (protocol : Protocol environment state) :
    ∃ next, environment.Runs (.running 11 state)
        (passLog (loadedProto ctx memory).toNat ++
          (if loadedProto ctx memory = 8 then [.call 6] else [])) (.running 29 next) ∧
      Printed ctx memory next := by
  by_cases zero : loadedProto ctx memory = 0
  · obtain ⟨skipped, printed⟩ := protocol.skip_runs zero
    have empty : passLog (loadedProto ctx memory).toNat ++
        (if loadedProto ctx memory = 8 then [.call 6] else []) = [] := by
      rw [zero]
      rfl
    rw [empty]
    exact ⟨state, skipped, printed⟩
  · obtain ⟨middle, loop, looping⟩ := protocol.loop_runs zero
    by_cases ipv4 : loadedProto ctx memory = 8
    · obtain ⟨next, further, printed⟩ := looping.ipv4_runs ipv4
      rw [if_pos ipv4]
      exact ⟨next, loop.trans further, printed⟩
    · obtain ⟨further, printed⟩ := looping.other_runs ipv4
      rw [if_neg ipv4]
      exact ⟨middle, loop.trans further, printed⟩

theorem Headed.finished {state : State Name (List Printk)} (headed : Headed environment state)
    (short : ctx.dataEnd.toNat < ctx.data.toNat + 14) :
    Finished environment (state.set .r0 (state.registers .r6)) (contextReads environment) where
  short _ := ⟨headed.verdict, rfl, headed.kernel⟩
  long long := absurd short (Nat.not_lt.mpr long)
  bounded := Nat.zero_le _

theorem Printed.finished {state : State Name (List Printk)} (printed : Printed ctx memory state)
    (long : ctx.data.toNat + 14 ≤ ctx.dataEnd.toNat) :
    Finished environment (state.set .r0 (state.registers .r6))
      (contextReads environment ++ packetReads ctx ++ passLog (loadedProto ctx memory).toNat ++
        (if loadedProto ctx memory = 8 then [.call 6] else [])) where
  short short := absurd short (Nat.not_lt.mpr long)
  long _ := ⟨printed.verdict, rfl, printed.kernel⟩
  bounded := by
    have bound := (loadedProto ctx memory).isLt
    have reads : (contextReads environment ++ packetReads ctx).count .pass = 0 := rfl
    have further : (if loadedProto ctx memory = 8 then [Observation.call 6] else []).count .pass = 0 := by
      split <;> rfl
    rw [List.count_append, List.count_append, reads, passLog_count, further]
    omega

/-- Every run exits. It returns without an access to a short packet, and for a longer packet it makes
one pass for each unit of the loaded protocol. -/
theorem xdpDropProgCode_exits (environment : Environment ctx memory) :
    ∃ fuel final,
      execution environment.world xdpDropProgCode fuel (.running 0 environment.initial) =
        .exited final ∧
      Finished environment final (observed environment.world xdpDropProgCode environment.observe fuel
        (.running 0 environment.initial)) := by
  obtain ⟨state, header, headed⟩ := header_runs environment
  rcases Nat.lt_or_ge ctx.dataEnd.toNat (ctx.data.toNat + 14) with short | long
  · have finish := (headed.short_runs short).trans (finish_runs environment state)
    obtain ⟨fuel, exited, log⟩ := header.trans finish
    refine ⟨fuel, _, exited, ?_⟩
    rw [log, List.append_nil, List.append_nil]
    exact headed.finished short
  · obtain ⟨loaded, reads, protocol⟩ := headed.long_runs long
    obtain ⟨next, body, printed⟩ := protocol.body_runs
    obtain ⟨fuel, exited, log⟩ := header.trans (reads.trans (body.trans (finish_runs environment next)))
    refine ⟨fuel, _, exited, ?_⟩
    rw [log, List.append_nil, ← List.append_assoc, ← List.append_assoc]
    exact printed.finished long

end EbpfNotes.XdpDropProg
