import EbpfNotes.Construction.HelloVerifierBytecode
import EbpfNotes.Proof.HelloVerifier.SequentialRuns

namespace EbpfNotes.HelloVerifier

open Library

/-- Two shifts by 56 extend the sign of a loaded character. -/
theorem shifts_sign (character : Byte) :
    ((BitVec.ofNat 64 character.toNat) <<< 56).sshiftRight 56 = charArgument character := by
  revert character
  decide +kernel

theorem shift_character : (immediate 56).toNat % 64 = 56 := by decide

variable {myConfig : MyConfig} {globals : Globals} {event : Event}
  (environment : Environment myConfig globals event)

/-- Every configuration fits into the addresses, so each one has an environment. -/
theorem environment_exists (myConfig : MyConfig) (globals : Globals) (event : Event) :
    Nonempty (Environment myConfig globals event) := by
  have total : ((liveNames myConfig).map objectSize).sum = 543 + myConfig.keys.length * 12 := by
    simp only [liveNames, List.map_cons, List.sum_cons, List.map_map]
    change 512 + (4 + (12 + (15 + (myConfig.keys.map fun _ => 12).sum))) = _
    rw [List.map_const', List.sum_replicate, smul_eq_mul]
    omega
  have bound := myConfig.keys_length_le
  obtain ⟨layout⟩ := Layout.exists_packed (liveNames myConfig) objectSize (by omega)
  exact ⟨⟨layout, 0, 0, 0, fun _ => 0, fun _ => 0, fun _ => 0, fun _ _ => 0⟩⟩

/-- The user that the program looks up. -/
def maskedUid (event : Event) : Word := event.uidGid &&& 0xFFFFFFFF

/-- The frame, the context, the incremented counter, the first three fields of the record and the
helper calls at a point behind the entry of the program. -/
structure Stage (calls : List KernelCall) (state : State Name (List KernelCall)) : Prop where
  frame : state.registers .r10 = environment.layout.pointer .stack 512
  context : state.registers .r6 = environment.ctx
  counter : state.contents.read .c 0 4 = littleBytes 4 (globals.c + 1).toNat
  others : ∀ name, name ≠ .stack → name ≠ .c → state.contents name = environment.contents name
  fields : state.contents.read .stack 472 12 =
    littleBytes 4 (record .little myConfig globals event).pid.toNat ++
      littleBytes 4 (record .little myConfig globals event).uid.toNat ++
      littleBytes 4 (record .little myConfig globals event).counter.toNat
  kernel : state.kernel = calls

namespace Environment

theorem locate_stack {offset count : Nat} (positive : 0 < count) (within : offset + count ≤ 512) :
    environment.layout.locate (environment.layout.pointer .stack offset) count = some (.stack, offset) :=
  environment.layout.locate_pointer List.mem_cons_self positive within

theorem locate_c {offset count : Nat} (positive : 0 < count) (within : offset + count ≤ 4) :
    environment.layout.locate (environment.layout.pointer .c offset) count = some (.c, offset) :=
  environment.layout.locate_pointer (by simp [liveNames]) positive within

theorem locate_message {offset count : Nat} (positive : 0 < count) (within : offset + count ≤ 12) :
    environment.layout.locate (environment.layout.pointer .message offset) count =
      some (.message, offset) :=
  environment.layout.locate_pointer (by simp [liveNames]) positive within

theorem locate_rodata {offset count : Nat} (positive : 0 < count) (within : offset + count ≤ 15) :
    environment.layout.locate (environment.layout.pointer .rodata offset) count =
      some (.rodata, offset) :=
  environment.layout.locate_pointer (by simp [liveNames]) positive within

@[simp] theorem world_layout : environment.world.layout = environment.layout := rfl

@[simp] theorem world_address (symbol : Symbol) :
    environment.world.address symbol = environment.address symbol := rfl

end Environment

/-- The state behind the first stores: the counter is incremented and its old value is kept. -/
structure Started (state : State Name (List KernelCall)) : Prop where
  frame : state.registers .r10 = environment.layout.pointer .stack 512
  context : state.registers .r6 = environment.ctx
  counter : state.contents.read .c 0 4 = littleBytes 4 (globals.c + 1).toNat
  others : ∀ name, name ≠ .stack → name ≠ .c → state.contents name = environment.contents name
  kept : state.contents.read .stack 480 4 = littleBytes 4 globals.c.toNat
  kernel : state.kernel = []

theorem start_executes :
    Executes environment.world startBlock environment.initial (Started environment) := by
  have frame : environment.initial.registers .r10 = environment.layout.pointer .stack 512 := rfl
  have context : environment.initial.registers .r1 = environment.ctx := rfl
  have loaded : environment.initial.contents.number (.c, 0) 4 = globals.c.toNat := Contents.half_eq rfl
  simp only [startBlock, executes_alu, executes_store, executes_load, executes_address, executes_nil,
    Environment.world_layout, Environment.world_address, Environment.address, State.set_registers,
    State.put_registers, State.set_contents, Operation.apply, Operand.value, reduceCtorEq, if_true,
    if_false, Width.count, frame, context, Layout.pointer_moved, environment.locate_stack, environment.locate_c,
    Nat.cast_ofNat, Option.some.injEq, exists_eq_left', BitVec.add_zero, Int.reduceNeg, Int.reduceAdd,
    Int.reduceLE, Int.reduceToNat, Nat.reduceAdd, Nat.reduceLeDiff, Nat.ofNat_pos, Nat.cast_zero,
    Int.add_zero, le_refl, Int.toNat_zero, loaded, littleBytes_increment]
  constructor
  · exact frame
  · rfl
  · simp [Contents.read_write_other, Contents.read_store]
  · intro name notStack notC
    simp only [State.put_contents, State.set_contents, ne_eq, notStack, notC, not_false_eq_true,
      Contents.write_other]
    rfl
  · apply (Contents.read_store _ _ _ _ _).trans
    apply littleBytes_congr
    have bound := globals.c.isLt
    rw [BitVec.toNat_ofNat]
    omega
  · rfl

/-- The narrow key is read from the low bytes of the masked user. -/
theorem configKey_read {contents : Contents Name} {start : Nat} {uid : Word}
    (stored : contents.read .stack start 8 = littleBytes 8 uid.toNat) :
    (Vector.ofFn fun index : Fin 4 => contents .stack (start + index)) = configKey .little uid := by
  ext index inside : 1
  rw [configKey, Vector.getElem_ofFn, Vector.getElem_ofFn]
  exact Contents.byte_eq stored (by omega)

theorem Environment.mapLookupElem_eq {state : State Name (List KernelCall)} {uid : Word} {start : Nat}
    (map : state.registers .r1 = environment.mapAddress)
    (pointer : state.registers .r2 = environment.layout.pointer .stack start)
    (within : start + 4 ≤ 512)
    (stored : state.contents.read .stack start 8 = littleBytes 8 uid.toNat) :
    environment.mapLookupElem state = some
      ⟨if (myConfig.lookup (configKey .little uid)).isSome then
          environment.layout.pointer (.element (configKey .little uid)) 0 else 0,
        state.contents, state.kernel⟩ := by
  simp only [Environment.mapLookupElem, map, if_true, pointer,
    environment.locate_stack (by decide) within, Option.bind_eq_bind, Option.bind_some,
    configKey_read stored, bpfMapLookupElem]

/-- The store of the thread and process word keeps the field of the record. -/
theorem pid_bytes (myConfig : MyConfig) (globals : Globals) (event : Event) :
    littleBytes 4 event.pidTgid.toNat =
      littleBytes 4 (record .little myConfig globals event).pid.toNat := by
  apply littleBytes_congr
  change _ = (event.pidTgid.setWidth 32).toNat % 256 ^ 4
  rw [BitVec.toNat_setWidth]
  omega

/-- The store of the user and group word keeps the field of the record. -/
theorem uid_bytes (myConfig : MyConfig) (globals : Globals) (event : Event) :
    littleBytes 4 event.uidGid.toNat =
      littleBytes 4 (record .little myConfig globals event).uid.toNat := by
  apply littleBytes_congr
  change _ = ((event.uidGid &&& 0xFFFFFFFF).setWidth 32).toNat % 256 ^ 4
  rw [BitVec.toNat_setWidth, toNat_lowerHalf]
  omega

theorem identify_executes {state : State Name (List KernelCall)} (started : Started environment state) :
    Executes environment.world identifyBlock state fun next =>
      Stage environment [] next ∧ next.registers .r7 =
        if (myConfig.lookup (configKey .little (maskedUid event))).isSome then
          environment.layout.pointer (.element (configKey .little (maskedUid event))) 0 else 0 := by
  refine executes_call (rfl : environment.world.helper 14 state =
    some ⟨event.pidTgid, state.contents, state.kernel⟩) ?_
  intro first pid saved same calls
  have frame : first.registers .r10 = environment.layout.pointer .stack 512 :=
    (saved .r10 rfl).trans started.frame
  simp only [executes_store, Environment.world_layout, Width.count, frame, Layout.pointer_moved,
    environment.locate_stack, Nat.cast_ofNat, Option.some.injEq, exists_eq_left', Int.reduceNeg,
    Int.reduceAdd, Int.reduceLE, Int.reduceToNat, Nat.reduceAdd, Nat.reduceLeDiff, Nat.ofNat_pos, pid]
  refine executes_call (rfl : environment.world.helper 15 _ =
    some ⟨event.uidGid, _, _⟩) ?_
  intro second uid savedAgain sameAgain callsAgain
  have frameAgain : second.registers .r10 = environment.layout.pointer .stack 512 :=
    (savedAgain .r10 rfl).trans frame
  simp only [executes_alu, executes_store, executes_address, Environment.world_layout,
    Environment.world_address, Environment.address, State.set_registers, State.put_registers,
    Operation.apply, Operand.value, reduceCtorEq, if_true, if_false, Width.count, frameAgain,
    Layout.pointer_moved, environment.locate_stack, Nat.cast_ofNat, Option.some.injEq, exists_eq_left',
    BitVec.add_zero, Int.reduceNeg, Int.reduceAdd, Int.reduceLE, Int.reduceToNat,
    Nat.reduceAdd, Nat.reduceLeDiff, Nat.ofNat_pos, uid, half_distance, shifts_lowerHalf]
  refine executes_call (environment.mapLookupElem_eq rfl rfl (by decide)
    (Contents.read_store _ _ _ _ _)) ?_
  intro third element savedLast sameLast callsLast
  rw [executes_alu, executes_nil]
  have memory : third.contents = ((state.contents.write .stack 472
      (littleBytes 4 event.pidTgid.toNat)).write .stack 476 (littleBytes 4 event.uidGid.toNat)).write
        .stack 464 (littleBytes 8 (maskedUid event).toNat) := by
    have before : first.contents = state.contents := same
    have middle : second.contents = first.contents.write .stack 472
      (littleBytes 4 event.pidTgid.toNat) := sameAgain
    rw [← before, ← middle]
    exact sameLast
  refine ⟨⟨?_, ?_, ?_, ?_, ?_, ?_⟩, element⟩
  · exact (savedLast .r10 rfl).trans frameAgain
  · exact (savedLast .r6 rfl).trans
      ((savedAgain .r6 rfl).trans ((saved .r6 rfl).trans started.context))
  · rw [State.set_contents, memory]
    simpa [Contents.read_write_other] using started.counter
  · intro name notStack notC
    rw [State.set_contents, memory, Contents.write_other _ notStack, Contents.write_other _ notStack,
      Contents.write_other _ notStack, started.others name notStack notC]
  · rw [State.set_contents, memory, ← pid_bytes, ← uid_bytes,
      show (12 : Nat) = 4 + 4 + 4 from rfl, Contents.read_add, Contents.read_add]
    have kept := started.kept
    simp only [ne_eq, not_true_eq_false, littleBytes_length, Nat.reduceAdd, Nat.reduceLeDiff, le_refl,
      or_true, or_false, Contents.read_write_other, Contents.read_store, kept]
    rfl
  · exact callsLast.trans (callsAgain.trans (calls.trans started.kernel))

variable {environment}

/-- A call that leaves the memory alone keeps the stage. -/
theorem Stage.called {calls later : List KernelCall} {state next : State Name (List KernelCall)}
    (stage : Stage environment calls state)
    (frame : next.registers .r10 = state.registers .r10)
    (context : next.registers .r6 = state.registers .r6)
    (same : next.contents = state.contents) (trace : next.kernel = later) :
    Stage environment later next where
  frame := frame.trans stage.frame
  context := context.trans stage.context
  counter := by rw [same]; exact stage.counter
  others := by rw [same]; exact stage.others
  fields := by rw [same]; exact stage.fields
  kernel := trace

/-- A call that writes behind the first three fields of the record keeps the stage. -/
theorem Stage.written {calls : List KernelCall} {state next : State Name (List KernelCall)}
    {start : Nat} {bytes : List Byte} (stage : Stage environment calls state)
    (frame : next.registers .r10 = state.registers .r10)
    (context : next.registers .r6 = state.registers .r6)
    (behind : 484 ≤ start) (memory : next.contents = state.contents.write .stack start bytes)
    (trace : next.kernel = state.kernel) : Stage environment calls next where
  frame := frame.trans stage.frame
  context := context.trans stage.context
  counter := by
    rw [memory, Contents.read_write_other _ (Or.inl (by decide))]
    exact stage.counter
  others name notStack notC := by
    rw [memory, Contents.write_other _ notStack]
    exact stage.others name notStack notC
  fields := by
    rw [memory, Contents.read_write_other _ (Or.inr (Or.inl (by omega)))]
    exact stage.fields
  kernel := trace.trans stage.kernel

theorem Environment.tracePrintk_eq {state : State Name (List KernelCall)} {start : Nat}
    {format : List Byte} (pointer : state.registers .r1 = environment.layout.pointer .rodata start)
    (three : state.registers .r2 = immediate 3) (within : start + 3 ≤ 15)
    (stored : state.contents.read .rodata start 3 = format) :
    environment.tracePrintk state = some ⟨environment.status state, state.contents,
      state.kernel ++ [.printk ⟨format, state.registers .r3⟩]⟩ := by
  have size : (state.registers .r2).toNat = 3 := by rw [three]; decide
  rw [Environment.tracePrintk,
    bpfTracePrintk_eq size (pointer ▸ environment.locate_rodata (by decide) within), stored]

/-- The format strings stay where the object file has them. -/
theorem Stage.format {calls : List KernelCall} {state : State Name (List KernelCall)}
    (stage : Stage environment calls state) (start : Nat) :
    state.contents.read .rodata start 3 = environment.contents.read .rodata start 3 :=
  Contents.read_congr (stage.others .rodata (by decide) (by decide)) start 3

/-- A trace line keeps the stage and goes to the end of the calls. -/
theorem Stage.print_executes {calls : List KernelCall} {state : State Name (List KernelCall)}
    {start : Nat} {format : List Byte} {argument : Word} {rest : List (Instruction Symbol)}
    {post : State Name (List KernelCall) → Prop} (stage : Stage environment calls state)
    (pointer : state.registers .r1 = environment.layout.pointer .rodata start)
    (three : state.registers .r2 = immediate 3) (shown : state.registers .r3 = argument)
    (within : start + 3 ≤ 15) (stored : environment.contents.read .rodata start 3 = format)
    (continues : ∀ next, Stage environment (calls ++ [.printk ⟨format, argument⟩]) next →
      next.registers .r7 = state.registers .r7 → next.contents = state.contents →
      Executes environment.world rest next post) :
    Executes environment.world (.call 6 :: rest) state post := by
  have answered := environment.tracePrintk_eq pointer three within ((stage.format start).trans stored)
  apply executes_call answered
  intro next result saved same trace
  have appended : next.kernel = calls ++ [.printk ⟨format, argument⟩] := by
    rw [trace, stage.kernel, shown]
  exact continues next (stage.called (saved .r10 rfl) (saved .r6 rfl) same appended) (saved .r7 rfl) same

/-- The element of a configured user holds its message. -/
theorem Stage.element {calls : List KernelCall} {state : State Name (List KernelCall)}
    (stage : Stage environment calls state) {key : Vector Byte 4} {msg : MsgT}
    (found : myConfig.lookup key = some msg) :
    state.contents.read (.element key) 0 12 = msg.message.toList := by
  have shown : environment.contents.read (.element key) 0 msg.message.toList.length =
      msg.message.toList := by
    apply Contents.read_shown
    intro index
    simp only [Environment.contents, found, Option.map_some, Option.getD_some]
  rw [Contents.read_congr (stage.others (.element key) (by simp) (by simp))]
  rwa [Vector.length_toList] at shown

theorem Stage.message {calls : List KernelCall} {state : State Name (List KernelCall)}
    (stage : Stage environment calls state) :
    state.contents.read .message 0 12 = globals.message.toList := by
  have shown : environment.contents.read .message 0 globals.message.toList.length =
      globals.message.toList := Contents.read_shown fun index => rfl
  rw [Contents.read_congr (stage.others .message (by decide) (by decide))]
  rwa [Vector.length_toList] at shown

variable (environment) in
/-- The copy goes to the message of the record and comes from a source of twelve bytes. -/
structure Copies (source : Name) (state : State Name (List KernelCall)) : Prop where
  target : state.registers .r1 = environment.layout.pointer .stack 500
  size : state.registers .r2 = immediate 12
  origin : state.registers .r3 = environment.layout.pointer source 0

theorem configured_executes {state : State Name (List KernelCall)}
    (stage : Stage environment [] state) {key : Vector Byte 4} {msg : MsgT}
    (found : myConfig.lookup key = some msg)
    (pointer : state.registers .r7 = environment.layout.pointer (.element key) 0) :
    Executes environment.world configuredBlock state fun next =>
      Stage environment ([printFirst msg].filterMap (Action.observed environment.ctx)) next ∧
        Copies environment (.element key) next := by
  have place : environment.layout.locate (environment.layout.pointer (.element key) 0) 1 =
      some (.element key, 0) :=
    environment.layout.locate_pointer (by simp [liveNames, Table.mem_keys_of_lookup found]) (by decide)
      (by decide : 0 + 1 ≤ 12)
  have first : state.contents (.element key) 0 = msg.message[0] := by
    have shown := Contents.byte_of_read (stage.element found) (by simp : 0 < msg.message.toList.length)
    simpa using shown
  simp only [configuredBlock, executes_alu, executes_load, executes_address, Environment.world_layout,
    Environment.world_address, Environment.address, State.set_registers, Operation.apply, Operand.value,
    if_true, Width.count, pointer, Layout.pointer_moved, place, Nat.cast_zero,
    Option.some.injEq, exists_eq_left', BitVec.add_zero, Int.add_zero, le_refl, Int.toNat_zero,
    Contents.number_one, first, shift_character, shifts_sign]
  refine Stage.print_executes (stage.called rfl rfl rfl stage.kernel) rfl rfl rfl (by decide) rfl ?_
  intro next after kept same
  have frame := after.frame
  have element : next.registers .r7 = environment.layout.pointer (.element key) 0 := kept.trans pointer
  simp only [executes_alu, executes_nil, State.set_registers, Operation.apply, Operand.value,
    reduceCtorEq, if_true, if_false, frame, element]
  refine ⟨after.called rfl rfl rfl after.kernel, ⟨?_, rfl, rfl⟩⟩
  exact environment.layout.pointer_immediate .stack (by decide : ((512 : Nat) : Int) + -12 = (500 : Nat))

theorem default_executes {state : State Name (List KernelCall)} (stage : Stage environment [] state) :
    Executes environment.world defaultBlock state fun next =>
      Stage environment [] next ∧ Copies environment .message next := by
  simp only [defaultBlock, executes_alu, executes_address, executes_nil, State.set_registers,
    Operation.apply, Operand.value, if_true, stage.frame, Environment.world_address,
    Environment.address, BitVec.add_zero]
  refine ⟨stage.called rfl rfl rfl stage.kernel, ⟨?_, rfl, rfl⟩⟩
  exact environment.layout.pointer_immediate .stack (by decide : ((512 : Nat) : Int) + -12 = (500 : Nat))

variable (environment) in
/-- The record has its message, and two registers hold the address and the value of the counter. -/
structure Copied (dataMessage : Vector Byte 12) (state : State Name (List KernelCall)) : Prop where
  message : state.contents.read .stack 500 12 = dataMessage.toList
  address : state.registers .r7 = environment.layout.pointer .c 0
  value : state.registers .r1 = BitVec.ofNat 64 (globals.c + 1).toNat

theorem copy_executes {calls : List KernelCall} {state : State Name (List KernelCall)}
    (stage : Stage environment calls state) {source : Name} {dataMessage : Vector Byte 12}
    (copies : Copies environment source state)
    (live : source ∈ liveNames myConfig) (twelve : objectSize source = 12)
    (shown : state.contents.read source 0 12 = dataMessage.toList) :
    Executes environment.world copyBlock state fun next =>
      Stage environment calls next ∧ Copied environment dataMessage next := by
  have size : (immediate 12).toNat = 12 := by decide
  have origin := environment.layout.locate_pointer live (by decide : 0 < 12)
    (by rw [twelve] : 0 + 12 ≤ objectSize source)
  have target := environment.locate_stack (by decide : 0 < 12) (by decide : 500 + 12 ≤ 512)
  have copied : environment.world.helper 113 state = some
      ⟨0, state.contents.write .stack 500 dataMessage.toList, state.kernel⟩ := by
    change environment.probeReadKernel state = _
    simp only [Environment.probeReadKernel, copies.size, size, copies.target, target, copies.origin,
      origin, Option.bind_eq_bind, Option.bind_some, shown]
  apply executes_call copied
  intro next result saved memory trace
  have after := stage.written (saved .r10 rfl) (saved .r6 rfl) (by decide) memory trace
  have place := environment.locate_c (by decide : 0 < 4) (by decide : 0 + 4 ≤ 4)
  have loaded := Contents.half_eq after.counter
  simp only [executes_address, executes_load, executes_nil, Environment.world_layout,
    Environment.world_address, Environment.address, State.set_registers, if_true, Width.count,
    Layout.pointer_moved, place, Nat.cast_zero, Option.some.injEq, exists_eq_left', BitVec.add_zero,
    Int.add_zero, le_refl, Int.toNat_zero, State.set_contents, loaded]
  refine ⟨after.called rfl rfl rfl after.kernel, ⟨?_, rfl, rfl⟩⟩
  have written := state.contents.read_write_self .stack 500 dataMessage.toList
  rw [Vector.length_toList] at written
  simp only [State.set_contents]
  rw [memory]
  exact written

theorem message_executes {calls : List KernelCall} {state : State Name (List KernelCall)}
    (stage : Stage environment calls state) {dataMessage : Vector Byte 12}
    (copied : Copied environment dataMessage state)
    (inside : (globals.c + 1).toNat < 12) :
    Executes environment.world messageBlock state fun next =>
      Stage environment
        (calls ++ [.printk ⟨literal "%c", charArgument globals.message[(globals.c + 1).toNat]⟩]) next ∧
      Copied environment dataMessage next := by
  have place := environment.locate_message (by decide : 0 < 1)
    (by omega : (globals.c + 1).toNat + 1 ≤ 12)
  have character : state.contents .message (globals.c + 1).toNat =
      globals.message[(globals.c + 1).toNat] := by
    have shown := Contents.byte_of_read stage.message (by simpa using inside)
    simpa using shown
  have address : environment.layout.pointer .message (0 + (globals.c + 1).toNat) + immediate 0 =
      environment.layout.pointer .message (globals.c + 1).toNat :=
    environment.layout.pointer_immediate .message (by omega)
  simp only [messageBlock, executes_alu, executes_load, executes_address, Environment.world_layout,
    Environment.world_address, Environment.address, State.set_registers, Operation.apply, Operand.value,
    reduceCtorEq, if_true, if_false, Width.count, copied.value, Layout.pointer_offset, address, place,
    Option.some.injEq, exists_eq_left', BitVec.add_zero, State.set_contents, Contents.number_one,
    character, shift_character, shifts_sign]
  refine Stage.print_executes (stage.called rfl rfl rfl stage.kernel) rfl rfl rfl (by decide) rfl ?_
  intro next after kept same
  have pointer : next.registers .r7 = environment.layout.pointer .c 0 := kept.trans copied.address
  have counterPlace := environment.locate_c (by decide : 0 < 4) (by decide : 0 + 4 ≤ 4)
  have loaded := Contents.half_eq after.counter
  simp only [executes_load, executes_nil, Environment.world_layout, Width.count, pointer,
    Layout.pointer_moved, counterPlace, Nat.cast_zero, Option.some.injEq, exists_eq_left',
    Int.add_zero, le_refl, Int.toNat_zero, loaded]
  refine ⟨after.called rfl rfl rfl after.kernel, ⟨?_, pointer, rfl⟩⟩
  rw [State.set_contents, same]
  exact copied.message

theorem dataMessage_executes {calls : List KernelCall} {state : State Name (List KernelCall)}
    (stage : Stage environment calls state) {dataMessage : Vector Byte 12}
    (copied : Copied environment dataMessage state)
    (inside : (globals.c + 1).toNat < 12) :
    Executes environment.world dataMessageBlock state fun next =>
      Stage environment
        (calls ++ [.printk ⟨literal "%c", charArgument dataMessage[(globals.c + 1).toNat]⟩]) next ∧
      next.contents.read .stack 500 12 = dataMessage.toList := by
  -- The message ends with the frame, so the frame bounds the access like the array does.
  have place := environment.locate_stack (by decide : 0 < 1)
    (by omega : 500 + (globals.c + 1).toNat + 1 ≤ 512)
  have character : state.contents .stack (500 + (globals.c + 1).toNat) =
      dataMessage[(globals.c + 1).toNat] := by
    have shown := Contents.byte_of_read copied.message (by simpa using inside)
    simpa using shown
  have record : environment.layout.pointer .stack 512 + immediate (-40) =
      environment.layout.pointer .stack 472 :=
    environment.layout.pointer_immediate .stack (by decide)
  have address : environment.layout.pointer .stack (472 + (globals.c + 1).toNat) + immediate 28 =
      environment.layout.pointer .stack (500 + (globals.c + 1).toNat) :=
    environment.layout.pointer_immediate .stack (by omega)
  simp only [dataMessageBlock, executes_alu, executes_load, executes_address, Environment.world_layout,
    Environment.world_address, Environment.address, State.set_registers, Operation.apply, Operand.value,
    reduceCtorEq, if_true, if_false, Width.count, copied.value, stage.frame, record,
    Layout.pointer_offset, address, place, Option.some.injEq, exists_eq_left', State.set_contents,
    Contents.number_one, character, shift_character, shifts_sign]
  refine Stage.print_executes (stage.called rfl rfl rfl stage.kernel) rfl rfl rfl (by decide) rfl ?_
  intro next after _ same
  rw [executes_nil]
  refine ⟨after, ?_⟩
  rw [same]
  exact copied.message

theorem Environment.getCurrentComm_eq {state : State Name (List KernelCall)} {start : Nat}
    (pointer : state.registers .r1 = environment.layout.pointer .stack start)
    (sixteen : state.registers .r2 = immediate 16) (within : start + 16 ≤ 512) :
    environment.getCurrentComm state = some
      ⟨0, state.contents.write .stack start event.comm.toList, state.kernel⟩ := by
  have size : (immediate 16).toNat = 16 := by decide
  have whole : event.comm.toList.take 16 = event.comm.toList :=
    List.take_of_length_le (by rw [Vector.length_toList])
  simp only [Environment.getCurrentComm, sixteen, size, pointer,
    environment.locate_stack (by decide) within, Option.bind_eq_bind, Option.bind_some, whole]

theorem Environment.perfEventOutput_eq {state : State Name (List KernelCall)} {start : Nat}
    {bytes : List Byte} (map : state.registers .r2 = environment.outputAddress)
    (pointer : state.registers .r4 = environment.layout.pointer .stack start)
    (forty : state.registers .r5 = immediate 40) (within : start + 40 ≤ 512)
    (stored : state.contents.read .stack start 40 = bytes) :
    environment.perfEventOutput state = some ⟨environment.status state, state.contents,
      state.kernel ++ [.output (state.registers .r1) (state.registers .r3) bytes]⟩ := by
  have size : (immediate 40).toNat = 40 := by decide
  simp only [Environment.perfEventOutput, map, if_true, forty, size, pointer,
    environment.locate_stack (by decide) within, Option.bind_eq_bind, Option.bind_some, stored]

/-- The command and the message complete the forty bytes of the record. -/
theorem Stage.bytes {calls : List KernelCall} {state : State Name (List KernelCall)}
    (stage : Stage environment calls state)
    (command : state.contents.read .stack 484 16 = event.comm.toList)
    (message : state.contents.read .stack 500 12 =
      (record .little myConfig globals event).message.toList) :
    state.contents.read .stack 472 40 = (record .little myConfig globals event).bytes := by
  rw [show (40 : Nat) = 12 + 16 + 12 from rfl, Contents.read_add, Contents.read_add, stage.fields,
    command, message]
  rfl

theorem output_executes {calls : List KernelCall} {state : State Name (List KernelCall)}
    (stage : Stage environment calls state)
    (message : state.contents.read .stack 500 12 =
      (record .little myConfig globals event).message.toList) :
    Executes environment.world outputBlock state fun final =>
      final.registers .r0 = 0 ∧
      Stage environment (calls ++ [.output environment.ctx BPF_F_CURRENT_CPU
        (record .little myConfig globals event).bytes]) final := by
  have command : environment.layout.pointer .stack 512 + immediate (-28) =
      environment.layout.pointer .stack 484 :=
    environment.layout.pointer_immediate .stack (by decide)
  simp only [outputBlock, executes_alu, State.set_registers, Operation.apply, Operand.value,
    if_true, stage.frame, command]
  refine executes_call (environment.getCurrentComm_eq rfl rfl (by decide)) ?_
  intro next result saved memory trace
  have after := stage.written (saved .r10 rfl) (saved .r6 rfl) (by decide) memory trace
  have kept : next.contents.read .stack 500 12 =
      (record .little myConfig globals event).message.toList := by
    rw [memory, Contents.read_write_other _ (Or.inr (Or.inr (by rw [Vector.length_toList])))]
    exact message
  have named : next.contents.read .stack 484 16 = event.comm.toList := by
    have written := state.contents.read_write_self .stack 484 event.comm.toList
    rw [Vector.length_toList] at written
    rw [memory]
    exact written
  have start : environment.layout.pointer .stack 512 + immediate (-40) =
      environment.layout.pointer .stack 472 :=
    environment.layout.pointer_immediate .stack (by decide)
  simp only [executes_alu, executes_address, executes_wide, Environment.world_address,
    Environment.address, State.set_registers, Operation.apply, Operand.value, reduceCtorEq, if_true,
    if_false, after.frame, after.context, start, BitVec.add_zero]
  refine executes_call (environment.perfEventOutput_eq rfl rfl rfl (by decide)
    (after.bytes named kept)) ?_
  intro final answer kept same trace
  have appended : final.kernel = next.kernel ++ [.output environment.ctx BPF_F_CURRENT_CPU
    (record .little myConfig globals event).bytes] := trace
  rw [after.kernel] at appended
  have last := after.called (kept .r10 rfl) (kept .r6 rfl) same appended
  rw [executes_alu, executes_nil]
  exact ⟨rfl, last.called rfl rfl rfl last.kernel⟩

/-- The trace line of a configured user is sent before the message is copied. -/
theorem prepare_reaches {state : State Name (List KernelCall)} (stage : Stage environment [] state)
    (pointer : state.registers .r7 =
      if (myConfig.lookup (configKey .little (maskedUid event))).isSome then
        environment.layout.pointer (.element (configKey .little (maskedUid event))) 0 else 0) :
    ∃ source next, Reaches environment.world kprobeExecCode (.running 29 state) (.running 47 next) ∧
      Stage environment ((configuredActions .little myConfig (maskedUid event)).filterMap
        (Action.observed environment.ctx)) next ∧
      Copies environment source next ∧ source ∈ liveNames myConfig ∧
      objectSize source = 12 ∧
      next.contents.read source 0 12 = (record .little myConfig globals event).message.toList := by
  have test : CodeAt kprobeExecCode 29 [.branch .eq .r7 (.constant 0) 12] :=
    codeAt_slice kprobeExecCode 27 1
  have configured : CodeAt kprobeExecCode 30 configuredBlock :=
    codeAt_slice kprobeExecCode 28 10
  have jump : CodeAt kprobeExecCode 41 [.jump 5] :=
    codeAt_slice kprobeExecCode 38 1
  have fallback : CodeAt kprobeExecCode 42 defaultBlock :=
    codeAt_slice kprobeExecCode 39 4
  have message : (record .little myConfig globals event).message =
      configuredMessage .little myConfig globals (maskedUid event) := rfl
  cases found : myConfig.lookup (configKey .little (maskedUid event)) with
  | none =>
      rw [found] at pointer
      obtain ⟨next, ran, after, copies⟩ := (default_executes stage).reaches fallback
      have taken : Reaches environment.world kprobeExecCode (.running 29 state) (.running 42 state) :=
        Reaches.taken test (Condition.eq_holds pointer) rfl
      refine ⟨.message, next, taken.trans ran, ?_, copies, by simp [liveNames], rfl, ?_⟩
      · rw [configuredActions, found]
        exact after
      · rw [message, configuredMessage, found]
        exact after.message
  | some msg =>
      rw [found] at pointer
      have live : Name.element (configKey .little (maskedUid event)) ∈ liveNames myConfig := by
        simp [liveNames, Table.mem_keys_of_lookup found]
      have nonnull : state.registers .r7 ≠ immediate 0 := by
        rw [pointer]
        exact environment.layout.pointer_ne_zero live (by decide : 0 < 12)
      obtain ⟨next, ran, after, copies⟩ := (configured_executes stage found pointer).reaches configured
      have fallen : Reaches environment.world kprobeExecCode (.running 29 state) (.running 30 state) :=
        Reaches.fallen test (Condition.eq_fails nonnull)
      refine ⟨_, next, fallen.trans (ran.trans (Reaches.jump jump rfl)), ?_, copies, live, rfl, ?_⟩
      · rw [configuredActions, found]
        exact after
      · rw [message, configuredMessage, found]
        exact after.element found

/-- The second bounds check is nested in the first one, and alone both see the same counter. -/
theorem print_reaches {calls : List KernelCall} {state : State Name (List KernelCall)}
    (stage : Stage environment calls state) {dataMessage : Vector Byte 12}
    (copied : Copied environment dataMessage state) :
    ∃ next, Reaches environment.world kprobeExecCode (.running 51 state) (.running 74 next) ∧
      Stage environment (calls ++ (arrayActions globals.message dataMessage (globals.c + 1).toNat).filterMap
        (Action.observed environment.ctx)) next ∧
      next.contents.read .stack 500 12 = dataMessage.toList := by
  have first : CodeAt kprobeExecCode 51 [.branch .gt .r1 (.constant 11) 22] :=
    codeAt_slice kprobeExecCode 46 1
  have messageCode : CodeAt kprobeExecCode 52 messageBlock :=
    codeAt_slice kprobeExecCode 47 9
  have second : CodeAt kprobeExecCode 63 [.branch .gt .r1 (.constant 11) 10] :=
    codeAt_slice kprobeExecCode 56 1
  have dataMessageCode : CodeAt kprobeExecCode 64 dataMessageBlock :=
    codeAt_slice kprobeExecCode 57 9
  have bound := (globals.c + 1).isLt
  have position : (BitVec.ofNat 64 (globals.c + 1).toNat : Word).toNat = (globals.c + 1).toNat := by
    rw [BitVec.toNat_ofNat]
    omega
  by_cases inside : (globals.c + 1).toNat < 12
  · obtain ⟨middle, ran, between, kept⟩ := (message_executes stage copied inside).reaches messageCode
    obtain ⟨next, printed, after, message⟩ :=
      (dataMessage_executes between kept inside).reaches dataMessageCode
    have below : (BitVec.ofNat 64 (globals.c + 1).toNat : Word).toNat ≤ (immediate 11).toNat := by
      rw [position]
      exact Nat.le_of_lt_succ inside
    have enters : Reaches environment.world kprobeExecCode (.running 51 state) (.running 52 state) :=
      Reaches.fallen first (Condition.gt_fails (by rw [copied.value]; exact below))
    have stays : Reaches environment.world kprobeExecCode (.running 63 middle) (.running 64 middle) :=
      Reaches.fallen second (Condition.gt_fails (by rw [kept.value]; exact below))
    refine ⟨next, enters.trans (ran.trans (stays.trans printed)), ?_, message⟩
    have observed : (arrayActions globals.message dataMessage (globals.c + 1).toNat).filterMap
        (Action.observed environment.ctx) =
          [.printk ⟨literal "%c", charArgument globals.message[(globals.c + 1).toNat]⟩] ++
            [.printk ⟨literal "%c", charArgument dataMessage[(globals.c + 1).toNat]⟩] := by
      rw [arrayActions, charActions, charActions, dif_pos inside, dif_pos inside]
      rfl
    rw [observed, ← List.append_assoc]
    exact after
  · have above : (immediate 11).toNat < (BitVec.ofNat 64 (globals.c + 1).toNat : Word).toNat := by
      rw [position]
      exact Nat.lt_of_succ_le (Nat.le_of_not_lt inside)
    have skips : Reaches environment.world kprobeExecCode (.running 51 state) (.running 74 state) :=
      Reaches.taken first (Condition.gt_holds (by rw [copied.value]; exact above)) rfl
    refine ⟨state, skips, ?_, copied.message⟩
    rw [arrayActions, charActions, charActions, dif_neg inside, dif_neg inside]
    simpa using stage

/-- The actions of an invocation, in their order. -/
def invocationActions (myConfig : MyConfig) (globals : Globals) (event : Event) : List Action :=
  configuredActions .little myConfig (maskedUid event) ++
    arrayActions globals.message (record .little myConfig globals event).message
      (globals.c + 1).toNat ++
    [.output BPF_F_CURRENT_CPU (record .little myConfig globals event)]

/-- The object bytecode exits at the last stage of its environment. -/
theorem kprobeExecCode_final (environment : Environment myConfig globals event) :
    ∃ final, Reaches environment.world kprobeExecCode (.running 0 environment.initial)
        (.exited final) ∧
      final.registers .r0 = 0 ∧
      Stage environment ((invocationActions myConfig globals event).filterMap
        (Action.observed environment.ctx)) final := by
  have startCode : CodeAt kprobeExecCode 0 startBlock := codeAt_slice kprobeExecCode 0 15
  have identifyCode : CodeAt kprobeExecCode 16 identifyBlock := codeAt_slice kprobeExecCode 15 12
  have copyCode : CodeAt kprobeExecCode 47 copyBlock := codeAt_slice kprobeExecCode 43 3
  have outputCode : CodeAt kprobeExecCode 74 outputBlock := codeAt_slice kprobeExecCode 66 12
  have exitCode : CodeAt kprobeExecCode 88 [.exit] := codeAt_slice kprobeExecCode 78 1
  obtain ⟨_, started, start⟩ := (start_executes environment).reaches startCode
  obtain ⟨_, identified, stage, pointer⟩ := (identify_executes environment start).reaches identifyCode
  obtain ⟨source, _, prepared, ready, copies, live, twelve, shown⟩ := prepare_reaches stage pointer
  obtain ⟨_, copied, between, message⟩ :=
    (copy_executes ready copies live twelve shown).reaches copyCode
  obtain ⟨_, printed, complete, kept⟩ := print_reaches between message
  obtain ⟨final, sent, zero, last⟩ := (output_executes complete kept).reaches outputCode
  have exits : Reaches environment.world kprobeExecCode (.running 0 environment.initial)
      (.exited final) :=
    started.trans (identified.trans (prepared.trans (copied.trans (printed.trans
      (sent.trans (Reaches.exit exitCode))))))
  refine ⟨final, exits, zero, ?_⟩
  rw [invocationActions, List.filterMap_append, List.filterMap_append]
  exact last

/-- The object bytecode returns zero, sends the same trace lines and the same forty bytes and leaves
the same global variables as the source, whatever the registers and the stack held before, and each
of its loads lies inside of an object. -/
theorem kprobeExecCode_refines (environment : Environment myConfig globals event) :
    ∃ final result, Reaches environment.world kprobeExecCode (.running 0 environment.initial)
        (.exited final) ∧
      kprobeExec .little myConfig globals event = some result ∧
      final.registers .r0 = 0 ∧ result.status = 0 ∧
      final.kernel = result.actions.filterMap (Action.observed environment.ctx) ∧
      final.contents.read .c 0 4 = littleBytes 4 result.globals.c.toNat ∧
      final.contents.read .message 0 12 = result.globals.message.toList ∧
      LoadsInside environment.world kprobeExecCode (.running 0 environment.initial) := by
  obtain ⟨final, exits, zero, last⟩ := kprobeExecCode_final environment
  exact ⟨final, _, exits, kprobeExec_eq .little myConfig globals event, zero, rfl, last.kernel,
    last.counter, last.message, exits.loads_inside⟩

end EbpfNotes.HelloVerifier
