import EbpfNotes.Construction.HashMapExampleBytecode

namespace EbpfNotes.HashMapExample

open Library

variable {table : CounterTable} {uidGid : Word} {header : Nat}
  (environment : Environment table uidGid header)

/-- Every table fits into the addresses, so each table has an environment. -/
theorem environment_exists (table : CounterTable) (uidGid : Word) {header : Nat} (small : header ≤ 56) :
    Nonempty (Environment table uidGid header) := by
  have total : ((liveNames table).map (objectSize header)).sum = 512 + table.keys.length * (header + 8) := by
    rw [liveNames, List.map_cons, List.sum_cons, List.map_map]
    change 512 + (table.keys.map fun _ => header + 8).sum = _
    rw [List.map_const', List.sum_replicate, smul_eq_mul]
  have bound := Nat.mul_le_mul table.keys_length_le (by omega : header + 8 ≤ 64)
  obtain ⟨layout⟩ := Layout.exists_packed (liveNames table) (objectSize header) (by omega)
  exact ⟨⟨layout, 0, fun _ => 0, fun _ _ => 0, fun _ _ => 0⟩⟩

theorem element_live {key value : Word} (found : table.lookup key = some value) :
    Name.element key ∈ liveNames table :=
  List.mem_cons_of_mem _ (List.mem_map_of_mem (Table.mem_keys_of_lookup found))

namespace Environment

/-- No address inside of an element is null. -/
theorem element_ne_zero {key value : Word} (found : table.lookup key = some value) {offset : Nat}
    (within : offset < header + 8) : environment.layout.pointer (.element key) offset ≠ 0 :=
  environment.layout.pointer_ne_zero (element_live found) within

theorem locate_stack {offset count : Nat} (positive : 0 < count) (within : offset + count ≤ 512) :
    environment.layout.locate (environment.layout.pointer .stack offset) count = some (.stack, offset) :=
  environment.layout.locate_pointer List.mem_cons_self positive within

/-- The lookup finds the key that the frame holds. -/
theorem mapLookupElem_eq {state : State Name Kernel} (key : Word) {start : Nat}
    (map : state.registers .r1 = environment.map)
    (pointer : state.registers .r2 = environment.layout.pointer .stack start)
    (within : start + 8 ≤ 512)
    (stored : state.contents.read .stack start 8 = littleBytes 8 key.toNat) :
    environment.mapLookupElem state = some
      ⟨if (state.kernel.counterTable.lookup key).isSome then
          environment.layout.pointer (.element key) 0 else 0,
        state.contents, (state.kernel.lookup key).2⟩ := by
  simp only [mapLookupElem, map, if_true, pointer, environment.locate_stack (by decide) within,
    Option.bind_eq_bind, Option.bind_some, Contents.word_eq stored, Kernel.lookup, bpfMapLookupElem]

/-- The update writes the value that the frame holds under the key that the frame holds. -/
theorem mapUpdateElem_eq {state : State Name Kernel} (key value : Word) {keyStart valueStart : Nat}
    (map : state.registers .r1 = environment.map)
    (keyPointer : state.registers .r2 = environment.layout.pointer .stack keyStart)
    (keyWithin : keyStart + 8 ≤ 512)
    (keyStored : state.contents.read .stack keyStart 8 = littleBytes 8 key.toNat)
    (valuePointer : state.registers .r3 = environment.layout.pointer .stack valueStart)
    (valueWithin : valueStart + 8 ≤ 512)
    (valueStored : state.contents.read .stack valueStart 8 = littleBytes 8 value.toNat) :
    environment.mapUpdateElem state = some
      ⟨(state.kernel.update key value (state.registers .r4)).1,
        showTable header (state.kernel.update key value (state.registers .r4)).2.counterTable
          state.contents,
        (state.kernel.update key value (state.registers .r4)).2⟩ := by
  simp only [mapUpdateElem, map, if_true, keyPointer, environment.locate_stack (by decide) keyWithin,
    valuePointer, environment.locate_stack (by decide) valueWithin, Option.bind_eq_bind,
    Option.bind_some, Contents.word_eq keyStored, Contents.word_eq valueStored]

end Environment

/-- The instructions up to the lookup, with the two functions that they call. -/
def lookupBlock (fetchUid lookup : Nat) : List (Instruction Symbol) := [
  .call fetchUid,
  .alu .lsh .r0 (.constant 32),
  .alu .rsh .r0 (.constant 32),
  .store .u64 .r10 (-8) .r0,
  .alu .mov .r2 (.register .r10),
  .alu .add .r2 (.constant (-8)),
  .address .r1 .counterTable 0,
  .call lookup]

/-- The instructions from the store of the counter on, with the function that they call. -/
def updateBlock (update : Nat) : List (Instruction Symbol) := [
  .store .u64 .r10 (-16) .r1,
  .alu .mov .r2 (.register .r10),
  .alu .add .r2 (.constant (-8)),
  .alu .mov .r3 (.register .r10),
  .alu .add .r3 (.constant (-16)),
  .address .r1 .counterTable 0,
  .alu .mov .r4 (.constant 0),
  .call update,
  .alu .mov .r0 (.constant 0)]

/-- The frame holds the key, the elements show the table, and the kernel has seen one lookup. -/
structure LookedUp (state : State Name Kernel) : Prop where
  frame : state.registers .r10 = environment.layout.pointer .stack 512
  key : state.contents.read .stack 504 8 = littleBytes 8 (maskUid uidGid).toNat
  kernel : state.kernel = ⟨table, [.lookup (maskUid uidGid)]⟩
  elements : ∀ key value, table.lookup key = some value →
    state.contents.read (.element key) header 8 = littleBytes 8 value.toNat

/-- The element of a present key shows its value. -/
theorem showTable_element {table : CounterTable} (header : Nat) (contents : Contents Name)
    {key value : Word} (found : table.lookup key = some value) :
    (showTable header table contents).read (.element key) header 8 = littleBytes 8 value.toNat := by
  apply List.map_congr_left
  intro index _
  simp only [showTable, Nat.le_add_right, if_true, found, Option.getD_some, Nat.add_sub_cancel_left]

theorem frame_pointer {state : State Name Kernel}
    (frame : state.registers .r10 = environment.layout.pointer .stack 512) {offset : Int} {target : Nat}
    (moved : (512 : Int) + offset = target) :
    state.registers .r10 + immediate offset = environment.layout.pointer .stack target := by
  rw [frame, environment.layout.pointer_immediate .stack moved]

theorem lookupBlock_executes {helper : Nat → State Name Kernel → Option (Return Name Kernel)}
    {fetchUid lookup : Nat} (fetches : helper fetchUid = getCurrentUidGid uidGid)
    (looks : helper lookup = environment.mapLookupElem) :
    Executes (environment.world helper) (lookupBlock fetchUid lookup) environment.initial fun state =>
      LookedUp environment state ∧ state.registers .r0 =
        if (table.lookup (maskUid uidGid)).isSome then
          environment.layout.pointer (.element (maskUid uidGid)) 0 else 0 := by
  apply executes_call (congrFun fetches environment.initial)
  intro state result saved contents kernel
  have frame : state.registers .r10 = environment.layout.pointer .stack 512 := saved .r10 rfl
  have keyPointer := frame_pointer environment frame (by decide : (512 : Int) + -8 = (504 : Nat))
  have found := environment.locate_stack (by decide : 0 < 8) (by decide : 504 + 8 ≤ 512)
  simp only [executes_alu, executes_store, executes_address, Environment.world_layout,
    Environment.world_address, State.set_registers, State.put_registers, Operation.apply, Operand.value,
    reduceCtorEq, if_true, if_false, Width.count, keyPointer, found, Option.some.injEq,
    exists_eq_left', result, half_distance, shifts_lowerHalf, BitVec.add_zero]
  have stored := state.contents.read_write_self .stack 504
    (littleBytes 8 (maskUid uidGid).toNat)
  refine executes_call ((congrFun looks _).trans (environment.mapLookupElem_eq
    (maskUid uidGid) rfl rfl (by decide) stored)) ?_
  intro next answer preserved after trace
  have memory : next.contents = environment.initial.contents.write .stack 504
      (littleBytes 8 (maskUid uidGid).toNat) := by
    have start : state.contents = environment.initial.contents := contents
    rw [after, ← start]
    rfl
  refine executes_nil.mpr ⟨⟨?_, ?_, ?_, ?_⟩, ?_⟩
  · rw [preserved .r10 rfl]
    exact frame
  · rw [after]
    exact stored
  · rw [trace]
    change (state.kernel.lookup _).2 = _
    rw [kernel]
    rfl
  · intro key value present
    rw [memory, Contents.read_write_other _ (Or.inl (by simp))]
    exact showTable_element header environment.bytes present
  · rw [answer]
    change (if (state.kernel.counterTable.lookup _).isSome = true then _ else _) = _
    rw [kernel]
    rfl

/-- The store, the call of the update and the result zero are the end of `hello`. -/
theorem updateBlock_executes {helper : Nat → State Name Kernel → Option (Return Name Kernel)}
    {update : Nat} (updates : helper update = environment.mapUpdateElem) {state : State Name Kernel}
    (lookedUp : LookedUp environment state)
    (counter : state.registers .r1 = loadCounter (table.lookup (maskUid uidGid)) + 1) :
    Executes (environment.world helper) (updateBlock update) state fun final =>
      final.registers .r0 = 0 ∧ final.kernel = (hello ⟨table, []⟩ uidGid).2 := by
  have keyPointer := frame_pointer environment lookedUp.frame
    (by decide : (512 : Int) + -8 = (504 : Nat))
  have valuePointer := frame_pointer environment lookedUp.frame
    (by decide : (512 : Int) + -16 = (496 : Nat))
  have found := environment.locate_stack (by decide : 0 < 8) (by decide : 496 + 8 ≤ 512)
  simp only [updateBlock, executes_alu, executes_store, executes_address, Environment.world_layout,
    Environment.world_address, State.set_registers, State.put_registers, Operation.apply, Operand.value,
    reduceCtorEq, if_true, if_false, Width.count, keyPointer, valuePointer, found, Option.some.injEq,
    exists_eq_left', counter, BitVec.add_zero]
  have valueStored := state.contents.read_write_self .stack 496
    (littleBytes 8 (loadCounter (table.lookup (maskUid uidGid)) + 1).toNat)
  have keyStored : (state.contents.write .stack 496
      (littleBytes 8 (loadCounter (table.lookup (maskUid uidGid)) + 1).toNat)).read
        .stack 504 8 = littleBytes 8 (maskUid uidGid).toNat := by
    rw [Contents.read_write_other _ (Or.inr (Or.inr (by rw [littleBytes_length])))]
    exact lookedUp.key
  refine executes_call ((congrFun updates _).trans (environment.mapUpdateElem_eq
    (maskUid uidGid) (loadCounter (table.lookup (maskUid uidGid)) + 1)
    rfl rfl (by decide) keyStored rfl (by decide) valueStored)) ?_
  intro next answer preserved after trace
  rw [executes_alu, executes_nil]
  refine ⟨rfl, ?_⟩
  rw [State.set_kernel, trace]
  change (state.kernel.update _ _ _).2 = _
  rw [lookedUp.kernel]
  rfl

variable {environment}

/-- The program may change every register except the frame pointer. -/
theorem LookedUp.set {state : State Name Kernel} (lookedUp : LookedUp environment state)
    {register : Register} (other : register ≠ .r10) (value : Word) :
    LookedUp environment (state.set register value) where
  frame := (if_neg (Ne.symm other)).trans lookedUp.frame
  key := lookedUp.key
  kernel := lookedUp.kernel
  elements := lookedUp.elements

/-- The instructions that load the counter of a present user and add one. -/
def incrementBlock : List (Instruction Symbol) := [
  .load .u64 .r1 .r0 0,
  .alu .add .r1 (.constant 1)]

theorem incrementBlock_executes (helper : Nat → State Name Kernel → Option (Return Name Kernel))
    {state : State Name Kernel} {value : Word} (lookedUp : LookedUp environment state)
    (found : table.lookup (maskUid uidGid) = some value)
    (pointer : state.registers .r0 =
      environment.layout.pointer (.element (maskUid uidGid)) header) :
    Executes (environment.world helper) incrementBlock state fun next =>
      LookedUp environment next ∧ next.registers .r1 = value + 1 := by
  have place := environment.layout.locate_pointer (element_live found) (by decide : 0 < 8)
    (Nat.le_refl _ : header + 8 ≤ objectSize header (.element (maskUid uidGid)))
  have address : state.registers .r0 + immediate 0 =
      environment.layout.pointer (.element (maskUid uidGid)) header := by
    rw [pointer]
    exact environment.layout.pointer_immediate _ (Int.add_zero _)
  have loaded := Contents.word_eq (lookedUp.elements _ _ found)
  simp only [incrementBlock, executes_load, executes_alu, executes_nil, Environment.world_layout,
    address, Width.count, place, Option.some.injEq, exists_eq_left', loaded, State.set_registers,
    Operation.apply, Operand.value, if_true]
  exact ⟨(lookedUp.set (by decide) _).set (by decide) _, rfl⟩

/-- Behind the update only the exit is left. -/
theorem update_exits {helper : Nat → State Name Kernel → Option (Return Name Kernel)} {update : Nat}
    (updates : helper update = environment.mapUpdateElem) {program : List (Instruction Symbol)}
    {slot : Nat} (code : CodeAt program slot (updateBlock update))
    (last : CodeAt program (slot + 10) [.exit]) {state : State Name Kernel}
    (lookedUp : LookedUp environment state)
    (counter : state.registers .r1 = loadCounter (table.lookup (maskUid uidGid)) + 1) :
    ∃ final, Reaches (environment.world helper) program (.running slot state) (.exited final) ∧
      final.registers .r0 = 0 ∧ final.kernel = (hello ⟨table, []⟩ uidGid).2 := by
  obtain ⟨final, updated, finished⟩ :=
    (updateBlock_executes environment updates lookedUp counter).reaches code
  exact ⟨final, updated.trans (Reaches.exit last), finished⟩

/-- Both programs end alike: the test for an absent user, the increment, the update and the exit. -/
theorem count_exits {helper : Nat → State Name Kernel → Option (Return Name Kernel)} {update : Nat}
    (updates : helper update = environment.mapUpdateElem) {program : List (Instruction Symbol)}
    {slot : Nat} (test : CodeAt program slot [.branch .eq .r0 (.constant 0) 2])
    (increment : CodeAt program (slot + 1) incrementBlock)
    (code : CodeAt program (slot + 3) (updateBlock update))
    (last : CodeAt program (slot + 13) [.exit]) {state : State Name Kernel}
    (lookedUp : LookedUp environment state) (one : state.registers .r1 = immediate 1)
    (pointer : state.registers .r0 =
      if (table.lookup (maskUid uidGid)).isSome then
        environment.layout.pointer (.element (maskUid uidGid)) header else 0) :
    ∃ final, Reaches (environment.world helper) program (.running slot state) (.exited final) ∧
      final.registers .r0 = 0 ∧ final.kernel = (hello ⟨table, []⟩ uidGid).2 := by
  cases found : table.lookup (maskUid uidGid) with
  | none =>
      rw [found] at pointer
      have counter : state.registers .r1 = loadCounter (table.lookup (maskUid uidGid)) + 1 := by
        rw [one, found]
        rfl
      obtain ⟨final, exits, finished⟩ := update_exits updates code last lookedUp counter
      have lands : (slot : Int) + 1 + 2 = (slot + 3 : Nat) := by omega
      have skips : Reaches (environment.world helper) program (.running slot state)
          (.running (slot + 3) state) :=
        Reaches.taken test (Condition.eq_holds pointer) lands
      exact ⟨final, skips.trans exits, finished⟩
  | some value =>
      rw [found] at pointer
      have nonnull : state.registers .r0 ≠ immediate 0 := by
        rw [pointer]
        exact environment.element_ne_zero found (by omega)
      obtain ⟨next, added, incremented, counter⟩ :=
        (incrementBlock_executes helper lookedUp found pointer).reaches increment
      have sum : next.registers .r1 = loadCounter (table.lookup (maskUid uidGid)) + 1 := by
        rw [counter, found]
        rfl
      obtain ⟨final, exits, finished⟩ := update_exits updates code last incremented sum
      have enters : Reaches (environment.world helper) program (.running slot state)
          (.running (slot + 1) state) :=
        Reaches.fallen test (Condition.eq_fails nonnull)
      exact ⟨final, enters.trans (added.trans exits), finished⟩

/-- The object bytecode makes the accesses of `hello` and returns zero. -/
theorem objectCode_refines (environment : Environment table uidGid 0) :
    ∃ final, Reaches (environment.world environment.objectHelper) objectCode
        (.running 0 environment.initial) (.exited final) ∧
      final.registers .r0 = 0 ∧ final.kernel = (hello ⟨table, []⟩ uidGid).2 := by
  have fetches : environment.objectHelper 15 = getCurrentUidGid uidGid := rfl
  have looks : environment.objectHelper 1 = environment.mapLookupElem := rfl
  have updates : environment.objectHelper 2 = environment.mapUpdateElem := rfl
  have lookupCode : CodeAt objectCode 0 (lookupBlock 15 1) := codeAt_slice objectCode 0 8
  have one : CodeAt objectCode 9 [.alu .mov .r1 (.constant 1)] := codeAt_slice objectCode 8 1
  have test : CodeAt objectCode 10 [.branch .eq .r0 (.constant 0) 2] := codeAt_slice objectCode 9 1
  have increment : CodeAt objectCode 11 incrementBlock := codeAt_slice objectCode 10 2
  have updateCode : CodeAt objectCode 13 (updateBlock 2) := codeAt_slice objectCode 12 9
  have last : CodeAt objectCode 23 [.exit] := codeAt_slice objectCode 21 1
  obtain ⟨state, looked, lookedUp, result⟩ :=
    (lookupBlock_executes environment fetches looks).reaches lookupCode
  have kept := lookedUp.set (by decide : Register.r1 ≠ .r10) (immediate 1)
  have starts : Reaches (environment.world environment.objectHelper) objectCode
      (.running 0 environment.initial) (.running 10 (state.set .r1 (immediate 1))) :=
    looked.trans (Reaches.effect one rfl)
  obtain ⟨final, exits, finished⟩ := count_exits updates test increment updateCode last kept rfl result
  exact ⟨final, starts.trans exits, finished⟩

/-- The translated lookup moves the address of a present element to its value. -/
theorem offset_reaches {helper : Nat → State Name Kernel → Option (Return Name Kernel)}
    {environment : Environment table uidGid 56} {program : List (Instruction Symbol)} {slot : Nat}
    (test : CodeAt program slot [.branch .eq .r0 (.constant 0) 1])
    (move : CodeAt program (slot + 1) [.alu .add .r0 (.constant 56)]) {state : State Name Kernel}
    (lookedUp : LookedUp environment state)
    (pointer : state.registers .r0 =
      if (table.lookup (maskUid uidGid)).isSome then
        environment.layout.pointer (.element (maskUid uidGid)) 0 else 0) :
    ∃ next, Reaches (environment.world helper) program (.running slot state) (.running (slot + 2) next) ∧
      LookedUp environment next ∧ next.registers .r0 =
        if (table.lookup (maskUid uidGid)).isSome then
          environment.layout.pointer (.element (maskUid uidGid)) 56 else 0 := by
  cases found : table.lookup (maskUid uidGid) with
  | none =>
      rw [found] at pointer
      have lands : (slot : Int) + 1 + 1 = (slot + 2 : Nat) := by omega
      exact ⟨state, Reaches.taken test (Condition.eq_holds pointer) lands, lookedUp, pointer⟩
  | some value =>
      rw [found] at pointer
      have nonnull : state.registers .r0 ≠ immediate 0 := by
        rw [pointer]
        exact environment.element_ne_zero found (by decide : 0 < 56 + 8)
      -- The value of an element lies behind its header.
      have moved : state.registers .r0 + immediate 56 =
          environment.layout.pointer (.element (maskUid uidGid)) 56 := by
        rw [pointer]
        exact environment.layout.pointer_immediate _ (by decide : ((0 : Nat) : Int) + 56 = (56 : Nat))
      have enters : Reaches (environment.world helper) program (.running slot state)
          (.running (slot + 1) state) :=
        Reaches.fallen test (Condition.eq_fails nonnull)
      exact ⟨state.set .r0 (state.registers .r0 + immediate 56),
        enters.trans (Reaches.effect move rfl), lookedUp.set (by decide) _, moved⟩

/-- The translated bytecode makes the accesses of `hello` and returns zero. -/
theorem translatedCode_refines (environment : Environment table uidGid 56) :
    ∃ final, Reaches (environment.world environment.translatedHelper) translatedCode
        (.running 0 environment.initial) (.exited final) ∧
      final.registers .r0 = 0 ∧ final.kernel = (hello ⟨table, []⟩ uidGid).2 := by
  have fetches : environment.translatedHelper 235744 = getCurrentUidGid uidGid := rfl
  have looks : environment.translatedHelper 267632 = environment.mapLookupElem := rfl
  have updates : environment.translatedHelper 280992 = environment.mapUpdateElem := rfl
  have lookupCode : CodeAt translatedCode 0 (lookupBlock 235744 267632) :=
    codeAt_slice translatedCode 0 8
  have null : CodeAt translatedCode 9 [.branch .eq .r0 (.constant 0) 1] :=
    codeAt_slice translatedCode 8 1
  have move : CodeAt translatedCode 10 [.alu .add .r0 (.constant 56)] :=
    codeAt_slice translatedCode 9 1
  have one : CodeAt translatedCode 11 [.alu .mov .r1 (.constant 1)] :=
    codeAt_slice translatedCode 10 1
  have test : CodeAt translatedCode 12 [.branch .eq .r0 (.constant 0) 2] :=
    codeAt_slice translatedCode 11 1
  have increment : CodeAt translatedCode 13 incrementBlock := codeAt_slice translatedCode 12 2
  have updateCode : CodeAt translatedCode 15 (updateBlock 280992) := codeAt_slice translatedCode 14 9
  have last : CodeAt translatedCode 25 [.exit] := codeAt_slice translatedCode 23 1
  obtain ⟨state, looked, lookedUp, result⟩ :=
    (lookupBlock_executes environment fetches looks).reaches lookupCode
  obtain ⟨middle, offset, behind, pointer⟩ := offset_reaches null move lookedUp result
  have kept := behind.set (by decide : Register.r1 ≠ .r10) (immediate 1)
  have starts : Reaches (environment.world environment.translatedHelper) translatedCode
      (.running 0 environment.initial) (.running 12 (middle.set .r1 (immediate 1))) :=
    looked.trans (offset.trans (Reaches.effect one rfl))
  obtain ⟨final, exits, finished⟩ := count_exits updates test increment updateCode last kept rfl pointer
  exact ⟨final, starts.trans exits, finished⟩

/-- One lookup of the key is followed by one update with the loaded value plus one, or with 1. -/
theorem hello_accesses (table : CounterTable) (uidGid : Word) :
    (hello ⟨table, []⟩ uidGid).2.accesses =
      [.lookup (maskUid uidGid),
        .update (maskUid uidGid) (((table.lookup (maskUid uidGid)).map (· + 1)).getD 1) 0] := by
  change [Access.lookup (maskUid uidGid),
    .update (maskUid uidGid) (loadCounter (table.lookup (maskUid uidGid)) + 1) 0] = _
  cases table.lookup (maskUid uidGid) <;> rfl

/-- Both recorded programs exit with zero after the same accesses as `hello`, so all three leave the
same table. -/
theorem bytecode_refines (table : CounterTable) (uidGid : Word) (object : Environment table uidGid 0)
    (translated : Environment table uidGid 56) :
    (∃ final, Reaches (object.world object.objectHelper) objectCode
        (.running 0 object.initial) (.exited final) ∧
      final.registers .r0 = 0 ∧ final.kernel = (hello ⟨table, []⟩ uidGid).2) ∧
    (∃ final, Reaches (translated.world translated.translatedHelper) translatedCode
        (.running 0 translated.initial) (.exited final) ∧
      final.registers .r0 = 0 ∧ final.kernel = (hello ⟨table, []⟩ uidGid).2) ∧
    (hello ⟨table, []⟩ uidGid).2.accesses =
      [.lookup (maskUid uidGid),
        .update (maskUid uidGid) (((table.lookup (maskUid uidGid)).map (· + 1)).getD 1) 0] :=
  ⟨objectCode_refines object, translatedCode_refines translated, hello_accesses table uidGid⟩

end EbpfNotes.HashMapExample
