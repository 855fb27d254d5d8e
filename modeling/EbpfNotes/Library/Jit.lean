import EbpfNotes.Library.Lowering

namespace EbpfNotes.Library

open X86 (Frame)

section Simulation

variable {Symbol Name Kernel Region : Type} {live : List Name} {size machineSize : Name → Nat}
  [DecidableEq Name]

/-- A called function sees the arguments, the memory and the kernel of the program, and its stack ends
below the return address. -/
structure Presents (frame : Frame Name) (size : Name → Nat) (kernels : Kernel → Kernel → Prop)
    (layout : Layout live machineSize) (arguments : List Register) (state : State Name Kernel)
    (machine : X86.State Name Kernel) : Prop where
  registers : ∀ register ∈ arguments,
    machine.registers register.compiled = state.registers register
  pointer : machine.registers .rsp = layout.pointer frame.stack (frame.top - 8)
  contents : Contents.AgreeOn (frame.Common live size) machine.contents state.contents
  kernel : kernels machine.kernel state.kernel

/-- The buffers and the keys of a call lie inside of the bytes that the program shares. -/
structure Signature.Framed (signature : Signature Symbol Region) (frame : Frame Name)
    (world : World Symbol Name Kernel live size) (registers : Register → Word) : Prop where
  buffers : ∀ argument ∈ signature.buffers, ∃ name offset,
    world.layout.locate (registers argument.1) (registers argument.2).toNat = some (name, offset) ∧
      ∀ index < (registers argument.2).toNat, frame.Common live size name (offset + index)
  keys : ∀ argument ∈ signature.keys, ∃ name offset,
    world.layout.locate (registers argument.1) argument.2 = some (name, offset) ∧
      ∀ index < argument.2, frame.Common live size name (offset + index)

/-- A function of the kernel does what the helper does, and it leaves the guarded bytes alone. -/
structure Provides (frame : Frame Name) (live : List Name) (size : Name → Nat)
    (kernels : Kernel → Kernel → Prop) (returns : Kind Symbol Region) (answer : Return Name Kernel)
    (memory : Contents Name) (reply : Return Name Kernel) : Prop where
  result : returns.defined = true → reply.result = answer.result
  contents : Contents.AgreeOn (frame.Common live size) reply.contents answer.contents
  kernel : kernels reply.kernel answer.kernel
  guarded : Contents.AgreeOn frame.Guarded reply.contents memory

/-- The processor has the objects, the symbols and the helpers of the world, and it has room for the
frame below the return address and the frame pointer of the caller. -/
structure Hosts (lowering : Lowering Symbol) (frame : Frame Name) (interface : Interface Symbol Region)
    (regionOf : Name → Region) (ground : Region → Nat) (kernels : Kernel → Kernel → Prop)
    (world : World Symbol Name Kernel live size)
    (processor : X86.Processor Name Kernel live machineSize) : Prop where
  bases : ∀ name ∈ live, processor.layout.base name = world.layout.base name
  sizes : ∀ name ∈ live, size name ≤ machineSize name
  stack : frame.stack ∈ live
  limit : size frame.stack = frame.limit
  caller : machineSize frame.stack = frame.limit + 16
  room : frame.depth + 8 * frame.saved.length + 8 ≤ frame.limit
  pointer : frame.quiet .rsp = true
  base : frame.quiet .rbp = true
  saved : ∀ register ∈ frame.saved, register.preserved = true
  thunk : processor.thunk = lowering.thunk
  place : ∀ slot, lowering.place slot ≠ processor.thunk
  ground : ∀ name ∈ live, frame.floor name ≤ ground (regionOf name)
  resolve : ∀ symbol, immediate (lowering.resolve symbol) = world.address symbol
  helper : ∀ helper signature, interface.helper helper = some signature →
    ∀ (state : State Name Kernel) (machine : X86.State Name Kernel) (answer : Return Name Kernel),
      Presents frame size kernels processor.layout signature.registers state machine →
      signature.Framed frame world state.registers →
      world.helper helper state = some answer →
      ∃ reply, processor.function (lowering.target helper) machine = some reply ∧
        Provides frame live size kernels signature.returns answer machine.contents reply

/-- The compiled code has the defined registers, the memory and the kernel of the program, and it has
kept what belongs to its caller since its entry. -/
structure Related (frame : Frame Name) (live : List Name) (size : Name → Nat)
    (kernels : Kernel → Kernel → Prop) (kinds : Kinds Symbol Region) (state : State Name Kernel)
    (entry machine : X86.State Name Kernel) : Prop where
  registers : ∀ register, (kinds register).defined = true →
    machine.registers register.compiled = state.registers register
  contents : Contents.AgreeOn (frame.Common live size) machine.contents state.contents
  kernel : kernels machine.kernel state.kernel
  guarded : Contents.AgreeOn frame.Guarded machine.contents entry.contents
  quiet : ∀ register, frame.quiet register = true →
    machine.registers register = entry.registers register

variable {lowering : Lowering Symbol} {frame : Frame Name} {interface : Interface Symbol Region}
  {regionOf : Name → Region} {ground : Region → Nat} {kernels : Kernel → Kernel → Prop}
  {world : World Symbol Name Kernel live size}
  {processor : X86.Processor Name Kernel live machineSize} {listing : X86.Listing}
  {ready : Nat → Kernel → Prop} {kinds next : Kinds Symbol Region} {state after : State Name Kernel}
  {entry machine : X86.State Name Kernel}

/-- What a function of the kernel leaves on its own stack is neither shared nor guarded. -/
theorem Provides.leave {answer reply : Return Name Kernel} {returns : Kind Symbol Region}
    {layout : Layout live machineSize} (setting : X86.Setting Name Kernel)
    (small : frame.limit < 2 ^ 64)
    (pointer : machine.registers .rsp = layout.pointer frame.stack (frame.top - 8))
    (provides : Provides frame live size kernels returns answer machine.contents reply) :
    Provides frame live size kernels returns answer machine.contents
      (setting.leave layout frame.stack machine reply) := by
  have whole : frame.top = frame.limit - frame.depth - 8 * frame.saved.length := rfl
  have depth : (machine.registers .rsp - layout.base frame.stack).toNat = frame.top - 8 := by
    rw [pointer, Layout.pointer, BitVec.add_comm, BitVec.add_sub_cancel, BitVec.toNat_ofNat]
    omega
  have kept : ∀ name index, (name = frame.stack → frame.top - 8 ≤ index) →
      (setting.leave layout frame.stack machine reply).contents name index =
        reply.contents name index := by
    intro name index above
    simp only [X86.Setting.leave, depth]
    apply if_neg
    intro below
    have start := above below.1
    omega
  refine ⟨provides.result, ?_, provides.kernel, ?_⟩
  · intro name index common
    rw [kept name index]
    · exact provides.contents name index common
    · intro own
      have start := common.2.1
      rw [Frame.floor, if_pos own] at start
      omega
  · intro name index guarded
    rw [kept name index]
    · exact provides.guarded name index guarded
    · intro own
      have start := guarded.2.1
      omega

/-- A word that both sides write to a register keeps them related. -/
theorem Related.assign (related : Related frame live size kernels kinds state entry machine)
    {target : Register} (writable : frame.quiet target.compiled = false) (kind : Kind Symbol Region)
    {value : Word} {changed : X86.State Name Kernel}
    (registers : changed.registers = fun register =>
      if register = target.compiled then value else machine.registers register)
    (contents : changed.contents = machine.contents) (kernel : changed.kernel = machine.kernel) :
    Related frame live size kernels (kinds.set target kind) (state.set target value) entry changed where
  registers register defined := by
    rw [registers, State.set_registers]
    by_cases hit : register = target
    · simp only [hit, if_true]
    · rw [Kinds.set, if_neg hit] at defined
      simp only [if_neg hit, if_neg (mt Register.compiled_inj hit)]
      exact related.registers register defined
  contents := by
    rw [contents]
    exact related.contents
  kernel := by
    rw [kernel]
    exact related.kernel
  guarded := by
    rw [contents]
    exact related.guarded
  quiet register still := by
    have other : register ≠ target.compiled := by
      intro same
      rw [same, writable] at still
      cases still
    simp only [registers, if_neg other]
    exact related.quiet register still

/-- A learned kind keeps both sides related when its register was defined. -/
theorem Related.learned (related : Related frame live size kernels kinds state entry machine)
    (defined : ∀ register, (next register).defined = true → (kinds register).defined = true) :
    Related frame live size kernels next state entry machine :=
  ⟨fun register known => related.registers register (defined register known), related.contents,
    related.kernel, related.guarded, related.quiet⟩

/-- A constant is moved by one instruction. -/
theorem lowerConstant_runs {value : Int} {target : X86.Register} {lowered : List X86.Instruction}
    {address last : Nat} (constant : lowerConstant value target = some lowered)
    (held : X86.follow listing address lowered = some last) (machine : X86.State Name Kernel) :
    ∃ changed, X86.Runs processor listing (address, machine) (last, changed) ∧
      (changed.registers = fun register =>
        if register = target then immediate value else machine.registers register) ∧
      changed.contents = machine.contents ∧ changed.kernel = machine.kernel := by
  unfold lowerConstant at constant
  split_ifs at constant with zero short
  · obtain rfl := Option.some.inj constant
    refine ⟨_, X86.Runs.one held rfl, ?_, rfl, rfl⟩
    funext register
    simp only [X86.State.compute, X86.State.set, BitVec.xor_self, zero]
    split_ifs
    · decide
    · rfl
  · obtain rfl := Option.some.inj constant
    refine ⟨_, X86.Runs.one held rfl, ?_, rfl, rfl⟩
    obtain ⟨natural, rfl⟩ := Int.eq_ofNat_of_zero_le short.1
    have small : natural % 2 ^ 32 = natural := Nat.mod_eq_of_lt (by omega)
    funext register
    simp only [X86.State.set, Int.toNat_natCast, immediate_natCast, small]

/-- A grounded access of the program stands at the same place of the processor, inside of the common
bytes. -/
theorem Hosts.located (hosts : Hosts lowering frame interface regionOf ground kernels world processor)
    (implements : world.Implements interface regionOf ready) {kind : Kind Symbol Region} {word : Word}
    {offset : Int} {count : Nat} (describes : kind.Describes world regionOf word)
    (accessible : kind.accessible interface offset count = true)
    (grounded : kind.grounded ground offset = true) :
    ∃ name position, world.layout.locate (word + immediate offset) count = some (name, position) ∧
      processor.layout.locate (word + immediate offset) count = some (name, position) ∧
      ∀ index < count, frame.Common live size name (position + index) := by
  cases kind with
  | pointer region low high =>
      obtain ⟨name, position, located, rfl, lower⟩ := Kind.accessible_placed implements describes accessible
      have positive : 0 < count := by
        simp only [Kind.accessible, Bool.and_eq_true, decide_eq_true_eq] at accessible
        exact accessible.1.1
      obtain ⟨member, _, within⟩ := world.layout.locate_inside located
      have above := hosts.ground name member
      have start := of_decide_eq_true grounded
      refine ⟨name, position, located, ?_, ?_⟩
      · exact world.layout.locate_grown hosts.bases hosts.sizes positive located
      · intro index below
        exact ⟨member, by omega, by omega⟩
  | _ => cases accessible

/-- The frame of the program lies above the saved registers. -/
theorem Frame.common_not_guarded {name : Name} {index : Nat} (limit : size frame.stack = frame.limit)
    (common : frame.Common live size name index) : ¬ frame.Guarded name index := by
  intro guarded
  obtain ⟨rfl, _, outside⟩ := guarded
  obtain ⟨_, above, below⟩ := common
  rw [Frame.floor, if_pos rfl] at above
  omega

/-- The compiled code can follow the instruction. -/
structure Compilable (interface : Interface Symbol Region) (ground : Region → Nat)
    (frame : Frame Name) (kinds : Kinds Symbol Region) (instruction : Instruction Symbol) : Prop where
  reads : ∀ register ∈ instruction.reads interface, (kinds register).defined = true
  writes : ∀ register ∈ instruction.writes, frame.quiet register.compiled = false
  pointers : ∀ access ∈ instruction.pointers interface, (kinds access.1).grounded ground access.2 = true

omit [DecidableEq Name] in
theorem compilable_fetched {program : List (Instruction Symbol)} {slot : Nat}
    {instruction : Instruction Symbol} (fetched : fetch program slot = some instruction)
    (checked : compilable interface ground frame program slot kinds = true) :
    Compilable interface ground frame kinds instruction := by
  simp only [compilable, fetched, Bool.and_eq_true, List.all_eq_true, Bool.not_eq_true'] at checked
  exact ⟨checked.1.1, checked.1.2, checked.2⟩

/-- The return address of a call is pushed below the saved registers. -/
theorem Hosts.push (hosts : Hosts lowering frame interface regionOf ground kernels world processor)
    (related : Related frame live size kernels kinds state entry machine)
    (top : entry.registers .rsp = processor.layout.pointer frame.stack frame.top) (word : Word) :
    ∃ pushed, machine.push processor.layout word = some pushed ∧
      pushed.registers .rsp = processor.layout.pointer frame.stack (frame.top - 8) ∧
      (∀ register, register ≠ .rsp → pushed.registers register = machine.registers register) ∧
      Contents.AgreeOn (frame.Common live size) pushed.contents machine.contents ∧
      Contents.AgreeOn frame.Guarded pushed.contents machine.contents ∧
      pushed.kernel = machine.kernel := by
  have room := hosts.room
  have whole : frame.top = frame.limit - frame.depth - 8 * frame.saved.length := rfl
  have length := littleBytes_length 8 word.toNat
  obtain ⟨pushed, push, pointer, registers, written, kernel⟩ :=
    X86.push_pointer hosts.stack (by omega : 8 ≤ frame.top) (by rw [hosts.caller]; omega)
      ((related.quiet .rsp hosts.pointer).trans top) word
  refine ⟨pushed, push, pointer, registers, ?_, ?_, kernel⟩
  · rw [written]
    apply Contents.AgreeOn.write_outside (fun _ _ _ => rfl)
    intro index lower upper common
    obtain ⟨_, above, _⟩ := common
    rw [Frame.floor, if_pos rfl] at above
    omega
  · rw [written]
    apply Contents.AgreeOn.write_outside (fun _ _ _ => rfl)
    intro index lower upper guarded
    have above := guarded.2.1
    omega

theorem Register.compiled_preserved (register : Register) :
    register.compiled.preserved = !register.clobbered := by
  cases register <;> rfl

theorem Register.compiled_rsp (register : Register) : register.compiled ≠ .rsp := by
  cases register <;> decide

/-- The arguments of a call lie inside of the shared bytes. -/
theorem Hosts.framed (hosts : Hosts lowering frame interface regionOf ground kernels world processor)
    (implements : world.Implements interface regionOf ready)
    (describes : kinds.Describe world regionOf state.registers) [DecidableEq Symbol]
    {signature : Signature Symbol Region} (meets : kinds.meets interface signature = true)
    (grounded : ∀ register ∈ signature.pointers, (kinds register).grounded ground 0 = true) :
    signature.Framed frame world state.registers := by
  simp only [Kinds.meets, Bool.and_eq_true, List.all_eq_true] at meets
  obtain ⟨⟨_, buffers⟩, keys⟩ := meets
  have pointers : ∀ register, register ∈ signature.pointers ↔
      (∃ argument ∈ signature.buffers, argument.1 = register) ∨
        ∃ argument ∈ signature.keys, argument.1 = register := by
    intro register
    simp only [Signature.pointers, List.mem_append, List.mem_map]
  constructor
  · intro argument member
    obtain ⟨name, position, located, _, common⟩ := hosts.located implements (describes argument.1)
      (Kind.buffer_accessible (describes argument.2) (buffers argument member))
      (grounded argument.1 ((pointers _).mpr (Or.inl ⟨argument, member, rfl⟩)))
    rw [add_immediate_zero] at located
    exact ⟨name, position, located, common⟩
  · intro argument member
    obtain ⟨name, position, located, _, common⟩ := hosts.located implements (describes argument.1)
      (keys argument member) (grounded argument.1 ((pointers _).mpr (Or.inr ⟨argument, member, rfl⟩)))
    rw [add_immediate_zero] at located
    exact ⟨name, position, located, common⟩

/-- A call of a helper is a call of a function of the kernel. -/
theorem Hosts.call (hosts : Hosts lowering frame interface regionOf ground kernels world processor)
    (related : Related frame live size kernels kinds state entry machine)
    (top : entry.registers .rsp = processor.layout.pointer frame.stack frame.top)
    {helper : Nat} {signature : Signature Symbol Region} {answer : Return Name Kernel}
    (known : interface.helper helper = some signature)
    (defined : ∀ register ∈ signature.registers, (kinds register).defined = true)
    (framed : signature.Framed frame world state.registers)
    (answered : world.helper helper state = some answer) (last : Nat) :
    ∃ changed, X86.effect processor last (.callq (lowering.target helper)) machine = some changed ∧
      Related frame live size kernels (kinds.called signature.returns) (world.resume state answer) entry
        changed := by
  obtain ⟨pushed, push, pointer, registers, common, guarded, kernel⟩ :=
    hosts.push related top (processor.image + BitVec.ofNat 64 last)
  have presents : Presents frame size kernels processor.layout signature.registers state pushed := by
    constructor
    · intro register member
      rw [registers register.compiled register.compiled_rsp]
      exact related.registers register (defined register member)
    · exact pointer
    · intro name index shared
      exact (common name index shared).trans (related.contents name index shared)
    · rw [kernel]
      exact related.kernel
  obtain ⟨reply, replied, provides⟩ :=
    hosts.helper helper signature known state pushed answer presents framed answered
  refine ⟨processor.resume machine pushed reply, ?_, ?_, provides.contents, provides.kernel, ?_, ?_⟩
  · simp only [X86.effect, X86.State.call, push, replied, Option.bind_eq_bind, Option.bind_some]
  · intro register known
    by_cases result : register = .r0
    · subst result
      exact provides.result known
    · have other : register.compiled ≠ Register.r0.compiled := mt Register.compiled_inj result
      simp only [Kinds.called, if_neg result] at known
      cases lost : register.clobbered with
      | true =>
          rw [lost] at known
          cases known
      | false =>
          rw [lost] at known
          have kept : register.compiled.preserved = true := by
            rw [register.compiled_preserved, lost]
            rfl
          simp only [X86.Processor.resume, World.resume, if_neg result, kept, lost, if_true,
            Bool.false_eq_true, if_false]
          rw [if_neg (show register.compiled ≠ .rax from other)]
          exact related.registers register known
  · intro name index own
    exact (provides.guarded name index own).trans
      ((guarded name index own).trans (related.guarded name index own))
  · intro register still
    have kept : register.preserved = true := (Bool.and_eq_true_iff.mp still).1
    have other : register ≠ .rax := by
      intro result
      rw [result] at kept
      cases kept
    simp only [X86.Processor.resume, if_neg other, kept, if_true]
    exact related.quiet register still

/-- The loaded number is the same on both sides. -/
theorem Hosts.load (hosts : Hosts lowering frame interface regionOf ground kernels world processor)
    (implements : world.Implements interface regionOf ready)
    (describes : kinds.Describe world regionOf state.registers)
    (related : Related frame live size kernels kinds state entry machine) {width : Width}
    {target base : Register} {offset : Int}
    (compilable : Compilable interface ground frame kinds (.load width target base offset))
    (accessible : (kinds base).accessible interface offset width.count = true)
    (executed : effect world (.load width target base offset) state = some after)
    (kind : Kind Symbol Region) (last : Nat) :
    ∃ changed, X86.effect processor last (.load width offset base.compiled target.compiled) machine =
        some changed ∧
      Related frame live size kernels (kinds.set target kind) after entry changed := by
  obtain ⟨name, position, located, found, common⟩ := hosts.located implements (describes base) accessible
    (compilable.pointers (base, offset) List.mem_cons_self)
  have address := related.registers base (compilable.reads base List.mem_cons_self)
  rw [effect, located] at executed
  obtain rfl := Option.some.inj executed
  have same := related.contents.number_eq common
  refine ⟨machine.set target.compiled
    (BitVec.ofNat 64 (machine.contents.number (name, position) width.count)), ?_, ?_⟩
  · simp only [X86.effect, address, found, Option.map_some]
  · rw [same]
    exact related.assign (compilable.writes target List.mem_cons_self) kind rfl rfl rfl

/-- Both sides store the same bytes at the same place. -/
theorem Hosts.store (hosts : Hosts lowering frame interface regionOf ground kernels world processor)
    (implements : world.Implements interface regionOf ready)
    (describes : kinds.Describe world regionOf state.registers)
    (related : Related frame live size kernels kinds state entry machine) {width : Width}
    {base source : Register} {offset : Int}
    (compilable : Compilable interface ground frame kinds (.store width base offset source))
    (accessible : (kinds base).accessible interface offset width.count = true)
    (executed : effect world (.store width base offset source) state = some after) (last : Nat) :
    ∃ changed, X86.effect processor last (.store width source.compiled offset base.compiled) machine =
        some changed ∧
      Related frame live size kernels kinds after entry changed := by
  obtain ⟨name, position, located, found, common⟩ := hosts.located implements (describes base) accessible
    (compilable.pointers (base, offset) List.mem_cons_self)
  have address := related.registers base (compilable.reads base List.mem_cons_self)
  have value := related.registers source
    (compilable.reads source (List.mem_cons_of_mem _ List.mem_cons_self))
  rw [effect, located] at executed
  obtain rfl := Option.some.inj executed
  refine ⟨machine.put (name, position) (littleBytes width.count (state.registers source).toNat), ?_,
    related.registers, related.contents.write name position _, related.kernel, ?_, related.quiet⟩
  · simp only [X86.effect, address, value, found, Option.map_some]
  · apply related.guarded.write_outside
    intro index lower upper
    rw [littleBytes_length] at upper
    obtain ⟨distance, rfl⟩ := Nat.exists_eq_add_of_le lower
    exact Frame.common_not_guarded hosts.limit (common distance (by omega))

omit [DecidableEq Name] in
/-- The kind of the target is known behind every operation. -/
theorem transfer_alu [DecidableEq Symbol] {operation : Operation} {target : Register} {operand : Operand}
    (transferred : transfer interface (.alu operation target operand) kinds = some next) :
    ∃ kind, next = kinds.set target kind := by
  cases operation <;> cases operand <;> exact ⟨_, (Option.some.inj transferred).symm⟩

/-- An operation computes the same word on both sides. -/
theorem lowerAlu_runs {operation : Operation} {target : Register} {operand : Operand}
    (registers : ∀ register ∈ (Instruction.alu operation target operand).reads interface,
      machine.registers register.compiled = state.registers register)
    {slot address last : Nat} {lowered : List X86.Instruction}
    (lowers : lowering.lower slot (.alu operation target operand) = some lowered)
    (held : X86.follow listing address lowered = some last) :
    ∃ changed, X86.Runs processor listing (address, machine) (last, changed) ∧
      (changed.registers = fun register =>
        if register = target.compiled then
          operation.apply (state.registers target) (operand.value state)
        else machine.registers register) ∧
      changed.contents = machine.contents ∧ changed.kernel = machine.kernel := by
  cases operation with
  | mov =>
      cases operand with
      | constant value => exact lowerConstant_runs lowers held machine
      | register source =>
          obtain rfl := Option.some.inj lowers
          refine ⟨_, X86.Runs.one held rfl, ?_, rfl, rfl⟩
          rw [registers source List.mem_cons_self]
          rfl
  | or => cases operand <;> cases lowers
  | add =>
      have left := registers target List.mem_cons_self
      cases operand with
      | constant value =>
          obtain rfl := Option.some.inj lowers
          refine ⟨_, X86.Runs.one held rfl, ?_, rfl, rfl⟩
          rw [left]
          rfl
      | register source =>
          obtain rfl := Option.some.inj lowers
          refine ⟨_, X86.Runs.one held rfl, ?_, rfl, rfl⟩
          have right := registers source (List.mem_cons_of_mem _ List.mem_cons_self)
          rw [X86.Operand.value, left, right]
          rfl
  | _ =>
      have left := registers target List.mem_cons_self
      cases operand with
      | register source => cases lowers
      | constant value =>
          obtain rfl := Option.some.inj lowers
          refine ⟨_, X86.Runs.one held rfl, ?_, rfl, rfl⟩
          rw [left]
          rfl

/-- Each instruction without control flow is simulated by its compiled code. -/
theorem Hosts.simulates [DecidableEq Symbol]
    (hosts : Hosts lowering frame interface regionOf ground kernels world processor)
    (implements : world.Implements interface regionOf ready)
    (describes : kinds.Describe world regionOf state.registers)
    (related : Related frame live size kernels kinds state entry machine)
    (top : entry.registers .rsp = processor.layout.pointer frame.stack frame.top)
    {instruction : Instruction Symbol}
    (compilable : Compilable interface ground frame kinds instruction)
    (transferred : transfer interface instruction kinds = some next)
    (executed : effect world instruction state = some after) {slot address last : Nat}
    {lowered : List X86.Instruction} (lowers : lowering.lower slot instruction = some lowered)
    (held : X86.follow listing address lowered = some last) :
    ∃ changed, X86.Runs processor listing (address, machine) (last, changed) ∧
      Related frame live size kernels next after entry changed := by
  cases instruction with
  | jump offset => cases transferred
  | branch condition left right offset => cases transferred
  | exit => cases transferred
  | address target symbol offset =>
      obtain rfl := Option.some.inj transferred
      obtain rfl := Option.some.inj executed
      obtain rfl := Option.some.inj lowers
      refine ⟨_, X86.Runs.one held rfl, ?_⟩
      refine related.assign (compilable.writes target List.mem_cons_self) _ ?_ rfl rfl
      rw [← hosts.resolve symbol, ← immediate_natCast, ← immediate_add]
      rfl
  | wide target value =>
      obtain rfl := Option.some.inj transferred
      obtain rfl := Option.some.inj executed
      obtain ⟨changed, ran, registers, contents, kernel⟩ := lowerConstant_runs lowers held machine
      refine ⟨changed, ran, ?_⟩
      refine related.assign (compilable.writes target List.mem_cons_self) _ ?_ contents kernel
      rw [registers, immediate_natCast, BitVec.ofNat_toNat, BitVec.setWidth_eq]
  | load width target base offset =>
      obtain ⟨accessible, same⟩ := Option.ite_none_right_eq_some.mp transferred
      obtain rfl := Option.some.inj same
      obtain rfl := Option.some.inj lowers
      obtain ⟨changed, loaded, kept⟩ :=
        hosts.load implements describes related compilable accessible executed _ last
      exact ⟨changed, X86.Runs.one held loaded, kept⟩
  | store width base offset source =>
      obtain ⟨accessible, same⟩ := Option.ite_none_right_eq_some.mp transferred
      obtain rfl := Option.some.inj same
      obtain rfl := Option.some.inj lowers
      obtain ⟨changed, stored, kept⟩ :=
        hosts.store implements describes related compilable accessible executed last
      exact ⟨changed, X86.Runs.one held stored, kept⟩
  | call helper =>
      simp only [transfer] at transferred
      cases known : interface.helper helper with
      | none => simp only [known, reduceCtorEq] at transferred
      | some signature =>
          simp only [known] at transferred
          obtain ⟨meets, same⟩ := Option.ite_none_right_eq_some.mp transferred
          obtain rfl := Option.some.inj same
          obtain rfl := Option.some.inj lowers
          obtain ⟨answer, answered, rfl⟩ := Option.map_eq_some_iff.mp executed
          have defined : ∀ register ∈ signature.registers, (kinds register).defined = true := by
            intro register member
            apply compilable.reads register
            simpa only [Instruction.reads, known, Option.map_some, Option.getD_some] using member
          have grounded : ∀ register ∈ signature.pointers, (kinds register).grounded ground 0 = true := by
            intro register member
            apply compilable.pointers (register, 0)
            simp only [Instruction.pointers, known, Option.map_some, Option.getD_some]
            exact List.mem_map_of_mem member
          obtain ⟨changed, called, kept⟩ := hosts.call related top known defined
            (hosts.framed implements describes meets grounded) answered last
          exact ⟨changed, X86.Runs.one held called, kept⟩
  | alu operation target operand =>
      obtain rfl := Option.some.inj executed
      obtain ⟨kind, rfl⟩ := transfer_alu transferred
      have same : ∀ register ∈ (Instruction.alu operation target operand).reads interface,
          machine.registers register.compiled = state.registers register :=
        fun register member => related.registers register (compilable.reads register member)
      obtain ⟨changed, ran, registers, contents, kernel⟩ := lowerAlu_runs same lowers held
      exact ⟨changed, ran,
        related.assign (compilable.writes target List.mem_cons_self) kind registers contents kernel⟩

section Compiled

variable {program : List (Instruction Symbol)}

omit [DecidableEq Name] in
theorem compilesAt_lowers {slot : Nat} {instruction : Instruction Symbol}
    (compiles : lowering.compilesAt frame listing slot instruction = true) (goes : instruction ≠ .exit) :
    ∃ lowered, lowering.lower slot instruction = some lowered ∧
      X86.follow listing (lowering.place slot) lowered = some (lowering.place (slot + instruction.slots)) := by
  unfold Lowering.compilesAt at compiles
  cases lowers : lowering.lower slot instruction with
  | some lowered =>
      simp only [lowers, beq_iff_eq] at compiles
      exact ⟨lowered, rfl, compiles⟩
  | none =>
      simp only [lowers] at compiles
      split at compiles
      · exact absurd rfl goes
      · cases compiles

omit [DecidableEq Name] in
/-- The code of an exit leaves the frame and returns. -/
theorem compilesAt_exit {slot : Nat}
    (compiles : lowering.compilesAt frame listing slot .exit = true) :
    ∃ finish, X86.follow listing (lowering.place slot) frame.epilogue = some finish ∧
      X86.finishes lowering.thunk listing finish = true := by
  simp only [Lowering.compilesAt, Lowering.lower] at compiles
  cases followed : X86.follow listing (lowering.place slot) frame.epilogue with
  | none =>
      rw [followed] at compiles
      cases compiles
  | some finish =>
      rw [followed] at compiles
      exact ⟨finish, rfl, compiles⟩

omit [DecidableEq Name] in
/-- The listing holds the compiled code of every instruction of the program. -/
theorem compiles_fetched {slot index : Nat} {rest : List (Instruction Symbol)}
    {instruction : Instruction Symbol} (compiles : lowering.compiles frame listing slot rest = true)
    (fetched : fetch rest index = some instruction) :
    lowering.compilesAt frame listing (slot + index) instruction = true := by
  induction rest generalizing slot index with
  | nil => cases fetched
  | cons head tail continues =>
      rw [Lowering.compiles, Bool.and_eq_true] at compiles
      rw [fetch] at fetched
      by_cases here : index = 0
      · subst here
        rw [if_pos rfl] at fetched
        obtain rfl := Option.some.inj fetched
        exact compiles.1
      · rw [if_neg here] at fetched
        by_cases inside : index < head.slots
        · rw [if_pos inside] at fetched
          cases fetched
        · rw [if_neg inside] at fetched
          have rest := continues compiles.2 fetched
          rwa [show slot + head.slots + (index - head.slots) = slot + index by omega] at rest

omit [DecidableEq Name] in
/-- A branch defines no register. -/
theorem branched_defined {condition : Condition} {taken : Bool} {left : Register} {right : Operand}
    (branched : kinds.branched interface condition taken left right = some next) (register : Register)
    (defined : (next register).defined = true) : (kinds register).defined = true := by
  cases right with
  | register source =>
      obtain rfl := Option.some.inj branched
      exact defined
  | constant value =>
      obtain ⟨kind, learned, rfl⟩ := Option.map_eq_some_iff.mp branched
      by_cases hit : register = left
      · subst hit
        cases known : kinds register with
        | undefined =>
            rw [known] at learned
            rw [Kinds.set, if_pos rfl] at defined
            cases condition <;> cases taken <;> obtain rfl := Option.some.inj learned <;> exact defined
        | _ => rfl
      · rwa [Kinds.set, if_neg hit] at defined

/-- The flags belong to the compiled code alone. -/
theorem Related.flagged (related : Related frame live size kernels kinds state entry machine)
    (flags : Option X86.Flags) :
    Related frame live size kernels kinds state entry { machine with flags := flags } :=
  ⟨related.registers, related.contents, related.kernel, related.guarded, related.quiet⟩

/-- A comparison and a conditional jump take the side of the branch. -/
theorem branch_runs {condition : Condition} {left : Register} {right : Operand} {offset : Int}
    (same : machine.registers left.compiled = state.registers left) {slot last : Nat}
    {lowered : List X86.Instruction}
    (lowers : lowering.lower slot (.branch condition left right offset) = some lowered)
    (held : X86.follow listing (lowering.place slot) lowered = some last) :
    ∃ flags, X86.Runs processor listing (lowering.place slot, machine)
      (if condition.holds (state.registers left) (right.value state) then
        lowering.landing slot offset else last, { machine with flags := flags }) := by
  cases right with
  | register source => cases condition <;> cases lowers
  | constant value =>
      cases condition with
      | eq =>
          obtain ⟨rfl, lowered⟩ := Option.ite_none_right_eq_some.mp lowers
          obtain rfl := Option.some.inj lowered
          have zero : X86.Flags.zero ⟨state.registers left == 0, false⟩ =
              Condition.holds .eq (state.registers left) (immediate 0) := rfl
          refine ⟨some ⟨state.registers left == 0, false⟩,
            X86.Runs.compare X86.Flags.zero zero held ?_ ?_⟩
          · intro next
            simp only [X86.effect, same, BitVec.and_self]
          · intro middle after jumped
            rw [X86.step, jumped]
      | gt =>
          obtain rfl := Option.some.inj lowers
          have above : X86.Flags.above ⟨state.registers left == immediate value,
              decide (state.registers left < immediate value)⟩ =
                Condition.holds .gt (state.registers left) (immediate value) := by
            rw [Condition.holds, X86.Flags.above, Bool.eq_iff_iff]
            simp only [decide_eq_true_eq, Bool.and_eq_true, Bool.not_eq_true', decide_eq_false_iff_not,
              beq_eq_false_iff_ne, ne_eq, BitVec.lt_def, ← BitVec.toNat_inj]
            omega
          refine ⟨some ⟨state.registers left == immediate value,
            decide (state.registers left < immediate value)⟩, X86.Runs.compare X86.Flags.above above held ?_ ?_⟩
          · intro next
            simp only [X86.effect, same]
          · intro middle after jumped
            rw [X86.step, jumped]

/-- The exit that a verified run comes to, on both sides. -/
def Exits (lowering : Lowering Symbol) (listing : X86.Listing) (frame : Frame Name)
    (kernels : Kernel → Kernel → Prop)
    (world : World Symbol Name Kernel live size)
    (processor : X86.Processor Name Kernel live machineSize) (program : List (Instruction Symbol))
    (final : Kinds Symbol Region → Bool) (slot : Nat) (state : State Name Kernel)
    (entry machine : X86.State Name Kernel) : Prop :=
  ∃ exit last changed, ∃ kinds : Kinds Symbol Region,
    fetch program exit = some .exit ∧
      Reaches world program (.running slot state) (.exited last) ∧
      X86.Runs processor listing (lowering.place slot, machine) (lowering.place exit, changed) ∧
      Related frame live size kernels kinds last entry changed ∧
      (kinds .r0).defined = true ∧ final kinds = true

/-- A step that both sides take leads to the same exit. -/
theorem Exits.step {final : Kinds Symbol Region → Bool} {slot target : Nat}
    {changed : X86.State Name Kernel}
    (stepped : Library.step world program slot state = .running target after)
    (ran : X86.Runs processor listing (lowering.place slot, machine) (lowering.place target, changed))
    (exits : Exits lowering listing frame kernels world processor program final target after entry
      changed) :
    Exits lowering listing frame kernels world processor program final slot state entry machine := by
  obtain ⟨exit, last, ended, kinds, fetched, reaches, rest, related, holds⟩ := exits
  exact ⟨exit, last, ended, kinds, fetched, (Reaches.single stepped).trans reaches, ran.trans rest,
    related, holds⟩

/-- The landing of a jump is the place of its slot. -/
theorem landing_place {slot target : Nat} {offset : Int} (lands : landing slot offset = some target) :
    lowering.landing slot offset = lowering.place target := by
  obtain ⟨_, same⟩ := Option.ite_none_right_eq_some.mp lands
  obtain rfl := Option.some.inj same
  rfl

/-- Every verified slot with the given fuel comes to an exit on both sides. -/
def Terminates [DecidableEq Symbol] (lowering : Lowering Symbol) (listing : X86.Listing)
    (frame : Frame Name) (interface : Interface Symbol Region) (regionOf : Name → Region)
    (ground : Region → Nat) (kernels : Kernel → Kernel → Prop)
    (world : World Symbol Name Kernel live size)
    (processor : X86.Processor Name Kernel live machineSize) (program : List (Instruction Symbol))
    (final : Kinds Symbol Region → Bool) (ready : Nat → Kernel → Prop) (entry : X86.State Name Kernel)
    (fuel : Nat) : Prop :=
  ∀ slot (kinds : Kinds Symbol Region) (state : State Name Kernel) (machine : X86.State Name Kernel),
    verify interface program (compilable interface ground frame program) final fuel slot kinds = true →
    kinds.Describe world regionOf state.registers →
    Prepared world program ready (.running slot state) →
    Related frame live size kernels kinds state entry machine →
    Exits lowering listing frame kernels world processor program final slot state entry machine

variable [DecidableEq Symbol] {final : Kinds Symbol Region → Bool} {fuel slot : Nat}

theorem Hosts.run_plain
    (hosts : Hosts lowering frame interface regionOf ground kernels world processor)
    (implements : world.Implements interface regionOf ready)
    (top : entry.registers .rsp = processor.layout.pointer frame.stack frame.top)
    (terminates : Terminates lowering listing frame interface regionOf ground kernels world processor
      program final ready entry fuel)
    (describes : kinds.Describe world regionOf state.registers)
    (prepared : Prepared world program ready (.running slot state))
    (related : Related frame live size kernels kinds state entry machine)
    {instruction : Instruction Symbol} (fetched : fetch program slot = some instruction)
    (compilable : Compilable interface ground frame kinds instruction)
    {lowered : List X86.Instruction} (lowers : lowering.lower slot instruction = some lowered)
    (held : X86.follow listing (lowering.place slot) lowered = some (lowering.place (slot + instruction.slots)))
    (verified : (match transfer interface instruction kinds with
      | some next => verify interface program (Library.compilable interface ground frame program) final
          fuel (slot + instruction.slots) next
      | none => false) = true) :
    Exits lowering listing frame kernels world processor program final slot state entry machine := by
  cases transferred : transfer interface instruction kinds with
  | none => simp only [transferred, Bool.false_eq_true] at verified
  | some next =>
      simp only [transferred] at verified
      obtain ⟨after, executed, described⟩ := transfer_describes implements describes
        (fun helper call => prepared.asks helper (call ▸ fetched)) transferred
      obtain ⟨changed, ran, kept⟩ := hosts.simulates implements describes related top compilable
        transferred executed lowers held
      have moves := step_fetched fetched executed
      exact (terminates _ _ _ _ verified described (prepared.step moves) kept).step moves ran

theorem Hosts.run_jump
    (hosts : Hosts lowering frame interface regionOf ground kernels world processor)
    (terminates : Terminates lowering listing frame interface regionOf ground kernels world processor
      program final ready entry fuel)
    (describes : kinds.Describe world regionOf state.registers)
    (prepared : Prepared world program ready (.running slot state))
    (related : Related frame live size kernels kinds state entry machine) {offset : Int}
    (fetched : fetch program slot = some (.jump offset)) {last : Nat}
    (held : X86.follow listing (lowering.place slot) [.jmp (lowering.landing slot offset)] = some last)
    (verified : (match landing slot offset with
      | some target => verify interface program (compilable interface ground frame program) final fuel
          target kinds
      | none => false) = true) :
    Exits lowering listing frame kernels world processor program final slot state entry machine := by
  cases lands : landing slot offset with
  | none => simp only [lands, Bool.false_eq_true] at verified
  | some target =>
      simp only [lands] at verified
      have moves : Library.step world program slot state = .running target state := by
        simp only [Library.step, fetched, landing_goto lands]
      refine (terminates _ _ _ _ verified describes (prepared.step moves) related).step moves
        (Relation.ReflTransGen.single ?_)
      rw [X86.step, X86.follow_one held, landing_place lands]
      exact if_neg (hosts.place target)

omit [DecidableEq Symbol] in
/-- The comparison of a branch may be read. -/
theorem Related.compared {condition : Condition} {left : Register} {right : Operand} {offset : Int}
    (related : Related frame live size kernels kinds state entry machine)
    (compilable : Compilable interface ground frame kinds (.branch condition left right offset)) :
    machine.registers left.compiled = state.registers left :=
  related.registers left (compilable.reads left List.mem_cons_self)

theorem Hosts.run_branch
    (implements : world.Implements interface regionOf ready)
    (terminates : Terminates lowering listing frame interface regionOf ground kernels world processor
      program final ready entry fuel)
    (describes : kinds.Describe world regionOf state.registers)
    (prepared : Prepared world program ready (.running slot state))
    (related : Related frame live size kernels kinds state entry machine)
    {condition : Condition} {left : Register} {right : Operand} {offset : Int}
    (fetched : fetch program slot = some (.branch condition left right offset))
    (compilable : Compilable interface ground frame kinds (.branch condition left right offset))
    {lowered : List X86.Instruction}
    (lowers : lowering.lower slot (.branch condition left right offset) = some lowered)
    (held : X86.follow listing (lowering.place slot) lowered = some (lowering.place (slot + 1)))
    (taken : (match kinds.branched interface condition true left right with
      | none => true
      | some taken =>
        match landing slot offset with
        | some target => verify interface program (Library.compilable interface ground frame program)
            final fuel target taken
        | none => false) = true)
    (fallen : (match kinds.branched interface condition false left right with
      | none => true
      | some fallen => verify interface program (Library.compilable interface ground frame program)
          final fuel (slot + 1) fallen) = true) :
    Exits lowering listing frame kernels world processor program final slot state entry machine := by
  have sides : ∃ flags, X86.Runs processor listing (lowering.place slot, machine)
      (if condition.holds (state.registers left) (right.value state) then
        lowering.landing slot offset else lowering.place (slot + 1), { machine with flags := flags }) :=
    branch_runs (related.compared compilable) lowers held
  obtain ⟨flags, ran⟩ := sides
  have kept := related.flagged flags
  cases outcome : condition.holds (state.registers left) (right.value state) with
  | true =>
      obtain ⟨next, branched, described⟩ := Kinds.branched_describes implements describes outcome
      simp only [branched] at taken
      cases lands : landing slot offset with
      | none => simp only [lands, Bool.false_eq_true] at taken
      | some target =>
          simp only [lands] at taken
          have moves : Library.step world program slot state = .running target state := by
            simp only [Library.step, fetched, outcome, if_true, landing_goto lands]
          rw [outcome, if_pos rfl, landing_place lands] at ran
          exact (terminates _ _ _ _ taken described (prepared.step moves)
            (kept.learned (branched_defined branched))).step moves ran
  | false =>
      obtain ⟨next, branched, described⟩ := Kinds.branched_describes implements describes outcome
      simp only [branched] at fallen
      have moves : Library.step world program slot state = .running (slot + 1) state := by
        simp only [Library.step, fetched, outcome, Bool.false_eq_true, if_false]
      rw [outcome, if_neg Bool.false_ne_true] at ran
      exact (terminates _ _ _ _ fallen described (prepared.step moves)
        (kept.learned (branched_defined branched))).step moves ran

/-- A verified program exits, and its compiled code runs to the end of the frame. -/
theorem Hosts.run
    (hosts : Hosts lowering frame interface regionOf ground kernels world processor)
    (implements : world.Implements interface regionOf ready)
    (compiles : lowering.compiles frame listing 0 program = true)
    (top : entry.registers .rsp = processor.layout.pointer frame.stack frame.top) (fuel : Nat) :
    Terminates lowering listing frame interface regionOf ground kernels world processor program final
      ready entry fuel := by
  induction fuel with
  | zero =>
      intro slot kinds state machine verified
      cases verified
  | succ fuel continues =>
      intro slot kinds state machine verified describes prepared related
      rw [verify, Bool.and_eq_true] at verified
      obtain ⟨checked, verified⟩ := verified
      cases fetched : fetch program slot with
      | none => simp only [fetched, Bool.false_eq_true] at verified
      | some instruction =>
          have compilable := compilable_fetched fetched checked
          have place := compiles_fetched compiles fetched
          rw [Nat.zero_add] at place
          simp only [fetched] at verified
          by_cases ends : instruction = .exit
          · subst ends
            exact ⟨slot, state, machine, kinds, fetched, Reaches.single (by rw [Library.step, fetched]),
              Relation.ReflTransGen.refl, related, compilable.reads .r0 List.mem_cons_self, verified⟩
          · obtain ⟨lowered, lowers, held⟩ := compilesAt_lowers place ends
            cases instruction with
            | exit => exact absurd rfl ends
            | jump offset =>
                obtain rfl := Option.some.inj lowers
                exact hosts.run_jump continues describes prepared related fetched held verified
            | branch condition left right offset =>
                obtain ⟨taken, fallen⟩ := Bool.and_eq_true_iff.mp verified
                exact Hosts.run_branch implements continues describes prepared related fetched compilable lowers
                  held taken fallen
            | _ =>
                exact hosts.run_plain implements top continues describes prepared related fetched compilable lowers
                  held verified

/-- The caller of the compiled code sees the result of the program, and its own registers and its stack
are as it has left them. -/
structure Completed (frame : Frame Name) (live : List Name) (size : Name → Nat)
    (kernels : Kernel → Kernel → Prop) (last : State Name Kernel)
    (initial final : X86.State Name Kernel) : Prop where
  result : final.registers .rax = last.registers .r0
  contents : Contents.AgreeOn (frame.Common live size) final.contents last.contents
  kernel : kernels final.kernel last.kernel
  top : final.registers .rsp = initial.registers .rsp + immediate 8
  preserved : ∀ register, register.preserved = true → register ≠ .rsp →
    final.registers register = initial.registers register

omit [DecidableEq Symbol] in
/-- The prologue sets up the registers and keeps the shared bytes. -/
theorem Hosts.enter
    (hosts : Hosts lowering frame interface regionOf ground kernels world processor)
    {initial : X86.State Name Kernel} (entered : X86.Entered processor frame initial entry)
    (base : state.registers .r10 = processor.layout.pointer frame.stack frame.limit)
    (arguments : ∀ register, (kinds register).defined = true → register ≠ .r10 →
      initial.registers register.compiled = state.registers register)
    (contents : Contents.AgreeOn (frame.Common live size) initial.contents state.contents)
    (kernel : kernels initial.kernel state.kernel) :
    Related frame live size kernels kinds state entry entry where
  registers register defined := by
    by_cases pointer : register = .r10
    · rw [pointer, base]
      exact entered.base
    · have other : register.compiled ≠ Register.r10.compiled := mt Register.compiled_inj pointer
      rw [entered.registers register.compiled register.compiled_rsp other]
      exact arguments register defined pointer
  contents := by
    intro name index common
    have outside : ¬ X86.Between frame.stack frame.top (frame.limit - frame.depth) name index ∧
        ¬ X86.Between frame.stack frame.limit (frame.limit + 8) name index := by
      obtain ⟨_, above, below⟩ := common
      have limit := hosts.limit
      constructor
      · intro between
        obtain ⟨rfl, _, upper⟩ := between
        rw [Frame.floor, if_pos rfl] at above
        omega
      · intro between
        obtain ⟨rfl, lower, _⟩ := between
        omega
    exact (entered.contents name index outside).trans (contents name index common)
  kernel := by
    rw [entered.kernel]
    exact kernel
  guarded _ _ _ := rfl
  quiet _ _ := rfl

omit [DecidableEq Symbol] in
/-- The saved registers, the frame pointer and the return address of the caller are still there. -/
theorem Related.restores
    (hosts : Hosts lowering frame interface regionOf ground kernels world processor)
    (related : Related frame live size kernels kinds state entry machine)
    {initial : X86.State Name Kernel} (entered : X86.Entered processor frame initial entry) :
    X86.Saved frame.stack initial.registers machine.contents frame.saved (frame.limit - frame.depth) ∧
      BitVec.ofNat 64 (machine.contents.number (frame.stack, frame.limit) 8) =
        initial.registers .rbp ∧
      machine.contents.number (frame.stack, frame.limit + 8) 8 =
        initial.contents.number (frame.stack, frame.limit + 8) 8 := by
  have room := hosts.room
  have whole : frame.top = frame.limit - frame.depth - 8 * frame.saved.length := rfl
  refine ⟨?_, ?_, ?_⟩
  · apply entered.saved.agree (by omega)
    intro name index between
    exact related.guarded name index ⟨between.1, between.2.1, Or.inl between.2.2⟩
  · rw [related.guarded.number_eq, entered.caller]
    intro index small
    exact ⟨rfl, by omega, Or.inr (by omega)⟩
  · rw [related.guarded.number_eq, entered.contents.number_eq]
    · intro index small
      constructor
      · intro between
        have := between.2
        omega
      · intro between
        have := between.2
        omega
    · intro index small
      exact ⟨rfl, by omega, Or.inr (by omega)⟩

/-- Compiled code of a verified program returns to its caller, and it does what the program does. -/
theorem Hosts.returns
    (hosts : Hosts lowering frame interface regionOf ground kernels world processor)
    (implements : world.Implements interface regionOf ready)
    (compiles : lowering.compiles frame listing 0 program = true)
    (enters : X86.follow listing 0 frame.prologue = some (lowering.place 0))
    (verified : verify interface program (compilable interface ground frame program) final fuel 0
      kinds = true)
    (describes : kinds.Describe world regionOf state.registers)
    (prepared : Prepared world program ready (.running 0 state)) {initial : X86.State Name Kernel}
    (pointer : initial.registers .rsp = processor.layout.pointer frame.stack (frame.limit + 8))
    (base : state.registers .r10 = processor.layout.pointer frame.stack frame.limit)
    (arguments : ∀ register, (kinds register).defined = true → register ≠ .r10 →
      initial.registers register.compiled = state.registers register)
    (contents : Contents.AgreeOn (frame.Common live size) initial.contents state.contents)
    (kernel : kernels initial.kernel state.kernel) :
    ∃ last after, Reaches world program (.running 0 state) (.exited last) ∧
      X86.Returns processor listing initial
        (BitVec.ofNat 64 (initial.contents.number (frame.stack, frame.limit + 8) 8)) after ∧
      Completed frame live size kernels last initial after := by
  have room := hosts.room
  obtain ⟨entry, entered, facts⟩ := X86.prologue_run hosts.stack (by omega) hosts.caller
    (Frame.quiet_saved hosts.pointer) (Frame.quiet_saved hosts.base) pointer enters
  obtain ⟨exit, last, changed, known, fetched, reaches, ran, kept, defined, _⟩ :=
    hosts.run implements compiles facts.top fuel 0 kinds state entry verified describes prepared
      (hosts.enter facts base arguments contents kernel)
  have place := compiles_fetched compiles fetched
  rw [Nat.zero_add] at place
  obtain ⟨finish, leaving, finishes⟩ := compilesAt_exit place
  obtain ⟨stored, caller, address⟩ := kept.restores hosts facts
  obtain ⟨left, leaves, behind⟩ := X86.epilogue_run hosts.stack (by omega) hosts.caller
    (Frame.quiet_saved hosts.pointer) (Frame.quiet_saved hosts.base)
    ((kept.quiet .rsp hosts.pointer).trans facts.top) ((kept.quiet .rbp hosts.base).trans facts.base)
    stored caller leaving
  rw [← hosts.thunk] at finishes
  have returns := X86.finishes_returns hosts.stack (by rw [hosts.caller]) behind.top finishes
  rw [behind.contents, address] at returns
  refine ⟨last, _, reaches, ⟨finish, left, entered.trans (ran.trans leaves), returns⟩, ?_, ?_, ?_, ?_, ?_⟩
  · have outside : X86.Register.rax ∉ frame.saved := by
      intro member
      cases hosts.saved .rax member
    rw [X86.State.set_other _ _ (by decide), behind.registers .rax outside (by decide) (by decide)]
    exact kept.registers .r0 defined
  · intro name index common
    have same : left.contents name index = changed.contents name index := by rw [behind.contents]
    exact same.trans (kept.contents name index common)
  · have same : left.kernel = changed.kernel := behind.kernel
    exact same ▸ kept.kernel
  · rw [X86.State.set_same, pointer]
    exact (processor.layout.pointer_immediate frame.stack (by omega)).symm
  · intro register preserved notTop
    rw [X86.State.set_other _ _ notTop]
    by_cases pushed : register ∈ frame.saved
    · exact behind.saved register pushed
    by_cases bottom : register = .rbp
    · rw [bottom]
      exact behind.base
    have still : frame.quiet register = true := by
      rw [Frame.quiet, preserved, List.contains_eq_mem, decide_eq_false pushed]
      rfl
    rw [behind.registers register pushed notTop bottom, kept.quiet register still,
      facts.registers register notTop bottom]

end Compiled

end Simulation

end EbpfNotes.Library
