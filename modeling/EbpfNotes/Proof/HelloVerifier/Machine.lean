import EbpfNotes.Construction.HelloVerifierMachine
import EbpfNotes.Library.Jit
import EbpfNotes.Proof.HelloVerifier.Threads
import EbpfNotes.Proof.HelloVerifier.Translated

namespace EbpfNotes.HelloVerifier

open Library

/-- The record and the key of the lookup take 48 bytes below the frame pointer. -/
def kprobeFrame : X86.Frame Name where
  stack := .stack
  limit := 512
  depth := 48
  saved := [.rbx, .r13]

/-- A helper is called at its distance from a base, a signed number of 32 bits. -/
def kprobeLowering : Lowering Symbol where
  place := compiledPlace kprobeExecListing 7 kprobeExecTranslatedCode
  resolve
    | .c => -72830813560832
    | .message => -72830813560828
    | .rodata => -115581794723056
    | .myConfig => -115581529390080
    | .output => -115581529362432
  target helper :=
    if helper < 2 ^ 31 then 0xffffffffd524d4b4 + helper else 0xffffffffd524d4b4 + helper - 2 ^ 32
  thunk := 0xffffffffd60a3234

/-- The listing is the compiled code of the translated bytecode. -/
theorem kprobeExecListing_compiles :
    kprobeLowering.compiles kprobeFrame kprobeExecListing 0 kprobeExecTranslatedCode = true := by
  decide +kernel

theorem kprobeExecListing_enters :
    X86.follow kprobeExecListing 0 kprobeFrame.prologue = some (kprobeLowering.place 0) := by
  decide +kernel

/-- The functions of the kernel, whose results are only known where the program uses them. -/
def translatedInterface : Interface Symbol Region :=
  { kprobeInterface with
    helper
      | 267808 => some
        { handles := [(.r1, .myConfig)], keys := [(.r2, 4)], returns := .optional .element (-56) }
      | 4294858544 => some { buffers := [(.r1, .r2)], scalars := [.r3], returns := .undefined }
      | 235360 => some {}
      | 235920 => some {}
      | 236064 => some { buffers := [(.r1, .r2)] }
      | 4294857488 => some
        { handles := [(.r2, .output)], buffers := [(.r4, .r5)], scalars := [.r1, .r3],
          returns := .undefined }
      | 4294847104 => some { buffers := [(.r1, .r2), (.r3, .r2)] }
      | _ => none }

/-- Only the context and the frame pointer may be read at the entry. -/
def calledKinds : Kinds Symbol Region
  | .r1 => .unknown
  | .r10 => .pointer .stack 512 512
  | _ => .undefined

/-- The frame starts 48 bytes below the frame pointer. -/
def kprobeGround : Region → Nat
  | .stack => 464
  | _ => 0

theorem kprobeExecTranslatedCode_verified :
    verify translatedInterface kprobeExecTranslatedCode
      (compilable translatedInterface kprobeGround kprobeFrame kprobeExecTranslatedCode) zeroResult 78 0
      calledKinds = true := by
  decide +kernel

/-- The log of the processor goes on where the calls before have left it. -/
def Follows (log : List KernelCall) (machine program : List KernelCall) : Prop := machine = log ++ program

section Helpers

variable {myConfig : MyConfig} {globals : Globals} {event : Event}
  {environment : TranslatedEnvironment myConfig globals event} {log : List KernelCall}
  {state seen : State Name (List KernelCall)} {answer : Return Name (List KernelCall)}
  {returns : Kind Symbol Region}

/-- The function of the kernel sees the memory and the log of the program. -/
structure Sees (myConfig : MyConfig) (log : List KernelCall) (state seen : State Name (List KernelCall)) :
    Prop where
  contents : Contents.AgreeOn (kprobeFrame.Common (liveNames myConfig) objectSize) seen.contents
    state.contents
  kernel : seen.kernel = log ++ state.kernel

/-- A helper that leaves the memory and the log alone. -/
theorem Sees.keeps (sees : Sees myConfig log state seen) (result : Word) :
    Provides kprobeFrame (liveNames myConfig) objectSize (Follows log) returns
      ⟨result, state.contents, state.kernel⟩ seen.contents ⟨result, seen.contents, seen.kernel⟩ :=
  ⟨fun _ => rfl, sees.contents, sees.kernel, fun _ _ _ => rfl⟩

/-- A helper that only sends something, and whose result the program ignores. -/
theorem Sees.sends (sees : Sees myConfig log state seen) (result reply : Word) (calls : List KernelCall) :
    Provides kprobeFrame (liveNames myConfig) objectSize (Follows log)
      (.undefined : Kind Symbol Region) ⟨result, state.contents, state.kernel ++ calls⟩ seen.contents
      ⟨reply, seen.contents, seen.kernel ++ calls⟩ where
  result unused := by cases unused
  contents := sees.contents
  kernel := by
    rw [Follows, sees.kernel, List.append_assoc]
  guarded _ _ _ := rfl

/-- The bytes of a located buffer are shared. -/
def Shared (environment : Environment myConfig globals event) (address : Word) (count : Nat) : Prop :=
  ∃ name offset, environment.layout.locate address count = some (name, offset) ∧
    ∀ index < count, kprobeFrame.Common (liveNames myConfig) objectSize name (offset + index)

theorem Sees.lookup (sees : Sees myConfig log state seen)
    (map : seen.registers .r1 = state.registers .r1) (pointer : seen.registers .r2 = state.registers .r2)
    (key : Shared environment.toEnvironment (state.registers .r2) 4)
    (answered : environment.htabMapLookupElem state = some answer) :
    ∃ reply, environment.htabMapLookupElem seen = some reply ∧
      Provides kprobeFrame (liveNames myConfig) objectSize (Follows log) returns answer seen.contents
        reply := by
  obtain ⟨name, offset, located, common⟩ := key
  unfold TranslatedEnvironment.htabMapLookupElem at answered ⊢
  obtain ⟨hit, answered⟩ := Option.ite_none_right_eq_some.mp answered
  simp only [located, Option.bind_eq_bind, Option.bind_some, Option.some.injEq] at answered
  subst answered
  have same : (Vector.ofFn fun index : Fin 4 => seen.contents name (offset + index)) =
      Vector.ofFn fun index : Fin 4 => state.contents name (offset + index) := by
    congr 1
    funext index
    exact sees.contents name (offset + index) (common index index.isLt)
  simp only [map, hit, if_true, pointer, located, Option.bind_eq_bind, Option.bind_some, same]
  exact ⟨_, rfl, sees.keeps _⟩

theorem Sees.printk (sees : Sees myConfig log state seen)
    (format : seen.registers .r1 = state.registers .r1) (size : seen.registers .r2 = state.registers .r2)
    (argument : seen.registers .r3 = state.registers .r3)
    (text : Shared environment.toEnvironment (state.registers .r1) (state.registers .r2).toNat)
    (answered : environment.tracePrintk state = some answer) :
    ∃ reply, environment.tracePrintk seen = some reply ∧
      Provides kprobeFrame (liveNames myConfig) objectSize (Follows log)
        (.undefined : Kind Symbol Region) answer seen.contents reply := by
  obtain ⟨name, offset, located, common⟩ := text
  unfold Environment.tracePrintk at answered ⊢
  rw [bpfTracePrintk_eq rfl located, Option.some.injEq] at answered
  subst answered
  rw [bpfTracePrintk_eq (congrArg BitVec.toNat size) (format ▸ located), argument,
    sees.contents.read_eq common]
  exact ⟨_, rfl, sees.sends _ _ _⟩

theorem Sees.output (sees : Sees myConfig log state seen)
    (ctx : seen.registers .r1 = state.registers .r1) (map : seen.registers .r2 = state.registers .r2)
    (flags : seen.registers .r3 = state.registers .r3)
    (pointer : seen.registers .r4 = state.registers .r4)
    (size : seen.registers .r5 = state.registers .r5)
    (data : Shared environment.toEnvironment (state.registers .r4) (state.registers .r5).toNat)
    (answered : environment.perfEventOutput state = some answer) :
    ∃ reply, environment.perfEventOutput seen = some reply ∧
      Provides kprobeFrame (liveNames myConfig) objectSize (Follows log)
        (.undefined : Kind Symbol Region) answer seen.contents reply := by
  obtain ⟨name, offset, located, common⟩ := data
  unfold Environment.perfEventOutput at answered ⊢
  obtain ⟨hit, answered⟩ := Option.ite_none_right_eq_some.mp answered
  simp only [located, Option.bind_eq_bind, Option.bind_some, Option.some.injEq] at answered
  subst answered
  simp only [ctx, map, hit, if_true, flags, pointer, size, located, Option.bind_eq_bind,
    Option.bind_some, sees.contents.read_eq common]
  exact ⟨_, rfl, sees.sends _ _ _⟩

/-- A write to shared bytes leaves the saved registers alone. -/
theorem Sees.writes (sees : Sees myConfig log state seen) {name : Name} {offset : Nat}
    {bytes : List Byte}
    (common : ∀ index < bytes.length,
      kprobeFrame.Common (liveNames myConfig) objectSize name (offset + index)) :
    Provides kprobeFrame (liveNames myConfig) objectSize (Follows log) returns
      ⟨0, state.contents.write name offset bytes, state.kernel⟩ seen.contents
      ⟨0, seen.contents.write name offset bytes, seen.kernel⟩ where
  result _ := rfl
  contents := sees.contents.write name offset bytes
  kernel := sees.kernel
  guarded := by
    apply Contents.AgreeOn.write_outside (fun _ _ _ => rfl)
    intro index lower upper
    obtain ⟨distance, rfl⟩ := Nat.exists_eq_add_of_le lower
    exact Frame.common_not_guarded rfl (common distance (by omega))

theorem Sees.probeRead (sees : Sees myConfig log state seen)
    (target : seen.registers .r1 = state.registers .r1) (size : seen.registers .r2 = state.registers .r2)
    (source : seen.registers .r3 = state.registers .r3)
    (written : Shared environment.toEnvironment (state.registers .r1) (state.registers .r2).toNat)
    (read : Shared environment.toEnvironment (state.registers .r3) (state.registers .r2).toNat)
    (answered : environment.probeReadKernel state = some answer) :
    ∃ reply, environment.probeReadKernel seen = some reply ∧
      Provides kprobeFrame (liveNames myConfig) objectSize (Follows log) returns answer seen.contents
        reply := by
  obtain ⟨name, offset, located, common⟩ := written
  obtain ⟨origin, start, found, shared⟩ := read
  unfold Environment.probeReadKernel at answered ⊢
  simp only [located, found, Option.bind_eq_bind, Option.bind_some, Option.some.injEq] at answered
  subst answered
  simp only [target, size, source, located, found, Option.bind_eq_bind, Option.bind_some,
    sees.contents.read_eq shared]
  refine ⟨_, rfl, sees.writes ?_⟩
  intro index inside
  rw [Contents.read_length] at inside
  exact common index inside

theorem Sees.command (sees : Sees myConfig log state seen)
    (target : seen.registers .r1 = state.registers .r1) (size : seen.registers .r2 = state.registers .r2)
    (written : Shared environment.toEnvironment (state.registers .r1) (state.registers .r2).toNat)
    (answered : environment.getCurrentComm state = some answer) :
    ∃ reply, environment.getCurrentComm seen = some reply ∧
      Provides kprobeFrame (liveNames myConfig) objectSize (Follows log) returns answer seen.contents
        reply := by
  obtain ⟨name, offset, located, common⟩ := written
  unfold Environment.getCurrentComm at answered ⊢
  simp only [located, Option.bind_eq_bind, Option.bind_some, Option.some.injEq] at answered
  subst answered
  simp only [target, size, located, Option.bind_eq_bind, Option.bind_some]
  refine ⟨_, rfl, sees.writes ?_⟩
  intro index inside
  rw [List.length_take] at inside
  exact common index (by omega)

end Helpers

/-- A lookup of the kernel returns the start of an element or NULL. -/
theorem TranslatedEnvironment.htabMapLookupElem_implements {myConfig : MyConfig} {globals : Globals}
    {event : Event} (environment : TranslatedEnvironment myConfig globals event)
    {state : State Name (List KernelCall)}
    (map : state.registers .r1 = environment.mapAddress) {place : Name × Nat}
    (located : environment.layout.locate (state.registers .r2) 4 = some place) :
    ∃ answer, environment.htabMapLookupElem state = some answer ∧
      (Kind.optional .element (-56) : Kind Symbol Region).Describes environment.translatedWorld
        Name.region answer.result := by
  simp only [htabMapLookupElem, map, if_true, located, Option.bind_eq_bind, Option.bind_some]
  generalize (Vector.ofFn fun index : Fin 4 => state.contents place.1 (place.2 + index)) = key
  refine ⟨_, rfl, ?_⟩
  cases found : myConfig.lookup key with
  | none =>
      left
      simp [bpfMapLookupElem, found]
  | some msg =>
      right
      have live : Name.element key ∈ liveNames myConfig := by
        simp [liveNames, Table.mem_keys_of_lookup found]
      refine ⟨.element key, live, rfl, ?_⟩
      simp only [bpfMapLookupElem, found, Option.isSome_some, if_true]
      rw [BitVec.sub_eq_add_neg]
      rfl

/-- The functions of the kernel keep their signatures. -/
theorem TranslatedEnvironment.world_implements {myConfig : MyConfig} {globals : Globals} {event : Event}
    (environment : TranslatedEnvironment myConfig globals event) :
    environment.translatedWorld.Implements translatedInterface Name.region fun _ _ => True where
  extent := environment.toEnvironment.world_implements.extent
  symbol := environment.toEnvironment.world_implements.symbol
  helper number signature known state _ met := by
    have call : ∀ register bytes, (register, bytes) ∈ signature.buffers →
        ∃ place, environment.layout.locate (state.registers register) (state.registers bytes).toNat =
          some place := fun register bytes member => met.buffers (register, bytes) member
    have called : environment.translatedWorld.helper number state =
        environment.translatedHelper number state := rfl
    rw [called]
    simp only [translatedInterface] at known
    split at known <;> cases known
    · obtain ⟨place, located⟩ := met.keys (.r2, 4) List.mem_cons_self
      exact environment.htabMapLookupElem_implements (met.handles (.r1, .myConfig) List.mem_cons_self)
        located
    · obtain ⟨place, located⟩ := call .r1 .r2 List.mem_cons_self
      rw [TranslatedEnvironment.translatedHelper, Environment.tracePrintk, bpfTracePrintk_eq rfl located]
      exact ⟨_, rfl, trivial⟩
    · exact ⟨_, rfl, trivial⟩
    · exact ⟨_, rfl, trivial⟩
    · obtain ⟨place, located⟩ := call .r1 .r2 List.mem_cons_self
      rw [TranslatedEnvironment.translatedHelper, Environment.getCurrentComm, located]
      exact ⟨_, rfl, trivial⟩
    · obtain ⟨place, located⟩ := call .r4 .r5 List.mem_cons_self
      have map : state.registers .r2 = environment.outputAddress :=
        met.handles (.r2, .output) List.mem_cons_self
      simp only [TranslatedEnvironment.translatedHelper, Environment.perfEventOutput, map, if_true,
        located, Option.bind_eq_bind, Option.bind_some]
      exact ⟨_, rfl, trivial⟩
    · obtain ⟨target, written⟩ := call .r1 .r2 List.mem_cons_self
      obtain ⟨source, read⟩ := call .r3 .r2 (List.mem_cons_of_mem _ List.mem_cons_self)
      rw [TranslatedEnvironment.translatedHelper, Environment.probeReadKernel, written, read]
      exact ⟨_, rfl, trivial⟩

namespace Call

variable (call : Call) (globals : Globals) {log : List KernelCall}

theorem target_helper {helper : Nat} {signature : Signature Symbol Region}
    (known : translatedInterface.helper helper = some signature) :
    calledHelper (kprobeLowering.target helper) = helper := by
  simp only [translatedInterface] at known
  split at known <;> first | rfl | cases known

/-- The functions of the kernel provide what the helpers of the translated bytecode do. -/
theorem function_provides {helper : Nat} {signature : Signature Symbol Region}
    (known : translatedInterface.helper helper = some signature)
    {state : State Name (List KernelCall)} {machine : X86.State Name (List KernelCall)}
    {answer : Return Name (List KernelCall)}
    (presents : Presents kprobeFrame objectSize (Follows log) call.layout signature.registers state
      machine)
    (framed : signature.Framed kprobeFrame (call.environment globals).translatedWorld state.registers)
    (answered : (call.environment globals).translatedHelper helper state = some answer) :
    ∃ reply, call.function (kprobeLowering.target helper) machine = some reply ∧
      Provides kprobeFrame (liveNames call.myConfig) objectSize (Follows log) signature.returns answer
        machine.contents reply := by
  have sees : Sees call.myConfig log state (argumentView machine) := ⟨presents.contents, presents.kernel⟩
  suffices ∃ reply, (call.environment globals).translatedHelper helper (argumentView machine) =
      some reply ∧ Provides kprobeFrame (liveNames call.myConfig) objectSize (Follows log)
        signature.returns answer machine.contents reply by
    obtain ⟨reply, replied, provides⟩ := this
    refine ⟨call.leave call.layout .stack machine reply, ?_,
      provides.leave call.toSetting (by decide) presents.pointer⟩
    rw [Call.function, target_helper known]
    exact congrArg (Option.map (call.leave call.layout .stack machine)) replied
  have same : ∀ register ∈ signature.registers,
      (argumentView machine).registers register = state.registers register := presents.registers
  have buffer : ∀ register count, (register, count) ∈ signature.buffers →
      Shared (call.environment globals).toEnvironment (state.registers register)
        (state.registers count).toNat :=
    fun register count member => framed.buffers (register, count) member
  simp only [translatedInterface] at known
  split at known <;> cases known
  · exact sees.lookup (same .r1 (by decide)) (same .r2 (by decide))
      (framed.keys (.r2, 4) List.mem_cons_self) answered
  · exact sees.printk (same .r1 (by decide)) (same .r2 (by decide)) (same .r3 (by decide))
      (buffer .r1 .r2 List.mem_cons_self) answered
  · obtain rfl := Option.some.inj answered
    exact ⟨_, rfl, sees.keeps _⟩
  · obtain rfl := Option.some.inj answered
    exact ⟨_, rfl, sees.keeps _⟩
  · exact sees.command (same .r1 (by decide)) (same .r2 (by decide))
      (buffer .r1 .r2 List.mem_cons_self) answered
  · exact sees.output (same .r1 (by decide)) (same .r2 (by decide)) (same .r3 (by decide))
      (same .r4 (by decide)) (same .r5 (by decide)) (buffer .r4 .r5 List.mem_cons_self) answered
  · exact sees.probeRead (same .r1 (by decide)) (same .r2 (by decide)) (same .r3 (by decide))
      (buffer .r1 .r2 List.mem_cons_self)
      (buffer .r3 .r2 (List.mem_cons_of_mem _ List.mem_cons_self)) answered

theorem thunk_outside :
    (∀ entry ∈ kprobeExecListing, entry.1 ≠ 0xffffffffd60a3234) ∧ 0 ≠ 0xffffffffd60a3234 := by
  decide +kernel

theorem hosts (log : List KernelCall) :
    Hosts kprobeLowering kprobeFrame translatedInterface Name.region kprobeGround (Follows log)
      (call.environment globals).translatedWorld call.processor where
  bases _ _ := rfl
  sizes name _ := objectSize_le name
  stack := List.mem_cons_self
  limit := rfl
  caller := rfl
  room := by decide
  pointer := rfl
  base := rfl
  saved := by decide
  thunk := rfl
  place := compiledPlace_ne thunk_outside.2 thunk_outside.1 7 kprobeExecTranslatedCode
  ground name _ := by
    cases name with
    | stack => exact le_rfl
    | _ => exact Nat.zero_le _
  resolve symbol := by
    cases symbol with
    | myConfig => rfl
    | output => rfl
    | c => exact call.c_base.symm.trans (BitVec.add_zero _).symm
    | message => exact call.message_base.symm.trans (BitVec.add_zero _).symm
    | rodata => exact call.rodata_base.symm.trans (BitVec.add_zero _).symm
  helper _ _ known _ _ _ presents framed answered :=
    call.function_provides globals known presents framed answered

theorem describes :
    calledKinds.Describe (call.environment globals).translatedWorld Name.region
      (call.environment globals).initial.registers := by
  intro register
  cases register with
  | r10 => exact ⟨.stack, List.mem_cons_self, rfl, 512, le_rfl, le_rfl, rfl⟩
  | _ => trivial

end Call

/-- The memory holds the global variables and the format strings. -/
structure Holds (globals : Globals) (memory : Contents Name) : Prop where
  c : memory.read .c 0 4 = littleBytes 4 globals.c.toNat
  message : memory.read .message 0 12 = globals.message.toList
  rodata : memory.read .rodata 0 15 = formats

/-- The calls of the kernel that the actions of an invocation show. -/
def observedCalls (ctx : Word) (actions : List Action) : List KernelCall :=
  actions.filterMap (Action.observed ctx)

namespace Call

variable (call : Call) {globals : Globals} {memory : Contents Name}

/-- The machine code and the translated bytecode start with the same shared bytes. -/
theorem enter_agrees (holds : Holds globals memory) (log : List KernelCall) :
    Contents.AgreeOn (kprobeFrame.Common (liveNames call.myConfig) objectSize)
      (call.enter memory log).contents (call.environment globals).initial.contents := by
  have shown : ∀ name count bytes, memory.read name 0 count = bytes → ∀ index < bytes.length,
      memory name index = bytes.getD index 0 := by
    intro name count bytes stored index inside
    rw [List.getD_eq_getElem?_getD, List.getElem?_eq_getElem inside, Option.getD_some,
      ← Contents.byte_of_read stored inside, Nat.zero_add]
  intro name index common
  have inside : index < objectSize name := common.2.2
  cases name with
  | stack => rfl
  | c => exact shown .c 4 _ holds.c index (by rwa [littleBytes_length])
  | message => exact shown .message 12 _ holds.message index (by rwa [Vector.length_toList])
  | rodata => exact shown .rodata 15 _ holds.rodata index inside
  | element key => rfl

/-- One call sends what an invocation of the source sends, and it counts. -/
theorem completes (holds : Holds globals memory) (log : List KernelCall) :
    ∃ final, (call.meet memory log).Completes kprobeExecListing 0 final ∧
      final.kernel = log ++ observedCalls (call.registers .rdi)
        (invocationActions call.myConfig globals call.event) ∧
      Holds { globals with c := globals.c + 1 } final.contents := by
  have pointer : (call.enter memory log).registers .rsp =
      call.processor.layout.pointer kprobeFrame.stack (kprobeFrame.limit + 8) := rfl
  have arguments : ∀ register, (calledKinds register).defined = true → register ≠ .r10 →
      (call.enter memory log).registers register.compiled =
        (call.environment globals).initial.registers register := by
    intro register defined notFrame
    cases register with
    | r1 => rfl
    | r10 => exact absurd rfl notFrame
    | _ => cases defined
  obtain ⟨last, final, exits, returned, completed⟩ :=
    (call.hosts globals log).returns (call.environment globals).world_implements
      kprobeExecListing_compiles kprobeExecListing_enters kprobeExecTranslatedCode_verified
      (call.describes globals) (fun _ _ _ _ _ _ => trivial) pointer rfl arguments (call.enter_agrees holds log)
      (List.append_nil log).symm
  obtain ⟨object, objectExits, zero, stage⟩ :=
    kprobeExecCode_final (call.environment globals).toEnvironment
  have translated := (call.environment globals).answers.exits objectExits
  rw [translate_kprobeExecCode] at translated
  obtain rfl := exits.exited_unique translated
  have shared : ∀ name count, name ∈ liveNames call.myConfig → kprobeFrame.floor name = 0 →
      count ≤ objectSize name → final.contents.read name 0 count = last.contents.read name 0 count := by
    intro name count live bottom within
    apply completed.contents.read_eq
    intro index inside
    rw [Nat.zero_add]
    exact ⟨live, bottom ▸ Nat.zero_le index, inside.trans_le within⟩
  refine ⟨final, ⟨returned, completed.result.trans zero, completed.top, completed.preserved⟩, ?_, ?_⟩
  · exact completed.kernel.trans (congrArg (log ++ ·) stage.kernel)
  constructor
  · rw [shared .c 4 (by simp [liveNames]) rfl le_rfl]
    exact stage.counter
  · rw [shared .message 12 (by simp [liveNames]) rfl le_rfl]
    exact stage.message
  · have shown : (call.environment globals).contents.read .rodata 0 formats.length = formats :=
      Contents.read_shown fun _ => rfl
    rw [shared .rodata 15 (by simp [liveNames]) rfl le_rfl,
      Contents.read_congr (stage.others .rodata (by decide) (by decide))]
    exact shown

end Call

theorem globalsMemory_holds (globals : Globals) : Holds globals (globalsMemory globals) where
  c := by
    have shown : (globalsMemory globals).read .c 0 (littleBytes 4 globals.c.toNat).length =
        littleBytes 4 globals.c.toNat := Contents.read_shown fun _ => rfl
    rwa [littleBytes_length] at shown
  message := by
    have shown : (globalsMemory globals).read .message 0 globals.message.toList.length =
        globals.message.toList := Contents.read_shown fun _ => rfl
    rwa [Vector.length_toList] at shown
  rodata := by
    have shown : (globalsMemory globals).read .rodata 0 formats.length = formats :=
      Contents.read_shown fun _ => rfl
    exact shown

/-- What the invocations of a history send, each with its own context. -/
def sentCalls (calls : List Call) (results : List Result) : List KernelCall :=
  (calls.zip results).flatMap fun (call, result) => observedCalls (call.registers .rdi) result.actions

/-- The calls of the machine code run like the invocations of the source. -/
theorem calls_follow (calls : List Call) {globals : Globals} {memory : Contents Name}
    (holds : Holds globals memory) (log : List KernelCall) :
    ∃ last final results,
      X86.Calls kprobeExecListing 0 Call.meet memory log calls last (log ++ sentCalls calls results) ∧
      kprobeRun .little globals (calls.map fun call => (call.myConfig, call.event)) =
        some (final, results) ∧
      Holds final last := by
  induction calls generalizing globals memory log with
  | nil =>
      refine ⟨memory, globals, [], ?_, rfl, holds⟩
      rw [sentCalls, List.zip_nil_left, List.flatMap_nil, List.append_nil]
      exact X86.Calls.nil memory log
  | cons call rest ih =>
      obtain ⟨state, completes, kernel, still⟩ := call.completes holds log
      obtain ⟨last, final, results, continues, runs, holding⟩ := ih still state.kernel
      obtain ⟨result, invoked, run⟩ :=
        kprobeRun_cons .little globals call.myConfig call.event
          (rest.map fun call => (call.myConfig, call.event))
      have actions : result.actions = invocationActions call.myConfig globals call.event := by
        rw [kprobeExec_eq] at invoked
        exact congrArg Result.actions (Option.some.inj invoked).symm
      refine ⟨last, final, result :: results, ?_, ?_, holding⟩
      · have sent : log ++ sentCalls (call :: rest) (result :: results) =
            state.kernel ++ sentCalls rest results := by
          rw [kernel, ← actions, List.append_assoc]
          rfl
        rw [sent]
        exact X86.Calls.cons completes continues
      · rw [List.map_cons, run, runs]
        rfl

/-- The addresses that the listing fixes. -/
def fixedBases : List (Name × Word) :=
  [(.c, immediate (-72830813560832)), (.message, immediate (-72830813560828)),
    (.rodata, immediate (-115581794723056))]

/-- Every configuration and event meets a call, where the stack and the elements stand below the fixed
addresses. -/
theorem call_exists (myConfig : MyConfig) (event : Event) :
    ∃ call : Call, call.myConfig = myConfig ∧ call.event = event := by
  have total : ((liveNames myConfig).map fun name => headerSize name + machineSize name).sum =
      559 + myConfig.keys.length * 68 := by
    simp only [liveNames, List.map_cons, List.sum_cons, List.map_map]
    change 528 + (4 + (12 + (15 + (myConfig.keys.map fun _ => 68).sum))) = _
    rw [List.map_const', List.sum_replicate, smul_eq_mul]
    omega
  have bound := myConfig.keys_length_le
  have below : 1 + ((liveNames myConfig).map fun name => headerSize name + machineSize name).sum <
      2 ^ 63 := by omega
  obtain ⟨whole, bases⟩ := Layout.exists_fixed (liveNames myConfig)
    (fun name => headerSize name + machineSize name) fixedBases (by omega) below (by decide) (by decide)
  have positive : ∀ name ∈ liveNames myConfig, 0 < machineSize name := by
    intro name _
    cases name <;> exact Nat.succ_pos _
  let layout := whole.behind headerSize positive
  have unmoved : ∀ {name address}, fixedBases.lookup name = some address → headerSize name = 0 →
      layout.base name = address := by
    intro name address known none
    have start : layout.base name = whole.base name + BitVec.ofNat 64 (headerSize name) := rfl
    rw [start, bases name address known, none]
    exact BitVec.add_zero _
  let setting : X86.Setting Name (List KernelCall) := ⟨0, fun _ => 0, none, fun _ _ => 0, fun _ _ => 0⟩
  refine ⟨⟨setting, myConfig, event, layout, unmoved rfl rfl, unmoved rfl rfl, unmoved rfl rfl, ?_,
    fun _ => 0, fun _ => 0⟩, rfl, rfl⟩
  intro key member start
  have live : Name.element key ∈ liveNames myConfig := by simp [liveNames, member]
  have header : immediate 56 - BitVec.ofNat 64 56 = 0 := by decide
  exact whole.nonnull (.element key) live ((BitVec.eq_sub_iff_add_eq.mpr start).trans header)

/-- Each sequence of calls of the machine code returns to its callers with zero and with their registers,
and it sends the same calls and leaves the same global variables as the source. -/
theorem kprobeExecListing_refines (calls : List Call) (globals : Globals) :
    ∃ memory final results,
      X86.Calls kprobeExecListing 0 Call.meet (globalsMemory globals) [] calls memory
        (sentCalls calls results) ∧
      kprobeRun .little globals (calls.map fun call => (call.myConfig, call.event)) =
        some (final, results) ∧
      Holds final memory :=
  calls_follow calls (globalsMemory_holds globals) []

end EbpfNotes.HelloVerifier
