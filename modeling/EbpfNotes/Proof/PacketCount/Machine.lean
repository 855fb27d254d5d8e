import EbpfNotes.Construction.PacketCountMachine
import EbpfNotes.Library.Jit
import EbpfNotes.Proof.PacketCount.Bytecode

namespace EbpfNotes.PacketCount

open Library

/-- The program keeps nothing on the stack, and only `rbx` is saved. -/
def packetCountFrame : X86.Frame Name where
  stack := .stack
  limit := 512
  depth := 0
  saved := [.rbx]

/-- A function of the kernel is called at its distance from a base, a signed number of 32 bits. -/
def packetCountLowering : Lowering Symbol where
  place := compiledPlace packetCountListing 5 translatedCode
  resolve
    | .counter => -79770420068352
    | .rodata => -109408656120560
  target helper :=
    if helper < 2 ^ 31 then 0xffffffffc9c60a4c + helper else 0xffffffffc9c60a4c + helper - 2 ^ 32
  thunk := 0x10000000000000000

/-- The listing is the compiled code of the translated bytecode. -/
theorem packetCountListing_compiles :
    packetCountLowering.compiles packetCountFrame packetCountListing 0 translatedCode = true := by
  decide +kernel

theorem packetCountListing_enters :
    X86.follow packetCountListing 0 packetCountFrame.prologue = some (packetCountLowering.place 0) := by
  decide +kernel

theorem thunk_outside :
    (∀ entry ∈ packetCountListing, entry.1 ≠ 0x10000000000000000) ∧
      0 ≠ 0x10000000000000000 := by
  decide +kernel

inductive Region where
  | stack
  | counter
  | rodata
  deriving DecidableEq, Repr

def Name.region : Name → Region
  | .stack => .stack
  | .counter => .counter
  | .rodata => .rodata

def translatedInterface : Interface Symbol Region where
  extent
    | .stack => 512
    | .counter => 4
    | .rodata => 3
  symbol
    | .counter, offset => .pointer .counter offset offset
    | .rodata, offset => .pointer .rodata offset offset
  helper
    | 4294858880 => some { buffers := [(.r1, .r2)], scalars := [.r3], returns := .undefined }
    | _ => none

/-- Only the frame pointer may be read at the entry. -/
def calledKinds : Kinds Symbol Region
  | .r10 => .pointer .stack 512 512
  | _ => .undefined

/-- No byte of the stack belongs to the program. -/
def packetCountGround : Region → Nat
  | .stack => 512
  | _ => 0

def passResult (kinds : Kinds Symbol Region) : Bool := decide (kinds .r0 = .number 2 2)

theorem translatedCode_verified :
    verify translatedInterface translatedCode
      (compilable translatedInterface packetCountGround packetCountFrame translatedCode) passResult 11 0
      calledKinds = true := by
  decide +kernel

theorem Environment.world_helper (environment : Environment) (number : Nat)
    (state : State Name (List Printk)) :
    (environment.world number).helper number state = environment.tracePrintk state := by
  simp only [Environment.world, if_true]

/-- The function of the kernel keeps its signature. -/
theorem Environment.world_implements (environment : Environment) :
    (environment.world (2 ^ 32 - 108416)).Implements translatedInterface Name.region fun _ _ => True where
  extent name _ := by cases name <;> rfl
  symbol symbol offset := by
    cases symbol with
    | counter =>
        refine ⟨.counter, by decide, rfl, offset, le_rfl, le_rfl, ?_⟩
        rw [immediate_natCast]
        exact congrArg (· + BitVec.ofNat 64 offset) (BitVec.add_zero _)
    | rodata =>
        refine ⟨.rodata, by decide, rfl, offset, le_rfl, le_rfl, ?_⟩
        rw [immediate_natCast]
        exact congrArg (· + BitVec.ofNat 64 offset) (BitVec.add_zero _)
  helper number signature known state _ met := by
    simp only [translatedInterface] at known
    split at known <;> cases known
    obtain ⟨place, located⟩ := met.buffers (.r1, .r2) List.mem_cons_self
    change environment.layout.locate _ _ = _ at located
    have called : (environment.world (2 ^ 32 - 108416)).helper 4294858880 state =
        environment.tracePrintk state := environment.world_helper (2 ^ 32 - 108416) state
    rw [called, Environment.tracePrintk, bpfTracePrintk_eq rfl located]
    exact ⟨_, rfl, trivial⟩

/-- The instructions in front of the exit. -/
theorem countBlock_executes (environment : Environment) {memory : Contents Name} {lines : List Printk}
    {counter : BitVec 32} (shows : Shows ⟨memory, lines⟩ counter) :
    Executes (environment.world (2 ^ 32 - 108416)) (translatedCode.take 9)
      ⟨environment.entry, memory, lines⟩ fun final =>
      final.registers .r0 = immediate 2 ∧
        final.kernel = lines ++ [⟨literal "%d", BitVec.ofNat 64 counter.toNat⟩] ∧
        final.contents = memory.write .counter 0 (littleBytes 4 (counter + 1).toNat) := by
  have number : memory.number (.counter, 0) 4 = counter.toNat := Contents.half_eq shows.counter
  have address : ∀ symbol, (environment.world (2 ^ 32 - 108416)).address symbol =
      environment.address symbol := fun _ => rfl
  have layout : (environment.world (2 ^ 32 - 108416)).layout = environment.layout := rfl
  have place := environment.locate_counter
  simp only [translatedCode, packetCountCode, List.take_succ_cons, List.take_zero, executes_address,
    executes_load, executes_alu, State.set_registers, State.set_contents, Operation.apply,
    Operand.value, if_true, Width.count, address, layout, Environment.address, BitVec.add_zero, place,
    number, Option.some.injEq, exists_eq_left']
  apply executes_call ((environment.world_helper (2 ^ 32 - 108416) _).trans
    (environment.tracePrintk_eq rfl rfl shows.format))
  intro next _ saved contents kernel
  have pointer : next.registers .r6 = environment.layout.pointer .counter 0 := saved .r6 rfl
  have same : next.contents = memory := contents
  simp only [executes_load, executes_alu, executes_store, executes_nil, layout, pointer, place, same,
    number, State.set_registers, State.set_contents, State.put_contents, State.put_registers,
    Operation.apply, Operand.value, if_true, reduceCtorEq, if_false, Width.count, Option.some.injEq,
    exists_eq_left', littleBytes_increment]
  exact ⟨trivial, kernel, trivial⟩

/-- The translated bytecode prints the counter, increments it and passes the packet. -/
theorem translatedCode_final (environment : Environment) {memory : Contents Name} {lines : List Printk}
    {counter : BitVec 32} (shows : Shows ⟨memory, lines⟩ counter) :
    ∃ final, Reaches (environment.world (2 ^ 32 - 108416)) translatedCode
        (.running 0 ⟨environment.entry, memory, lines⟩) (.exited final) ∧
      final.registers .r0 = immediate 2 ∧
      final.kernel = lines ++ [⟨literal "%d", BitVec.ofNat 64 counter.toNat⟩] ∧
      final.contents = memory.write .counter 0 (littleBytes 4 (counter + 1).toNat) := by
  have code : CodeAt translatedCode 0 (translatedCode.take 9) := codeAt_slice translatedCode 0 9
  have last : CodeAt translatedCode 11 [.exit] := codeAt_slice translatedCode 9 1
  obtain ⟨final, ran, finished⟩ := (countBlock_executes environment shows).reaches code
  exact ⟨final, ran.trans (Reaches.exit last), finished⟩

namespace Call

variable (call : Call)

theorem target_helper {helper : Nat} {signature : Signature Symbol Region}
    (known : translatedInterface.helper helper = some signature) :
    calledHelper (packetCountLowering.target helper) = helper := by
  simp only [translatedInterface] at known
  split at known <;> first | rfl | cases known

/-- The trace line of the machine code is the trace line of the translated bytecode. -/
theorem function_provides {helper : Nat} {signature : Signature Symbol Region}
    (known : translatedInterface.helper helper = some signature) {state : State Name (List Printk)}
    {machine : X86.State Name (List Printk)} {answer : Return Name (List Printk)}
    (presents : Presents packetCountFrame objectSize Eq call.layout signature.registers state machine)
    (framed : signature.Framed packetCountFrame call.world state.registers)
    (answered : call.world.helper helper state = some answer) :
    ∃ reply, call.function (packetCountLowering.target helper) machine = some reply ∧
      Provides packetCountFrame liveNames objectSize Eq signature.returns answer machine.contents
        reply := by
  suffices ∃ reply, call.world.helper helper (argumentView machine) = some reply ∧
      Provides packetCountFrame liveNames objectSize Eq signature.returns answer machine.contents reply by
    obtain ⟨reply, replied, provides⟩ := this
    refine ⟨call.leave call.layout .stack machine reply, ?_,
      provides.leave call.toSetting (by decide) presents.pointer⟩
    rw [Call.function, target_helper known, replied, Option.map_some]
  have same : ∀ register ∈ signature.registers,
      (argumentView machine).registers register = state.registers register := presents.registers
  simp only [translatedInterface] at known
  split at known <;> cases known
  have called : ∀ state, call.world.helper 4294858880 state = call.environment.tracePrintk state :=
    call.environment.world_helper (2 ^ 32 - 108416)
  obtain ⟨name, offset, located, common⟩ := framed.buffers (.r1, .r2) List.mem_cons_self
  change call.environment.layout.locate _ _ = _ at located
  rw [called, Environment.tracePrintk, bpfTracePrintk_eq rfl located, Option.some.injEq] at answered
  subst answered
  have shown : (argumentView machine).contents.read name offset (state.registers .r2).toNat =
      state.contents.read name offset (state.registers .r2).toNat := presents.contents.read_eq common
  rw [called, Environment.tracePrintk, bpfTracePrintk_eq (congrArg BitVec.toNat (same .r2 (by decide)))
    ((same .r1 (by decide)).symm ▸ located), same .r3 (by decide), shown]
  refine ⟨_, rfl, ?_, presents.contents, ?_, fun _ _ _ => rfl⟩
  · intro defined
    cases defined
  · exact congrArg (· ++ _) presents.kernel

theorem hosts :
    Hosts packetCountLowering packetCountFrame translatedInterface Name.region packetCountGround Eq
      call.world call.processor where
  bases _ _ := rfl
  sizes name _ := objectSize_le name
  stack := by decide
  limit := rfl
  caller := rfl
  room := by decide
  pointer := rfl
  base := rfl
  saved := by decide
  thunk := rfl
  place := compiledPlace_ne thunk_outside.2 thunk_outside.1 5 translatedCode
  ground name _ := by cases name <;> decide
  resolve symbol := by
    cases symbol with
    | counter => exact call.counter_base.symm.trans (BitVec.add_zero _).symm
    | rodata => exact call.rodata_base.symm.trans (BitVec.add_zero _).symm
  helper _ _ known _ _ _ presents framed answered := call.function_provides known presents framed answered

theorem describes (memory : Contents Name) (lines : List Printk) :
    calledKinds.Describe call.world Name.region (call.start memory lines).registers := by
  intro register
  cases register with
  | r10 => exact ⟨.stack, by decide, rfl, 512, le_rfl, le_rfl, rfl⟩
  | _ => trivial

/-- One call prints the counter and increments it. -/
theorem completes {memory : Contents Name} {lines : List Printk} {counter : BitVec 32}
    (shows : Shows ⟨memory, lines⟩ counter) :
    ∃ final, (call.meet memory lines).Completes packetCountListing 2 final ∧
      final.kernel = lines ++ [⟨literal "%d", BitVec.ofNat 64 counter.toNat⟩] ∧
      Shows ⟨final.contents, final.kernel⟩ (counter + 1) := by
  have pointer : (call.enter memory lines).registers .rsp =
      call.processor.layout.pointer packetCountFrame.stack (packetCountFrame.limit + 8) := rfl
  have arguments : ∀ register, (calledKinds register).defined = true → register ≠ .r10 →
      (call.enter memory lines).registers register.compiled =
        (call.start memory lines).registers register := by
    intro register defined notFrame
    cases register with
    | r10 => exact absurd rfl notFrame
    | _ => cases defined
  have entered : Shows ⟨(call.enter memory lines).contents, lines⟩ counter :=
    ⟨shows.counter, shows.format, shows.lines⟩
  obtain ⟨last, final, exits, returned, completed⟩ :=
    call.hosts.returns call.environment.world_implements packetCountListing_compiles
      packetCountListing_enters translatedCode_verified (call.describes memory lines)
      (fun _ _ _ _ _ _ => trivial) pointer rfl arguments (fun _ _ _ => rfl) rfl
  obtain ⟨object, known, two, kernel, contents⟩ := translatedCode_final call.environment entered
  obtain rfl := exits.exited_unique known
  have sent : final.kernel = lines ++ [⟨literal "%d", BitVec.ofNat 64 counter.toNat⟩] :=
    completed.kernel.trans kernel
  have shared : ∀ name count, name ∈ liveNames → packetCountFrame.floor name = 0 →
      count ≤ objectSize name → final.contents.read name 0 count = last.contents.read name 0 count := by
    intro name count live bottom within
    apply completed.contents.read_eq
    intro index inside
    rw [Nat.zero_add]
    exact ⟨live, bottom ▸ Nat.zero_le index, inside.trans_le within⟩
  refine ⟨final, ⟨returned, completed.result.trans two, completed.top, completed.preserved⟩, sent, ?_⟩
  constructor
  · rw [shared .counter 4 (by decide) rfl le_rfl, contents]
    exact Contents.read_store _ _ _ _ _
  · rw [shared .rodata 3 (by decide) rfl le_rfl, contents,
      Contents.read_write_other _ (Or.inl (by decide))]
    exact shows.format
  · intro line member
    have either : line ∈ lines ++ [⟨literal "%d", BitVec.ofNat 64 counter.toNat⟩] := sent ▸ member
    rcases List.mem_append.mp either with old | new
    · exact shows.lines line old
    · obtain rfl := List.mem_singleton.mp new
      rfl

end Call

/-- The addresses that the listing fixes. -/
def fixedBases : List (Name × Word) :=
  [(.counter, immediate (-79770420068352)), (.rodata, immediate (-109408656120560))]

/-- Some call fits the fixed addresses, with its stack below them. -/
theorem call_exists : Nonempty Call := by
  have below : 1 + (liveNames.map machineSize).sum < 2 ^ 63 := by decide
  obtain ⟨layout, bases⟩ :=
    Layout.exists_fixed liveNames machineSize fixedBases (by omega) below (by decide) (by decide)
  let setting : X86.Setting Name (List Printk) := ⟨0, fun _ => 0, none, fun _ _ => 0, fun _ _ => 0⟩
  exact ⟨⟨setting, layout, bases .counter _ rfl, bases .rodata _ rfl, fun _ => 0, fun _ => 0⟩⟩

/-- The numbers that the source prints for the first packets. -/
def printedNumbers (packets : Nat) : List Int :=
  (List.range packets).flatMap fun before =>
    (packetCount (packetCountRun before)).printed.map Printk.decimal

/-- Each sequence of calls of the machine code returns to its callers with `XDP_PASS` and with their
registers, and it leaves the counter and prints the numbers of the source. -/
theorem packetCountListing_refines (calls : List Call) :
    ∃ memory lines,
      X86.Calls packetCountListing (XDP_PASS.setWidth 64) Call.meet loaded.contents loaded.kernel calls
        memory lines ∧
      Shows ⟨memory, lines⟩ (packetCountRun calls.length) ∧
      sentValues ⟨memory, lines⟩ = printedNumbers calls.length := by
  let related (packets : Nat) (memory : Contents Name) (lines : List Printk) : Prop :=
    Shows ⟨memory, lines⟩ (packetCountRun packets) ∧
      sentValues ⟨memory, lines⟩ = printedNumbers packets
  have each : ∀ call packets memory lines, related packets memory lines →
      ∃ final, (Call.meet call memory lines).Completes packetCountListing (XDP_PASS.setWidth 64) final ∧
        related (packets + 1) final.contents final.kernel := by
    intro call packets memory lines holds
    obtain ⟨shows, sent⟩ := holds
    obtain ⟨final, completes, kernel, later⟩ := call.completes shows
    refine ⟨final, completes, later, ?_⟩
    have number : (⟨literal "%d", BitVec.ofNat 64 (packetCountRun packets).toNat⟩ : Printk).decimal =
        (counterLine (packetCountRun packets)).decimal := loaded_decimal _
    have before : lines.map Printk.decimal = printedNumbers packets := sent
    rw [sentValues, kernel, List.map_append, before, printedNumbers, printedNumbers, List.range_succ,
      List.flatMap_append, List.flatMap_singleton, List.map_singleton, number]
    rfl
  have start : related 0 loaded.contents loaded.kernel := ⟨loaded_shows, rfl⟩
  obtain ⟨memory, lines, ran, shows, sent⟩ := X86.Calls.follow each calls start
  rw [List.foldl_add_const, Nat.one_mul, Nat.zero_add] at shows sent
  exact ⟨memory, lines, ran, shows, sent⟩

end EbpfNotes.PacketCount
