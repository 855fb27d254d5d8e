import EbpfNotes.Construction.HashMapExampleMachine
import EbpfNotes.Library.Jit
import EbpfNotes.Proof.HashMapExample.Bytecode

namespace EbpfNotes.HashMapExample

open Library

/-- The key and the counter take 16 bytes below the frame pointer. -/
def helloFrame : X86.Frame Name where
  stack := .stack
  limit := 512
  depth := 16
  saved := []

/-- A function of the kernel is called at its distance from a base. -/
def helloLowering : Lowering Symbol where
  place := compiledPlace helloListing 5 translatedCode
  resolve _ := -115576415311872
  target helper := 0xffffffffd524d72c + helper
  thunk := 0xffffffffd60a33fc

/-- The listing is the compiled code of the translated bytecode. -/
theorem helloListing_compiles :
    helloLowering.compiles helloFrame helloListing 0 translatedCode = true := by
  decide +kernel

theorem helloListing_enters :
    X86.follow helloListing 0 helloFrame.prologue = some (helloLowering.place 0) := by
  decide +kernel

theorem thunk_outside :
    (∀ entry ∈ helloListing, entry.1 ≠ 0xffffffffd60a33fc) ∧ 0 ≠ 0xffffffffd60a33fc := by
  decide +kernel

inductive Region where
  | stack
  | element
  deriving DecidableEq, Repr

def Name.region : Name → Region
  | .stack => .stack
  | .element _ => .element

/-- The lookup returns an element of 64 bytes or NULL. -/
def translatedInterface : Interface Symbol Region where
  extent
    | .stack => 512
    | .element => 64
  symbol _
    | 0 => .handle .counterTable
    | _ => .unknown
  helper
    | 235744 => some {}
    | 267632 => some
      { handles := [(.r1, .counterTable)], keys := [(.r2, 8)], returns := .optional .element 0 }
    | 280992 => some
      { handles := [(.r1, .counterTable)], keys := [(.r2, 8), (.r3, 8)], scalars := [.r4] }
    | _ => none

/-- Only the frame pointer may be read at the entry. -/
def calledKinds : Kinds Symbol Region
  | .r10 => .pointer .stack 512 512
  | _ => .undefined

/-- The frame starts 16 bytes below the frame pointer. -/
def helloGround : Region → Nat
  | .stack => 496
  | .element => 0

def zeroResult (kinds : Kinds Symbol Region) : Bool := decide (kinds .r0 = .number 0 0)

theorem translatedCode_verified :
    verify translatedInterface translatedCode
      (compilable translatedInterface helloGround helloFrame translatedCode) zeroResult 25 0
      calledKinds = true := by
  decide +kernel

/-- The log of the processor goes on where the calls before have left it. -/
def Follows (log : List Access) (machine program : Kernel) : Prop :=
  machine = ⟨program.counterTable, log ++ program.accesses⟩

theorem Follows.lookup {log : List Access} {machine program : Kernel} (follows : Follows log machine program)
    (key : Word) : (machine.lookup key).1 = (program.lookup key).1 ∧
      Follows log (machine.lookup key).2 (program.lookup key).2 := by
  subst follows
  refine ⟨rfl, ?_⟩
  rw [Follows, Kernel.lookup, Kernel.lookup, List.append_assoc]

theorem Follows.update {log : List Access} {machine program : Kernel} (follows : Follows log machine program)
    (key value flags : Word) : (machine.update key value flags).1 = (program.update key value flags).1 ∧
      Follows log (machine.update key value flags).2 (program.update key value flags).2 := by
  subst follows
  refine ⟨rfl, ?_⟩
  simp only [Follows, Kernel.update, List.append_assoc]

/-- An event makes the same accesses behind any others. -/
theorem Follows.hello (table : CounterTable) (log : List Access) (uidGid : Word) :
    Follows log (hello ⟨table, log⟩ uidGid).2 (hello ⟨table, []⟩ uidGid).2 := by
  have start : Follows log ⟨table, log⟩ ⟨table, []⟩ := by rw [Follows, List.append_nil]
  have looked := start.lookup (maskUid uidGid)
  exact (looked.2.update (maskUid uidGid) _ 0).2

section Functions

variable {table : CounterTable} {uidGid : Word} {environment : Environment table uidGid 56}
  {log : List Access} {state seen : State Name Kernel} {answer : Return Name Kernel}
  {returns : Kind Symbol Region}

/-- The function of the kernel sees the memory of the program, and its log goes on. -/
structure Sees (table : CounterTable) (log : List Access) (state seen : State Name Kernel) : Prop where
  contents : Contents.AgreeOn (helloFrame.Common (liveNames table) (objectSize 56)) seen.contents
    state.contents
  kernel : Follows log seen.kernel state.kernel

/-- The same table shows in the common bytes, and the stack stays as it was. -/
theorem showTable_agrees (shown : CounterTable) {first second : Contents Name}
    (agree : Contents.AgreeOn (helloFrame.Common (liveNames table) (objectSize 56)) first second) :
    Contents.AgreeOn (helloFrame.Common (liveNames table) (objectSize 56)) (showTable 56 shown first)
      (showTable 56 shown second) := by
  intro name index common
  have same := agree name index common
  cases name with
  | stack => exact same
  | element key =>
      simp only [showTable]
      split_ifs
      · rfl
      · exact same

/-- The eight bytes at a pointer are shared. -/
def Shared (environment : Environment table uidGid 56) (address : Word) : Prop :=
  ∃ name offset, environment.layout.locate address 8 = some (name, offset) ∧
    ∀ index < 8, helloFrame.Common (liveNames table) (objectSize 56) name (offset + index)

theorem Sees.lookup (sees : Sees table log state seen)
    (map : seen.registers .r1 = state.registers .r1) (pointer : seen.registers .r2 = state.registers .r2)
    (key : Shared environment (state.registers .r2))
    (answered : environment.mapLookupElem state = some answer) :
    ∃ reply, environment.mapLookupElem seen = some reply ∧
      Provides helloFrame (liveNames table) (objectSize 56) (Follows log) returns answer seen.contents
        reply := by
  obtain ⟨name, offset, located, common⟩ := key
  unfold Environment.mapLookupElem at answered ⊢
  obtain ⟨hit, answered⟩ := Option.ite_none_right_eq_some.mp answered
  simp only [located, Option.bind_eq_bind, Option.bind_some, Option.some.injEq] at answered
  subst answered
  simp only [map, hit, if_true, pointer, located, Option.bind_eq_bind, Option.bind_some,
    sees.contents.number_eq common]
  obtain ⟨same, follows⟩ := sees.kernel.lookup (BitVec.ofNat 64 (state.contents.number (name, offset) 8))
  rw [same]
  exact ⟨_, rfl, fun _ => rfl, sees.contents, follows, fun _ _ _ => rfl⟩

theorem Sees.update (sees : Sees table log state seen)
    (map : seen.registers .r1 = state.registers .r1)
    (keyPointer : seen.registers .r2 = state.registers .r2)
    (valuePointer : seen.registers .r3 = state.registers .r3)
    (flags : seen.registers .r4 = state.registers .r4) (key : Shared environment (state.registers .r2))
    (value : Shared environment (state.registers .r3))
    (answered : environment.mapUpdateElem state = some answer) :
    ∃ reply, environment.mapUpdateElem seen = some reply ∧
      Provides helloFrame (liveNames table) (objectSize 56) (Follows log) returns answer seen.contents
        reply := by
  obtain ⟨name, offset, located, common⟩ := key
  obtain ⟨holder, start, found, shared⟩ := value
  unfold Environment.mapUpdateElem at answered ⊢
  obtain ⟨hit, answered⟩ := Option.ite_none_right_eq_some.mp answered
  simp only [located, found, Option.bind_eq_bind, Option.bind_some, Option.some.injEq] at answered
  subst answered
  simp only [map, hit, if_true, keyPointer, located, valuePointer, found, flags, Option.bind_eq_bind,
    Option.bind_some, sees.contents.number_eq common, sees.contents.number_eq shared]
  obtain ⟨same, follows⟩ := sees.kernel.update
    (BitVec.ofNat 64 (state.contents.number (name, offset) 8))
    (BitVec.ofNat 64 (state.contents.number (holder, start) 8)) (state.registers .r4)
  refine ⟨_, rfl, fun _ => same, ?_, follows, ?_⟩
  · rw [follows]
    exact showTable_agrees _ sees.contents
  · intro place index guarded
    obtain ⟨rfl, _⟩ := guarded
    rfl

end Functions

/-- The lookup finds the elements that are in the memory as long as nothing has changed the table. -/
def ready (table : CounterTable) (helper : Nat) (kernel : Kernel) : Prop :=
  helper = 267632 → kernel.counterTable = table

namespace Environment

variable {table : CounterTable} {uidGid : Word} (environment : Environment table uidGid 56)

theorem mapLookupElem_implements {state : State Name Kernel} (same : state.kernel.counterTable = table)
    (map : state.registers .r1 = environment.map) {place : Name × Nat}
    (located : environment.layout.locate (state.registers .r2) 8 = some place) :
    ∃ answer, environment.mapLookupElem state = some answer ∧
      (Kind.optional .element 0 : Kind Symbol Region).Describes
        (environment.world environment.translatedHelper) Name.region answer.result := by
  simp only [mapLookupElem, map, if_true, located, Option.bind_eq_bind, Option.bind_some, Kernel.lookup,
    bpfMapLookupElem, same]
  refine ⟨_, rfl, ?_⟩
  cases found : table.lookup (BitVec.ofNat 64 (state.contents.number place 8)) with
  | none =>
      left
      rfl
  | some value =>
      right
      exact ⟨.element _, element_live found, rfl, rfl⟩

/-- The functions of the kernel keep their signatures. -/
theorem world_implements :
    (environment.world environment.translatedHelper).Implements translatedInterface Name.region
      (ready table) where
  extent name _ := by cases name <;> rfl
  symbol _ offset := by
    cases offset with
    | zero => exact BitVec.add_zero _
    | succ offset => trivial
  helper number signature known state prepared met := by
    have called : (environment.world environment.translatedHelper).helper number state =
        environment.translatedHelper number state := rfl
    rw [called]
    simp only [translatedInterface] at known
    split at known <;> cases known
    · exact ⟨_, rfl, trivial⟩
    · obtain ⟨place, located⟩ := met.keys (.r2, 8) List.mem_cons_self
      exact environment.mapLookupElem_implements (prepared rfl)
        (met.handles (.r1, .counterTable) List.mem_cons_self) located
    · obtain ⟨keyPlace, keyLocated⟩ := met.keys (.r2, 8) List.mem_cons_self
      obtain ⟨valuePlace, valueLocated⟩ :=
        met.keys (.r3, 8) (List.mem_cons_of_mem _ List.mem_cons_self)
      have map : state.registers .r1 = environment.map :=
        met.handles (.r1, .counterTable) List.mem_cons_self
      change environment.layout.locate _ _ = _ at keyLocated valueLocated
      simp only [translatedHelper, mapUpdateElem, map, if_true, keyLocated, valueLocated,
        Option.bind_eq_bind, Option.bind_some]
      exact ⟨_, rfl, trivial⟩

end Environment

/-- The program only moves forward, and it calls the lookup and the update once. -/
theorem translatedCode_placed : ∀ entry ∈ placed 0 translatedCode,
    (∀ distance ∈ entry.2.distances, 0 ≤ distance) ∧ (entry.2 = .call 267632 → entry.1 = 8) ∧
      (entry.2 = .call 280992 → entry.1 = 23) := by
  decide +kernel

section Prepared

variable {table : CounterTable} {uidGid : Word} (environment : Environment table uidGid 56)

/-- Only the update changes the table. -/
theorem translatedHelper_table {helper : Nat} {state : State Name Kernel} {answer : Return Name Kernel}
    (other : helper ≠ 280992) (answered : environment.translatedHelper helper state = some answer) :
    answer.kernel.counterTable = state.kernel.counterTable := by
  unfold Environment.translatedHelper at answered
  split at answered
  · obtain ⟨_, answered⟩ := Option.ite_none_right_eq_some.mp answered
    obtain ⟨place, _, answered⟩ := Option.bind_eq_some_iff.mp answered
    obtain rfl := Option.some.inj answered
    rfl
  · exact absurd rfl other
  · obtain rfl := Option.some.inj answered
    rfl
  · cases answered

/-- In front of the update the table stays as it was at the entry. -/
theorem step_table {slot target : Nat} {state next : State Name Kernel}
    (kept : slot ≤ 23 → state.kernel.counterTable = table)
    (moves : step (environment.world environment.translatedHelper) translatedCode slot state =
      .running target next) :
    target ≤ 23 → next.kernel.counterTable = table := by
  intro early
  obtain ⟨instruction, fetched, executed | ⟨rfl, distance, member, lands⟩⟩ := step_running moves
  · obtain ⟨_, _, updates⟩ := translatedCode_placed (0 + slot, instruction) (fetch_placed fetched 0)
    have positive := slots_pos instruction
    have before := kept (by omega)
    cases instruction with
    | call helper =>
        obtain ⟨answer, answered, rfl⟩ := Option.map_eq_some_iff.mp executed.2
        have other : helper ≠ 280992 := by
          intro same
          have last : 0 + slot = 23 := updates (congrArg _ same)
          omega
        exact (translatedHelper_table environment other answered).trans before
    | _ =>
        rw [effect_kernel executed.2 (by simp)]
        exact before
  · obtain ⟨forward, _⟩ := translatedCode_placed (0 + slot, instruction) (fetch_placed fetched 0)
    have ahead := forward distance member
    exact kept (by omega)

/-- The lookup of the program meets the table of its entry. -/
theorem translatedCode_prepared :
    Prepared (environment.world environment.translatedHelper) translatedCode (ready table)
      (.running 0 environment.initial) := by
  intro fuel slot state helper reached fetched lookup
  have kept := execution_invariant
    (fun _ _ _ _ => step_table environment) fuel (fun _ => rfl) reached
  subst lookup
  have place : 0 + slot = 8 :=
    (translatedCode_placed (0 + slot, .call 267632) (fetch_placed fetched 0)).2.1 rfl
  exact kept (by omega)

end Prepared

namespace Call

variable {table : CounterTable} {uidGid : Word} (call : Call table uidGid) {log : List Access}

theorem target_helper {helper : Nat} {signature : Signature Symbol Region}
    (known : translatedInterface.helper helper = some signature) :
    calledHelper (helloLowering.target helper) = helper := by
  simp only [translatedInterface] at known
  split at known <;> first | rfl | cases known

/-- The functions of the kernel provide what the helpers of the translated bytecode do. -/
theorem function_provides {helper : Nat} {signature : Signature Symbol Region}
    (known : translatedInterface.helper helper = some signature) {state : State Name Kernel}
    {machine : X86.State Name Kernel} {answer : Return Name Kernel}
    (presents : Presents helloFrame (objectSize 56) (Follows log) call.layout signature.registers state
      machine)
    (framed : signature.Framed helloFrame (call.environment.world call.environment.translatedHelper)
      state.registers)
    (answered : call.environment.translatedHelper helper state = some answer) :
    ∃ reply, call.function (helloLowering.target helper) machine = some reply ∧
      Provides helloFrame (liveNames table) (objectSize 56) (Follows log) signature.returns answer
        machine.contents reply := by
  suffices ∃ reply, call.environment.translatedHelper helper (argumentView machine) = some reply ∧
      Provides helloFrame (liveNames table) (objectSize 56) (Follows log) signature.returns answer
        machine.contents reply by
    obtain ⟨reply, replied, provides⟩ := this
    refine ⟨call.leave call.layout .stack machine reply, ?_,
      provides.leave call.toSetting (by decide) presents.pointer⟩
    rw [Call.function, target_helper known]
    exact congrArg (Option.map (call.leave call.layout .stack machine)) replied
  have sees : Sees table log state (argumentView machine) := ⟨presents.contents, presents.kernel⟩
  have same : ∀ register ∈ signature.registers,
      (argumentView machine).registers register = state.registers register := presents.registers
  simp only [translatedInterface] at known
  split at known <;> cases known
  · obtain rfl := Option.some.inj answered
    exact ⟨_, rfl, fun _ => rfl, sees.contents, sees.kernel, fun _ _ _ => rfl⟩
  · exact sees.lookup (same .r1 (by decide)) (same .r2 (by decide)) (framed.keys (.r2, 8) (by decide))
      answered
  · exact sees.update (same .r1 (by decide)) (same .r2 (by decide)) (same .r3 (by decide))
      (same .r4 (by decide)) (framed.keys (.r2, 8) (by decide)) (framed.keys (.r3, 8) (by decide)) answered

theorem hosts (log : List Access) :
    Hosts helloLowering helloFrame translatedInterface Name.region helloGround (Follows log)
      (call.environment.world call.environment.translatedHelper) call.processor where
  bases _ _ := rfl
  sizes name _ := objectSize_le name
  stack := List.mem_cons_self
  limit := rfl
  caller := rfl
  room := by decide
  pointer := rfl
  base := rfl
  saved := by decide
  thunk := rfl
  place := compiledPlace_ne thunk_outside.2 thunk_outside.1 5 translatedCode
  ground name _ := by
    cases name with
    | stack => exact le_rfl
    | element key => exact Nat.zero_le _
  resolve _ := rfl
  helper _ _ known _ _ _ presents framed answered := call.function_provides known presents framed answered

theorem describes :
    calledKinds.Describe (call.environment.world call.environment.translatedHelper) Name.region
      call.environment.initial.registers := by
  intro register
  cases register with
  | r10 => exact ⟨.stack, List.mem_cons_self, rfl, 512, le_rfl, le_rfl, rfl⟩
  | _ => trivial

/-- One call makes the accesses of one event. -/
theorem completes (log : List Access) :
    ∃ final, X86.Returns call.processor helloListing (call.enter log)
        (BitVec.ofNat 64 ((call.enter log).contents.number (.stack, 520) 8)) final ∧
      final.registers .rax = 0 ∧
      final.registers .rsp = (call.enter log).registers .rsp + immediate 8 ∧
      (∀ register, register.preserved = true → register ≠ .rsp →
        final.registers register = (call.enter log).registers register) ∧
      final.kernel = (hello ⟨table, log⟩ uidGid).2 := by
  have pointer : (call.enter log).registers .rsp =
      call.processor.layout.pointer helloFrame.stack (helloFrame.limit + 8) := rfl
  have arguments : ∀ register, (calledKinds register).defined = true → register ≠ .r10 →
      (call.enter log).registers register.compiled = call.environment.initial.registers register := by
    intro register defined notFrame
    cases register with
    | r10 => exact absurd rfl notFrame
    | _ => cases defined
  have start : Follows log (call.enter log).kernel call.environment.initial.kernel :=
    (congrArg (Kernel.mk table) (List.append_nil log)).symm
  obtain ⟨last, final, exits, returned, completed⟩ :=
    (call.hosts log).returns call.environment.world_implements helloListing_compiles helloListing_enters
      translatedCode_verified call.describes (translatedCode_prepared call.environment) pointer rfl
      arguments (fun _ _ _ => rfl) start
  obtain ⟨object, known, zero, kernel⟩ := translatedCode_refines call.environment
  obtain rfl := exits.exited_unique known
  refine ⟨final, returned, completed.result.trans zero, completed.top, completed.preserved, ?_⟩
  have follows := completed.kernel
  rw [kernel] at follows
  exact follows.trans (Follows.hello table log uidGid).symm

end Call

/-- Every event can arrive, since every table fits into the addresses. -/
theorem arrival_exists (uidGid : Word) : ∃ arrival : Arrival, arrival.uidGid = uidGid := by
  have fits : ∀ table : CounterTable, Nonempty (Layout (liveNames table) machineSize) := by
    intro table
    have total : ((liveNames table).map machineSize).sum = 528 + table.keys.length * 64 := by
      rw [liveNames, List.map_cons, List.sum_cons, List.map_map]
      change 528 + (table.keys.map fun _ => 64).sum = _
      rw [List.map_const', List.sum_replicate, smul_eq_mul]
    have bound := table.keys_length_le
    exact Layout.exists_packed (liveNames table) machineSize (by omega)
  let setting : X86.Setting Name Kernel := ⟨0, fun _ => 0, none, fun _ _ => 0, fun _ _ => 0⟩
  exact ⟨⟨uidGid, fun table => ⟨setting, (fits table).some, fun _ _ => 0⟩⟩, rfl⟩

/-- Each sequence of calls of the machine code returns to its callers with zero and with their registers,
and it leaves the table and makes the accesses of the events. -/
theorem helloListing_refines (kernel : Kernel) (memory : Contents Name) (arrivals : List Arrival) :
    ∃ last, X86.Calls helloListing 0 Arrival.meet memory kernel arrivals last
      (helloRun kernel (arrivals.map Arrival.uidGid)) := by
  have each : ∀ arrival (model : Kernel) (memory : Contents Name) (kernel : Kernel), model = kernel →
      ∃ final, (Arrival.meet arrival memory kernel).Completes helloListing 0 final ∧
        (hello model arrival.uidGid).2 = final.kernel := by
    intro arrival model memory kernel same
    subst same
    obtain ⟨final, returned, zero, top, preserved, kernel⟩ :=
      (arrival.finds model.counterTable).completes model.accesses
    exact ⟨final, ⟨returned, zero, top, preserved⟩, kernel.symm⟩
  obtain ⟨last, after, calls, same⟩ := X86.Calls.follow each arrivals rfl
  rw [helloRun, List.foldl_map, same]
  exact ⟨last, calls⟩

end EbpfNotes.HashMapExample
