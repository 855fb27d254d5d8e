import EbpfNotes.Construction.HelloVerifierThreads
import EbpfNotes.Library.Verifier

namespace EbpfNotes.HelloVerifier

open Library

/-- The elements of the configuration are one region. -/
inductive Region where
  | stack
  | c
  | message
  | rodata
  | element
  deriving DecidableEq, Repr

def Name.region : Name → Region
  | .stack => .stack
  | .c => .c
  | .message => .message
  | .rodata => .rodata
  | .element _ => .element

/-- The sizes of the objects and the signatures of the seven helpers. -/
def kprobeInterface : Interface Symbol Region where
  extent
    | .stack => 512
    | .c => 4
    | .message => 12
    | .rodata => 15
    | .element => 12
  symbol
    | .myConfig, 0 => .handle .myConfig
    | .output, 0 => .handle .output
    | .c, offset => .pointer .c offset offset
    | .message, offset => .pointer .message offset offset
    | .rodata, offset => .pointer .rodata offset offset
    | _, _ => .unknown
  helper
    | 1 => some { handles := [(.r1, .myConfig)], keys := [(.r2, 4)], returns := .optional .element 0 }
    | 6 => some { buffers := [(.r1, .r2)] }
    | 14 => some {}
    | 15 => some {}
    | 16 => some { buffers := [(.r1, .r2)] }
    | 25 => some { handles := [(.r2, .output)], buffers := [(.r4, .r5)] }
    | 113 => some { buffers := [(.r1, .r2), (.r3, .r2)] }
    | _ => none

/-- Only the frame pointer is known at the entry. -/
def entryKinds : Kinds Symbol Region
  | .r10 => .pointer .stack 512 512
  | _ => .unknown

/-- The two character loads stay inside of their arrays. -/
def indexKinds (slot : Nat) (kinds : Kinds Symbol Region) : Bool :=
  match slot with
  | 55 => decide (kinds .r2 = .pointer .message 0 11)
  | 67 => decide (kinds .r2 = .pointer .stack 472 483)
  | _ => true

def zeroResult (kinds : Kinds Symbol Region) : Bool := decide (kinds .r0 = .number 0 0)

/-- The longest path has 75 instructions. -/
theorem kprobeExecCode_verified :
    verify kprobeInterface kprobeExecCode indexKinds zeroResult 75 0 entryKinds = true := by decide +kernel

section Environment

variable {myConfig : MyConfig} {globals : Globals} {event : Event}
  (environment : Environment myConfig globals event)

/-- The address of a symbol that names an object is the start of the object. -/
theorem Environment.pointer_describes (name : Name) (live : name ∈ liveNames myConfig) (offset : Nat) :
    (Kind.pointer name.region offset offset : Kind Symbol Region).Describes environment.world
      Name.region (environment.layout.pointer name 0 + BitVec.ofNat 64 offset) := by
  refine ⟨name, live, rfl, offset, le_rfl, le_rfl, ?_⟩
  rw [environment.layout.pointer_offset, Nat.zero_add, immediate_natCast]
  rfl

theorem Environment.handle_describes (symbol : Symbol) :
    (Kind.handle symbol : Kind Symbol Region).Describes environment.world Name.region
      (environment.world.address symbol + BitVec.ofNat 64 0) := by
  exact BitVec.add_zero _

/-- A lookup finds an element of the configuration or returns NULL. -/
theorem Environment.mapLookupElem_implements {state : State Name (List KernelCall)}
    (map : state.registers .r1 = environment.mapAddress) {place : Name × Nat}
    (located : environment.layout.locate (state.registers .r2) 4 = some place) :
    ∃ answer, environment.mapLookupElem state = some answer ∧
      (Kind.optional .element 0 : Kind Symbol Region).Describes environment.world Name.region
        answer.result := by
  simp only [Environment.mapLookupElem, map, if_true, located, Option.bind_eq_bind, Option.bind_some]
  generalize (Vector.ofFn fun index : Fin 4 => state.contents place.1 (place.2 + index)) = key
  refine ⟨_, rfl, ?_⟩
  cases found : myConfig.lookup key with
  | none =>
      left
      simp [bpfMapLookupElem, found]
  | some msg =>
      right
      have live : Name.element key ∈ liveNames myConfig := by
        simp [liveNames, Table.mem_keys_of_lookup found]
      refine ⟨.element key, live, rfl, ?_⟩
      simp only [bpfMapLookupElem, found, Option.isSome_some, if_true]
      rfl

/-- The helpers of each environment keep the signatures. -/
theorem Environment.world_implements :
    environment.world.Implements kprobeInterface Name.region fun _ _ => True where
  extent name _ := by cases name <;> rfl
  symbol symbol offset := by
    cases symbol with
    | myConfig =>
        cases offset with
        | zero => exact environment.handle_describes .myConfig
        | succ offset => trivial
    | output =>
        cases offset with
        | zero => exact environment.handle_describes .output
        | succ offset => trivial
    | c => exact environment.pointer_describes .c (by simp [liveNames]) offset
    | message => exact environment.pointer_describes .message (by simp [liveNames]) offset
    | rodata => exact environment.pointer_describes .rodata (by simp [liveNames]) offset
  helper number signature known state _ met := by
    have call : ∀ register bytes, (register, bytes) ∈ signature.buffers →
        ∃ place, environment.layout.locate (state.registers register) (state.registers bytes).toNat =
          some place := fun register bytes member => met.buffers (register, bytes) member
    simp only [kprobeInterface] at known
    split at known <;> cases known
    · obtain ⟨place, located⟩ := met.keys (.r2, 4) List.mem_cons_self
      exact environment.mapLookupElem_implements (met.handles (.r1, .myConfig) List.mem_cons_self)
        located
    · obtain ⟨place, located⟩ := call .r1 .r2 List.mem_cons_self
      have called : environment.world.helper 6 state = environment.tracePrintk state := rfl
      rw [called, Environment.tracePrintk, bpfTracePrintk_eq rfl located]
      exact ⟨_, rfl, trivial⟩
    · exact ⟨_, rfl, trivial⟩
    · exact ⟨_, rfl, trivial⟩
    · obtain ⟨place, located⟩ := call .r1 .r2 List.mem_cons_self
      have called : environment.world.helper 16 state = environment.getCurrentComm state := rfl
      rw [called, Environment.getCurrentComm, located]
      exact ⟨_, rfl, trivial⟩
    · obtain ⟨place, located⟩ := call .r4 .r5 List.mem_cons_self
      have map : state.registers .r2 = environment.outputAddress :=
        met.handles (.r2, .output) List.mem_cons_self
      have called : environment.world.helper 25 state = environment.perfEventOutput state := rfl
      simp only [called, Environment.perfEventOutput, map, if_true, located, Option.bind_eq_bind,
        Option.bind_some]
      exact ⟨_, rfl, trivial⟩
    · obtain ⟨target, written⟩ := call .r1 .r2 List.mem_cons_self
      obtain ⟨source, read⟩ := call .r3 .r2 (List.mem_cons_of_mem _ List.mem_cons_self)
      have called : environment.world.helper 113 state = environment.probeReadKernel state := rfl
      rw [called, Environment.probeReadKernel, written, read]
      exact ⟨_, rfl, trivial⟩

/-- The registers at the entry have the entry kinds. -/
theorem Environment.entry_describes :
    entryKinds.Describe environment.world Name.region environment.initial.registers := by
  intro register
  cases register with
  | r10 => exact ⟨.stack, List.mem_cons_self, rfl, 512, le_rfl, le_rfl, rfl⟩
  | _ => trivial

end Environment

/-- The safety of an invocation that has taken the given number of steps: it is not stuck, it is not
running any more behind its last instruction, each character load hits a character of its array, and it
returns zero. -/
def Arrival.Safe {myConfig : MyConfig} {globals : Globals} (arrival : Arrival myConfig globals)
    (taken : Nat) : Progress → Prop
  | .running slot registers => taken < 75 ∧
      (slot = 55 → ∃ position < 12,
        registers .r2 = arrival.environment.layout.pointer .message position) ∧
      (slot = 67 → ∃ position < 12,
        registers .r2 + immediate 28 = arrival.environment.layout.pointer .stack (500 + position))
  | .exited registers => registers .r0 = 0
  | .stuck => False

section Race

variable {myConfig : MyConfig} {globals : Globals} {event : Event}

/-- A pointer to the characters of the global message has a position in it. -/
theorem message_position {environment : Environment myConfig globals event} {word : Word}
    (describes : (Kind.pointer .message 0 11 : Kind Symbol Region).Describes environment.world
      Name.region word) :
    ∃ position < 12, word = environment.layout.pointer .message position := by
  obtain ⟨name, _, region, offset, lower, upper, rfl⟩ := describes
  obtain ⟨position, rfl⟩ := Int.eq_ofNat_of_zero_le lower
  cases name <;> cases region
  refine ⟨position, by omega, ?_⟩
  rw [immediate_natCast]
  rfl

/-- The offset of the message in the record is added behind the position. -/
theorem dataMessage_position {environment : Environment myConfig globals event} {word : Word}
    (describes : (Kind.pointer .stack 472 483 : Kind Symbol Region).Describes environment.world
      Name.region word) :
    ∃ position < 12, word + immediate 28 = environment.layout.pointer .stack (500 + position) := by
  obtain ⟨name, _, region, offset, lower, upper, rfl⟩ := describes
  obtain ⟨start, rfl⟩ := Int.eq_ofNat_of_zero_le (by omega : 0 ≤ offset)
  obtain ⟨position, rfl⟩ := Nat.exists_eq_add_of_le (by omega : 472 ≤ start)
  cases name <;> cases region
  refine ⟨position, by omega, ?_⟩
  rw [immediate_natCast]
  exact environment.layout.pointer_immediate .stack (by omega)

/-- In every interleaving of the instructions of any number of invocations, whatever the shared memory
holds, no invocation is ever stuck, both arrays are read inside of their bounds, and each invocation
returns zero after at most 75 of its own instructions. -/
theorem kprobeExecCode_race_inside (shared : Shared Name (List KernelCall))
    (arrivals : List (Arrival myConfig globals)) (schedule : List Nat) (index : Fin arrivals.length) :
    ∃ thread, (run kprobeInstructionStep (kprobeThreads shared arrivals) schedule).invocations[index.val]? =
        some thread ∧
      arrivals[index].Safe (schedule.count index.val) thread.progress := by
  have found : (kprobeThreads shared arrivals).invocations[index.val]? = some arrivals[index].thread := by
    simp [kprobeThreads]
  have entry : arrivals[index].thread.Verified kprobeInterface Name.region kprobeExecCode indexKinds
      zeroResult arrivals[index].environment.world 75 :=
    ⟨rfl, entryKinds, kprobeExecCode_verified, arrivals[index].environment.entry_describes⟩
  obtain ⟨thread, reached, _, checked⟩ :=
    verified_run found arrivals[index].environment.world_implements entry schedule
  refine ⟨thread, reached, ?_⟩
  cases going : thread.progress with
  | stuck =>
      rw [going] at checked
      exact checked
  | exited registers =>
      rw [going] at checked
      obtain ⟨kinds, zero, describes⟩ := checked
      have result := describes .r0
      rw [of_decide_eq_true zero] at result
      exact BitVec.eq_of_toNat_eq (Nat.le_zero.mp result.2)
  | running slot registers =>
      rw [going] at checked
      obtain ⟨kinds, verified, describes⟩ := checked
      obtain ⟨remaining, holds⟩ := verified_property verified
      have pointer := describes .r2
      refine ⟨Nat.lt_of_sub_pos remaining, ?_, ?_⟩
      · intro atMessage
        subst atMessage
        rw [of_decide_eq_true holds] at pointer
        exact message_position pointer
      · intro atDataMessage
        subst atDataMessage
        rw [of_decide_eq_true holds] at pointer
        exact dataMessage_position pointer

end Race

end EbpfNotes.HelloVerifier
