import EbpfNotes.Library.Bytecode
import Mathlib.Logic.Relation

namespace EbpfNotes.Library.X86

inductive Register where
  | rax | rbx | rcx | rdx | rsi | rdi | rbp | rsp | r8 | r9 | r10 | r11 | r12 | r13 | r14 | r15
  deriving DecidableEq, Repr

/-- A called function leaves these registers as it has found them. -/
def Register.preserved : Register → Bool
  | .rbx | .rbp | .rsp | .r12 | .r13 | .r14 | .r15 => true
  | _ => false

inductive Operand where
  | register (source : Register)
  | constant (value : Int)
  deriving DecidableEq, Repr

/-- The operands stand in the order of a listing, the source first, and a jump names an address. -/
inductive Instruction where
  | nop
  | int3
  | pushq (source : Register)
  | popq (target : Register)
  | movq (source target : Register)
  | movabsq (value : Int) (target : Register)
  | movl (value : Nat) (target : Register)
  | xorl (source target : Register)
  | addq (source : Operand) (target : Register)
  | subq (value : Int) (target : Register)
  | shlq (distance : Nat) (target : Register)
  | shrq (distance : Nat) (target : Register)
  | sarq (distance : Nat) (target : Register)
  | load (width : Width) (offset : Int) (base target : Register)
  | store (width : Width) (source : Register) (offset : Int) (base : Register)
  | testq (left right : Register)
  | cmpq (value : Int) (left : Register)
  | jmp (address : Nat)
  | je (address : Nat)
  | ja (address : Nat)
  | callq (address : Nat)
  | leave
  | retq
  deriving DecidableEq, Repr

/-- The instructions of a function with their addresses. -/
abbrev Listing := List (Nat × Instruction)

/-- The instruction at an address and the address of the next one. -/
def decode : Listing → Nat → Option (Instruction × Option Nat)
  | [], _ => none
  | (address, instruction) :: rest, target =>
    if address = target then some (instruction, rest.head?.map Prod.fst) else decode rest target

structure Flags where
  zero : Bool
  carry : Bool
  deriving DecidableEq, Repr

def Flags.above (flags : Flags) : Bool := !flags.carry && !flags.zero

/-- The flags are only known behind a comparison. -/
structure State (Name Kernel : Type) where
  registers : Register → Word
  flags : Option Flags
  contents : Contents Name
  kernel : Kernel

section Machine

variable {Name Kernel : Type} {live : List Name} {size : Name → Nat}

def State.set (state : State Name Kernel) (target : Register) (value : Word) : State Name Kernel :=
  { state with registers := fun register => if register = target then value else state.registers register }

@[simp] theorem State.set_same (state : State Name Kernel) (target : Register) (value : Word) :
    (state.set target value).registers target = value := if_pos rfl

theorem State.set_other (state : State Name Kernel) {target register : Register} (value : Word)
    (other : register ≠ target) :
    (state.set target value).registers register = state.registers register := if_neg other

/-- Arithmetic sets the flags in a way that no jump relies on. -/
def State.compute (state : State Name Kernel) (target : Register) (value : Word) : State Name Kernel :=
  { state.set target value with flags := none }

def Operand.value (operand : Operand) (state : State Name Kernel) : Word :=
  match operand with
  | .register source => state.registers source
  | .constant value => immediate value

/-- A processor runs a function at its image address. A call leaves the listing for a function of the
kernel, which answers and chooses the registers that it does not preserve, and a jump to the return
thunk returns. -/
structure Processor (Name Kernel : Type) (live : List Name) (size : Name → Nat) where
  layout : Layout live size
  image : Word
  thunk : Nat
  function : Nat → State Name Kernel → Option (Return Name Kernel)
  scratch : State Name Kernel → Register → Word

/-- The state behind a call, where the return address is popped again. -/
def Processor.resume (processor : Processor Name Kernel live size) (state called : State Name Kernel)
    (answer : Return Name Kernel) : State Name Kernel where
  registers register :=
    if register = .rax then answer.result
    else if register.preserved then state.registers register
    else processor.scratch called register
  flags := none
  contents := answer.contents
  kernel := answer.kernel

variable [DecidableEq Name]

def State.put (state : State Name Kernel) (place : Name × Nat) (bytes : List Byte) : State Name Kernel :=
  { state with contents := state.contents.write place.1 place.2 bytes }

/-- The stack grows to lower addresses. -/
def State.push (state : State Name Kernel) (layout : Layout live size) (word : Word) :
    Option (State Name Kernel) :=
  let top := state.registers .rsp + immediate (-8)
  (layout.locate top 8).map fun place => (state.put place (littleBytes 8 word.toNat)).set .rsp top

def State.pop (state : State Name Kernel) (layout : Layout live size) :
    Option (Word × State Name Kernel) :=
  (layout.locate (state.registers .rsp) 8).map fun place =>
    (BitVec.ofNat 64 (state.contents.number place 8),
      state.set .rsp (state.registers .rsp + immediate 8))

/-- A call pushes the address of the next instruction. -/
def State.call (state : State Name Kernel) (processor : Processor Name Kernel live size)
    (next target : Nat) : Option (State Name Kernel) := do
  let called ← state.push processor.layout (processor.image + BitVec.ofNat 64 next)
  let answer ← processor.function target called
  some (processor.resume state called answer)

/-- The effect of an instruction that goes on with the next one. -/
def effect (processor : Processor Name Kernel live size) (next : Nat) (instruction : Instruction)
    (state : State Name Kernel) : Option (State Name Kernel) :=
  match instruction with
  | .nop => some state
  | .pushq source => state.push processor.layout (state.registers source)
  | .popq target => (state.pop processor.layout).map fun popped => popped.2.set target popped.1
  | .movq source target => some (state.set target (state.registers source))
  | .movabsq value target => some (state.set target (immediate value))
  -- A write of 32 bits clears the upper half of the register.
  | .movl value target => some (state.set target (BitVec.ofNat 64 (value % 2 ^ 32)))
  | .xorl source target =>
    some (state.compute target
      ((state.registers target ^^^ state.registers source) &&& 0xFFFFFFFF))
  | .addq source target => some (state.compute target (state.registers target + source.value state))
  | .subq value target => some (state.compute target (state.registers target - immediate value))
  | .shlq distance target => some (state.compute target (state.registers target <<< (distance % 64)))
  | .shrq distance target => some (state.compute target (state.registers target >>> (distance % 64)))
  | .sarq distance target =>
    some (state.compute target ((state.registers target).sshiftRight (distance % 64)))
  | .load width offset base target =>
    (processor.layout.locate (state.registers base + immediate offset) width.count).map fun place =>
      state.set target (BitVec.ofNat 64 (state.contents.number place width.count))
  | .store width source offset base =>
    (processor.layout.locate (state.registers base + immediate offset) width.count).map fun place =>
      state.put place (littleBytes width.count (state.registers source).toNat)
  | .testq left right =>
    some { state with
      flags := some ⟨(state.registers left &&& state.registers right) == 0, false⟩ }
  | .cmpq value left =>
    some { state with
      flags := some ⟨state.registers left == immediate value,
        decide (state.registers left < immediate value)⟩ }
  | .callq target => state.call processor next target
  | .leave => ((state.set .rsp (state.registers .rbp)).pop processor.layout).map fun popped =>
      popped.2.set .rbp popped.1
  | .int3 | .jmp _ | .je _ | .ja _ | .retq => none

inductive Outcome (Name Kernel : Type) where
  | running (address : Nat) (state : State Name Kernel)
  | returned (target : Word) (state : State Name Kernel)
  | stuck

/-- The return address is on the top of the stack. -/
def State.leave (state : State Name Kernel) (layout : Layout live size) : Outcome Name Kernel :=
  match state.pop layout with
  | some popped => .returned popped.1 popped.2
  | none => .stuck

/-- A conditional jump needs flags. -/
def branch (taken : Flags → Bool) (target : Nat) (next : Option Nat) (state : State Name Kernel) :
    Outcome Name Kernel :=
  match state.flags, next with
  | some flags, some next => .running (if taken flags then target else next) state
  | _, _ => .stuck

def step (processor : Processor Name Kernel live size) (listing : Listing) (address : Nat)
    (state : State Name Kernel) : Outcome Name Kernel :=
  match decode listing address with
  | none => .stuck
  | some (.retq, _) => state.leave processor.layout
  | some (.jmp target, _) =>
    if target = processor.thunk then state.leave processor.layout else .running target state
  | some (.je target, next) => branch Flags.zero target next state
  | some (.ja target, next) => branch Flags.above target next state
  | some (instruction, some next) =>
    match effect processor next instruction state with
    | some after => .running next after
    | none => .stuck
  | some (_, none) => .stuck

/-- The steps of a function from one address to another. -/
def Runs (processor : Processor Name Kernel live size) (listing : Listing) :
    Nat × State Name Kernel → Nat × State Name Kernel → Prop :=
  Relation.ReflTransGen fun before after =>
    step processor listing before.1 before.2 = .running after.1 after.2

/-- The function returns to the address in the state. -/
def Returns (processor : Processor Name Kernel live size) (listing : Listing)
    (initial : State Name Kernel) (target : Word) (final : State Name Kernel) : Prop :=
  ∃ address state, Runs processor listing (0, initial) (address, state) ∧
    step processor listing address state = .returned target final

/-- What a call finds in the processor, and what the functions of the kernel leave in the registers that
they do not preserve and on their own stack. -/
structure Setting (Name Kernel : Type) where
  image : Word
  registers : Register → Word
  flags : Option Flags
  scratch : State Name Kernel → Register → Word
  garbage : State Name Kernel → Nat → Byte

/-- A function of the kernel uses the stack below its return address. -/
def Setting.leave (setting : Setting Name Kernel) (layout : Layout live size) (stack : Name)
    (machine : State Name Kernel) (answer : Return Name Kernel) : Return Name Kernel :=
  { answer with
    contents := fun name index =>
      if name = stack ∧ index < (machine.registers .rsp - layout.base stack).toNat then
        setting.garbage machine index
      else answer.contents name index }

/-- A call of a listing has its own processor. -/
structure Call (Name Kernel : Type) where
  live : List Name
  size : Name → Nat
  processor : Processor Name Kernel live size
  initial : State Name Kernel
  returnAddress : Word

/-- A call returns to its caller with a result, and the caller finds its stack pointer and the registers
that belong to it. -/
structure Call.Completes (call : Call Name Kernel) (listing : Listing) (result : Word)
    (final : State Name Kernel) : Prop where
  returns : Returns call.processor listing call.initial call.returnAddress final
  result : final.registers .rax = result
  pointer : final.registers .rsp = call.initial.registers .rsp + immediate 8
  preserved : ∀ register, register.preserved = true → register ≠ .rsp →
    final.registers register = call.initial.registers register

variable {Arrival : Type}

/-- The calls complete one after another, each with the memory and the kernel that it meets. -/
inductive Calls (listing : Listing) (result : Word)
    (meet : Arrival → Contents Name → Kernel → Call Name Kernel) :
    Contents Name → Kernel → List Arrival → Contents Name → Kernel → Prop
  | nil (memory : Contents Name) (kernel : Kernel) :
    Calls listing result meet memory kernel [] memory kernel
  | cons {memory last : Contents Name} {kernel after : Kernel} {arrival : Arrival}
    {rest : List Arrival} {final : State Name Kernel}
    (completes : (meet arrival memory kernel).Completes listing result final)
    (continues : Calls listing result meet final.contents final.kernel rest last after) :
    Calls listing result meet memory kernel (arrival :: rest) last after

/-- When each call follows a step of a model, the calls follow the run of the model. -/
theorem Calls.follow {Model : Type} {listing : Listing} {result : Word}
    {meet : Arrival → Contents Name → Kernel → Call Name Kernel}
    {related : Model → Contents Name → Kernel → Prop} {advance : Model → Arrival → Model}
    (each : ∀ arrival model memory kernel, related model memory kernel →
      ∃ final, (meet arrival memory kernel).Completes listing result final ∧
        related (advance model arrival) final.contents final.kernel)
    (arrivals : List Arrival) {model : Model} {memory : Contents Name} {kernel : Kernel}
    (meets : related model memory kernel) :
    ∃ last after, Calls listing result meet memory kernel arrivals last after ∧
      related (arrivals.foldl advance model) last after := by
  induction arrivals generalizing model memory kernel with
  | nil => exact ⟨memory, kernel, Calls.nil memory kernel, meets⟩
  | cons arrival rest ih =>
      obtain ⟨final, completes, still⟩ := each arrival model memory kernel meets
      obtain ⟨last, after, continues, holds⟩ := ih still
      exact ⟨last, after, Calls.cons completes continues, holds⟩

end Machine

/-- The address behind instructions that the listing holds one behind another. -/
def follow (listing : Listing) : Nat → List Instruction → Option Nat
  | address, [] => some address
  | address, instruction :: rest =>
    match decode listing address with
    | some (found, some next) =>
      if found = instruction then follow listing next rest else none
    | _ => none

/-- The function returns at the address. -/
def finishes (thunk : Nat) (listing : Listing) (address : Nat) : Bool :=
  match decode listing address with
  | some (.retq, _) => true
  | some (.jmp target, _) => target == thunk
  | _ => false

section Runs

variable {Name Kernel : Type} {live : List Name} {size : Name → Nat} [DecidableEq Name]
  {processor : Processor Name Kernel live size} {listing : Listing}

theorem follow_cons {address last : Nat} {instruction : Instruction} {rest : List Instruction}
    (held : follow listing address (instruction :: rest) = some last) :
    ∃ next, decode listing address = some (instruction, some next) ∧
      follow listing next rest = some last := by
  rw [follow] at held
  split at held
  · rename_i found next decoded
    obtain ⟨rfl, rest⟩ := Option.ite_none_right_eq_some.mp held
    exact ⟨next, decoded, rest⟩
  · cases held

theorem follow_one {address last : Nat} {instruction : Instruction}
    (held : follow listing address [instruction] = some last) :
    decode listing address = some (instruction, some last) := by
  obtain ⟨next, decoded, rest⟩ := follow_cons held
  rwa [Option.some.inj rest] at decoded

/-- An instruction with an effect goes on with the next one. -/
theorem step_effect {address next : Nat} {instruction : Instruction} {state after : State Name Kernel}
    (decoded : decode listing address = some (instruction, some next))
    (executed : X86.effect processor next instruction state = some after) :
    step processor listing address state = .running next after := by
  rw [step, decoded]
  cases instruction with
  | int3 => cases executed
  | jmp target => cases executed
  | je target => cases executed
  | ja target => cases executed
  | retq => cases executed
  | _ => simp only [executed]

theorem Runs.effect {address next : Nat} {instruction : Instruction} {state after : State Name Kernel}
    (decoded : decode listing address = some (instruction, some next))
    (executed : X86.effect processor next instruction state = some after) :
    Runs processor listing (address, state) (next, after) :=
  Relation.ReflTransGen.single (step_effect decoded executed)

theorem Runs.one {address next : Nat} {instruction : Instruction} {state after : State Name Kernel}
    (held : follow listing address [instruction] = some next)
    (executed : X86.effect processor next instruction state = some after) :
    Runs processor listing (address, state) (next, after) :=
  Runs.effect (follow_one held) executed

/-- A comparison is followed by a conditional jump. -/
theorem Runs.compare (taken : Flags → Bool) {flags : Flags} {side : Bool} (tested : taken flags = side)
    {address last target : Nat} {comparison jump : Instruction} {state : State Name Kernel}
    (held : follow listing address [comparison, jump] = some last)
    (compares : ∀ next, X86.effect processor next comparison state = some { state with flags := some flags })
    (jumps : ∀ middle after, decode listing middle = some (jump, some last) →
      step processor listing middle after = branch taken target (some last) after) :
    Runs processor listing (address, state)
      (if side then target else last, { state with flags := some flags }) := by
  subst tested
  obtain ⟨middle, compared, rest⟩ := follow_cons held
  apply (Runs.effect compared (compares middle)).trans
  exact Relation.ReflTransGen.single (jumps middle _ (follow_one rest))

theorem follow_append {address last : Nat} {front back : List Instruction}
    (held : follow listing address (front ++ back) = some last) :
    ∃ middle, follow listing address front = some middle ∧ follow listing middle back = some last := by
  induction front generalizing address with
  | nil => exact ⟨address, rfl, held⟩
  | cons instruction front continues =>
      obtain ⟨next, decoded, rest⟩ := follow_cons held
      obtain ⟨middle, first, second⟩ := continues rest
      refine ⟨middle, ?_, second⟩
      simp only [follow, decoded, if_true, first]

end Runs

end EbpfNotes.Library.X86
