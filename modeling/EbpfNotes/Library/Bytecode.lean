import EbpfNotes.Library.Memory

namespace EbpfNotes.Library

inductive Register where
  | r0 | r1 | r2 | r3 | r4 | r5 | r6 | r7 | r8 | r9 | r10
  deriving DecidableEq, Repr

/-- The callee may change the result register and the argument registers. -/
def Register.clobbered : Register → Bool
  | .r0 | .r1 | .r2 | .r3 | .r4 | .r5 => true
  | _ => false

inductive Operand where
  | register (source : Register)
  | constant (value : Int)
  deriving DecidableEq, Repr

inductive Operation where
  | mov | add | or | lsh | rsh | arsh
  deriving DecidableEq, Repr

/-- The operations work on whole words, and a shift uses the distance modulo 64. -/
def Operation.apply (operation : Operation) (left right : Word) : Word :=
  match operation with
  | .mov => right
  | .add => left + right
  | .or => left ||| right
  | .lsh => left <<< (right.toNat % 64)
  | .rsh => left >>> (right.toNat % 64)
  | .arsh => left.sshiftRight (right.toNat % 64)

/-- The distance of a shift by half a word. -/
theorem half_distance : (immediate 32).toNat % 64 = 32 := by decide

inductive Width where
  | u8 | u16 | u32 | u64
  deriving DecidableEq, Repr

def Width.count : Width → Nat
  | .u8 => 1
  | .u16 => 2
  | .u32 => 4
  | .u64 => 8

inductive Condition where
  | eq | gt
  deriving DecidableEq, Repr

/-- The comparison of words is unsigned. -/
def Condition.holds (condition : Condition) (left right : Word) : Bool :=
  match condition with
  | .eq => left == right
  | .gt => decide (right < left)

theorem Condition.eq_holds {left right : Word} (same : left = right) :
    Condition.holds .eq left right = true := beq_iff_eq.mpr same

theorem Condition.eq_fails {left right : Word} (different : left ≠ right) :
    Condition.holds .eq left right = false := beq_eq_false_iff_ne.mpr different

theorem Condition.gt_holds {left right : Word} (above : right.toNat < left.toNat) :
    Condition.holds .gt left right = true := decide_eq_true above

theorem Condition.gt_fails {left right : Word} (below : left.toNat ≤ right.toNat) :
    Condition.holds .gt left right = false := decide_eq_false (Nat.not_lt.mpr below)

/-- The wide constants are the addresses of symbols and 64-bit numbers. -/
inductive Instruction (Symbol : Type) where
  | alu (operation : Operation) (target : Register) (operand : Operand)
  | address (target : Register) (symbol : Symbol) (offset : Nat)
  | wide (target : Register) (value : Word)
  | load (width : Width) (target base : Register) (offset : Int)
  | store (width : Width) (base : Register) (offset : Int) (source : Register)
  | jump (offset : Int)
  | branch (condition : Condition) (left : Register) (right : Operand) (offset : Int)
  | call (helper : Nat)
  | exit
  deriving DecidableEq, Repr

/-- A wide constant takes two slots of the program. -/
def Instruction.slots {Symbol : Type} : Instruction Symbol → Nat
  | .address .. | .wide .. => 2
  | _ => 1

/-- The distances of a jump or a branch from the next slot. -/
def Instruction.distances {Symbol : Type} : Instruction Symbol → List Int
  | .jump offset => [offset]
  | .branch _ _ _ offset => [offset, 0]
  | _ => []

section Machine

variable {Symbol Name Kernel : Type} {live : List Name} {size : Name → Nat}

/-- The slots that a block of code takes. -/
def slots (block : List (Instruction Symbol)) : Nat := (block.map Instruction.slots).sum

/-- The second slot of a wide constant holds no instruction. -/
def fetch : List (Instruction Symbol) → Nat → Option (Instruction Symbol)
  | [], _ => none
  | instruction :: rest, slot =>
    if slot = 0 then some instruction
    else if slot < instruction.slots then none
    else fetch rest (slot - instruction.slots)

/-- The instructions of a block with their slots. -/
def placed : Nat → List (Instruction Symbol) → List (Nat × Instruction Symbol)
  | _, [] => []
  | slot, instruction :: rest => (slot, instruction) :: placed (slot + instruction.slots) rest

/-- The kernel keeps what the helpers observe and change besides the memory. -/
structure State (Name Kernel : Type) where
  registers : Register → Word
  contents : Contents Name
  kernel : Kernel

def State.set (state : State Name Kernel) (target : Register) (value : Word) : State Name Kernel :=
  { state with registers := fun register => if register = target then value else state.registers register }

def State.put (state : State Name Kernel) [DecidableEq Name] (place : Name × Nat) (bytes : List Byte) :
    State Name Kernel :=
  { state with contents := state.contents.write place.1 place.2 bytes }

def Operand.value (operand : Operand) (state : State Name Kernel) : Word :=
  match operand with
  | .register source => state.registers source
  | .constant value => immediate value

/-- A helper returns a word and may change the memory and the kernel. -/
structure Return (Name Kernel : Type) where
  result : Word
  contents : Contents Name
  kernel : Kernel

/-- A world resolves the symbols, answers the helper calls and chooses the clobbered registers. -/
structure World (Symbol Name Kernel : Type) (live : List Name) (size : Name → Nat) where
  layout : Layout live size
  address : Symbol → Word
  helper : Nat → State Name Kernel → Option (Return Name Kernel)
  clobber : State Name Kernel → Register → Word

def World.resume (world : World Symbol Name Kernel live size) (state : State Name Kernel)
    (answer : Return Name Kernel) : State Name Kernel where
  registers register :=
    if register = .r0 then answer.result
    else if register.clobbered then world.clobber state register
    else state.registers register
  contents := answer.contents
  kernel := answer.kernel

variable [DecidableEq Name]

/-- An instruction without control flow fails when its access is outside of every live object or
its helper refuses the call. -/
def effect (world : World Symbol Name Kernel live size) (instruction : Instruction Symbol)
    (state : State Name Kernel) : Option (State Name Kernel) :=
  match instruction with
  | .alu operation target operand =>
    some (state.set target (operation.apply (state.registers target) (operand.value state)))
  | .address target symbol offset =>
    some (state.set target (world.address symbol + BitVec.ofNat 64 offset))
  | .wide target value => some (state.set target value)
  | .load width target base offset =>
    (world.layout.locate (state.registers base + immediate offset) width.count).map fun place =>
      state.set target (BitVec.ofNat 64 (state.contents.number place width.count))
  | .store width base offset source =>
    (world.layout.locate (state.registers base + immediate offset) width.count).map fun place =>
      state.put place (littleBytes width.count (state.registers source).toNat)
  | .call helper => (world.helper helper state).map (world.resume state)
  | .jump _ | .branch .. | .exit => none

inductive Outcome (Name Kernel : Type) where
  | running (slot : Nat) (state : State Name Kernel)
  | exited (state : State Name Kernel)
  | stuck

/-- A jump is relative to the next slot. -/
def goto (slot : Nat) (offset : Int) (state : State Name Kernel) : Outcome Name Kernel :=
  if 0 ≤ (slot : Int) + 1 + offset then .running ((slot : Int) + 1 + offset).toNat state else .stuck

def step (world : World Symbol Name Kernel live size) (program : List (Instruction Symbol))
    (slot : Nat) (state : State Name Kernel) : Outcome Name Kernel :=
  match fetch program slot with
  | none => .stuck
  | some .exit => .exited state
  | some (.jump offset) => goto slot offset state
  | some (.branch condition left right offset) =>
    if condition.holds (state.registers left) (right.value state) then goto slot offset state
    else .running (slot + 1) state
  | some instruction =>
    match effect world instruction state with
    | some next => .running (slot + instruction.slots) next
    | none => .stuck

/-- The run takes at most as many steps as it has fuel. -/
def execution (world : World Symbol Name Kernel live size) (program : List (Instruction Symbol)) :
    Nat → Outcome Name Kernel → Outcome Name Kernel
  | fuel + 1, .running slot state => execution world program fuel (step world program slot state)
  | _, outcome => outcome

/-- Enough fuel takes the first outcome to the second one. -/
def Reaches (world : World Symbol Name Kernel live size) (program : List (Instruction Symbol))
    (first second : Outcome Name Kernel) : Prop :=
  ∃ fuel, execution world program fuel first = second

/-- A block of code runs as a whole. -/
def execute (world : World Symbol Name Kernel live size) :
    List (Instruction Symbol) → State Name Kernel → Option (State Name Kernel)
  | [], state => some state
  | instruction :: rest, state => (effect world instruction state).bind (execute world rest)

/-- Every load that a run comes to lies inside of a live object. -/
def LoadsInside (world : World Symbol Name Kernel live size) (program : List (Instruction Symbol))
    (initial : Outcome Name Kernel) : Prop :=
  ∀ fuel slot state width target base offset,
    execution world program fuel initial = .running slot state →
    fetch program slot = some (.load width target base offset) →
    ∃ name ∈ live, world.layout.covers (state.registers base + immediate offset) width.count name = true

/-- The program contains the block at the slot. -/
def CodeAt (program : List (Instruction Symbol)) (slot : Nat) (block : List (Instruction Symbol)) : Prop :=
  ∃ before after, program = before ++ block ++ after ∧ slots before = slot

omit [DecidableEq Name] in
theorem State.set_registers (state : State Name Kernel) (target register : Register) (value : Word) :
    (state.set target value).registers register =
      if register = target then value else state.registers register := rfl

omit [DecidableEq Name] in
@[simp] theorem State.set_contents (state : State Name Kernel) (target : Register) (value : Word) :
    (state.set target value).contents = state.contents := rfl

omit [DecidableEq Name] in
@[simp] theorem State.set_kernel (state : State Name Kernel) (target : Register) (value : Word) :
    (state.set target value).kernel = state.kernel := rfl

@[simp] theorem State.put_registers (state : State Name Kernel) (place : Name × Nat)
    (bytes : List Byte) : (state.put place bytes).registers = state.registers := rfl

@[simp] theorem State.put_contents (state : State Name Kernel) (place : Name × Nat)
    (bytes : List Byte) :
    (state.put place bytes).contents = state.contents.write place.1 place.2 bytes := rfl

omit [DecidableEq Name] in
/-- A helper call keeps the registers that it must not clobber. -/
theorem World.resume_saved (world : World Symbol Name Kernel live size) (state : State Name Kernel)
    (answer : Return Name Kernel) {register : Register} (saved : register.clobbered = false) :
    (world.resume state answer).registers register = state.registers register := by
  have other : register ≠ .r0 := by
    intro result
    rw [result] at saved
    cases saved
  simp only [World.resume, if_neg other, saved, Bool.false_eq_true, if_false]

theorem slots_append (first second : List (Instruction Symbol)) :
    slots (first ++ second) = slots first + slots second := by
  simp only [slots, List.map_append, List.sum_append]

theorem slots_pos (instruction : Instruction Symbol) : 0 < instruction.slots := by
  cases instruction <;> exact Nat.succ_pos _

/-- The slots of a block in front are skipped. -/
theorem fetch_append (before after : List (Instruction Symbol)) (slot : Nat) :
    fetch (before ++ after) (slots before + slot) = fetch after slot := by
  induction before with
  | nil => simp [slots]
  | cons instruction before ih =>
      have positive := slots_pos instruction
      have size : slots (instruction :: before) = instruction.slots + slots before := rfl
      rw [List.cons_append, fetch, if_neg (by omega), if_neg (by omega), size, ← ih]
      congr 1
      omega

/-- A fetched instruction stands at its slot. -/
theorem fetch_placed {program : List (Instruction Symbol)} {slot : Nat} {instruction : Instruction Symbol}
    (fetched : fetch program slot = some instruction) (start : Nat) :
    (start + slot, instruction) ∈ placed start program := by
  induction program generalizing slot start with
  | nil => cases fetched
  | cons first rest ih =>
      rw [fetch] at fetched
      split_ifs at fetched with here inside
      · obtain rfl := Option.some.inj fetched
        rw [here, placed]
        exact List.mem_cons_self
      · have behind := ih fetched (start + first.slots)
        have place : start + first.slots + (slot - first.slots) = start + slot := by omega
        rw [place] at behind
        exact List.mem_cons_of_mem _ behind

theorem fetch_codeAt {program : List (Instruction Symbol)} {slot : Nat} {instruction : Instruction Symbol}
    {rest : List (Instruction Symbol)} (code : CodeAt program slot (instruction :: rest)) :
    fetch program slot = some instruction := by
  obtain ⟨before, after, rfl, rfl⟩ := code
  rw [List.append_assoc, ← Nat.add_zero (slots before), fetch_append]
  rfl

/-- Every slice of a program is a block at its own slot. -/
theorem codeAt_slice (program : List (Instruction Symbol)) (first count : Nat) :
    CodeAt program (slots (program.take first)) ((program.drop first).take count) := by
  refine ⟨program.take first, program.drop (first + count), ?_, rfl⟩
  rw [List.append_assoc, ← List.drop_drop, List.take_append_drop, List.take_append_drop]

theorem CodeAt.head {program : List (Instruction Symbol)} {slot : Nat} {instruction : Instruction Symbol}
    {rest : List (Instruction Symbol)} (code : CodeAt program slot (instruction :: rest)) :
    CodeAt program slot [instruction] := by
  obtain ⟨before, after, rfl, place⟩ := code
  exact ⟨before, rest ++ after, by simp, place⟩

theorem CodeAt.tail {program : List (Instruction Symbol)} {slot : Nat} {instruction : Instruction Symbol}
    {rest : List (Instruction Symbol)} (code : CodeAt program slot (instruction :: rest)) :
    CodeAt program (slot + instruction.slots) rest := by
  obtain ⟨before, after, rfl, rfl⟩ := code
  refine ⟨before ++ [instruction], after, by simp, ?_⟩
  rw [slots_append]
  rfl

variable {world : World Symbol Name Kernel live size} {program : List (Instruction Symbol)}

theorem execution_stop (fuel : Nat) (state : State Name Kernel) :
    execution world program fuel (.exited state) = .exited state := by
  cases fuel <;> rfl

theorem execution_stuck (fuel : Nat) :
    execution world program fuel (.stuck : Outcome Name Kernel) = .stuck := by
  cases fuel <;> rfl

theorem execution_add (first second : Nat) (outcome : Outcome Name Kernel) :
    execution world program (first + second) outcome =
      execution world program second (execution world program first outcome) := by
  induction first generalizing outcome with
  | zero => simp [execution]
  | succ first ih =>
      cases outcome with
      | running slot state => rw [Nat.succ_add_eq_add_succ]; exact ih (step world program slot state)
      | exited state => rw [execution_stop, execution_stop, execution_stop]
      | stuck => rw [execution_stuck, execution_stuck, execution_stuck]

/-- An instruction of a block moves to the next slot. -/
theorem step_effect {slot : Nat} {instruction : Instruction Symbol} {rest : List (Instruction Symbol)}
    {state next : State Name Kernel} (code : CodeAt program slot (instruction :: rest))
    (executed : effect world instruction state = some next) :
    step world program slot state = .running (slot + instruction.slots) next := by
  rw [step, fetch_codeAt code]
  cases instruction with
  | jump offset => cases executed
  | branch condition left right offset => cases executed
  | exit => cases executed
  | _ => simp only [executed]

/-- A helper that answers resumes the program. -/
theorem effect_call {helper : Nat} {state : State Name Kernel} {answer : Return Name Kernel}
    (answered : world.helper helper state = some answer) :
    effect world (.call helper) state = some (world.resume state answer) := by
  rw [effect, answered, Option.map_some]

/-- An instruction with an effect moves to the next slot. -/
theorem step_fetched {slot : Nat} {instruction : Instruction Symbol} {state next : State Name Kernel}
    (fetched : fetch program slot = some instruction)
    (executed : effect world instruction state = some next) :
    step world program slot state = .running (slot + instruction.slots) next := by
  rw [step, fetched]
  cases instruction with
  | jump offset => cases executed
  | branch condition left right offset => cases executed
  | exit => cases executed
  | _ => simp only [executed]

theorem step_jump {slot target : Nat} {offset : Int} {state : State Name Kernel}
    (code : CodeAt program slot [.jump offset]) (lands : (slot : Int) + 1 + offset = target) :
    step world program slot state = .running target state := by
  simp only [step, fetch_codeAt code, goto, lands, Int.natCast_nonneg, if_true, Int.toNat_natCast]

theorem step_taken {slot target : Nat} {condition : Condition} {left : Register} {right : Operand}
    {offset : Int} {state : State Name Kernel}
    (code : CodeAt program slot [.branch condition left right offset])
    (holds : condition.holds (state.registers left) (right.value state) = true)
    (lands : (slot : Int) + 1 + offset = target) :
    step world program slot state = .running target state := by
  simp only [step, fetch_codeAt code, holds, goto, lands, Int.natCast_nonneg, if_true,
    Int.toNat_natCast]

theorem step_fallen {slot : Nat} {condition : Condition} {left : Register} {right : Operand}
    {offset : Int} {state : State Name Kernel}
    (code : CodeAt program slot [.branch condition left right offset])
    (fails : condition.holds (state.registers left) (right.value state) = false) :
    step world program slot state = .running (slot + 1) state := by
  simp only [step, fetch_codeAt code, fails, Bool.false_eq_true, if_false]

theorem step_exit {slot : Nat} {state : State Name Kernel} (code : CodeAt program slot [.exit]) :
    step world program slot state = .exited state := by
  simp only [step, fetch_codeAt code]

/-- A step of a run executes an instruction or moves by one of its distances. -/
theorem step_running {slot target : Nat} {state next : State Name Kernel}
    (moves : step world program slot state = .running target next) :
    ∃ instruction, fetch program slot = some instruction ∧
      (target = slot + instruction.slots ∧ effect world instruction state = some next ∨
        next = state ∧ ∃ distance ∈ instruction.distances, (target : Int) = slot + 1 + distance) := by
  have jumped : ∀ {offset : Int}, goto slot offset state = .running target next →
      next = state ∧ (target : Int) = slot + 1 + offset := by
    intro offset landed
    unfold goto at landed
    split_ifs at landed with behind
    obtain ⟨rfl, rfl⟩ := Outcome.running.inj landed
    exact ⟨rfl, Int.toNat_of_nonneg behind⟩
  unfold step at moves
  split at moves
  · cases moves
  · cases moves
  · next offset fetched =>
      obtain ⟨same, lands⟩ := jumped moves
      exact ⟨_, fetched, Or.inr ⟨same, offset, List.mem_cons_self, lands⟩⟩
  · next condition left right offset fetched =>
      split_ifs at moves
      · obtain ⟨same, lands⟩ := jumped moves
        exact ⟨_, fetched, Or.inr ⟨same, offset, by simp [Instruction.distances], lands⟩⟩
      · obtain ⟨rfl, rfl⟩ := Outcome.running.inj moves
        exact ⟨_, fetched, Or.inr ⟨rfl, 0, by simp [Instruction.distances], by omega⟩⟩
  · next instruction _ _ _ fetched =>
      cases executed : effect world instruction state with
      | none => simp only [executed, reduceCtorEq] at moves
      | some after =>
          simp only [executed] at moves
          obtain ⟨rfl, rfl⟩ := Outcome.running.inj moves
          exact ⟨instruction, fetched, Or.inl ⟨rfl, executed⟩⟩

/-- What every step keeps holds wherever a run comes to. -/
theorem execution_invariant {holds : Nat → State Name Kernel → Prop}
    (kept : ∀ slot state target next, holds slot state →
      step world program slot state = .running target next → holds target next)
    (fuel : Nat) {slot target : Nat} {state next : State Name Kernel} (start : holds slot state)
    (reached : execution world program fuel (.running slot state) = .running target next) :
    holds target next := by
  induction fuel generalizing slot state with
  | zero =>
      obtain ⟨rfl, rfl⟩ := Outcome.running.inj reached
      exact start
  | succ fuel ih =>
      rw [execution] at reached
      cases moves : step world program slot state with
      | running place visited =>
          rw [moves] at reached
          exact ih (kept slot state place visited start moves) reached
      | exited last =>
          rw [moves, execution_stop] at reached
          cases reached
      | stuck =>
          rw [moves, execution_stuck] at reached
          cases reached

/-- Only a call changes the kernel. -/
theorem effect_kernel {instruction : Instruction Symbol} {state next : State Name Kernel}
    (executed : effect world instruction state = some next)
    (silent : ∀ helper, instruction ≠ .call helper) : next.kernel = state.kernel := by
  cases instruction with
  | call helper => exact absurd rfl (silent helper)
  | jump offset => cases executed
  | branch condition left right offset => cases executed
  | exit => cases executed
  | load width target base offset =>
      obtain ⟨place, _, rfl⟩ := Option.map_eq_some_iff.mp executed
      rfl
  | store width base offset source =>
      obtain ⟨place, _, rfl⟩ := Option.map_eq_some_iff.mp executed
      rfl
  | _ =>
      obtain rfl := Option.some.inj executed
      rfl

namespace Reaches

theorem refl (outcome : Outcome Name Kernel) : Reaches world program outcome outcome := ⟨0, by
  cases outcome <;> rfl⟩

theorem trans {first second third : Outcome Name Kernel} (left : Reaches world program first second)
    (right : Reaches world program second third) : Reaches world program first third := by
  obtain ⟨fuel, rfl⟩ := left
  obtain ⟨more, rfl⟩ := right
  exact ⟨fuel + more, execution_add fuel more first⟩

theorem single {slot : Nat} {state : State Name Kernel} {outcome : Outcome Name Kernel}
    (stepped : step world program slot state = outcome) :
    Reaches world program (.running slot state) outcome := ⟨1, by
  subst stepped
  rw [execution]
  cases step world program slot state <;> rfl⟩

theorem effect {slot : Nat} {instruction : Instruction Symbol} {rest : List (Instruction Symbol)}
    {state next : State Name Kernel} (code : CodeAt program slot (instruction :: rest))
    (executed : Library.effect world instruction state = some next) :
    Reaches world program (.running slot state) (.running (slot + instruction.slots) next) :=
  single (step_effect code executed)

/-- A block runs through to the slot behind it. -/
theorem block {slot : Nat} {block : List (Instruction Symbol)} {state next : State Name Kernel}
    (code : CodeAt program slot block) (executed : execute world block state = some next) :
    Reaches world program (.running slot state) (.running (slot + slots block) next) := by
  induction block generalizing slot state with
  | nil =>
      obtain rfl := Option.some.inj executed
      exact refl _
  | cons instruction rest ih =>
      obtain ⟨middle, first, last⟩ := Option.bind_eq_some_iff.mp executed
      have head := effect code first
      have tail := ih code.tail last
      rw [Nat.add_assoc] at tail
      exact head.trans tail

theorem jump {slot target : Nat} {offset : Int} {state : State Name Kernel}
    (code : CodeAt program slot [.jump offset]) (lands : (slot : Int) + 1 + offset = target) :
    Reaches world program (.running slot state) (.running target state) :=
  single (step_jump code lands)

theorem taken {slot target : Nat} {condition : Condition} {left : Register} {right : Operand}
    {offset : Int} {state : State Name Kernel}
    (code : CodeAt program slot [.branch condition left right offset])
    (holds : condition.holds (state.registers left) (right.value state) = true)
    (lands : (slot : Int) + 1 + offset = target) :
    Reaches world program (.running slot state) (.running target state) :=
  single (step_taken code holds lands)

theorem fallen {slot : Nat} {condition : Condition} {left : Register} {right : Operand} {offset : Int}
    {state : State Name Kernel} (code : CodeAt program slot [.branch condition left right offset])
    (fails : condition.holds (state.registers left) (right.value state) = false) :
    Reaches world program (.running slot state) (.running (slot + 1) state) :=
  single (step_fallen code fails)

theorem exit {slot : Nat} {state : State Name Kernel} (code : CodeAt program slot [.exit]) :
    Reaches world program (.running slot state) (.exited state) :=
  single (step_exit code)

/-- A run exits in one state. -/
theorem exited_unique {initial : Outcome Name Kernel} {first second : State Name Kernel}
    (left : Reaches world program initial (.exited first))
    (right : Reaches world program initial (.exited second)) : first = second := by
  obtain ⟨fuel, ran⟩ := left
  obtain ⟨more, again⟩ := right
  have both : execution world program (fuel + more) initial = .exited first := by
    rw [execution_add, ran, execution_stop]
  rw [Nat.add_comm, execution_add, again, execution_stop] at both
  exact (Outcome.exited.inj both).symm

/-- A run that exits was never stuck, so each of its loads has found an object. -/
theorem loads_inside {initial : Outcome Name Kernel} {final : State Name Kernel}
    (exits : Reaches world program initial (.exited final)) : LoadsInside world program initial := by
  intro fuel slot state width target base offset visited fetched
  rcases exits with ⟨total, ran⟩
  have longer : fuel < total := by
    by_contra short
    obtain ⟨rest, rfl⟩ := Nat.exists_eq_add_of_le (Nat.le_of_not_lt short)
    rw [execution_add, ran, execution_stop] at visited
    cases visited
  obtain ⟨rest, rfl⟩ := Nat.exists_eq_add_of_lt longer
  rw [Nat.add_assoc, execution_add, visited, execution, step, fetched] at ran
  cases loaded : Library.effect world (.load width target base offset) state with
  | none =>
      simp only [loaded, execution_stuck] at ran
      cases ran
  | some next =>
      obtain ⟨place, found, _⟩ := Option.map_eq_some_iff.mp loaded
      obtain ⟨name, hit, _⟩ := Option.map_eq_some_iff.mp found
      exact ⟨name, List.mem_of_find?_eq_some hit, List.find?_some hit⟩

end Reaches

/-- The block runs through and leaves a state with the property. -/
def Executes (world : World Symbol Name Kernel live size) (block : List (Instruction Symbol))
    (state : State Name Kernel) (post : State Name Kernel → Prop) : Prop :=
  ∃ next, execute world block state = some next ∧ post next

section Executes

variable {rest : List (Instruction Symbol)} {state : State Name Kernel}
  {post : State Name Kernel → Prop}

theorem executes_nil : Executes world ([] : List (Instruction Symbol)) state post ↔ post state := by
  simp only [Executes, execute, Option.some.injEq, exists_eq_left']

theorem executes_alu {operation : Operation} {target : Register} {operand : Operand} :
    Executes world (.alu operation target operand :: rest) state post ↔
      Executes world rest
        (state.set target (operation.apply (state.registers target) (operand.value state))) post :=
  Iff.rfl

theorem executes_address {target : Register} {symbol : Symbol} {offset : Nat} :
    Executes world (.address target symbol offset :: rest) state post ↔
      Executes world rest (state.set target (world.address symbol + BitVec.ofNat 64 offset)) post :=
  Iff.rfl

theorem executes_wide {target : Register} {value : Word} :
    Executes world (.wide target value :: rest) state post ↔
      Executes world rest (state.set target value) post :=
  Iff.rfl

/-- A load reads the number at the place that its address names. -/
theorem executes_load {width : Width} {target base : Register} {offset : Int} :
    Executes world (.load width target base offset :: rest) state post ↔
      ∃ place, world.layout.locate (state.registers base + immediate offset) width.count = some place ∧
        Executes world rest
          (state.set target (BitVec.ofNat 64 (state.contents.number place width.count))) post := by
  simp only [Executes, execute, effect]
  cases world.layout.locate (state.registers base + immediate offset) width.count <;> simp

/-- A store writes the low bytes of the register to the place that its address names. -/
theorem executes_store {width : Width} {base source : Register} {offset : Int} :
    Executes world (.store width base offset source :: rest) state post ↔
      ∃ place, world.layout.locate (state.registers base + immediate offset) width.count = some place ∧
        Executes world rest
          (state.put place (littleBytes width.count (state.registers source).toNat)) post := by
  simp only [Executes, execute, effect]
  cases world.layout.locate (state.registers base + immediate offset) width.count <;> simp

/-- Behind a call only the result, the memory, the kernel and the saved registers are known. -/
theorem executes_call {helper : Nat} {answer : Return Name Kernel}
    (answered : world.helper helper state = some answer)
    (continues : ∀ next : State Name Kernel, next.registers .r0 = answer.result →
      (∀ register : Register, register.clobbered = false →
        next.registers register = state.registers register) →
      next.contents = answer.contents → next.kernel = answer.kernel → Executes world rest next post) :
    Executes world (.call helper :: rest) state post := by
  have resumed : execute world (.call helper :: rest) state =
      execute world rest (world.resume state answer) := by
    simp only [execute, effect, answered, Option.map_some, Option.bind_some]
  rw [Executes, resumed]
  exact continues (world.resume state answer) rfl
    (fun register saved => world.resume_saved state answer saved) rfl rfl

/-- A block of the program takes the run to the slot behind it. -/
theorem Executes.reaches {slot : Nat} {block : List (Instruction Symbol)}
    (executes : Executes world block state post) (code : CodeAt program slot block) :
    ∃ next, Reaches world program (.running slot state) (.running (slot + slots block) next) ∧
      post next := by
  obtain ⟨next, executed, holds⟩ := executes
  exact ⟨next, Reaches.block code executed, holds⟩

end Executes

end Machine

end EbpfNotes.Library
