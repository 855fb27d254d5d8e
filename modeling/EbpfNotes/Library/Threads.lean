import EbpfNotes.Library.Bytecode
import EbpfNotes.Library.Interleaving

namespace EbpfNotes.Library

/-- The threads share the kernel and the memory besides their own objects. -/
structure Shared (Name Kernel : Type) where
  contents : Contents Name
  kernel : Kernel

inductive Progress where
  | running (slot : Nat) (registers : Register → Word)
  | exited (registers : Register → Word)
  | stuck

/-- A thread has its own registers and its own objects, and its world answers its helper calls. -/
structure Thread (Symbol Name Kernel : Type) (live : List Name) (size : Name → Nat) where
  world : World Symbol Name Kernel live size
  own : Contents Name
  progress : Progress

section Threads

variable {Symbol Name Kernel : Type} {live : List Name} {size : Name → Nat}

/-- A thread sees its own bytes of each owned object and the shared bytes of every other one. -/
def visible (owned : Name → Bool) (own contents : Contents Name) : Contents Name := fun name =>
  if owned name then own name else contents name

/-- The state in which a thread with the given registers takes its next step. -/
def Thread.view (owned : Name → Bool) (thread : Thread Symbol Name Kernel live size)
    (shared : Shared Name Kernel) (registers : Register → Word) : State Name Kernel :=
  ⟨registers, visible owned thread.own shared.contents, shared.kernel⟩

@[simp] theorem Thread.view_registers (owned : Name → Bool)
    (thread : Thread Symbol Name Kernel live size) (shared : Shared Name Kernel)
    (registers : Register → Word) : (thread.view owned shared registers).registers = registers := rfl

@[simp] theorem Thread.view_kernel (owned : Name → Bool)
    (thread : Thread Symbol Name Kernel live size) (shared : Shared Name Kernel)
    (registers : Register → Word) : (thread.view owned shared registers).kernel = shared.kernel := rfl

/-- What the other threads see behind a step. -/
def State.publish (owned : Name → Bool) (shared : Shared Name Kernel) (state : State Name Kernel) :
    Shared Name Kernel :=
  ⟨visible owned shared.contents state.contents, state.kernel⟩

def Thread.resume (thread : Thread Symbol Name Kernel live size) (state : State Name Kernel)
    (progress : Progress) : Thread Symbol Name Kernel live size :=
  { thread with own := state.contents, progress := progress }

theorem visible_shared {owned : Name → Bool} {name : Name} (shared : owned name = false)
    (own contents : Contents Name) : visible owned own contents name = contents name := by
  simp only [visible, shared, Bool.false_eq_true, if_false]

/-- A thread sees the shared bytes of an object that is not its own. -/
theorem Thread.view_contents {owned : Name → Bool} {name : Name} (common : owned name = false)
    (thread : Thread Symbol Name Kernel live size) (shared : Shared Name Kernel)
    (registers : Register → Word) :
    (thread.view owned shared registers).contents name = shared.contents name :=
  visible_shared common _ _

/-- A thread publishes the bytes of an object that is not its own. -/
theorem State.publish_contents {owned : Name → Bool} {name : Name} (common : owned name = false)
    (state : State Name Kernel) (shared : Shared Name Kernel) :
    (state.publish owned shared).contents name = state.contents name :=
  visible_shared common _ _

/-- A thread that leaves the memory alone publishes the old bytes. -/
theorem publish_same {owned : Name → Bool} (thread : Thread Symbol Name Kernel live size)
    {shared : Shared Name Kernel} (registers : Register → Word) {state : State Name Kernel}
    (contents : state.contents = (thread.view owned shared registers).contents) :
    state.publish owned shared = ⟨shared.contents, state.kernel⟩ := by
  have same : visible owned shared.contents state.contents = shared.contents := by
    funext name
    rw [contents]
    cases mine : owned name with
    | true => simp only [visible, mine, if_true]
    | false => simp only [visible, Thread.view, mine, Bool.false_eq_true, if_false]
  rw [State.publish, same]

/-- A thread that leaves the memory and the kernel alone publishes nothing. -/
theorem publish_unchanged {owned : Name → Bool} (thread : Thread Symbol Name Kernel live size)
    {shared : Shared Name Kernel} (registers : Register → Word) {state : State Name Kernel}
    (contents : state.contents = (thread.view owned shared registers).contents)
    (kernel : state.kernel = shared.kernel) : state.publish owned shared = shared := by
  rw [publish_same thread registers contents, kernel]

variable [DecidableEq Name]

/-- Each instruction of a thread is one atomic step. -/
def instructionStep (owned : Name → Bool) (program : List (Instruction Symbol)) :
    Protocol (Shared Name Kernel) (Thread Symbol Name Kernel live size) := fun shared thread =>
  match thread.progress with
  | .running slot registers =>
    match step thread.world program slot (thread.view owned shared registers) with
    | .running next state =>
      some (state.publish owned shared, thread.resume state (.running next state.registers))
    | .exited state => some (state.publish owned shared, thread.resume state (.exited state.registers))
    | .stuck => some (shared, { thread with progress := .stuck })
  | _ => none

variable {owned : Name → Bool} {program : List (Instruction Symbol)}
  {shared after : Shared Name Kernel} {thread next : Thread Symbol Name Kernel live size}

/-- Only a running thread takes a step, and the step is the one of its instruction. -/
theorem instructionStep_cases
    (stepped : instructionStep owned program shared thread = some (after, next)) :
    ∃ slot registers, thread.progress = .running slot registers ∧
      match step thread.world program slot (thread.view owned shared registers) with
      | .running target state => after = state.publish owned shared ∧
          next = thread.resume state (.running target state.registers)
      | .exited state => after = state.publish owned shared ∧
          next = thread.resume state (.exited state.registers)
      | .stuck => after = shared ∧ next = { thread with progress := .stuck } := by
  unfold instructionStep at stepped
  cases going : thread.progress with
  | exited registers => simp only [going, reduceCtorEq] at stepped
  | stuck => simp only [going, reduceCtorEq] at stepped
  | running slot registers =>
      refine ⟨slot, registers, rfl, ?_⟩
      simp only [going] at stepped
      cases moved : step thread.world program slot (thread.view owned shared registers) with
      | running target state =>
          simp only [moved, Option.some.injEq, Prod.mk.injEq] at stepped
          exact ⟨stepped.1.symm, stepped.2.symm⟩
      | exited state =>
          simp only [moved, Option.some.injEq, Prod.mk.injEq] at stepped
          exact ⟨stepped.1.symm, stepped.2.symm⟩
      | stuck =>
          simp only [moved, Option.some.injEq, Prod.mk.injEq] at stepped
          exact ⟨stepped.1.symm, stepped.2.symm⟩

/-- A running thread always takes a step. -/
theorem instructionStep_none (stopped : instructionStep owned program shared thread = none) (slot : Nat)
    (registers : Register → Word) : thread.progress ≠ .running slot registers := by
  intro going
  simp only [instructionStep, going] at stopped
  cases taken : step thread.world program slot (thread.view owned shared registers) <;>
    simp only [taken, reduceCtorEq] at stopped

/-- A step never changes the world of a thread. -/
theorem instructionStep_world
    (stepped : instructionStep owned program shared thread = some (after, next)) :
    next.world = thread.world := by
  obtain ⟨slot, registers, _, moved⟩ := instructionStep_cases stepped
  cases taken : step thread.world program slot (thread.view owned shared registers) with
  | running target state => simp only [taken] at moved; rw [moved.2]; rfl
  | exited state => simp only [taken] at moved; rw [moved.2]; rfl
  | stuck => simp only [taken] at moved; rw [moved.2]

/-- An instruction with an effect moves its thread to the next slot. -/
theorem instructionStep_effect {slot : Nat} {registers : Register → Word}
    {instruction : Instruction Symbol} {state : State Name Kernel}
    (going : thread.progress = .running slot registers) (fetched : fetch program slot = some instruction)
    (executed : effect thread.world instruction (thread.view owned shared registers) = some state)
    (stepped : instructionStep owned program shared thread = some (after, next)) :
    after = state.publish owned shared ∧
      next = thread.resume state (.running (slot + instruction.slots) state.registers) := by
  simp only [instructionStep, going, step_fetched fetched executed, Option.some.injEq,
    Prod.mk.injEq] at stepped
  exact ⟨stepped.1.symm, stepped.2.symm⟩

/-- An exit leaves the shared state alone and keeps the registers. -/
theorem instructionStep_exit {slot : Nat} {registers : Register → Word}
    (going : thread.progress = .running slot registers) (fetched : fetch program slot = some .exit)
    (stepped : instructionStep owned program shared thread = some (after, next)) :
    after = shared ∧ next.world = thread.world ∧ next.progress = .exited registers := by
  simp only [instructionStep, going, step, fetched, Option.some.injEq, Prod.mk.injEq] at stepped
  obtain ⟨rfl, rfl⟩ := stepped
  exact ⟨publish_unchanged thread registers rfl rfl, rfl, rfl⟩

end Threads

end EbpfNotes.Library
