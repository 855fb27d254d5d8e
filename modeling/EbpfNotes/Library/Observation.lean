import EbpfNotes.Library.Bytecode

namespace EbpfNotes.Library

variable {Symbol Name Kernel Seen : Type} {live : List Name} {size : Name → Nat} [DecidableEq Name]

/-- An observer may note one fact about each instruction that a run comes to. -/
abbrev Observer (Name Kernel Seen : Type) := Nat → State Name Kernel → Option Seen

/-- The notes of a run with the given fuel, in their order. -/
def observed (world : World Symbol Name Kernel live size) (program : List (Instruction Symbol))
    (observe : Observer Name Kernel Seen) : Nat → Outcome Name Kernel → List Seen
  | fuel + 1, .running slot state =>
    (observe slot state).toList ++ observed world program observe fuel (step world program slot state)
  | _, _ => []

/-- Enough fuel takes the first outcome to the second one, and the run leaves the notes. -/
def Logs (world : World Symbol Name Kernel live size) (program : List (Instruction Symbol))
    (observe : Observer Name Kernel Seen) (first : Outcome Name Kernel) (log : List Seen)
    (second : Outcome Name Kernel) : Prop :=
  ∃ fuel, execution world program fuel first = second ∧ observed world program observe fuel first = log

/-- The observer notes nothing at the slots from the first one up to the last one. -/
def Silent (observe : Observer Name Kernel Seen) (first last : Nat) : Prop :=
  ∀ slot, first ≤ slot → slot < last → ∀ state, observe slot state = none

variable {world : World Symbol Name Kernel live size} {program : List (Instruction Symbol)}
  {observe : Observer Name Kernel Seen}

theorem observed_stop (fuel : Nat) (state : State Name Kernel) :
    observed world program observe fuel (.exited state) = [] := by
  cases fuel <;> rfl

theorem observed_stuck (fuel : Nat) :
    observed world program observe fuel (.stuck : Outcome Name Kernel) = [] := by
  cases fuel <;> rfl

/-- The notes of one more pass stand behind those of the earlier passes. -/
theorem flatten_replicate_succ (count : Nat) (log : List Seen) :
    (List.replicate (count + 1) log).flatten = (List.replicate count log).flatten ++ log := by
  rw [List.replicate_succ', List.flatten_append, List.flatten_singleton]

/-- The notes of a run are those of its first part and then those of the rest. -/
theorem observed_add (first second : Nat) (outcome : Outcome Name Kernel) :
    observed world program observe (first + second) outcome =
      observed world program observe first outcome ++
        observed world program observe second (execution world program first outcome) := by
  induction first generalizing outcome with
  | zero => simp [observed, execution]
  | succ first ih =>
      cases outcome with
      | running slot state =>
          rw [Nat.succ_add, observed, ih, observed, execution, List.append_assoc]
      | exited state => rw [execution_stop, observed_stop, observed_stop, observed_stop, List.append_nil]
      | stuck => rw [execution_stuck, observed_stuck, observed_stuck, observed_stuck, List.append_nil]

namespace Logs

theorem refl (outcome : Outcome Name Kernel) : Logs world program observe outcome [] outcome := ⟨0, by
  cases outcome <;> exact ⟨rfl, rfl⟩⟩

theorem trans {first second third : Outcome Name Kernel} {front back : List Seen}
    (left : Logs world program observe first front second)
    (right : Logs world program observe second back third) :
    Logs world program observe first (front ++ back) third := by
  obtain ⟨fuel, rfl, rfl⟩ := left
  obtain ⟨more, rfl, rfl⟩ := right
  exact ⟨fuel + more, execution_add fuel more first, observed_add fuel more first⟩

theorem single {slot : Nat} {state : State Name Kernel} {outcome : Outcome Name Kernel}
    (stepped : step world program slot state = outcome) :
    Logs world program observe (.running slot state) (observe slot state).toList outcome := ⟨1, by
  subst stepped
  rw [execution, observed]
  cases step world program slot state <;> exact ⟨rfl, List.append_nil _⟩⟩

/-- A step at a slot with a note leaves it. -/
theorem noted {slot : Nat} {state : State Name Kernel} {outcome : Outcome Name Kernel} {seen : Seen}
    (stepped : step world program slot state = outcome) (notes : observe slot state = some seen) :
    Logs world program observe (.running slot state) [seen] outcome := by
  have whole : Logs world program observe (.running slot state) (observe slot state).toList outcome :=
    single stepped
  rwa [notes] at whole

/-- A step at a slot without a note leaves none. -/
theorem quiet {slot : Nat} {state : State Name Kernel} {outcome : Outcome Name Kernel}
    (stepped : step world program slot state = outcome) (silent : observe slot state = none) :
    Logs world program observe (.running slot state) [] outcome := by
  have whole : Logs world program observe (.running slot state) (observe slot state).toList outcome :=
    single stepped
  rwa [silent] at whole

/-- A block at slots without notes leaves none. -/
theorem block {slot : Nat} {block : List (Instruction Symbol)} {state next : State Name Kernel}
    (code : CodeAt program slot block) (silent : Silent observe slot (slot + slots block))
    (executed : execute world block state = some next) :
    Logs world program observe (.running slot state) [] (.running (slot + slots block) next) := by
  induction block generalizing slot state with
  | nil =>
      obtain rfl := Option.some.inj executed
      exact refl _
  | cons instruction rest ih =>
      obtain ⟨middle, first, last⟩ := Option.bind_eq_some_iff.mp executed
      have size : slots (instruction :: rest) = instruction.slots + slots rest := rfl
      have positive := slots_pos instruction
      rw [size, ← Nat.add_assoc] at silent ⊢
      have head := quiet (step_effect code first) (silent slot le_rfl (by omega) state)
      have tail := ih code.tail (fun later behind before => silent later (by omega) before) last
      exact head.trans tail

/-- A loop body that keeps a property of the finished passes leaves its notes once for each pass. -/
theorem iterate {slot : Nat} {holds : Nat → State Name Kernel → Prop} {log : List Seen} (count : Nat)
    (pass : ∀ index < count, ∀ state, holds index state → ∃ next,
      Logs world program observe (.running slot state) log (.running slot next) ∧ holds (index + 1) next)
    {state : State Name Kernel} (start : holds 0 state) :
    ∃ next, Logs world program observe (.running slot state) (List.replicate count log).flatten
      (.running slot next) ∧ holds count next := by
  induction count with
  | zero => exact ⟨state, refl _, start⟩
  | succ count ih =>
      obtain ⟨middle, front, kept⟩ := ih fun index before => pass index (Nat.lt_succ_of_lt before)
      obtain ⟨next, back, after⟩ := pass count (Nat.lt_succ_self count) middle kept
      rw [flatten_replicate_succ]
      exact ⟨next, front.trans back, after⟩

end Logs

/-- A block without notes takes the run to the slot behind it. -/
theorem Executes.logs {slot : Nat} {block : List (Instruction Symbol)} {state : State Name Kernel}
    {post : State Name Kernel → Prop} (executes : Executes world block state post)
    (code : CodeAt program slot block) (silent : Silent observe slot (slot + slots block)) :
    ∃ next, Logs world program observe (.running slot state) [] (.running (slot + slots block) next) ∧
      post next := by
  obtain ⟨next, executed, holds⟩ := executes
  exact ⟨next, Logs.block code silent executed, holds⟩

end EbpfNotes.Library
