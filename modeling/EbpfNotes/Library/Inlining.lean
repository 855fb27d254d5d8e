import EbpfNotes.Library.Bytecode

namespace EbpfNotes.Library

/-- The pass renames the helpers. A call of the lookup helper becomes a call that returns the address of
an element, and the size of the header is added unless the address is null. -/
structure Inlining where
  lookup : Nat
  element : Nat
  header : Nat
  rename : Nat → Nat

namespace Inlining

variable {Symbol Name Kernel : Type} {live : List Name} {size : Name → Nat} (pass : Inlining)

/-- The slots that the instruction takes behind the pass. -/
def width (instruction : Instruction Symbol) : Nat :=
  match instruction with
  | .call helper => if helper = pass.lookup then 3 else 1
  | instruction => instruction.slots

/-- The slot behind the pass of each slot before it. -/
def moved : List (Instruction Symbol) → Nat → Nat
  | [], slot => slot
  | instruction :: rest, slot =>
    if slot < instruction.slots then slot
    else pass.width instruction + moved rest (slot - instruction.slots)

/-- The offset behind the pass of a jump at the slot. -/
def offset (program : List (Instruction Symbol)) (slot : Nat) (distance : Int) : Int :=
  (pass.moved program ((slot : Int) + 1 + distance).toNat : Int) - pass.moved program slot - 1

/-- The instructions behind the pass of the instruction at the slot. -/
def expand (program : List (Instruction Symbol)) (slot : Nat) (instruction : Instruction Symbol) :
    List (Instruction Symbol) :=
  match instruction with
  | .call helper =>
    if helper = pass.lookup then [
      .call pass.element,
      .branch .eq .r0 (.constant 0) 1,
      .alu .add .r0 (.constant pass.header)]
    else [.call (pass.rename helper)]
  | .jump distance => [.jump (pass.offset program slot distance)]
  | .branch condition left right distance =>
    [.branch condition left right (pass.offset program slot distance)]
  | instruction => [instruction]

def translateFrom (program : List (Instruction Symbol)) : Nat → List (Instruction Symbol) →
    List (Instruction Symbol)
  | _, [] => []
  | slot, instruction :: rest =>
    pass.expand program slot instruction ++ translateFrom program (slot + instruction.slots) rest

def translate (program : List (Instruction Symbol)) : List (Instruction Symbol) :=
  pass.translateFrom program 0 program

/-- The second world answers the renamed helpers alike, and its lookup returns an address in front of the
header. -/
structure Answers (source target : World Symbol Name Kernel live size) : Prop where
  layout : target.layout = source.layout
  address : target.address = source.address
  clobber : target.clobber = source.clobber
  rename : ∀ helper state answer, helper ≠ pass.lookup → source.helper helper state = some answer →
    target.helper (pass.rename helper) state = some answer
  lookup : ∀ state answer, source.helper pass.lookup state = some answer →
    ∃ element, target.helper pass.element state = some { answer with result := element } ∧
      (element = 0 ∧ answer.result = 0 ∨
        element ≠ 0 ∧ answer.result = element + immediate pass.header)

variable {pass} {program : List (Instruction Symbol)}

theorem slots_expand (slot : Nat) (instruction : Instruction Symbol) :
    slots (pass.expand program slot instruction) = pass.width instruction := by
  cases instruction with
  | call helper =>
      simp only [expand, width]
      split_ifs <;> rfl
  | _ => rfl

variable (pass) in
/-- The expansion of each instruction stands at the moved slot. -/
theorem codeAt_translateFrom (program : List (Instruction Symbol)) (slot : Nat) {index : Nat}
    {rest : List (Instruction Symbol)}
    {instruction : Instruction Symbol} (fetched : fetch rest index = some instruction) :
    CodeAt (pass.translateFrom program slot rest) (pass.moved rest index)
      (pass.expand program (slot + index) instruction) := by
  induction rest generalizing slot index with
  | nil => cases fetched
  | cons head tail continues =>
      have positive := slots_pos head
      rw [fetch] at fetched
      by_cases here : index = 0
      · subst here
        rw [if_pos rfl] at fetched
        obtain rfl := Option.some.inj fetched
        refine ⟨[], pass.translateFrom program (slot + head.slots) tail, ?_, ?_⟩
        · rw [translateFrom, Nat.add_zero, List.nil_append]
        · rw [moved, if_pos positive]
          rfl
      · rw [if_neg here] at fetched
        by_cases inside : index < head.slots
        · rw [if_pos inside] at fetched
          cases fetched
        · rw [if_neg inside] at fetched
          obtain ⟨before, after, split, place⟩ :=
            continues (slot + head.slots) fetched
          refine ⟨pass.expand program slot head ++ before, after, ?_, ?_⟩
          · rw [translateFrom, split, show slot + head.slots + (index - head.slots) = slot + index by omega]
            simp only [List.append_assoc]
          · rw [slots_append, slots_expand, place, moved, if_neg inside]

@[simp] theorem moved_zero (rest : List (Instruction Symbol)) : pass.moved rest 0 = 0 := by
  cases rest with
  | nil => rfl
  | cons instruction rest => rw [moved, if_pos (slots_pos instruction)]

variable (pass) in
/-- The slot behind an instruction is moved behind its expansion. -/
theorem moved_next {rest : List (Instruction Symbol)} {index : Nat} {instruction : Instruction Symbol}
    (fetched : fetch rest index = some instruction) :
    pass.moved rest (index + instruction.slots) = pass.moved rest index + pass.width instruction := by
  induction rest generalizing index with
  | nil => cases fetched
  | cons head tail ih =>
      have positive := slots_pos head
      rw [fetch] at fetched
      by_cases here : index = 0
      · subst here
        rw [if_pos rfl] at fetched
        obtain rfl := Option.some.inj fetched
        rw [moved, if_neg (by omega), moved, if_pos positive, Nat.zero_add, Nat.sub_self, moved_zero,
          Nat.add_zero, Nat.zero_add]
      · rw [if_neg here] at fetched
        by_cases inside : index < head.slots
        · rw [if_pos inside] at fetched
          cases fetched
        · rw [if_neg inside] at fetched
          have next := ih fetched
          rw [moved, if_neg (by omega), moved, if_neg inside, Nat.add_assoc, ← next,
            show index + instruction.slots - head.slots = index - head.slots + instruction.slots by omega]

variable (pass) in
theorem codeAt_translate {slot : Nat} {instruction : Instruction Symbol}
    (fetched : fetch program slot = some instruction) :
    CodeAt (pass.translate program) (pass.moved program slot) (pass.expand program slot instruction) := by
  have code := codeAt_translateFrom pass program 0 fetched
  rwa [Nat.zero_add] at code

/-- The pass moves the slot of a running program and keeps everything else. -/
def image (program : List (Instruction Symbol)) : Outcome Name Kernel → Outcome Name Kernel
  | .running slot state => .running (pass.moved program slot) state
  | .exited state => .exited state
  | .stuck => .stuck

theorem image_goto {slot : Nat} {distance : Int} {state : State Name Kernel}
    (runs : goto slot distance state ≠ .stuck) :
    goto (pass.moved program slot) (pass.offset program slot distance) state =
      pass.image program (goto slot distance state) := by
  by_cases forward : 0 ≤ (slot : Int) + 1 + distance
  · have lands : (pass.moved program slot : Int) + 1 + pass.offset program slot distance =
        pass.moved program ((slot : Int) + 1 + distance).toNat := by
      rw [offset]
      omega
    simp only [goto, lands, if_pos forward, Int.natCast_nonneg, if_true, Int.toNat_natCast, image]
  · exact absurd (if_neg forward) runs

section Run

variable [DecidableEq Name] {source target : World Symbol Name Kernel live size}

/-- Every other instruction has the same effect in both worlds. -/
theorem Answers.effect (answers : pass.Answers source target) {instruction : Instruction Symbol}
    {state next : State Name Kernel} (executed : effect source instruction state = some next)
    (other : ∀ helper, instruction ≠ .call helper) : Library.effect target instruction state = some next := by
  cases instruction with
  | call helper => exact absurd rfl (other helper)
  | address register symbol distance => simpa only [Library.effect, answers.address] using executed
  | load width register base distance => simpa only [Library.effect, answers.layout] using executed
  | store width base distance register => simpa only [Library.effect, answers.layout] using executed
  | _ => exact executed

/-- A renamed helper resumes the program alike. -/
theorem Answers.resume (answers : pass.Answers source target) {helper : Nat} {state : State Name Kernel}
    {answer : Return Name Kernel} (other : helper ≠ pass.lookup)
    (answered : source.helper helper state = some answer) :
    Library.effect target (.call (pass.rename helper)) state = some (source.resume state answer) := by
  rw [effect_call (answers.rename helper state answer other answered)]
  simp only [World.resume, answers.clobber]

/-- The three instructions leave the address of the value where the lookup leaves it. -/
theorem Answers.inlined (answers : pass.Answers source target) {slot : Nat} {state : State Name Kernel}
    {answer : Return Name Kernel} (answered : source.helper pass.lookup state = some answer)
    (code : CodeAt program slot [
      .call pass.element,
      .branch .eq .r0 (.constant 0) 1,
      .alu .add .r0 (.constant pass.header)]) :
    Reaches target program (.running slot state) (.running (slot + 3) (source.resume state answer)) := by
  obtain ⟨element, returned, shape⟩ := answers.lookup state answer answered
  have called := Reaches.effect code (effect_call returned)
  apply called.trans
  have second := code.tail
  rcases shape with ⟨null, zero⟩ | ⟨found, sum⟩
  · have same : target.resume state { answer with result := element } = source.resume state answer := by
      simp only [World.resume, answers.clobber, null, zero]
    rw [same]
    apply Reaches.taken (second.head)
    · exact Condition.eq_holds zero
    · simp only [Instruction.slots]
      omega
  · apply (Reaches.fallen (second.head) (Condition.eq_fails found)).trans
    apply Reaches.effect second.tail
    rw [Library.effect]
    congr 1
    rw [State.set, World.resume, World.resume]
    congr 1
    funext register
    by_cases result : register = .r0
    · simp only [result, if_true, Operation.apply, Operand.value, sum]
    · simp only [if_neg result, answers.clobber]

variable (pass) in
/-- An instruction that is no call stays as it is. -/
theorem expand_plain (program : List (Instruction Symbol)) (slot : Nat)
    {instruction : Instruction Symbol} {state next : State Name Kernel}
    (executed : effect source instruction state = some next)
    (other : ∀ helper, instruction ≠ .call helper) :
    pass.expand program slot instruction = [instruction] ∧ pass.width instruction = instruction.slots := by
  cases instruction with
  | call helper => exact absurd rfl (other helper)
  | jump distance => cases executed
  | branch condition left right distance => cases executed
  | exit => cases executed
  | _ => exact ⟨rfl, rfl⟩

/-- An instruction with an effect is a run of its expansion. -/
theorem Answers.expansion (answers : pass.Answers source target) {slot : Nat}
    {instruction : Instruction Symbol} {state next : State Name Kernel}
    (fetched : fetch program slot = some instruction)
    (executed : Library.effect source instruction state = some next) :
    Reaches target (pass.translate program) (.running (pass.moved program slot) state)
      (.running (pass.moved program (slot + instruction.slots)) next) := by
  have code := codeAt_translate pass fetched
  rw [moved_next pass fetched]
  by_cases call : ∃ helper, instruction = .call helper
  · obtain ⟨helper, rfl⟩ := call
    obtain ⟨answer, answered, rfl⟩ := Option.map_eq_some_iff.mp executed
    by_cases lookup : helper = pass.lookup
    · subst lookup
      simp only [expand, width, if_true] at code ⊢
      exact answers.inlined answered code
    · simp only [expand, width, if_neg lookup] at code ⊢
      exact Reaches.effect code (answers.resume lookup answered)
  · have other : ∀ helper, instruction ≠ .call helper := fun helper same => call ⟨helper, same⟩
    obtain ⟨single, width⟩ := expand_plain pass program slot executed other
    rw [single] at code
    rw [width]
    exact Reaches.effect code (answers.effect executed other)

/-- Every step of the program is a run of its translation. -/
theorem Answers.step (answers : pass.Answers source target) {slot : Nat} {state : State Name Kernel}
    (runs : step source program slot state ≠ .stuck) :
    Reaches target (pass.translate program) (.running (pass.moved program slot) state)
      (pass.image program (Library.step source program slot state)) := by
  cases fetched : fetch program slot with
  | none => exact absurd (by rw [Library.step, fetched]) runs
  | some instruction =>
      have code := codeAt_translate pass fetched
      have next := moved_next pass fetched
      cases executed : Library.effect source instruction state with
      | some after =>
          rw [step_fetched fetched executed]
          exact answers.expansion fetched executed
      | none =>
          apply Reaches.single
          cases instruction with
          | exit => simp only [Library.step, fetched, fetch_codeAt code, image]
          | jump distance =>
              simp only [Library.step, fetched, fetch_codeAt code] at runs ⊢
              exact image_goto runs
          | branch condition left right distance =>
              simp only [Library.step, fetched, fetch_codeAt code] at runs ⊢
              split_ifs at runs ⊢
              · exact image_goto runs
              · exact congrArg (fun slot => Outcome.running slot state) next.symm
          | _ => exact absurd (by simp only [Library.step, fetched, executed]) runs

/-- Every run of the program is a run of its translation. -/
theorem Answers.execution (answers : pass.Answers source target) {fuel : Nat}
    {first : Outcome Name Kernel} (runs : execution source program fuel first ≠ .stuck) :
    Reaches target (pass.translate program) (pass.image program first)
      (pass.image program (Library.execution source program fuel first)) := by
  induction fuel generalizing first with
  | zero => exact Reaches.refl _
  | succ fuel continues =>
      cases first with
      | exited state => exact Reaches.refl _
      | stuck => exact Reaches.refl _
      | running slot state =>
          rw [Library.execution] at runs ⊢
          have moves : Library.step source program slot state ≠ .stuck := by
            intro stuck
            rw [stuck, execution_stuck] at runs
            exact runs rfl
          exact (answers.step moves).trans (continues runs)

/-- The translation of a program that exits also exits, with the same registers, memory and kernel. -/
theorem Answers.exits (answers : pass.Answers source target) {initial final : State Name Kernel}
    (exits : Reaches source program (.running 0 initial) (.exited final)) :
    Reaches target (pass.translate program) (.running 0 initial) (.exited final) := by
  obtain ⟨fuel, ran⟩ := exits
  have runs : Library.execution source program fuel (.running 0 initial) ≠ .stuck := by
    rw [ran]
    intro stuck
    cases stuck
  have translated := answers.execution runs
  rwa [ran, image, image, moved_zero] at translated

end Run

end Inlining

end EbpfNotes.Library
