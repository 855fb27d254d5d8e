import EbpfNotes.Library.X86

namespace EbpfNotes.Library.X86

/-- The frame of a compiled program lies below the limit on the stack, and the saved registers lie below
the frame. -/
structure Frame (Name : Type) where
  stack : Name
  limit : Nat
  depth : Nat
  saved : List Register

namespace Frame

variable {Name : Type} (frame : Frame Name)

/-- The instructions that set up the frame. -/
def prologue : List Instruction :=
  [.nop, .nop, .pushq .rbp, .movq .rsp .rbp] ++
    (if frame.depth = 0 then [] else [.subq frame.depth .rsp]) ++ frame.saved.map .pushq

/-- The instructions in front of the return. -/
def epilogue : List Instruction :=
  frame.saved.reverse.map .popq ++ [.leave]

/-- The end of the saved registers. -/
def top : Nat := frame.limit - frame.depth - 8 * frame.saved.length

/-- The program keeps these registers of its caller. -/
def quiet (register : Register) : Bool := register.preserved && !frame.saved.contains register

theorem quiet_saved {frame : Frame Name} {register : Register} (quiet : frame.quiet register = true) :
    register ∉ frame.saved := by
  simp only [Frame.quiet, Bool.and_eq_true, Bool.not_eq_true', List.contains_eq_mem,
    decide_eq_false_iff_not] at quiet
  exact quiet.2

end Frame

section Stack

variable {Name Kernel : Type} {live : List Name} {size : Name → Nat} [DecidableEq Name]
  {processor : Processor Name Kernel live size} {listing : Listing}

/-- The registers stand one below another on the stack, the first one below the offset. -/
def Saved (stack : Name) (registers : Register → Word) (contents : Contents Name) :
    List Register → Nat → Prop
  | [], _ => True
  | register :: rest, offset =>
    BitVec.ofNat 64 (contents.number (stack, offset - 8) 8) = registers register ∧
      Saved stack registers contents rest (offset - 8)

/-- The bytes of the stack between two offsets. -/
def Between (stack : Name) (low high : Nat) (name : Name) (index : Nat) : Prop :=
  name = stack ∧ low ≤ index ∧ index < high

variable {stack : Name} {offset : Nat}

omit [DecidableEq Name] in
theorem Saved.agree {registers : Register → Word} {first second : Contents Name} {saved : List Register}
    (stored : Saved stack registers second saved offset) (room : 8 * saved.length ≤ offset)
    (agree : Contents.AgreeOn (Between stack (offset - 8 * saved.length) offset) first second) :
    Saved stack registers first saved offset := by
  induction saved generalizing offset with
  | nil => trivial
  | cons register saved continues =>
      rw [List.length_cons] at room agree
      obtain ⟨here, rest⟩ := stored
      constructor
      · rw [← here, agree.number_eq]
        intro index small
        exact ⟨rfl, by omega, by omega⟩
      · apply continues rest (by omega)
        intro name index between
        exact agree name index ⟨between.1, by have := between.2; omega, by have := between.2; omega⟩

omit [DecidableEq Name] in
theorem Saved.congr {first second : Register → Word} {contents : Contents Name} {saved : List Register}
    (stored : Saved stack first contents saved offset)
    (same : ∀ register ∈ saved, second register = first register) :
    Saved stack second contents saved offset := by
  induction saved generalizing offset with
  | nil => trivial
  | cons register saved continues =>
      refine ⟨stored.1.trans (same register List.mem_cons_self).symm, continues stored.2 ?_⟩
      intro other member
      exact same other (List.mem_cons_of_mem _ member)

/-- A push stores the word below the top of the stack. -/
theorem push_pointer {state : State Name Kernel} (live : stack ∈ live) (room : 8 ≤ offset)
    (within : offset ≤ size stack)
    (pointer : state.registers .rsp = processor.layout.pointer stack offset) (word : Word) :
    ∃ pushed, state.push processor.layout word = some pushed ∧
      pushed.registers .rsp = processor.layout.pointer stack (offset - 8) ∧
      (∀ register, register ≠ .rsp → pushed.registers register = state.registers register) ∧
      pushed.contents = state.contents.write stack (offset - 8) (littleBytes 8 word.toNat) ∧
      pushed.kernel = state.kernel := by
  have below : state.registers .rsp + immediate (-8) = processor.layout.pointer stack (offset - 8) := by
    rw [pointer]
    exact processor.layout.pointer_immediate stack (by omega)
  have place := processor.layout.locate_pointer live (by decide : 0 < 8)
    (by omega : offset - 8 + 8 ≤ size stack)
  refine ⟨(state.put (stack, offset - 8) (littleBytes 8 word.toNat)).set .rsp
    (processor.layout.pointer stack (offset - 8)), ?_, State.set_same _ _ _, ?_, rfl, rfl⟩
  · simp only [State.push, below, place, Option.map_some]
  · intro register other
    exact State.set_other _ _ other

variable (processor) in
omit [DecidableEq Name] in
/-- A pop loads the word on the top of the stack. -/
theorem pop_pointer {state : State Name Kernel} (live : stack ∈ live) (within : offset + 8 ≤ size stack)
    (pointer : state.registers .rsp = processor.layout.pointer stack offset) :
    state.pop processor.layout =
      some (BitVec.ofNat 64 (state.contents.number (stack, offset) 8),
        state.set .rsp (processor.layout.pointer stack (offset + 8))) := by
  have above : processor.layout.pointer stack offset + immediate 8 =
      processor.layout.pointer stack (offset + 8) :=
    processor.layout.pointer_immediate stack (by omega)
  have place := processor.layout.locate_pointer live (by decide : 0 < 8) within
  simp only [State.pop, pointer, place, Option.map_some, above]

/-- The pushed registers stand below the offset, and nothing else has changed. -/
theorem pushes_run {saved : List Register} (live : stack ∈ live) (room : 8 * saved.length ≤ offset)
    (within : offset ≤ size stack) (apart : Register.rsp ∉ saved) {state : State Name Kernel}
    (pointer : state.registers .rsp = processor.layout.pointer stack offset) {address last : Nat}
    (held : follow listing address (saved.map .pushq) = some last) :
    ∃ after, Runs processor listing (address, state) (last, after) ∧
      after.registers .rsp = processor.layout.pointer stack (offset - 8 * saved.length) ∧
      (∀ register, register ≠ .rsp → after.registers register = state.registers register) ∧
      after.kernel = state.kernel ∧
      Saved stack state.registers after.contents saved offset ∧
      Contents.AgreeOn (fun name index => ¬ Between stack (offset - 8 * saved.length) offset name index)
        after.contents state.contents := by
  induction saved generalizing address offset state with
  | nil =>
      obtain rfl := Option.some.inj held
      exact ⟨state, Relation.ReflTransGen.refl, pointer, fun _ _ => rfl, rfl, trivial, fun _ _ _ => rfl⟩
  | cons register saved continues =>
      rw [List.length_cons] at room ⊢
      rw [List.mem_cons, not_or] at apart
      obtain ⟨next, decoded, rest⟩ := follow_cons held
      obtain ⟨pushed, push, moved, kept, written, same⟩ :=
        push_pointer live (by omega) within pointer (state.registers register)
      obtain ⟨after, ran, top, registers, kernel, stored, agree⟩ :=
        continues (by omega) (by omega) apart.2 moved rest
      have lower : offset - 8 - 8 * saved.length = offset - 8 * (saved.length + 1) := by omega
      refine ⟨after, (Runs.effect decoded push).trans ran, ?_, ?_, ?_, ⟨?_, ?_⟩, ?_⟩
      · rw [top, lower]
      · intro other different
        rw [registers other different, kept other different]
      · rw [kernel, same]
      · rw [agree.number_eq, written]
        · exact Contents.word_eq (Contents.read_store _ _ _ _ _)
        · intro index small between
          have := between.2
          omega
      · apply stored.congr
        intro other member
        exact (kept other (fun same => apart.2 (same ▸ member))).symm
      · intro name index outside
        have elsewhere : ¬ Between stack (offset - 8 - 8 * saved.length) (offset - 8) name index := by
          intro between
          exact outside ⟨between.1, by have := between.2; omega, by have := between.2; omega⟩
        rw [agree name index elsewhere, written, Contents.write, if_neg]
        intro hit
        rw [littleBytes_length] at hit
        exact outside ⟨hit.1, by have := hit.2; omega, by have := hit.2; omega⟩

/-- The popped registers have their saved words again, and nothing else has changed. -/
theorem pops_run {saved : List Register} (live : stack ∈ live) (room : 8 * saved.length ≤ offset)
    (within : offset ≤ size stack) (apart : Register.rsp ∉ saved) {registers : Register → Word}
    {state : State Name Kernel} (stored : Saved stack registers state.contents saved offset)
    (pointer : state.registers .rsp = processor.layout.pointer stack (offset - 8 * saved.length))
    {address last : Nat} (held : follow listing address (saved.reverse.map .popq) = some last) :
    ∃ after, Runs processor listing (address, state) (last, after) ∧
      after.registers .rsp = processor.layout.pointer stack offset ∧
      (∀ register ∈ saved, after.registers register = registers register) ∧
      (∀ register, register ∉ saved → register ≠ .rsp →
        after.registers register = state.registers register) ∧
      after.contents = state.contents ∧ after.kernel = state.kernel := by
  induction saved generalizing last offset with
  | nil =>
      obtain rfl := Option.some.inj held
      refine ⟨state, Relation.ReflTransGen.refl, pointer, ?_, fun _ _ _ => rfl, rfl, rfl⟩
      intro register member
      cases member
  | cons register saved continues =>
      rw [List.length_cons] at room pointer
      rw [List.mem_cons, not_or] at apart
      rw [List.reverse_cons, List.map_append] at held
      obtain ⟨middle, front, back⟩ := follow_append held
      have lower : offset - 8 * (saved.length + 1) = offset - 8 - 8 * saved.length := by omega
      rw [lower] at pointer
      obtain ⟨before, ran, top, restored, kept, contents, kernel⟩ :=
        continues (by omega) (by omega) apart.2 stored.2 pointer front
      have popped := pop_pointer processor live (by omega : offset - 8 + 8 ≤ size stack) top
      rw [contents, stored.1, Nat.sub_add_cancel (by omega : 8 ≤ offset)] at popped
      refine ⟨(before.set .rsp (processor.layout.pointer stack offset)).set register
        (registers register), ran.trans (Runs.one back ?_), ?_, ?_, ?_, contents, kernel⟩
      · simp only [effect, popped, Option.map_some]
      · rw [State.set_other _ _ apart.1, State.set_same]
      · intro other member
        by_cases same : other = register
        · rw [same, State.set_same]
        · have inside := (List.mem_cons.mp member).resolve_left same
          rw [State.set_other _ _ same, State.set_other _ _ (fun top : other = .rsp => apart.2 (top ▸ inside)),
            restored other inside]
      · intro other outside top
        rw [List.mem_cons, not_or] at outside
        rw [State.set_other _ _ outside.1, State.set_other _ _ top, kept other outside.2 top]

/-- The registers and the memory behind the prologue: the frame pointer is set, the saved registers and
the frame pointer of the caller are on the stack, and nothing above them has changed. -/
structure Entered (processor : Processor Name Kernel live size) (frame : Frame Name)
    (initial entry : State Name Kernel) : Prop where
  top : entry.registers .rsp = processor.layout.pointer frame.stack frame.top
  base : entry.registers .rbp = processor.layout.pointer frame.stack frame.limit
  registers : ∀ register, register ≠ .rsp → register ≠ .rbp →
    entry.registers register = initial.registers register
  kernel : entry.kernel = initial.kernel
  saved : Saved frame.stack initial.registers entry.contents frame.saved (frame.limit - frame.depth)
  caller : BitVec.ofNat 64 (entry.contents.number (frame.stack, frame.limit) 8) = initial.registers .rbp
  contents : Contents.AgreeOn
    (fun name index => ¬ Between frame.stack frame.top (frame.limit - frame.depth) name index ∧
      ¬ Between frame.stack frame.limit (frame.limit + 8) name index)
    entry.contents initial.contents

/-- The stack pointer is moved below the frame unless the frame is empty. -/
theorem lower_run {frame : Frame Name} {state : State Name Kernel} (room : frame.depth ≤ frame.limit)
    (pointer : state.registers .rsp = processor.layout.pointer frame.stack frame.limit)
    {address last : Nat}
    (held : follow listing address (if frame.depth = 0 then [] else [.subq frame.depth .rsp]) = some last) :
    ∃ after, Runs processor listing (address, state) (last, after) ∧
      after.registers .rsp = processor.layout.pointer frame.stack (frame.limit - frame.depth) ∧
      (∀ register, register ≠ .rsp → after.registers register = state.registers register) ∧
      after.contents = state.contents ∧ after.kernel = state.kernel := by
  by_cases empty : frame.depth = 0
  · rw [if_pos empty] at held
    obtain rfl := Option.some.inj held
    refine ⟨state, Relation.ReflTransGen.refl, ?_, fun _ _ => rfl, rfl, rfl⟩
    rw [pointer, empty, Nat.sub_zero]
  · rw [if_neg empty] at held
    have lower : processor.layout.pointer frame.stack frame.limit - immediate frame.depth =
        processor.layout.pointer frame.stack (frame.limit - frame.depth) := by
      apply BitVec.sub_eq_iff_eq_add.mpr
      exact (processor.layout.pointer_immediate frame.stack (by omega)).symm
    refine ⟨state.compute .rsp (processor.layout.pointer frame.stack (frame.limit - frame.depth)),
      Runs.one held ?_, State.set_same state .rsp _, ?_, rfl, rfl⟩
    · rw [effect, pointer, lower]
    · intro register other
      exact State.set_other state _ other

theorem prologue_run {frame : Frame Name} (live : frame.stack ∈ live)
    (room : frame.depth + 8 * frame.saved.length ≤ frame.limit)
    (within : size frame.stack = frame.limit + 16) (apart : Register.rsp ∉ frame.saved)
    (base : Register.rbp ∉ frame.saved) {initial : State Name Kernel}
    (pointer : initial.registers .rsp = processor.layout.pointer frame.stack (frame.limit + 8))
    {last : Nat} (held : follow listing 0 frame.prologue = some last) :
    ∃ entry, Runs processor listing (0, initial) (last, entry) ∧
      Entered processor frame initial entry := by
  obtain ⟨lowered, start, pushing⟩ := follow_append held
  obtain ⟨set, first, lowering⟩ := follow_append start
  obtain ⟨one, nop, first⟩ := follow_cons first
  obtain ⟨two, again, first⟩ := follow_cons first
  obtain ⟨three, pushed, first⟩ := follow_cons first
  have moved := follow_one first
  obtain ⟨saved, push, top, kept, written, kernel⟩ :=
    push_pointer live (by omega) (by omega) pointer (initial.registers .rbp)
  rw [Nat.add_sub_cancel] at top written
  have framed : Runs processor listing (0, initial) (set, saved.set .rbp (saved.registers .rsp)) :=
    ((Runs.effect nop rfl).trans (Runs.effect again rfl)).trans
      ((Runs.effect pushed push).trans (Runs.effect moved rfl))
  have still : (saved.set .rbp (saved.registers .rsp)).registers .rsp =
      processor.layout.pointer frame.stack frame.limit :=
    (State.set_other _ _ (by decide)).trans top
  obtain ⟨below, lowers, bottom, others, same, sameKernel⟩ := lower_run (by omega) still lowering
  obtain ⟨entry, pushes, lowest, registers, last, stored, agree⟩ :=
    pushes_run live (by omega) (by omega) apart bottom pushing
  have passed : ∀ register, register ≠ .rsp → register ≠ .rbp →
      below.registers register = initial.registers register := by
    intro register notTop notBase
    rw [others register notTop, State.set_other _ _ notBase, kept register notTop]
  have memory : below.contents =
      initial.contents.write frame.stack frame.limit (littleBytes 8 (initial.registers .rbp).toNat) :=
    same.trans written
  refine ⟨entry, framed.trans (lowers.trans pushes), ⟨lowest, ?_, ?_, ?_, ?_, ?_, ?_⟩⟩
  · rw [registers .rbp (by decide), others .rbp (by decide), State.set_same, top]
  · intro register notTop notBase
    rw [registers register notTop, passed register notTop notBase]
  · exact last.trans (sameKernel.trans kernel)
  · apply stored.congr
    intro register member
    exact (passed register (fun hit => apart (hit ▸ member)) (fun hit => base (hit ▸ member))).symm
  · rw [agree.number_eq, memory]
    · exact Contents.word_eq (Contents.read_store _ _ _ _ _)
    · intro index small between
      have := between.2
      omega
  · intro name index outside
    rw [agree name index outside.1, memory, Contents.write, if_neg]
    intro hit
    rw [littleBytes_length] at hit
    exact outside.2 hit

/-- The state in front of the return: the caller has its registers back. -/
structure Left (processor : Processor Name Kernel live size) (frame : Frame Name)
    (initial state left : State Name Kernel) : Prop where
  top : left.registers .rsp = processor.layout.pointer frame.stack (frame.limit + 8)
  base : left.registers .rbp = initial.registers .rbp
  saved : ∀ register ∈ frame.saved, left.registers register = initial.registers register
  registers : ∀ register, register ∉ frame.saved → register ≠ .rsp → register ≠ .rbp →
    left.registers register = state.registers register
  contents : left.contents = state.contents
  kernel : left.kernel = state.kernel

theorem epilogue_run {frame : Frame Name} (live : frame.stack ∈ live)
    (room : frame.depth + 8 * frame.saved.length ≤ frame.limit)
    (within : size frame.stack = frame.limit + 16) (apart : Register.rsp ∉ frame.saved)
    (base : Register.rbp ∉ frame.saved) {initial state : State Name Kernel}
    (top : state.registers .rsp = processor.layout.pointer frame.stack frame.top)
    (bottom : state.registers .rbp = processor.layout.pointer frame.stack frame.limit)
    (stored : Saved frame.stack initial.registers state.contents frame.saved (frame.limit - frame.depth))
    (caller : BitVec.ofNat 64 (state.contents.number (frame.stack, frame.limit) 8) =
      initial.registers .rbp)
    {address last : Nat} (held : follow listing address frame.epilogue = some last) :
    ∃ left, Runs processor listing (address, state) (last, left) ∧
      Left processor frame initial state left := by
  obtain ⟨middle, popping, leaving⟩ := follow_append held
  obtain ⟨popped, ran, _, restored, kept, contents, kernel⟩ :=
    pops_run live (by omega) (by omega) apart stored top popping
  have pointer : (popped.set .rsp (popped.registers .rbp)).registers .rsp =
      processor.layout.pointer frame.stack frame.limit := by
    rw [State.set_same, kept .rbp base (by decide), bottom]
  have pop := pop_pointer processor live (by omega) pointer
  refine ⟨((popped.set .rsp (popped.registers .rbp)).set .rsp
    (processor.layout.pointer frame.stack (frame.limit + 8))).set .rbp (initial.registers .rbp),
    ran.trans (Runs.one leaving ?_), ⟨?_, State.set_same _ _ _, ?_, ?_, contents, kernel⟩⟩
  · have word : BitVec.ofNat 64 ((popped.set .rsp (popped.registers .rbp)).contents.number
        (frame.stack, frame.limit) 8) = initial.registers .rbp := by
      rw [← caller, ← contents]
      rfl
    rw [word] at pop
    simp only [X86.effect, pop, Option.map_some]
  · rw [State.set_other _ _ (by decide), State.set_same]
  · intro register member
    have notTop : register ≠ .rsp := fun hit => apart (hit ▸ member)
    have notBase : register ≠ .rbp := fun hit => base (hit ▸ member)
    rw [State.set_other _ _ notBase, State.set_other _ _ notTop, State.set_other _ _ notTop,
      restored register member]
  · intro register outside notTop notBase
    rw [State.set_other _ _ notBase, State.set_other _ _ notTop, State.set_other _ _ notTop,
      kept register outside notTop]

/-- Both returns take the return address from the top of the stack. -/
theorem finishes_returns {finish offset : Nat} {stack : Name} {state : State Name Kernel} (live : stack ∈ live)
    (within : offset + 8 ≤ size stack)
    (pointer : state.registers .rsp = processor.layout.pointer stack offset)
    (finishes : finishes processor.thunk listing finish = true) :
    step processor listing finish state =
      .returned (BitVec.ofNat 64 (state.contents.number (stack, offset) 8))
        (state.set .rsp (processor.layout.pointer stack (offset + 8))) := by
  have pop := pop_pointer processor live within pointer
  have leaves : state.leave processor.layout =
      .returned (BitVec.ofNat 64 (state.contents.number (stack, offset) 8))
        (state.set .rsp (processor.layout.pointer stack (offset + 8))) := by
    rw [State.leave, pop]
  unfold X86.finishes at finishes
  split at finishes
  · rename_i next decoded
    rw [step, decoded]
    exact leaves
  · rename_i target next decoded
    obtain rfl := beq_iff_eq.mp finishes
    rw [step, decoded]
    exact (if_pos rfl).trans leaves
  · cases finishes

end Stack

end EbpfNotes.Library.X86
