import EbpfNotes.Construction.PacketCountBytecode
import EbpfNotes.Library.Refinement
import EbpfNotes.Proof.PacketCount.Undercount

namespace EbpfNotes.PacketCount

open Library

/-- The slot of an instruction and the registers that the rest of the program reads fit to the phase of
the source. -/
inductive Aligned (environment : Environment) (result : Int) : Progress → Phase → Prop
  | entry (registers : Register → Word) : Aligned environment result (.running 0 registers) .start
  | addressed (registers : Register → Word)
      (counter : registers .r6 = environment.layout.pointer .counter 0) :
      Aligned environment result (.running 2 registers) .start
  | loaded (registers : Register → Word)
      (counter : registers .r6 = environment.layout.pointer .counter 0) :
      Aligned environment result (.running 3 registers) .printed
  | formatted (registers : Register → Word)
      (counter : registers .r6 = environment.layout.pointer .counter 0)
      (format : registers .r1 = environment.layout.pointer .rodata 0) :
      Aligned environment result (.running 5 registers) .printed
  | sized (registers : Register → Word)
      (counter : registers .r6 = environment.layout.pointer .counter 0)
      (format : registers .r1 = environment.layout.pointer .rodata 0)
      (three : registers .r2 = immediate 3) :
      Aligned environment result (.running 6 registers) .printed
  | traced (registers : Register → Word)
      (counter : registers .r6 = environment.layout.pointer .counter 0) :
      Aligned environment result (.running 7 registers) .printed
  | counted (registers : Register → Word) (value : BitVec 32)
      (counter : registers .r6 = environment.layout.pointer .counter 0)
      (read : registers .r1 = BitVec.ofNat 64 value.toNat) :
      Aligned environment result (.running 8 registers) (.loaded value)
  | incremented (registers : Register → Word) (value : BitVec 32)
      (counter : registers .r6 = environment.layout.pointer .counter 0)
      (sum : registers .r1 = BitVec.ofNat 64 value.toNat + immediate 1) :
      Aligned environment result (.running 9 registers) (.loaded value)
  | written (registers : Register → Word) :
      Aligned environment result (.running 10 registers) (.done (some (BitVec.ofInt 32 result)))
  | returned (registers : Register → Word) (verdict : registers .r0 = immediate result) :
      Aligned environment result (.running 11 registers) (.done (some (BitVec.ofInt 32 result)))
  | exited (registers : Register → Word) (verdict : registers .r0 = immediate result) :
      Aligned environment result (.exited registers) (.done (some (BitVec.ofInt 32 result)))

/-- The memory shows the counter, and every line that was sent has the format of the program. -/
structure Shows (shared : Shared Name (List Printk)) (counter : BitVec 32) : Prop where
  counter : shared.contents.read .counter 0 4 = littleBytes 4 counter.toNat
  format : shared.contents.read .rodata 0 3 = literal "%d"
  lines : ∀ line ∈ shared.kernel, line.format = literal "%d"

def sentValues (shared : Shared Name (List Printk)) : List Int := shared.kernel.map Printk.decimal

def notedValues (invocation : Invocation) : List Int := invocation.lines.map Printk.decimal

/-- A thread runs in some environment and fits to its invocation. -/
def Follows (tracePrintk : Nat) (result : Int) (thread : PacketThread) (invocation : Invocation) : Prop :=
  ∃ environment : Environment, thread.world = environment.world tracePrintk ∧
    Aligned environment result thread.progress invocation.phase

/-- The number of the instructions that a thread still executes. -/
def instructionsLeft (thread : PacketThread) : Nat :=
  match thread.progress with
  | .running slot _ => [11, 10, 9, 8, 7, 6, 5, 3, 2, 0].idxOf slot + 1
  | _ => 0

/-- No number waits to be sent, and a thread with a verdict has exited. -/
def Settled (thread : PacketThread) : Prop :=
  match thread.progress with
  | .running slot _ => slot ∉ [3, 5, 6, 10, 11]
  | _ => True

/-- A step of a thread that the source does not take. -/
def Follows.Silent (tracePrintk : Nat) (result : Int) (shared after : Shared Name (List Printk))
    (thread next : PacketThread) (counter : BitVec 32) (invocation : Invocation) : Prop :=
  Shows after counter ∧ Follows tracePrintk result next invocation ∧
    (sentValues after ++ pendingValues next).Perm (sentValues shared ++ pendingValues thread) ∧
    instructionsLeft next < instructionsLeft thread

/-- What a step of a thread does is a step of the source or none. -/
def Follows.Moves (tracePrintk : Nat) (result : Int) (shared after : Shared Name (List Printk))
    (thread next : PacketThread) (counter : BitVec 32) (invocation : Invocation) : Prop :=
  ∃ later part extra, (later = counter ∧ part = invocation ∨
      countStep (some (BitVec.ofInt 32 result)) counter invocation = some (later, part)) ∧
    Shows after later ∧ Follows tracePrintk result next part ∧
    notedValues part = notedValues invocation ++ extra ∧
    (sentValues after ++ pendingValues next).Perm (sentValues shared ++ pendingValues thread ++ extra) ∧
    instructionsLeft next < instructionsLeft thread

theorem Follows.Silent.moves {tracePrintk : Nat} {result : Int}
    {shared after : Shared Name (List Printk)} {thread next : PacketThread} {counter : BitVec 32}
    {invocation : Invocation}
    (silent : Follows.Silent tracePrintk result shared after thread next counter invocation) :
    Follows.Moves tracePrintk result shared after thread next counter invocation := by
  obtain ⟨shows, follows, balanced, fewer⟩ := silent
  refine ⟨counter, invocation, [], Or.inl ⟨rfl, rfl⟩, shows, follows, (List.append_nil _).symm, ?_, fewer⟩
  rw [List.append_nil]
  exact balanced

theorem Environment.locate_counter (environment : Environment) :
    environment.layout.locate (environment.layout.pointer .counter 0 + immediate 0) 4 =
      some (.counter, 0) := by
  rw [environment.layout.pointer_immediate .counter (by decide : ((0 : Nat) : Int) + 0 = (0 : Nat))]
  exact environment.layout.locate_pointer (by decide) (by decide) (by decide)

theorem Environment.locate_rodata (environment : Environment) :
    environment.layout.locate (environment.layout.pointer .rodata 0) 3 = some (.rodata, 0) :=
  environment.layout.locate_pointer (by decide) (by decide) (by decide)

theorem Environment.tracePrintk_eq (environment : Environment) {state : State Name (List Printk)}
    (format : state.registers .r1 = environment.layout.pointer .rodata 0)
    (three : state.registers .r2 = immediate 3)
    (stored : state.contents.read .rodata 0 3 = literal "%d") :
    environment.tracePrintk state = some ⟨environment.status state, state.contents,
      state.kernel ++ [⟨literal "%d", state.registers .r3⟩]⟩ := by
  have size : (state.registers .r2).toNat = 3 := by rw [three]; decide
  rw [Environment.tracePrintk, bpfTracePrintk_eq size (format ▸ environment.locate_rodata), stored]
  rfl

/-- A loaded counter is sent as its own value. -/
theorem loaded_decimal (value : BitVec 32) :
    ((BitVec.ofNat 64 value.toNat : Word).setWidth 32).toInt = (counterLine value).decimal := by
  rw [decimal_counterLine]
  congr 1
  apply BitVec.eq_of_toNat_eq
  have bound := value.isLt
  rw [BitVec.toNat_setWidth, BitVec.toNat_ofNat]
  omega

section Steps

variable {tracePrintk : Nat} {result : Int} {shared after : Shared Name (List Printk)}
  {thread next : PacketThread} {counter : BitVec 32} {invocation : Invocation}
  {environment : Environment} {registers : Register → Word}

/-- The view of a thread shows the counter. -/
theorem Shows.view_number (shows : Shows shared counter) (registers : Register → Word) :
    (thread.view Name.owned shared registers).contents.number (.counter, 0) 4 = counter.toNat := by
  have same := thread.view_contents (rfl : Name.owned .counter = false) shared registers
  apply Contents.half_eq
  rw [Contents.read_congr same]
  exact shows.counter

theorem Shows.view_format (shows : Shows shared counter) (registers : Register → Word) :
    (thread.view Name.owned shared registers).contents.read .rodata 0 3 = literal "%d" := by
  have same := thread.view_contents (rfl : Name.owned .rodata = false) shared registers
  rw [Contents.read_congr same]
  exact shows.format

theorem pendingValues_eq {slot : Nat} (going : thread.progress = .running slot registers) :
    pendingValues thread = pendingAt slot registers := by
  rw [pendingValues, going]

/-- A later slot has fewer instructions left. -/
theorem instructionsLeft_lt {slot later : Nat} {state : State Name (List Printk)}
    (going : thread.progress = .running slot registers)
    (fewer : [11, 10, 9, 8, 7, 6, 5, 3, 2, 0].idxOf later < [11, 10, 9, 8, 7, 6, 5, 3, 2, 0].idxOf slot) :
    instructionsLeft (thread.resume state (.running later state.registers)) < instructionsLeft thread := by
  rw [instructionsLeft, instructionsLeft, going]
  exact Nat.succ_lt_succ fewer

/-- A step that only changes registers is no step of the source. -/
theorem Follows.silent (shows : Shows shared counter) (running : thread.world = environment.world tracePrintk)
    {slot : Nat} {state : State Name (List Printk)} {phase : Phase} {lines : List Printk}
    (same : after = state.publish Name.owned shared)
    (resumed : next = thread.resume state (.running slot state.registers))
    (contents : state.contents = (thread.view Name.owned shared registers).contents)
    (kernel : state.kernel = shared.kernel)
    (aligned : Aligned environment result (.running slot state.registers) phase)
    (pending : pendingValues thread = pendingAt slot state.registers)
    (fewer : instructionsLeft next < instructionsLeft thread) :
    Follows.Silent tracePrintk result shared after thread next counter ⟨phase, lines⟩ := by
  subst same resumed
  refine ⟨?_, ⟨environment, running, aligned⟩, ?_, fewer⟩
  · rw [publish_unchanged thread registers contents kernel]
    exact shows
  · rw [publish_unchanged thread registers contents kernel, pending]
    exact List.Perm.refl _

/-- A load through the sixth register reads the shared counter. -/
theorem Shows.load_executes (shows : Shows shared counter)
    (running : thread.world = environment.world tracePrintk)
    (address : registers .r6 = environment.layout.pointer .counter 0) (target : Register) :
    effect thread.world (.load .u32 target .r6 0) (thread.view Name.owned shared registers) =
      some ((thread.view Name.owned shared registers).set target (BitVec.ofNat 64 counter.toNat)) := by
  have place : thread.world.layout.locate (registers .r6 + immediate 0) 4 = some (.counter, 0) := by
    rw [running, address]
    exact environment.locate_counter
  simp only [effect, Thread.view_registers, Width.count, place, Option.map_some, shows.view_number]

/-- The first load takes the number for the trace line. -/
theorem Follows.print (shows : Shows shared counter)
    (running : thread.world = environment.world tracePrintk) {lines : List Printk}
    (going : thread.progress = .running 2 registers)
    (address : registers .r6 = environment.layout.pointer .counter 0)
    (stepped : packetInstructionStep tracePrintk result shared thread = some (after, next)) :
    Follows.Moves tracePrintk result shared after thread next counter ⟨.start, lines⟩ := by
  obtain ⟨rfl, rfl⟩ := instructionStep_effect going rfl
    (shows.load_executes running address .r3) stepped
  have same : ((thread.view Name.owned shared registers).set .r3
      (BitVec.ofNat 64 counter.toNat)).publish Name.owned shared = shared :=
    publish_unchanged thread registers rfl rfl
  refine ⟨counter, _, [(counterLine counter).decimal], Or.inr rfl, ?_, ?_, ?_, ?_,
    instructionsLeft_lt going (by decide)⟩
  · rw [same]
    exact shows
  · exact ⟨environment, running, Aligned.loaded _ address⟩
  · simp only [notedValues, List.map_append, List.map_cons, List.map_nil]
  · have before : pendingValues thread = [] := pendingValues_eq going
    rw [same, before, List.append_nil, ← loaded_decimal]
    exact List.Perm.refl _

/-- The call sends the number that the invocation has kept. -/
theorem Follows.trace (shows : Shows shared counter)
    (running : thread.world = environment.world tracePrintk) {lines : List Printk}
    (going : thread.progress = .running 6 registers)
    (address : registers .r6 = environment.layout.pointer .counter 0)
    (format : registers .r1 = environment.layout.pointer .rodata 0)
    (three : registers .r2 = immediate 3)
    (stepped : packetInstructionStep tracePrintk result shared thread = some (after, next)) :
    Follows.Silent tracePrintk result shared after thread next counter ⟨.printed, lines⟩ := by
  have answered : thread.world.helper tracePrintk (thread.view Name.owned shared registers) = some
      ⟨environment.status (thread.view Name.owned shared registers),
        (thread.view Name.owned shared registers).contents,
        shared.kernel ++ [⟨literal "%d", registers .r3⟩]⟩ := by
    rw [running]
    simp only [Environment.world, if_true]
    exact environment.tracePrintk_eq format three (shows.view_format registers)
  obtain ⟨same, resumed⟩ := instructionStep_effect going rfl (effect_call answered) stepped
  replace same := same.trans (publish_same thread registers rfl)
  subst same resumed
  have fewer : [11, 10, 9, 8, 7, 6, 5, 3, 2, 0].idxOf 7 < [11, 10, 9, 8, 7, 6, 5, 3, 2, 0].idxOf 6 := by
    decide
  refine ⟨⟨shows.counter, shows.format, ?_⟩, ?_, ?_, instructionsLeft_lt going fewer⟩
  · intro line member
    rcases List.mem_append.mp member with old | new
    · exact shows.lines line old
    · obtain rfl := List.mem_singleton.mp new
      rfl
  · exact ⟨environment, running, Aligned.traced _
      ((thread.world.resume_saved (thread.view Name.owned shared registers) _ rfl).trans address)⟩
  · have before : pendingValues thread = [((registers .r3).setWidth 32).toInt] := pendingValues_eq going
    rw [before, sentValues, World.resume, List.map_append]
    exact List.Perm.of_eq (List.append_nil _)

/-- The second load takes the number that is to be incremented. -/
theorem Follows.load (shows : Shows shared counter)
    (running : thread.world = environment.world tracePrintk) {lines : List Printk}
    (going : thread.progress = .running 7 registers)
    (address : registers .r6 = environment.layout.pointer .counter 0)
    (stepped : packetInstructionStep tracePrintk result shared thread = some (after, next)) :
    Follows.Moves tracePrintk result shared after thread next counter ⟨.printed, lines⟩ := by
  obtain ⟨same, resumed⟩ := instructionStep_effect going rfl
    (shows.load_executes running address .r1) stepped
  replace same := same.trans (publish_unchanged thread registers rfl rfl)
  subst same resumed
  refine ⟨counter, _, [], Or.inr rfl, shows, ?_, ?_, ?_, instructionsLeft_lt going (by decide)⟩
  · exact ⟨environment, running, Aligned.counted _ counter address rfl⟩
  · exact (List.append_nil _).symm
  · have before : pendingValues thread = [] := pendingValues_eq going
    rw [before, List.append_nil, List.append_nil]
    exact List.Perm.of_eq (List.append_nil _)

/-- The store writes the loaded number plus one. -/
theorem Follows.write (shows : Shows shared counter)
    (running : thread.world = environment.world tracePrintk) {lines : List Printk} {value : BitVec 32}
    (going : thread.progress = .running 9 registers)
    (address : registers .r6 = environment.layout.pointer .counter 0)
    (sum : registers .r1 = BitVec.ofNat 64 value.toNat + immediate 1)
    (stepped : packetInstructionStep tracePrintk result shared thread = some (after, next)) :
    Follows.Moves tracePrintk result shared after thread next counter ⟨.loaded value, lines⟩ := by
  have place : thread.world.layout.locate (registers .r6 + immediate 0) 4 = some (.counter, 0) := by
    rw [running, address]
    exact environment.locate_counter
  have executed : effect thread.world (.store .u32 .r6 0 .r1) (thread.view Name.owned shared registers) =
      some ((thread.view Name.owned shared registers).put (.counter, 0)
        (littleBytes 4 (value + 1).toNat)) := by
    simp only [effect, Thread.view_registers, Width.count, place, Option.map_some, sum,
      littleBytes_increment]
  obtain ⟨rfl, rfl⟩ := instructionStep_effect going rfl executed stepped
  refine ⟨value + 1, _, [], Or.inr rfl, ⟨?_, ?_, shows.lines⟩, ?_, ?_, ?_,
    instructionsLeft_lt going (by decide)⟩
  · rw [Contents.read_congr (State.publish_contents rfl _ _)]
    exact Contents.read_store _ _ _ _ _
  · rw [Contents.read_congr (State.publish_contents rfl _ _), State.put_contents,
      Contents.read_write_other _ (Or.inl (by decide))]
    exact shows.view_format registers
  · exact ⟨environment, running, Aligned.written _⟩
  · exact (List.append_nil _).symm
  · have before : pendingValues thread = [] := pendingValues_eq going
    rw [before, List.append_nil, List.append_nil]
    exact List.Perm.of_eq (List.append_nil _)

/-- An exit is no step of the source. -/
theorem Follows.exit (shows : Shows shared counter)
    (running : thread.world = environment.world tracePrintk) {lines : List Printk}
    (going : thread.progress = .running 11 registers) (verdict : registers .r0 = immediate result)
    (stepped : packetInstructionStep tracePrintk result shared thread = some (after, next)) :
    Follows.Silent tracePrintk result shared after thread next counter
      ⟨.done (some (BitVec.ofInt 32 result)), lines⟩ := by
  obtain ⟨rfl, kept, stopped⟩ := instructionStep_exit going rfl stepped
  refine ⟨shows, ⟨environment, kept.trans running, ?_⟩, ?_, ?_⟩
  · rw [stopped]
    exact Aligned.exited registers verdict
  · have none : pendingAt 11 registers = [] := rfl
    rw [pendingValues_eq going, none, pendingValues, stopped]
  · rw [instructionsLeft, instructionsLeft, stopped, going]
    exact Nat.succ_pos _

/-- A thread sends its number and exits without a step of the source. -/
theorem Follows.settles (shows : Shows shared counter)
    (follows : Follows tracePrintk result thread invocation) (unsettled : ¬ Settled thread)
    (stepped : packetInstructionStep tracePrintk result shared thread = some (after, next)) :
    Follows.Silent tracePrintk result shared after thread next counter invocation := by
  obtain ⟨environment, running, aligned⟩ := follows
  obtain ⟨phase, lines⟩ := invocation
  cases going : thread.progress with
  | stuck => exact absurd (by rw [Settled, going]; trivial) unsettled
  | exited registers => exact absurd (by rw [Settled, going]; trivial) unsettled
  | running slot registers =>
      have waits : ¬ slot ∉ [3, 5, 6, 10, 11] := by
        rw [Settled, going] at unsettled
        exact unsettled
      rw [going] at aligned
      have before := pendingValues_eq going
      cases aligned with
      | entry registers => exact absurd (by decide) waits
      | addressed registers address => exact absurd (by decide) waits
      | traced registers address => exact absurd (by decide) waits
      | counted registers value address read => exact absurd (by decide) waits
      | incremented registers value address sum => exact absurd (by decide) waits
      | loaded registers address =>
          obtain ⟨same, resumed⟩ := instructionStep_effect going rfl rfl stepped
          refine Follows.silent shows running same resumed rfl rfl (Aligned.formatted _ address ?_) before
            (resumed ▸ instructionsLeft_lt going (by decide))
          have resolved : thread.world.address .rodata = environment.address .rodata := by rw [running]; rfl
          exact (congrArg (· + BitVec.ofNat 64 0) resolved).trans (BitVec.add_zero _)
      | formatted registers address format =>
          obtain ⟨same, resumed⟩ := instructionStep_effect going rfl rfl stepped
          exact Follows.silent shows running same resumed rfl rfl
            (Aligned.sized _ address format rfl) before
            (resumed ▸ instructionsLeft_lt going (by decide))
      | sized registers address format three =>
          exact Follows.trace shows running going address format three stepped
      | written registers =>
          obtain ⟨same, resumed⟩ := instructionStep_effect going rfl rfl stepped
          have fewer : [11, 10, 9, 8, 7, 6, 5, 3, 2, 0].idxOf 11 <
              [11, 10, 9, 8, 7, 6, 5, 3, 2, 0].idxOf 10 := by decide
          exact Follows.silent shows running same resumed rfl rfl (Aligned.returned _ rfl) before
            (resumed ▸ instructionsLeft_lt going fewer)
      | returned registers verdict => exact Follows.exit shows running going verdict stepped

/-- Each instruction of an invocation is a step of the source or none. -/
theorem Follows.moves (shows : Shows shared counter) (follows : Follows tracePrintk result thread invocation)
    (stepped : packetInstructionStep tracePrintk result shared thread = some (after, next)) :
    Follows.Moves tracePrintk result shared after thread next counter invocation := by
  by_cases settled : Settled thread
  · obtain ⟨environment, running, aligned⟩ := follows
    obtain ⟨phase, lines⟩ := invocation
    cases going : thread.progress with
    | stuck =>
        rw [going] at aligned
        cases aligned
    | exited registers =>
        simp only [packetInstructionStep, instructionStep, going, reduceCtorEq] at stepped
    | running slot registers =>
        rw [Settled, going] at settled
        rw [going] at aligned
        have before := pendingValues_eq going
        cases aligned with
        | entry registers =>
            obtain ⟨same, resumed⟩ := instructionStep_effect going rfl rfl stepped
            have resolved : thread.world.address .counter = environment.address .counter := by
              rw [running]
              rfl
            exact (Follows.silent shows running same resumed rfl rfl (Aligned.addressed _
              ((congrArg (· + BitVec.ofNat 64 0) resolved).trans (BitVec.add_zero _))) before
              (resumed ▸ instructionsLeft_lt going (by decide))).moves
        | addressed registers address => exact Follows.print shows running going address stepped
        | traced registers address => exact Follows.load shows running going address stepped
        | counted registers value address read =>
            obtain ⟨same, resumed⟩ := instructionStep_effect going rfl rfl stepped
            exact (Follows.silent shows running same resumed rfl rfl (Aligned.incremented _ value address
              (congrArg (· + immediate 1) read)) before
              (resumed ▸ instructionsLeft_lt going (by decide))).moves
        | incremented registers value address sum =>
            exact Follows.write shows running going address sum stepped
        | _ => exact absurd (by decide) settled
  · exact (follows.settles shows settled stepped).moves

end Steps

/-- The instructions of the program match the steps of the source. -/
def packetMatching (tracePrintk : Nat) (result : Int) :
    Matching (packetInstructionStep tracePrintk result) (countStep (some (BitVec.ofInt 32 result))) Int where
  share := Shows
  couple := Follows tracePrintk result
  sent := sentValues
  kept := pendingValues
  output := notedValues
  step _ _ _ _ _ _ shows follows stepped := by
    obtain ⟨later, part, extra, moves, shown, kept, grown, balanced, _⟩ := follows.moves shows stepped
    exact ⟨later, part, extra, moves, shown, kept, grown, balanced⟩

/-- Each instruction takes one of the instructions that are left, and only an exited thread stops. -/
def packetBound (tracePrintk : Nat) (result : Int) : (packetMatching tracePrintk result).Bound where
  left := instructionsLeft
  decreases _ _ _ _ _ _ shows follows stepped := by
    obtain ⟨_, _, _, _, _, _, _, _, fewer⟩ := Follows.moves shows follows stepped
    exact fewer
  stops shared thread counter invocation _ follows stopped := by
    obtain ⟨environment, _, aligned⟩ := follows
    cases going : thread.progress with
    | running slot registers => exact absurd going (instructionStep_none stopped slot registers)
    | stuck =>
        rw [going] at aligned
        cases aligned
    | exited registers =>
        rw [going] at aligned
        generalize reached : invocation.phase = phase at aligned
        cases aligned
        exact ⟨by rw [instructionsLeft, going], by rw [countStep, reached]⟩

/-- A thread that has a number to send or a verdict to return does so without the source. -/
def packetSettling (tracePrintk : Nat) (result : Int) : (packetMatching tracePrintk result).Settling where
  settled := Settled
  silent shared thread counter invocation shows follows unsettled := by
    cases stepped : packetInstructionStep tracePrintk result shared thread with
    | none =>
        cases going : thread.progress with
        | running slot registers => exact absurd going (instructionStep_none stepped slot registers)
        | stuck => exact absurd (by rw [Settled, going]; trivial) unsettled
        | exited registers => exact absurd (by rw [Settled, going]; trivial) unsettled
    | some reached =>
        obtain ⟨shown, followed, balanced, _⟩ := Follows.settles shows follows unsettled stepped
        exact ⟨reached.1, reached.2, rfl, shown, followed, balanced⟩

/-- An invocation that has exited has the verdict of the source, and none is stuck. -/
def Ends (result : Int) (progress : Progress) (invocation : Invocation) : Prop :=
  match progress with
  | .running _ _ => True
  | .exited registers =>
    registers .r0 = immediate result ∧ invocation.phase = .done (some (BitVec.ofInt 32 result))
  | .stuck => False

/-- What the instructions reach and what the source reaches: the memory holds the same counter, the
trace and the loaded numbers are the printed numbers, and the invocations end alike. -/
structure Agrees (result : Int) (reached : Configuration (Shared Name (List Printk)) PacketThread)
    (source : Configuration (BitVec 32) Invocation) : Prop where
  counter : reached.shared.contents.read .counter 0 4 = littleBytes 4 source.shared.toNat
  trace : (sentValues reached.shared ++ reached.invocations.flatMap pendingValues).Perm
    (printedValues source)
  formats : ∀ line ∈ reached.shared.kernel, line.format = literal "%d"
  ends : List.Forall₂ (fun thread invocation => Ends result thread.progress invocation)
    reached.invocations source.invocations

section Runs

variable {tracePrintk : Nat} {result : Int}

theorem Follows.ends {thread : PacketThread} {invocation : Invocation}
    (follows : Follows tracePrintk result thread invocation) :
    Ends result thread.progress invocation := by
  obtain ⟨environment, _, aligned⟩ := follows
  generalize thread.progress = progress at aligned ⊢
  generalize reached : invocation.phase = phase at aligned
  cases aligned with
  | exited registers verdict => exact ⟨verdict, reached⟩
  | _ => trivial

/-- The loaded memory shows the loaded counter. -/
theorem loaded_shows : Shows loaded initialCounter where
  counter := rfl
  format := rfl
  lines _ member := absurd member List.not_mem_nil

theorem packetMatching_initial (environments : List Environment) :
    (packetMatching tracePrintk result).Holds (packetThreads tracePrintk environments)
      (initial environments.length) where
  shared := loaded_shows
  invocations := by
    induction environments with
    | nil => exact List.Forall₂.nil
    | cons environment rest ih =>
        exact List.Forall₂.cons ⟨environment, rfl, Aligned.entry _⟩ ih
  balanced := by
    have noted : (initial environments.length).invocations.flatMap notedValues = [] :=
      List.flatMap_eq_nil_iff.mpr fun invocation member => by rw [List.eq_of_mem_replicate member]; rfl
    have pending : (packetThreads tracePrintk environments).invocations.flatMap pendingValues = [] := by
      apply List.flatMap_eq_nil_iff.mpr
      intro thread member
      obtain ⟨environment, _, rfl⟩ := List.mem_map.mp member
      rfl
    change ([] ++ (packetThreads tracePrintk environments).invocations.flatMap pendingValues).Perm
      ((initial environments.length).invocations.flatMap notedValues)
    rw [noted, pending, List.append_nil]

/-- Matching configurations agree. -/
theorem packetMatching_agrees {reached : Configuration (Shared Name (List Printk)) PacketThread}
    {source : Configuration (BitVec 32) Invocation}
    (holds : (packetMatching tracePrintk result).Holds reached source) : Agrees result reached source :=
  ⟨holds.shared.counter, holds.balanced, holds.shared.lines,
    holds.invocations.imp fun _ _ follows => follows.ends⟩

/-- Every interleaving of the instructions does what some interleaving of the steps of the source does,
in the order of its schedule. -/
theorem packetCountCode_race_refines (tracePrintk : Nat) (result : Int) (environments : List Environment)
    (schedule : List Nat) :
    ∃ shorter : List Nat, shorter.Sublist schedule ∧
      Agrees result
        (run (packetInstructionStep tracePrintk result) (packetThreads tracePrintk environments) schedule)
        (run (countStep (some (BitVec.ofInt 32 result))) (initial environments.length) shorter) := by
  obtain ⟨shorter, part, holds⟩ := (packetMatching_initial environments).run schedule
  exact ⟨shorter, part, packetMatching_agrees holds⟩

/-- A thread has exited with the verdict of its invocation, or both of them still run. -/
def Concludes (result : Int) (progress : Progress) (invocation : Invocation) : Prop :=
  match invocation.phase with
  | .done verdict => verdict = some (BitVec.ofInt 32 result) ∧
      ∃ registers, progress = .exited registers ∧ registers .r0 = immediate result
  | _ => ∃ slot registers, progress = .running slot registers

/-- The instructions have done all that the source has done: the memory holds the same counter, the
trace is the printed numbers, and every finished invocation has exited with its verdict. -/
structure Realizes (result : Int) (reached : Configuration (Shared Name (List Printk)) PacketThread)
    (source : Configuration (BitVec 32) Invocation) : Prop where
  counter : reached.shared.contents.read .counter 0 4 = littleBytes 4 source.shared.toNat
  trace : (sentValues reached.shared).Perm (printedValues source)
  formats : ∀ line ∈ reached.shared.kernel, line.format = literal "%d"
  concludes : List.Forall₂ (fun thread invocation => Concludes result thread.progress invocation)
    reached.invocations source.invocations

/-- A settled thread keeps no number. -/
theorem Settled.pending {thread : PacketThread} (settled : Settled thread) : pendingValues thread = [] := by
  cases going : thread.progress with
  | running slot registers =>
      rw [Settled, going] at settled
      rw [pendingValues_eq going]
      exact if_neg fun waits => settled (by rcases waits with rfl | rfl | rfl <;> decide)
  | exited registers => rw [pendingValues, going]
  | stuck => rw [pendingValues, going]

theorem Follows.concludes {thread : PacketThread} {invocation : Invocation}
    (follows : Follows tracePrintk result thread invocation) (settled : Settled thread) :
    Concludes result thread.progress invocation := by
  obtain ⟨environment, _, aligned⟩ := follows
  rw [Settled] at settled
  obtain ⟨phase, lines⟩ := invocation
  generalize thread.progress = progress at aligned settled
  cases aligned with
  | exited registers verdict => exact ⟨rfl, registers, rfl, verdict⟩
  | written registers => exact absurd (by decide) settled
  | returned registers verdict => exact absurd (by decide) settled
  | _ => exact ⟨_, _, rfl⟩

/-- Every interleaving of the steps of the source is what some interleaving of the instructions does, to
the last line and the last verdict. -/
theorem packetCountCode_race_realizes (tracePrintk : Nat) (result : Int)
    (environments : List Environment) (shorter : List Nat) :
    ∃ schedule, Realizes result
      (run (packetInstructionStep tracePrintk result) (packetThreads tracePrintk environments) schedule)
      (run (countStep (some (BitVec.ofInt 32 result))) (initial environments.length) shorter) := by
  obtain ⟨first, holds⟩ :=
    (packetMatching_initial environments).realize (packetBound tracePrintk result) shorter
  obtain ⟨second, ended, settled⟩ :=
    holds.settle_all (packetBound tracePrintk result) (packetSettling tracePrintk result)
  rw [← run_append] at ended settled
  refine ⟨first ++ second, ended.shared.counter, ?_, ended.shared.lines, ?_⟩
  · have pending : (run (packetInstructionStep tracePrintk result) (packetThreads tracePrintk environments)
        (first ++ second)).invocations.flatMap pendingValues = [] :=
      List.flatMap_eq_nil_iff.mpr fun thread member => (settled thread member).pending
    have balanced := ended.balanced
    change (sentValues _ ++ List.flatMap pendingValues _).Perm (printedValues _) at balanced
    rw [pending, List.append_nil] at balanced
    exact balanced
  · have together := (List.forall₂_and_left _ _).mpr ⟨settled, ended.invocations⟩
    exact together.imp fun _ _ both => Follows.concludes both.2 both.1

/-- Each invocation has been given the ten steps that its program takes. -/
def Complete (environments : List Environment) (schedule : List Nat) : Prop :=
  ∀ index < environments.length, 10 ≤ schedule.count index

/-- A thread that has no instruction left has exited. -/
theorem Follows.exited {thread : PacketThread} {invocation : Invocation}
    (follows : Follows tracePrintk result thread invocation) (none : instructionsLeft thread = 0) :
    ∃ registers, thread.progress = .exited registers := by
  obtain ⟨environment, _, aligned⟩ := follows
  cases going : thread.progress with
  | exited registers => exact ⟨registers, rfl⟩
  | running slot registers =>
      rw [instructionsLeft, going] at none
      cases none
  | stuck =>
      rw [going] at aligned
      cases aligned

/-- With enough steps every invocation exits. -/
theorem complete_exits {environments : List Environment} {schedule : List Nat}
    (complete : Complete environments schedule) :
    ∀ thread ∈ (run (packetInstructionStep tracePrintk result) (packetThreads tracePrintk environments)
      schedule).invocations, ∃ registers, thread.progress = .exited registers := by
  intro thread member
  have start : (packetMatching tracePrintk result).Holds (packetThreads tracePrintk environments)
      (initial environments.length) := packetMatching_initial environments
  obtain ⟨index, reached⟩ := List.getElem?_of_mem member
  have inside : index < environments.length := by
    have within := (List.getElem?_eq_some_iff.mp reached).1
    rwa [run_length, packetThreads, List.length_map] at within
  have found : (packetThreads tracePrintk environments).invocations[index]? =
      some (environments[index].thread tracePrintk) := by
    simp [packetThreads, inside]
  obtain ⟨next, same, left⟩ := start.left_run (packetBound tracePrintk result) found schedule
  rw [reached] at same
  obtain rfl := Option.some.inj same
  obtain ⟨_, _, holds⟩ := start.run schedule
  obtain ⟨_, _, follows⟩ := Matching.forall₂_getElem? holds.invocations reached
  have enough := complete index inside
  have ten : (packetBound tracePrintk result).left (environments[index].thread tracePrintk) = 10 := rfl
  exact follows.exited (by
    change (packetBound tracePrintk result).left thread = 0
    omega)

/-- What a finished run leaves: the counter in memory, one line for each packet with a number below the
number of the packets, and the verdict of each invocation. -/
structure Leaves (result : Int) (packets : Nat)
    (reached : Configuration (Shared Name (List Printk)) PacketThread) (counter : BitVec 32) : Prop where
  counter : reached.shared.contents.read .counter 0 4 = littleBytes 4 counter.toNat
  trace : reached.shared.kernel.length = packets
  lines : ∀ line ∈ reached.shared.kernel,
    line.format = literal "%d" ∧ 0 ≤ line.decimal ∧ line.decimal < packets
  exits : ∀ thread ∈ reached.invocations,
    ∃ registers, thread.progress = .exited registers ∧ registers .r0 = immediate result

/-- A finished run that agrees with a source that undercounts leaves the counter of the source. -/
theorem Agrees.leaves {packets : Nat} {reached : Configuration (Shared Name (List Printk)) PacketThread}
    {source : Configuration (BitVec 32) Invocation} (agrees : Agrees result reached source)
    (undercounts : Undercounts packets source)
    (exits : ∀ thread ∈ reached.invocations, ∃ registers, thread.progress = .exited registers) :
    Leaves result packets reached source.shared ∧ min 1 packets ≤ source.shared.toNat ∧
      source.shared.toNat ≤ packets := by
  have ended : ∀ (thread : PacketThread) (invocation : Invocation) registers,
      Ends result thread.progress invocation → thread.progress = .exited registers →
      registers .r0 = immediate result ∧ invocation.finished = true := by
    intro thread invocation registers ends stopped
    rw [stopped] at ends
    exact ⟨ends.1, by rw [Invocation.finished, ends.2]⟩
  have pending : reached.invocations.flatMap pendingValues = [] := by
    apply List.flatMap_eq_nil_iff.mpr
    intro thread member
    obtain ⟨registers, stopped⟩ := exits thread member
    rw [pendingValues, stopped]
  have trace := agrees.trace
  rw [pending, List.append_nil] at trace
  have all : ∀ invocation ∈ source.invocations, invocation.finished = true := by
    intro invocation member
    obtain ⟨index, found⟩ := List.getElem?_of_mem member
    obtain ⟨thread, present, ends⟩ := Matching.forall₂_getElem? agrees.ends.flip found
    obtain ⟨registers, stopped⟩ := exits thread (List.mem_of_getElem? present)
    exact (ended thread invocation registers ends stopped).2
  obtain ⟨lower, upper, printed⟩ := undercounts.finished all
  refine ⟨⟨agrees.counter, ?_, ?_, ?_⟩, lower, upper⟩
  · rw [← printed, ← trace.length_eq, sentValues, List.length_map]
  · intro line member
    have shown : line.decimal ∈ printedValues source := trace.mem_iff.mp (List.mem_map_of_mem member)
    exact ⟨agrees.formats line member, undercounts.printed line.decimal shown⟩
  · intro thread member
    obtain ⟨index, found⟩ := List.getElem?_of_mem member
    obtain ⟨invocation, _, ends⟩ := Matching.forall₂_getElem? agrees.ends found
    obtain ⟨registers, stopped⟩ := exits thread member
    exact ⟨registers, stopped, (ended thread invocation registers ends stopped).1⟩

/-- Any number of invocations, interleaved instruction by instruction, count at least one packet and at
most all of them, and each one prints a number below the number of the packets. -/
theorem packetCountCode_race_leaves (tracePrintk : Nat) (result : Int) (environments : List Environment)
    (few : environments.length < 2 ^ 31) (schedule : List Nat) (complete : Complete environments schedule) :
    ∃ counter : BitVec 32,
      Leaves result environments.length (run (packetInstructionStep tracePrintk result)
        (packetThreads tracePrintk environments) schedule) counter ∧
      min 1 environments.length ≤ counter.toNat ∧ counter.toNat ≤ environments.length := by
  obtain ⟨shorter, _, holds⟩ := (packetMatching_initial environments).run schedule
  exact ⟨_, (packetMatching_agrees holds).leaves (undercounts_run _ few shorter)
    (complete_exits complete)⟩

/-- Each number from one to the number of the packets is left by some interleaving of the instructions. -/
theorem packetCountCode_race_leaves_each (tracePrintk : Nat) (result : Int)
    (environments : List Environment) (few : environments.length < 2 ^ 31) {counter : BitVec 32}
    (positive : 1 ≤ counter.toNat) (within : counter.toNat ≤ environments.length) :
    ∃ schedule, Complete environments schedule ∧
      Leaves result environments.length (run (packetInstructionStep tracePrintk result)
        (packetThreads tracePrintk environments) schedule) counter := by
  obtain ⟨value, finished⟩ :=
    losingSchedule_counter (some (BitVec.ofInt 32 result)) positive within
  obtain ⟨schedule, holds⟩ := (packetMatching_initial environments).realize
    (packetBound tracePrintk result) (losingSchedule environments.length counter.toNat)
  -- The rest of the schedule lets every thread run to its exit, which the source does not notice.
  let rest := (List.replicate 10 (List.range environments.length)).flatten
  obtain ⟨shorter, _, ended⟩ := holds.run rest
  have stopped : run (countStep (some (BitVec.ofInt 32 result))) _ shorter = _ :=
    run_stopped (fun invocation member => countStep_finished (finished invocation member)) shorter
  rw [stopped, ← run_append] at ended
  have complete : Complete environments (schedule ++ rest) := by
    intro index inside
    have once : (List.range environments.length).count index = 1 :=
      List.count_eq_one_of_mem List.nodup_range (List.mem_range.mpr inside)
    have ten : rest.count index = 10 := by
      rw [List.count_flatten, List.map_replicate, List.sum_replicate, once]
      rfl
    rw [List.count_append, ten]
    exact Nat.le_add_left 10 _
  have undercounts := undercounts_run (some (BitVec.ofInt 32 result)) few
    (losingSchedule environments.length counter.toNat)
  obtain ⟨leaves, _⟩ := (packetMatching_agrees ended).leaves undercounts (complete_exits complete)
  rw [value, BitVec.ofNat_toNat, BitVec.setWidth_eq] at leaves
  exact ⟨schedule ++ rest, complete, leaves⟩

/-- An environment with its objects one page apart. -/
def pagedEnvironment : Environment where
  layout := {
    base := fun name => match name with
      | .stack => 4096
      | .counter => 8192
      | .rodata => 12288
    nonnull := by decide
    inside := by decide
    separate := by decide }
  ctx := 0
  registers _ := 0
  stack _ := 0
  status _ := 0
  clobber _ _ := 0

/-- Two invocations of the object bytecode that take turns. -/
theorem objectCode_race_leaves_turns :
    ∃ counter : BitVec 32,
      Leaves 2 2 (run (packetInstructionStep 6 2) (packetThreads 6 [pagedEnvironment, pagedEnvironment])
        (List.replicate 10 [0, 1]).flatten) counter ∧
      min 1 2 ≤ counter.toNat ∧ counter.toNat ≤ 2 :=
  packetCountCode_race_leaves 6 2 [pagedEnvironment, pagedEnvironment] (by decide) _
    (by unfold Complete; decide)

/-- Two invocations of the object bytecode may leave a counter of one. -/
theorem objectCode_race_leaves_one :
    ∃ schedule, Complete [pagedEnvironment, pagedEnvironment] schedule ∧
      Leaves 2 2 (run (packetInstructionStep 6 2) (packetThreads 6 [pagedEnvironment, pagedEnvironment])
        schedule) 1 :=
  packetCountCode_race_leaves_each 6 2 [pagedEnvironment, pagedEnvironment] (by decide) (by decide)
    (by decide)

end Runs

end EbpfNotes.PacketCount
