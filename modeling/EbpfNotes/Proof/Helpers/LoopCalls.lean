import EbpfNotes.Construction.Helpers

namespace EbpfNotes

open Library

variable {State : Type}

/-- The calls that the loop still makes, by recursion on the remaining iterations. -/
def callsFrom (callbackFn : BitVec 32 → State → BitVec 32 × State) (index : Nat) :
    Nat → State → List LoopCall
  | 0, _ => []
  | remaining + 1, state =>
    ⟨BitVec.ofNat 32 index, (callbackFn (BitVec.ofNat 32 index) state).1⟩ ::
      if (callbackFn (BitVec.ofNat 32 index) state).1 = 1 then []
      else callsFrom callbackFn (index + 1) remaining (callbackFn (BitVec.ofNat 32 index) state).2

/-- Callbacks have run for the indices in their order until the given number or a verdict of one. -/
structure Performed (nrLoops : Nat) (calls : List LoopCall) : Prop where
  indices : calls.map LoopCall.index = (List.range calls.length).map (BitVec.ofNat 32)
  bounded : calls.length ≤ nrLoops
  running : ∀ call ∈ calls.dropLast, call.verdict ≠ 1
  ended : calls.length = nrLoops ∨ ∃ call, calls.getLast? = some call ∧ call.verdict = 1

/-- The last call is the one at the index, and it gives one. -/
def StopsAt (calls : List LoopCall) (index : BitVec 32) : Prop := calls.getLast? = some ⟨index, 1⟩

/-- The recorded loop is the loop itself with the calls added to the record. -/
theorem loopFrom_recorded (callbackFn : BitVec 32 → State → BitVec 32 × State) (index remaining : Nat)
    (state : State) (calls : List LoopCall) :
    loopFrom (recorded callbackFn) index remaining (state, calls) =
      ((loopFrom callbackFn index remaining state).1, (loopFrom callbackFn index remaining state).2,
        calls ++ callsFrom callbackFn index remaining state) := by
  induction remaining generalizing index state calls with
  | zero => simp only [loopFrom, callsFrom, List.append_nil]
  | succ remaining ih =>
      simp only [loopFrom, callsFrom, recorded]
      by_cases stops : (callbackFn (BitVec.ofNat 32 index) state).1 = 1
      · simp only [stops, if_true]
      · simp only [stops, if_false, ih, List.append_assoc, List.singleton_append]

/-- The record does not change the result of the helper. -/
theorem bpfLoop_recorded (nrLoops : BitVec 32) (callbackFn : BitVec 32 → State → BitVec 32 × State)
    (callbackCtx : State) (flags : Word) :
    bpfLoop nrLoops callbackFn callbackCtx flags =
      ((bpfLoop nrLoops (recorded callbackFn) (callbackCtx, []) flags).1,
        (bpfLoop nrLoops (recorded callbackFn) (callbackCtx, []) flags).2.1) := by
  unfold bpfLoop
  rw [loopFrom_recorded]
  split
  · rfl
  · split <;> rfl

/-- An accepted loop makes the calls of the recursion. -/
theorem loopCalls_eq {nrLoops : BitVec 32} (callbackFn : BitVec 32 → State → BitVec 32 × State)
    (callbackCtx : State) (accepted : nrLoops.toNat ≤ BPF_MAX_LOOPS) :
    loopCalls nrLoops callbackFn callbackCtx 0 = callsFrom callbackFn 0 nrLoops.toNat callbackCtx := by
  rw [loopCalls, bpfLoop, if_neg (fun flagged => flagged rfl), if_neg (by omega), loopFrom_recorded]
  exact List.nil_append _

/-- A refused loop makes no call. -/
theorem loopCalls_refused {nrLoops : BitVec 32} (callbackFn : BitVec 32 → State → BitVec 32 × State)
    (callbackCtx : State) (refused : BPF_MAX_LOOPS < nrLoops.toNat) :
    loopCalls nrLoops callbackFn callbackCtx 0 = [] := by
  rw [loopCalls, bpfLoop_refused _ _ refused]

theorem callsFrom_indices (callbackFn : BitVec 32 → State → BitVec 32 × State) (index remaining : Nat)
    (state : State) :
    (callsFrom callbackFn index remaining state).map LoopCall.index =
      (List.range' index (callsFrom callbackFn index remaining state).length).map (BitVec.ofNat 32) := by
  induction remaining generalizing index state with
  | zero => rfl
  | succ remaining ih =>
      rw [callsFrom]
      split
      · rfl
      · rw [List.map_cons, ih, List.length_cons, List.range'_succ, List.map_cons]

theorem callsFrom_length (callbackFn : BitVec 32 → State → BitVec 32 × State) (index remaining : Nat)
    (state : State) : (callsFrom callbackFn index remaining state).length ≤ remaining := by
  induction remaining generalizing index state with
  | zero => exact le_rfl
  | succ remaining ih =>
      rw [callsFrom, List.length_cons]
      split
      · exact Nat.succ_le_succ (Nat.zero_le _)
      · exact Nat.succ_le_succ (ih _ _)

/-- Only the last call of a loop gives one. -/
theorem callsFrom_running (callbackFn : BitVec 32 → State → BitVec 32 × State) (index remaining : Nat)
    (state : State) :
    ∀ call ∈ (callsFrom callbackFn index remaining state).dropLast, call.verdict ≠ 1 := by
  induction remaining generalizing index state with
  | zero => exact fun call member => absurd member List.not_mem_nil
  | succ remaining ih =>
      rw [callsFrom]
      split
      · exact fun call member => absurd member List.not_mem_nil
      · next continues =>
          intro call member
          have later := ih (index + 1) (callbackFn (BitVec.ofNat 32 index) state).2
          cases rest : callsFrom callbackFn (index + 1) remaining
              (callbackFn (BitVec.ofNat 32 index) state).2 with
          | nil =>
              rw [rest] at member
              cases member
          | cons next calls =>
              rw [rest] at member later
              rw [List.dropLast_cons_cons] at member
              rcases List.mem_cons.mp member with rfl | inside
              · exact continues
              · exact later call inside

/-- The loop ends after all iterations or with a verdict of one. -/
theorem callsFrom_ended (callbackFn : BitVec 32 → State → BitVec 32 × State) (index remaining : Nat)
    (state : State) :
    (callsFrom callbackFn index remaining state).length = remaining ∨
      ∃ call, (callsFrom callbackFn index remaining state).getLast? = some call ∧ call.verdict = 1 := by
  induction remaining generalizing index state with
  | zero => exact Or.inl rfl
  | succ remaining ih =>
      rw [callsFrom]
      split
      · next stops => exact Or.inr ⟨_, rfl, stops⟩
      · rcases ih (index + 1) (callbackFn (BitVec.ofNat 32 index) state).2 with whole | ⟨call, last, one⟩
        · exact Or.inl (congrArg Nat.succ whole)
        · exact Or.inr ⟨call, by rw [List.getLast?_cons, last]; rfl, one⟩

/-- The helper performs exactly the loops that it does not refuse. -/
theorem performed_iff (nrLoops : BitVec 32) (callbackFn : BitVec 32 → State → BitVec 32 × State)
    (callbackCtx : State) :
    Performed nrLoops.toNat (loopCalls nrLoops callbackFn callbackCtx 0) ↔
      nrLoops.toNat ≤ BPF_MAX_LOOPS := by
  by_cases accepted : nrLoops.toNat ≤ BPF_MAX_LOOPS
  · apply iff_of_true _ accepted
    rw [loopCalls_eq callbackFn callbackCtx accepted]
    constructor
    · rw [callsFrom_indices, List.range_eq_range']
    · exact callsFrom_length callbackFn 0 _ callbackCtx
    · exact callsFrom_running callbackFn 0 _ callbackCtx
    · exact callsFrom_ended callbackFn 0 _ callbackCtx
  · apply iff_of_false _ accepted
    rw [loopCalls_refused callbackFn callbackCtx (by omega)]
    intro performed
    rcases performed.ended with whole | ⟨call, last, _⟩
    · rw [List.length_nil] at whole
      omega
    · cases last

/-- A call without a verdict of one leaves the stop to the calls behind it. -/
theorem stopsAt_cons {call : LoopCall} (calls : List LoopCall) {position : BitVec 32}
    (continues : call.verdict ≠ 1) : StopsAt (call :: calls) position ↔ StopsAt calls position := by
  rw [StopsAt, StopsAt, List.getLast?_cons, Option.some_inj]
  cases calls.getLast? with
  | none =>
      rw [Option.getD_none]
      apply iff_of_false
      · exact fun last => continues (congrArg LoopCall.verdict last)
      · exact fun last => by cases last
  | some last => rw [Option.getD_some, Option.some_inj]

/-- A callback whose verdict depends on the index alone stops the loop at the least index with one. -/
theorem callsFrom_stopsAt {callbackFn : BitVec 32 → State → BitVec 32 × State}
    {verdict : BitVec 32 → BitVec 32} (same : ∀ index state, (callbackFn index state).1 = verdict index)
    (index remaining : Nat) (state : State) (position : BitVec 32) :
    StopsAt (callsFrom callbackFn index remaining state) position ↔
      ∃ stop, index ≤ stop ∧ stop < index + remaining ∧ position = BitVec.ofNat 32 stop ∧
        verdict (BitVec.ofNat 32 stop) = 1 ∧
        ∀ earlier, index ≤ earlier → earlier < stop → verdict (BitVec.ofNat 32 earlier) ≠ 1 := by
  induction remaining generalizing index state with
  | zero =>
      apply iff_of_false
      · exact fun stops => by cases stops
      · intro stops
        obtain ⟨stop, behind, before, _⟩ := stops
        omega
  | succ remaining ih =>
      rw [callsFrom, same]
      by_cases stops : verdict (BitVec.ofNat 32 index) = 1
      · rw [if_pos stops, StopsAt, List.getLast?_singleton, Option.some_inj, LoopCall.mk.injEq,
          and_iff_left stops]
        constructor
        · intro here
          exact ⟨index, le_rfl, by omega, here.symm, stops, fun earlier behind before => by omega⟩
        · intro least
          obtain ⟨stop, behind, _, here, _, first⟩ := least
          rw [here]
          by_contra other
          have later : index < stop := lt_of_le_of_ne behind fun equal => other (equal ▸ rfl)
          exact first index le_rfl later stops
      · rw [if_neg stops, stopsAt_cons _ stops, ih]
        constructor
        · intro least
          obtain ⟨stop, behind, before, here, one, first⟩ := least
          refine ⟨stop, by omega, by omega, here, one, ?_⟩
          intro earlier after below
          by_cases own : earlier = index
          · rwa [own]
          · exact first earlier (by omega) below
        · intro least
          obtain ⟨stop, behind, before, here, one, first⟩ := least
          have later : index ≠ stop := fun equal => stops (equal ▸ one)
          exact ⟨stop, by omega, by omega, here, one, fun earlier after => first earlier (by omega)⟩

/-- A property of the state that each call keeps holds after the loop. -/
theorem loopFrom_invariant {callbackFn : BitVec 32 → State → BitVec 32 × State}
    (invariant : State → Prop) (preserved : ∀ index state, invariant state →
      invariant (callbackFn index state).2)
    (index remaining : Nat) {state : State} (holds : invariant state) :
    invariant (loopFrom callbackFn index remaining state).2 := by
  induction remaining generalizing index state with
  | zero => exact holds
  | succ remaining ih =>
      have kept := preserved (BitVec.ofNat 32 index) state holds
      simp only [loopFrom]
      split
      · exact kept
      · exact ih (index + 1) kept

theorem bpfLoop_invariant {callbackFn : BitVec 32 → State → BitVec 32 × State}
    (invariant : State → Prop) (preserved : ∀ index state, invariant state →
      invariant (callbackFn index state).2)
    (nrLoops : BitVec 32) {callbackCtx : State} (flags : Word) (holds : invariant callbackCtx) :
    invariant (bpfLoop nrLoops callbackFn callbackCtx flags).2 := by
  unfold bpfLoop
  split
  · exact holds
  · split
    · exact holds
    · exact loopFrom_invariant invariant preserved 0 _ holds

end EbpfNotes
