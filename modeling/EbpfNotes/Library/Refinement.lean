import EbpfNotes.Library.Interleaving

namespace EbpfNotes.Library

variable {Shared Local Abstract Role Output : Type}

/-- Each step of the first protocol is one step of the second one or none. What an invocation of the
second protocol outputs, the first one sends to the shared state or still keeps. -/
structure Matching (concrete : Protocol Shared Local) (abstract : Protocol Abstract Role)
    (Output : Type) where
  share : Shared → Abstract → Prop
  couple : Local → Role → Prop
  sent : Shared → List Output
  kept : Local → List Output
  output : Role → List Output
  step : ∀ shared invocation after next goal role, share shared goal → couple invocation role →
    concrete shared invocation = some (after, next) →
    ∃ later part extra, (later = goal ∧ part = role ∨ abstract goal role = some (later, part)) ∧
      share after later ∧ couple next part ∧ output part = output role ++ extra ∧
      (sent after ++ kept next).Perm (sent shared ++ kept invocation ++ extra)

/-- The moving invocation exchanges its own outputs for the new ones. -/
theorem flatMap_set_exchange (outputs : Local → List Output) {invocations : List Local} {index : Nat}
    {invocation : Local} (found : invocations[index]? = some invocation) :
    ∃ rest, (invocations.flatMap outputs).Perm (outputs invocation ++ rest) ∧
      ∀ next, ((invocations.set index next).flatMap outputs).Perm (outputs next ++ rest) := by
  obtain ⟨inside, rfl⟩ := List.getElem?_eq_some_iff.mp found
  have exchange : ∀ moved, ((invocations.set index moved).flatMap outputs).Perm (outputs moved ++
      ((invocations.take index).flatMap outputs ++ (invocations.drop (index + 1)).flatMap outputs)) := by
    intro moved
    rw [List.set_eq_take_append_cons_drop, if_pos inside, List.flatMap_append, List.flatMap_cons]
    exact List.perm_append_comm_assoc _ _ _
  have old := exchange invocations[index]
  rw [List.set_getElem_self] at old
  exact ⟨_, old, exchange⟩

namespace Matching

variable {concrete : Protocol Shared Local} {abstract : Protocol Abstract Role}
  (matching : Matching concrete abstract Output)

/-- The two configurations match, and no output is lost or duplicated. -/
structure Holds (config : Configuration Shared Local) (goal : Configuration Abstract Role) : Prop where
  shared : matching.share config.shared goal.shared
  invocations : List.Forall₂ matching.couple config.invocations goal.invocations
  balanced : (matching.sent config.shared ++ config.invocations.flatMap matching.kept).Perm
    (goal.invocations.flatMap matching.output)

variable {matching} {config : Configuration Shared Local} {goal : Configuration Abstract Role}

/-- The matched invocations of two lists stay matched when the same one moves in both of them. -/
theorem forall₂_set {couple : Local → Role → Prop} {invocations : List Local} {roles : List Role}
    (couples : List.Forall₂ couple invocations roles) (index : Nat) {next : Local} {part : Role}
    (new : couple next part) :
    List.Forall₂ couple (invocations.set index next) (roles.set index part) := by
  induction couples generalizing index with
  | nil => exact List.Forall₂.nil
  | cons head tail ih =>
      cases index with
      | zero => exact List.Forall₂.cons new tail
      | succ index => exact List.Forall₂.cons head (ih index)

theorem forall₂_getElem? {couple : Local → Role → Prop} {invocations : List Local} {roles : List Role}
    (couples : List.Forall₂ couple invocations roles) {index : Nat} {invocation : Local}
    (found : invocations[index]? = some invocation) :
    ∃ role, roles[index]? = some role ∧ couple invocation role := by
  induction couples generalizing index with
  | nil => simp at found
  | cons head tail ih =>
      cases index with
      | zero =>
          obtain rfl := Option.some.inj found
          exact ⟨_, rfl, head⟩
      | succ index => exact ih found

/-- Sending a kept output keeps the balance of the moving invocation and of all others. -/
theorem balanced_set {index : Nat} {invocation next : Local} {role part : Role} {after : Shared}
    {extra : List Output} (found : config.invocations[index]? = some invocation)
    (played : goal.invocations[index]? = some role)
    (old : (matching.sent config.shared ++ config.invocations.flatMap matching.kept).Perm
      (goal.invocations.flatMap matching.output))
    (grown : matching.output part = matching.output role ++ extra)
    (moved : (matching.sent after ++ matching.kept next).Perm
      (matching.sent config.shared ++ matching.kept invocation ++ extra)) :
    (matching.sent after ++ (config.invocations.set index next).flatMap matching.kept).Perm
      ((goal.invocations.set index part).flatMap matching.output) := by
  obtain ⟨rest, before, behind⟩ := flatMap_set_exchange matching.kept found
  have outputs := flatMap_set_perm played grown
  have sum : (matching.sent config.shared ++ matching.kept invocation ++ rest).Perm
      (goal.invocations.flatMap matching.output) := by
    rw [List.append_assoc]
    exact (before.symm.append_left _).trans old
  calc
    (matching.sent after ++ (config.invocations.set index next).flatMap matching.kept).Perm
        (matching.sent after ++ (matching.kept next ++ rest)) := (behind next).append_left _
    _ = matching.sent after ++ matching.kept next ++ rest := (List.append_assoc ..).symm
    List.Perm _ (matching.sent config.shared ++ matching.kept invocation ++ extra ++ rest) :=
      moved.append_right _
    List.Perm _ (matching.sent config.shared ++ matching.kept invocation ++ rest ++ extra) := by
      rw [List.append_assoc _ extra rest, List.append_assoc _ rest extra]
      exact List.perm_append_comm.append_left _
    List.Perm _ (goal.invocations.flatMap matching.output ++ extra) := sum.append_right _
    List.Perm _ _ := outputs.symm

/-- A step of the first configuration is matched by one step of the same invocation or by none. -/
theorem Holds.fire (holds : matching.Holds config goal) (index : Nat) :
    matching.Holds (Library.fire concrete config index) goal ∨
      matching.Holds (Library.fire concrete config index) (Library.fire abstract goal index) := by
  rcases fire_cases concrete config index with
    unchanged | ⟨invocation, after, next, found, stepped, fired⟩
  · rw [unchanged]
    exact Or.inl holds
  · obtain ⟨role, played, coupled⟩ := forall₂_getElem? holds.invocations found
    obtain ⟨later, part, extra, move, shared, couple, grown, moved⟩ :=
      matching.step _ _ _ _ _ _ holds.shared coupled stepped
    have balanced := balanced_set found played holds.balanced grown moved
    have couples := forall₂_set holds.invocations index couple
    rw [fired]
    rcases move with ⟨rfl, rfl⟩ | acted
    · have same : goal.invocations.set index part = goal.invocations := by
        obtain ⟨inside, rfl⟩ := List.getElem?_eq_some_iff.mp played
        exact List.set_getElem_self inside
      rw [same] at couples balanced
      exact Or.inl ⟨shared, couples, balanced⟩
    · right
      rw [fire_eq played acted]
      exact ⟨shared, couples, balanced⟩

/-- Each schedule of the first protocol is matched by a part of it that the second one takes. -/
theorem Holds.run (holds : matching.Holds config goal) (schedule : List Nat) :
    ∃ shorter : List Nat, shorter.Sublist schedule ∧
      matching.Holds (Library.run concrete config schedule) (Library.run abstract goal shorter) := by
  induction schedule generalizing config goal with
  | nil => exact ⟨[], List.Sublist.refl [], holds⟩
  | cons index schedule ih =>
      rcases holds.fire index with waited | moved
      · obtain ⟨shorter, part, reached⟩ := ih waited
        exact ⟨shorter, part.cons index, reached⟩
      · obtain ⟨shorter, part, reached⟩ := ih moved
        exact ⟨index :: shorter, part.cons_cons index, reached⟩

/-- A bound for the steps that an invocation of the first protocol still takes. It is zero when the
invocation has stopped, and then its role has stopped too. -/
structure Bound (matching : Matching concrete abstract Output) where
  left : Local → Nat
  decreases : ∀ shared after invocation next goal role, matching.share shared goal →
    matching.couple invocation role → concrete shared invocation = some (after, next) →
    left next < left invocation
  stops : ∀ shared invocation goal role, matching.share shared goal → matching.couple invocation role →
    concrete shared invocation = none → left invocation = 0 ∧ abstract goal role = none

/-- An invocation that is given enough steps has none left. -/
theorem Holds.left_run (bound : matching.Bound) (holds : matching.Holds config goal) {index : Nat}
    {invocation : Local} (found : config.invocations[index]? = some invocation) (schedule : List Nat) :
    ∃ next, (Library.run concrete config schedule).invocations[index]? = some next ∧
      bound.left next ≤ bound.left invocation - schedule.count index := by
  induction schedule generalizing config goal invocation with
  | nil => exact ⟨invocation, found, le_rfl⟩
  | cons moving schedule ih =>
      have reached : ∃ after, matching.Holds (Library.fire concrete config moving) after := by
        rcases holds.fire moving with waited | moved
        · exact ⟨_, waited⟩
        · exact ⟨_, moved⟩
      obtain ⟨after, held⟩ := reached
      rw [run_cons]
      by_cases own : moving = index
      · subst own
        obtain ⟨role, _, coupled⟩ := forall₂_getElem? holds.invocations found
        rw [List.count_cons_self]
        cases stepped : concrete config.shared invocation with
        | none =>
            have stopped := (bound.stops _ _ _ _ holds.shared coupled stepped).1
            have same : Library.fire concrete config moving = config := by
              simp only [Library.fire, found, stepped]
            rw [same]
            obtain ⟨next, visited, left⟩ := ih holds found
            exact ⟨next, visited, by omega⟩
        | some result =>
            have fewer := bound.decreases _ _ _ _ _ _ holds.shared coupled stepped
            have moved : (Library.fire concrete config moving).invocations[moving]? = some result.2 := by
              rw [fire_eq found stepped]
              exact List.getElem?_set_self (List.getElem?_eq_some_iff.mp found).1
            obtain ⟨next, visited, left⟩ := ih held moved
            exact ⟨next, visited, by omega⟩
      · have kept : (Library.fire concrete config moving).invocations[index]? = some invocation := by
          rcases fire_cases concrete config moving with unchanged | ⟨other, shared, next, _, _, fired⟩
          · rw [unchanged]
            exact found
          · rw [fired, List.getElem?_set_ne own]
            exact found
        rw [List.count_cons_of_ne own]
        exact ih held kept

/-- The first protocol can take each step of the second one. -/
theorem Holds.realize_fire (bound : matching.Bound) (holds : matching.Holds config goal) (index : Nat) :
    ∃ count, matching.Holds (Library.run concrete config (List.replicate count index))
      (Library.fire abstract goal index) := by
  cases found : config.invocations[index]? with
  | none =>
      refine ⟨0, ?_⟩
      have outside : goal.invocations[index]? = none := by
        rw [List.getElem?_eq_none_iff, ← holds.invocations.length_eq]
        exact List.getElem?_eq_none_iff.mp found
      have same : Library.fire abstract goal index = goal := by simp only [Library.fire, outside]
      rw [same]
      exact holds
  | some invocation =>
      obtain ⟨role, played, coupled⟩ := forall₂_getElem? holds.invocations found
      -- The induction is on the steps that the invocation has left.
      generalize remaining : bound.left invocation = left
      induction left using Nat.strong_induction_on generalizing config invocation with
      | _ left ih =>
          cases stepped : concrete config.shared invocation with
          | none =>
              have stopped := (bound.stops _ _ _ _ holds.shared coupled stepped).2
              have same : Library.fire abstract goal index = goal := by
                simp only [Library.fire, played, stopped]
              rw [same]
              exact ⟨0, holds⟩
          | some result =>
              have fewer := bound.decreases _ _ _ _ _ _ holds.shared coupled stepped
              rcases holds.fire index with waited | moved
              · have next : (Library.fire concrete config index).invocations[index]? =
                    some result.2 := by
                  rw [fire_eq found stepped]
                  exact List.getElem?_set_self (List.getElem?_eq_some_iff.mp found).1
                obtain ⟨part, again, couple⟩ := forall₂_getElem? waited.invocations next
                rw [played] at again
                obtain rfl := Option.some.inj again
                obtain ⟨count, realized⟩ := ih _ (remaining ▸ fewer) waited _ next couple rfl
                exact ⟨count + 1, realized⟩
              · exact ⟨1, moved⟩

/-- An invocation that has not settled takes a step, and the second protocol does not notice it. -/
structure Settling (matching : Matching concrete abstract Output) where
  settled : Local → Prop
  silent : ∀ shared invocation goal role, matching.share shared goal →
    matching.couple invocation role → ¬ settled invocation →
    ∃ after next, concrete shared invocation = some (after, next) ∧ matching.share after goal ∧
      matching.couple next role ∧
      (matching.sent after ++ matching.kept next).Perm (matching.sent shared ++ matching.kept invocation)

/-- A step before an invocation has settled is matched by no step. -/
theorem Holds.fire_silent (settling : matching.Settling) (holds : matching.Holds config goal) {index : Nat}
    {invocation : Local} (found : config.invocations[index]? = some invocation)
    (unsettled : ¬ settling.settled invocation) :
    ∃ after next, concrete config.shared invocation = some (after, next) ∧
      matching.Holds (Library.fire concrete config index) goal := by
  obtain ⟨role, played, coupled⟩ := forall₂_getElem? holds.invocations found
  obtain ⟨after, next, stepped, shared, couple, moved⟩ :=
    settling.silent _ _ _ _ holds.shared coupled unsettled
  refine ⟨after, next, stepped, ?_⟩
  have couples := forall₂_set holds.invocations index couple
  rw [← List.append_nil (matching.sent config.shared ++ matching.kept invocation)] at moved
  have balanced := balanced_set found played holds.balanced (List.append_nil _).symm moved
  have same : goal.invocations.set index role = goal.invocations := by
    obtain ⟨inside, rfl⟩ := List.getElem?_eq_some_iff.mp played
    exact List.set_getElem_self inside
  rw [same] at couples balanced
  rw [fire_eq found stepped]
  exact ⟨shared, couples, balanced⟩

/-- An invocation settles when it runs alone for a while. -/
theorem Holds.settle (bound : matching.Bound) (settling : matching.Settling)
    (holds : matching.Holds config goal) (index : Nat) :
    ∃ count, matching.Holds (Library.run concrete config (List.replicate count index)) goal ∧
      ∀ invocation ∈ (Library.run concrete config (List.replicate count index)).invocations[index]?,
        settling.settled invocation := by
  cases found : config.invocations[index]? with
  | none =>
      refine ⟨0, holds, fun invocation member => ?_⟩
      rw [List.replicate_zero, run_nil, found] at member
      cases member
  | some invocation =>
      -- The induction is on the steps that the invocation has left.
      generalize remaining : bound.left invocation = left
      induction left using Nat.strong_induction_on generalizing config invocation with
      | _ left ih =>
          by_cases settled : settling.settled invocation
          · refine ⟨0, holds, fun same member => ?_⟩
            rw [List.replicate_zero, run_nil, found] at member
            obtain rfl := Option.mem_some_iff.mp member
            exact settled
          · obtain ⟨after, next, stepped, waited⟩ := holds.fire_silent settling found settled
            obtain ⟨role, _, coupled⟩ := forall₂_getElem? holds.invocations found
            have fewer := bound.decreases _ _ _ _ _ _ holds.shared coupled stepped
            have moved : (Library.fire concrete config index).invocations[index]? = some next := by
              rw [fire_eq found stepped]
              exact List.getElem?_set_self (List.getElem?_eq_some_iff.mp found).1
            obtain ⟨count, reached⟩ := ih _ (remaining ▸ fewer) waited _ moved rfl
            exact ⟨count + 1, reached⟩

/-- All invocations settle, one after the other. -/
theorem Holds.settle_all (bound : matching.Bound) (settling : matching.Settling)
    (holds : matching.Holds config goal) :
    ∃ schedule, matching.Holds (Library.run concrete config schedule) goal ∧
      ∀ invocation ∈ (Library.run concrete config schedule).invocations, settling.settled invocation := by
  have below : ∀ limit : Nat, ∃ schedule, matching.Holds (Library.run concrete config schedule) goal ∧
      ∀ index : Nat, index < limit →
        ∀ invocation ∈ (Library.run concrete config schedule).invocations[index]?,
          settling.settled invocation := by
    intro limit
    induction limit with
    | zero => exact ⟨[], holds, fun index before => absurd before (Nat.not_lt_zero index)⟩
    | succ limit ih =>
        obtain ⟨schedule, reached, settled⟩ := ih
        obtain ⟨count, waited, last⟩ := reached.settle bound settling limit
        refine ⟨schedule ++ List.replicate count limit, ?_, ?_⟩
        · rw [run_append]
          exact waited
        · intro index within invocation member
          rw [run_append] at member
          rcases Nat.lt_succ_iff_lt_or_eq.mp within with earlier | rfl
          · rw [run_replicate_other _ _ (Nat.ne_of_lt earlier) count] at member
            exact settled index earlier invocation member
          · exact last invocation member
  obtain ⟨schedule, reached, settled⟩ := below config.invocations.length
  refine ⟨schedule, reached, fun invocation member => ?_⟩
  obtain ⟨index, found⟩ := List.getElem?_of_mem member
  have inside := (List.getElem?_eq_some_iff.mp found).1
  rw [run_length] at inside
  exact settled index inside invocation found

/-- The first protocol realizes each schedule of the second one. -/
theorem Holds.realize (bound : matching.Bound) (holds : matching.Holds config goal) (shorter : List Nat) :
    ∃ schedule, matching.Holds (Library.run concrete config schedule)
      (Library.run abstract goal shorter) := by
  induction shorter generalizing config goal with
  | nil => exact ⟨[], holds⟩
  | cons index shorter ih =>
      obtain ⟨count, realized⟩ := holds.realize_fire bound index
      obtain ⟨schedule, reached⟩ := ih realized
      refine ⟨List.replicate count index ++ schedule, ?_⟩
      rw [run_append]
      exact reached

end Matching

end EbpfNotes.Library
