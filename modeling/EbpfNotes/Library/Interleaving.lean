import Mathlib.Tactic

namespace EbpfNotes.Library

/-- A protocol gives an invocation its next atomic step, or none when it is finished. -/
abbrev Protocol (Shared Local : Type) := Shared → Local → Option (Shared × Local)

/-- A configuration holds the shared state and one local state for each invocation. -/
structure Configuration (Shared Local : Type) where
  shared : Shared
  invocations : List Local

variable {Shared Local : Type}

/-- The scheduler gives one atomic step to the invocation at `index`. -/
def fire (protocol : Protocol Shared Local) (config : Configuration Shared Local) (index : Nat) :
    Configuration Shared Local :=
  match config.invocations[index]? with
  | none => config
  | some invocation =>
    match protocol config.shared invocation with
    | none => config
    | some (shared, next) => ⟨shared, config.invocations.set index next⟩

/-- A schedule names the invocation that takes each step. -/
def run (protocol : Protocol Shared Local) (config : Configuration Shared Local) :
    List Nat → Configuration Shared Local
  | [] => config
  | index :: schedule => run protocol (fire protocol config index) schedule

@[simp] theorem run_nil (protocol : Protocol Shared Local) (config : Configuration Shared Local) :
    run protocol config [] = config := rfl

@[simp] theorem run_cons (protocol : Protocol Shared Local) (config : Configuration Shared Local)
    (index : Nat) (schedule : List Nat) :
    run protocol config (index :: schedule) = run protocol (fire protocol config index) schedule := rfl

theorem run_append (protocol : Protocol Shared Local) (config : Configuration Shared Local)
    (first second : List Nat) :
    run protocol config (first ++ second) = run protocol (run protocol config first) second := by
  induction first generalizing config with
  | nil => rfl
  | cons index schedule ih => exact ih (fire protocol config index)

/-- A guard restricts the states in which an invocation may take its next step. -/
abbrev Guard (Shared Local : Type) := Configuration Shared Local → Local → Prop

/-- The next step of the invocation at `index` meets the guard. -/
def Allowed (guard : Guard Shared Local) (config : Configuration Shared Local) (index : Nat) : Prop :=
  ∀ invocation, config.invocations[index]? = some invocation → guard config invocation

instance (guard : Guard Shared Local) [∀ config invocation, Decidable (guard config invocation)]
    (config : Configuration Shared Local) (index : Nat) : Decidable (Allowed guard config index) :=
  decidable_of_iff (∀ invocation ∈ config.invocations[index]?, guard config invocation) Iff.rfl

/-- Every step of the schedule meets the guard in the state before it. -/
def Meets (protocol : Protocol Shared Local) (guard : Guard Shared Local) :
    Configuration Shared Local → List Nat → Prop
  | _, [] => True
  | config, index :: schedule =>
    Allowed guard config index ∧ Meets protocol guard (fire protocol config index) schedule

instance Meets.decidable (protocol : Protocol Shared Local) (guard : Guard Shared Local)
    [∀ config invocation, Decidable (guard config invocation)] :
    ∀ (config : Configuration Shared Local) (schedule : List Nat),
      Decidable (Meets protocol guard config schedule)
  | _, [] => inferInstanceAs (Decidable True)
  | config, index :: schedule =>
    have := Meets.decidable protocol guard (fire protocol config index) schedule
    inferInstanceAs (Decidable (_ ∧ _))

theorem Meets.mono {protocol : Protocol Shared Local} {guard weaker : Guard Shared Local}
    (implied : ∀ config invocation, guard config invocation → weaker config invocation)
    {config : Configuration Shared Local} {schedule : List Nat}
    (meets : Meets protocol guard config schedule) : Meets protocol weaker config schedule := by
  induction schedule generalizing config with
  | nil => trivial
  | cons index schedule ih =>
      exact ⟨fun invocation found => implied config invocation (meets.1 invocation found), ih meets.2⟩

/-- A step either changes nothing or moves exactly one invocation. -/
theorem fire_cases (protocol : Protocol Shared Local) (config : Configuration Shared Local)
    (index : Nat) :
    fire protocol config index = config ∨
      ∃ invocation shared next, config.invocations[index]? = some invocation ∧
        protocol config.shared invocation = some (shared, next) ∧
        fire protocol config index = ⟨shared, config.invocations.set index next⟩ := by
  unfold fire
  cases found : config.invocations[index]? with
  | none => exact Or.inl rfl
  | some invocation =>
      cases stepped : protocol config.shared invocation with
      | none => exact Or.inl (by simp only [stepped])
      | some result =>
          exact Or.inr ⟨invocation, result.1, result.2, rfl, stepped, by simp only [stepped]⟩

theorem fire_eq {protocol : Protocol Shared Local} {config : Configuration Shared Local} {index : Nat}
    {invocation next : Local} {shared : Shared}
    (found : config.invocations[index]? = some invocation)
    (stepped : protocol config.shared invocation = some (shared, next)) :
    fire protocol config index = ⟨shared, config.invocations.set index next⟩ := by
  simp only [fire, found, stepped]

/-- An invariant that each guarded step keeps holds after each guarded schedule. -/
theorem run_guarded (protocol : Protocol Shared Local) (guard : Guard Shared Local)
    (invariant : Configuration Shared Local → Prop)
    (preserved : ∀ config index invocation shared next, invariant config →
      guard config invocation → config.invocations[index]? = some invocation →
      protocol config.shared invocation = some (shared, next) →
      invariant ⟨shared, config.invocations.set index next⟩)
    {config : Configuration Shared Local} (initial : invariant config) {schedule : List Nat}
    (meets : Meets protocol guard config schedule) : invariant (run protocol config schedule) := by
  induction schedule generalizing config with
  | nil => exact initial
  | cons index schedule ih =>
      obtain ⟨allowed, rest⟩ := meets
      rw [run_cons]
      apply ih _ rest
      rcases fire_cases protocol config index with
        unchanged | ⟨invocation, shared, next, found, stepped, fired⟩
      · rw [unchanged]; exact initial
      · rw [fired]
        exact preserved config index invocation shared next initial (allowed invocation found)
          found stepped

theorem meets_free (protocol : Protocol Shared Local) (config : Configuration Shared Local)
    (schedule : List Nat) : Meets protocol (fun _ _ => True) config schedule := by
  induction schedule generalizing config with
  | nil => trivial
  | cons index schedule ih => exact ⟨fun _ _ => trivial, ih _⟩

/-- An invariant that each step keeps holds after each schedule. -/
theorem run_invariant (protocol : Protocol Shared Local)
    (invariant : Configuration Shared Local → Prop)
    (preserved : ∀ config index invocation shared next, invariant config →
      config.invocations[index]? = some invocation →
      protocol config.shared invocation = some (shared, next) →
      invariant ⟨shared, config.invocations.set index next⟩)
    {config : Configuration Shared Local} (initial : invariant config) (schedule : List Nat) :
    invariant (run protocol config schedule) :=
  run_guarded protocol (fun _ _ => True) invariant
    (fun config index invocation shared next holds _ => preserved config index invocation shared next holds)
    initial (meets_free protocol config schedule)

/-- A schedule that breaks the guard breaks it first at a step after a guarded schedule. -/
theorem exists_of_not_meets {protocol : Protocol Shared Local} {guard : Guard Shared Local}
    {config : Configuration Shared Local} {schedule : List Nat}
    (broken : ¬ Meets protocol guard config schedule) :
    ∃ before index after invocation, schedule = before ++ index :: after ∧
      Meets protocol guard config before ∧
      (run protocol config before).invocations[index]? = some invocation ∧
      ¬ guard (run protocol config before) invocation := by
  induction schedule generalizing config with
  | nil => exact absurd trivial broken
  | cons index schedule ih =>
      by_cases allowed : Allowed guard config index
      · obtain ⟨before, first, after, invocation, split, meets, found, refused⟩ :=
          ih fun rest => broken ⟨allowed, rest⟩
        exact ⟨index :: before, first, after, invocation, by rw [split, List.cons_append],
          ⟨allowed, meets⟩, found, refused⟩
      · have offender : ∃ invocation, config.invocations[index]? = some invocation ∧
            ¬ guard config invocation := by
          simpa only [Allowed, not_forall, exists_prop] using allowed
        rcases offender with ⟨invocation, found, refused⟩
        exact ⟨[], index, schedule, invocation, rfl, trivial, found, refused⟩

/-- The count of invocations in a phase changes only by the invocation that moves. -/
theorem countP_set_add {p : Local → Bool} {invocations : List Local} {index : Nat}
    {invocation : Local} (next : Local) (found : invocations[index]? = some invocation) :
    (invocations.set index next).countP p + (if p invocation then 1 else 0) =
      invocations.countP p + (if p next then 1 else 0) := by
  obtain ⟨inside, rfl⟩ := List.getElem?_eq_some_iff.mp found
  rw [List.countP_set inside]
  by_cases counted : p invocations[index] = true
  · have positive : 0 < invocations.countP p :=
      List.countP_pos_iff.mpr ⟨_, List.getElem_mem inside, counted⟩
    simp only [counted, if_true]
    omega
  · simp only [counted]
    simp

/-- The outputs of all invocations grow by what the moving invocation adds to its own. -/
theorem flatMap_set_perm {Output : Type} {outputs : Local → List Output} {invocations : List Local}
    {index : Nat} {invocation next : Local} {extra : List Output}
    (found : invocations[index]? = some invocation)
    (grown : outputs next = outputs invocation ++ extra) :
    ((invocations.set index next).flatMap outputs).Perm (invocations.flatMap outputs ++ extra) := by
  obtain ⟨inside, rfl⟩ := List.getElem?_eq_some_iff.mp found
  have before : invocations.flatMap outputs = (invocations.take index).flatMap outputs ++
      (outputs invocations[index] ++ (invocations.drop (index + 1)).flatMap outputs) := by
    rw [← List.flatMap_cons, List.getElem_cons_drop, ← List.flatMap_append, List.take_append_drop]
  rw [List.set_eq_take_append_cons_drop, if_pos inside, List.flatMap_append, List.flatMap_cons, grown,
    before, List.append_assoc, List.append_assoc, List.append_assoc]
  exact (List.perm_append_comm.append_left _).append_left _

/-- A local property of all invocations survives when the moving invocation keeps it. -/
theorem forall_mem_set {property : Local → Prop} {invocations : List Local} (index : Nat)
    {next : Local} (old : ∀ invocation ∈ invocations, property invocation) (new : property next) :
    ∀ invocation ∈ invocations.set index next, property invocation := by
  intro invocation member
  rcases List.mem_or_eq_of_mem_set member with kept | rfl
  · exact old invocation kept
  · exact new

/-- A local value that no step changes stays the same for each invocation. -/
theorem run_map {protocol : Protocol Shared Local} {Value : Type} (value : Local → Value)
    (kept : ∀ shared invocation after next, protocol shared invocation = some (after, next) →
      value next = value invocation)
    (config : Configuration Shared Local) (schedule : List Nat) :
    (run protocol config schedule).invocations.map value = config.invocations.map value := by
  refine run_invariant protocol
    (fun reached => reached.invocations.map value = config.invocations.map value)
    ?_ rfl schedule
  intro reached index invocation shared next same found stepped
  obtain ⟨inside, rfl⟩ := List.getElem?_eq_some_iff.mp found
  rw [List.map_set, kept _ _ _ _ stepped, same.symm]
  apply List.ext_getElem
  · simp
  · intro position within _
    by_cases moved : index = position
    · subst moved; simp
    · simp [moved]

/-- Each step of an invocation uses up one unit of its bound, whatever the other invocations do. -/
theorem run_within {protocol : Protocol Shared Local} {within : Nat → Local → Prop}
    (steps : ∀ bound shared invocation after next, within bound invocation →
      protocol shared invocation = some (after, next) → ∃ less, bound = less + 1 ∧ within less next)
    (stops : ∀ bound shared invocation, within (bound + 1) invocation →
      protocol shared invocation = none → within bound invocation)
    {config : Configuration Shared Local} {index bound : Nat} {invocation : Local}
    (found : config.invocations[index]? = some invocation) (start : within bound invocation)
    (schedule : List Nat) :
    ∃ next, (run protocol config schedule).invocations[index]? = some next ∧
      within (bound - schedule.count index) next := by
  induction schedule generalizing config bound invocation with
  | nil => exact ⟨invocation, found, start⟩
  | cons moving schedule ih =>
      by_cases own : moving = index
      · subst own
        rw [run_cons, List.count_cons_self]
        cases stepped : protocol config.shared invocation with
        | none =>
            have kept : fire protocol config moving = config := by simp only [fire, found, stepped]
            rw [kept]
            cases bound with
            | zero => simpa using ih found start
            | succ less =>
                rw [Nat.add_sub_add_right]
                exact ih found (stops less _ _ start stepped)
        | some result =>
            obtain ⟨less, rfl, after⟩ := steps bound _ _ _ _ start stepped
            rw [Nat.add_sub_add_right]
            apply ih _ after
            rw [fire_eq found stepped]
            exact List.getElem?_set_self (List.getElem?_eq_some_iff.mp found).1
      · rw [run_cons, List.count_cons_of_ne own]
        apply ih _ start
        rcases fire_cases protocol config moving with
          unchanged | ⟨other, shared, next, _, _, fired⟩
        · rw [unchanged]
          exact found
        · rw [fired, List.getElem?_set_ne own]
          exact found

/-- No step adds or removes an invocation. -/
theorem run_length (protocol : Protocol Shared Local) (config : Configuration Shared Local)
    (schedule : List Nat) :
    (run protocol config schedule).invocations.length = config.invocations.length := by
  have same : (run protocol config schedule).invocations.map (fun _ => ()) =
      config.invocations.map fun _ => () := run_map _ (fun _ _ _ _ _ => rfl) config schedule
  simpa using congrArg List.length same

/-- The steps of one invocation leave the others where they are. -/
theorem run_replicate_other (protocol : Protocol Shared Local) (config : Configuration Shared Local)
    {index other : Nat} (different : other ≠ index) (count : Nat) :
    (run protocol config (List.replicate count index)).invocations[other]? =
      config.invocations[other]? := by
  induction count generalizing config with
  | zero => rfl
  | succ count ih =>
      rw [List.replicate_succ, run_cons, ih]
      rcases fire_cases protocol config index with
        unchanged | ⟨invocation, shared, next, _, _, fired⟩
      · rw [unchanged]
      · rw [fired, List.getElem?_set_ne different.symm]

/-- Nothing happens any more when every invocation has stopped. -/
theorem run_stopped {protocol : Protocol Shared Local} {config : Configuration Shared Local}
    (stopped : ∀ invocation ∈ config.invocations, protocol config.shared invocation = none)
    (schedule : List Nat) : run protocol config schedule = config := by
  induction schedule with
  | nil => rfl
  | cons index schedule ih =>
      have same : fire protocol config index = config := by
        rcases fire_cases protocol config index with
          unchanged | ⟨invocation, shared, next, found, stepped, _⟩
        · exact unchanged
        · rw [stopped invocation (List.mem_of_getElem? found)] at stepped
          cases stepped
      rw [run_cons, same, ih]

end EbpfNotes.Library
