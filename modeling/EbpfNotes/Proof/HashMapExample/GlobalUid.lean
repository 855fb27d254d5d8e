import EbpfNotes.Construction.HashMapExampleDup
import EbpfNotes.Proof.HashMapExample.Undercount

namespace EbpfNotes.HashMapExampleDup

open Library
open HashMapExample (CounterTable maskUid loadCounter_lookup toNat_succ_le)

/-- A single invocation changes the table like the program with the local variable. -/
theorem hello_counterTable (globals : Globals) (uidGid : Word) :
    (hello globals uidGid).2.kernel = (HashMapExample.hello globals.kernel uidGid).2 := rfl

/-- Three uninterrupted steps of an invocation are one call of `hello`. -/
theorem helloStep_solo (globals : Globals) (uidGid : Word) :
    run helloStep ⟨⟨globals.uid, globals.kernel.counterTable⟩, [⟨uidGid, .start⟩]⟩ [0, 0, 0] =
      ⟨⟨(hello globals uidGid).2.uid, (hello globals uidGid).2.kernel.counterTable⟩,
        [⟨uidGid, .done (maskUid uidGid) (maskUid uidGid)⟩]⟩ := rfl

/-- A step stores the global, looks up at the global, or updates at the global. -/
theorem helloStep_cases {shared after : Shared} {invocation next : Invocation}
    (stepped : helloStep shared invocation = some (after, next)) :
    (invocation.phase = .start ∧ after = { shared with uid := invocation.uid } ∧
      next = { invocation with phase := .stored }) ∨
    (invocation.phase = .stored ∧ after = shared ∧
      next = { invocation with
        phase := .loaded shared.uid (current shared.counterTable shared.uid) }) ∨
    ∃ loadKey counter, invocation.phase = .loaded loadKey counter ∧
      after = { shared with counterTable := shared.counterTable.set shared.uid (counter + 1) } ∧
      next = { invocation with phase := .done loadKey shared.uid } := by
  unfold helloStep at stepped
  cases reached : invocation.phase with
  | start =>
      rw [reached] at stepped
      obtain ⟨rfl, rfl⟩ := Prod.mk.inj (Option.some.inj stepped)
      exact Or.inl ⟨rfl, rfl, rfl⟩
  | stored =>
      rw [reached, loadCounter_lookup] at stepped
      obtain ⟨rfl, rfl⟩ := Prod.mk.inj (Option.some.inj stepped)
      exact Or.inr (Or.inl ⟨rfl, rfl, rfl⟩)
  | loaded loadKey counter =>
      rw [reached] at stepped
      obtain ⟨rfl, rfl⟩ := Prod.mk.inj (Option.some.inj stepped)
      exact Or.inr (Or.inr ⟨loadKey, counter, rfl,
        by rw [← bpfMapUpdateElem_any]; rfl, rfl⟩)
  | done loadKey updateKey => rw [reached] at stepped; cases stepped

/-- Every update goes from the entry of the invocation's own user to the same entry. -/
structure Attributed (config : Configuration Shared Invocation) : Prop where
  updates : ∀ invocation ∈ config.invocations, ∀ loadKey updateKey,
    invocation.phase = .done loadKey updateKey →
      loadKey = invocation.uid ∧ updateKey = invocation.uid
  bounded : ∀ uid value, config.shared.counterTable.lookup uid = some value →
    value.toNat ≤ config.invocations.countP fun invocation => invocation.uid = uid
  owned : ∀ uid ∈ config.shared.counterTable.keys, ∃ invocation ∈ config.invocations,
    invocation.uid = uid

/-- No invocation stores its user while another user's invocation still needs the global. -/
def Undisturbed : Guard Shared Invocation := fun config invocation =>
  invocation.phase = .start →
    ∀ other ∈ config.invocations, other.active = true → other.uid = invocation.uid

instance (config : Configuration Shared Invocation) (invocation : Invocation) :
    Decidable (Undisturbed config invocation) :=
  have : Decidable (∀ other ∈ config.invocations, other.active = true → other.uid = invocation.uid) :=
    List.decidableBAll _ _
  inferInstanceAs (Decidable (_ → _))

/-- An invocation in a phase reads and writes the entry of its own user. -/
def Invocation.Keyed (config : Configuration Shared Invocation) (invocation : Invocation) : Prop :=
  match invocation.phase with
  | .start => True
  | .stored => config.shared.uid = invocation.uid
  | .loaded loadKey counter => config.shared.uid = invocation.uid ∧ loadKey = invocation.uid ∧
      counter.toNat ≤ completions config invocation.uid
  | .done loadKey updateKey => loadKey = invocation.uid ∧ updateKey = invocation.uid

/-- Every invocation keeps its key and every entry is bounded by its completed updates. -/
structure Faithful (config : Configuration Shared Invocation) : Prop where
  keyed : ∀ invocation ∈ config.invocations, invocation.Keyed config
  stored : ∀ uid value, config.shared.counterTable.lookup uid = some value →
    value.toNat ≤ completions config uid
  served : ∀ uid ∈ config.shared.counterTable.keys, 0 < completions config uid

section Counts

variable {config : Configuration Shared Invocation} {index : Nat} {invocation : Invocation}

/-- Only an update completes an invocation. -/
theorem completions_before (shared : Shared) (phase : Phase) (uid : Word)
    (found : config.invocations[index]? = some invocation)
    (before : invocation.completed uid = false)
    (after : Invocation.completed uid { invocation with phase := phase } = false) :
    completions ⟨shared, config.invocations.set index { invocation with phase := phase }⟩ uid =
      completions config uid := by
  have completed := countP_set_add (p := Invocation.completed uid)
    { invocation with phase := phase } found
  simpa [completions, before, after] using completed

theorem completions_update (shared : Shared) {loadKey counter : Word} (updateKey uid : Word)
    (found : config.invocations[index]? = some invocation)
    (reached : invocation.phase = .loaded loadKey counter) :
    completions ⟨shared, config.invocations.set index
      { invocation with phase := .done loadKey updateKey }⟩ uid =
      completions config uid + if invocation.uid = uid then 1 else 0 := by
  have completed := countP_set_add (p := Invocation.completed uid)
    { invocation with phase := .done loadKey updateKey } found
  obtain ⟨uidGid, phase⟩ := invocation
  change phase = .loaded loadKey counter at reached
  subst reached
  by_cases own : maskUid uidGid = uid <;>
    simpa [completions, Invocation.completed, Invocation.uid, own] using completed

end Counts

/-- A key survives while the global stays with the active user and no completion is undone. -/
theorem Invocation.Keyed.mono {config after : Configuration Shared Invocation} {invocation : Invocation}
    (keyed : invocation.Keyed config)
    (global : invocation.active = true → after.shared.uid = invocation.uid)
    (counts : completions config invocation.uid ≤ completions after invocation.uid) :
    invocation.Keyed after := by
  unfold Invocation.Keyed Invocation.active at *
  cases reached : invocation.phase with
  | start => trivial
  | stored => rw [reached] at global; exact global rfl
  | loaded loadKey counter =>
      rw [reached] at keyed global
      exact ⟨global rfl, keyed.2.1, keyed.2.2.trans counts⟩
  | done loadKey updateKey => rw [reached] at keyed; exact keyed

/-- The global holds the user of every active invocation. -/
theorem Faithful.global {config : Configuration Shared Invocation} (holds : Faithful config)
    {invocation : Invocation} (member : invocation ∈ config.invocations)
    (active : invocation.active = true) : config.shared.uid = invocation.uid := by
  have keyed := holds.keyed invocation member
  unfold Invocation.Keyed Invocation.active at *
  cases reached : invocation.phase with
  | start => rw [reached] at active; cases active
  | stored => rw [reached] at keyed; exact keyed
  | loaded loadKey counter => rw [reached] at keyed; exact keyed.1
  | done loadKey updateKey => rw [reached] at active; cases active

theorem Faithful.current_le {config : Configuration Shared Invocation} (holds : Faithful config)
    (uid : Word) : (current config.shared.counterTable uid).toNat ≤ completions config uid := by
  unfold current
  cases found : config.shared.counterTable.lookup uid with
  | none => exact Nat.zero_le _
  | some value => exact holds.stored uid value found

/-- A store keeps the keys because every active invocation has the same user. -/
theorem Faithful.store {config : Configuration Shared Invocation} {index : Nat}
    {invocation : Invocation} (holds : Faithful config)
    (undisturbed : Undisturbed config invocation)
    (found : config.invocations[index]? = some invocation) (starts : invocation.phase = .start) :
    Faithful ⟨{ config.shared with uid := invocation.uid },
      config.invocations.set index { invocation with phase := .stored }⟩ := by
  have same (uid : Word) := completions_before
    { config.shared with uid := invocation.uid } .stored uid found
    (by simp [Invocation.completed, starts]) (by simp [Invocation.completed])
  constructor
  · refine forall_mem_set index (fun other inside => ?_) rfl
    refine (holds.keyed other inside).mono (fun active => ?_) (same other.uid).ge
    exact (undisturbed starts other inside active).symm
  · intro uid
    rw [same]
    exact holds.stored uid
  · intro uid
    rw [same]
    exact holds.served uid

/-- A lookup goes to the invocation's own entry. -/
theorem Faithful.lookup {config : Configuration Shared Invocation} {index : Nat}
    {invocation : Invocation} (holds : Faithful config)
    (found : config.invocations[index]? = some invocation) (reached : invocation.phase = .stored) :
    Faithful ⟨config.shared, config.invocations.set index
      { invocation with
        phase := .loaded config.shared.uid
          (current config.shared.counterTable config.shared.uid) }⟩ := by
  have same (uid : Word) := completions_before config.shared
    (.loaded config.shared.uid (current config.shared.counterTable config.shared.uid)) uid
    found (by simp [Invocation.completed, reached]) (by simp [Invocation.completed])
  have own := holds.global (List.mem_of_getElem? found) (by simp [Invocation.active, reached])
  constructor
  · refine forall_mem_set index (fun other inside => ?_) ⟨own, own, ?_⟩
    · exact (holds.keyed other inside).mono (holds.global inside) (same other.uid).ge
    · rw [same, own]
      exact holds.current_le _
  · intro uid
    rw [same]
    exact holds.stored uid
  · intro uid
    rw [same]
    exact holds.served uid

/-- An update goes to the invocation's own entry and completes it. -/
theorem Faithful.update {config : Configuration Shared Invocation} {index : Nat}
    {invocation : Invocation} {loadKey counter : Word} (holds : Faithful config)
    (found : config.invocations[index]? = some invocation)
    (reached : invocation.phase = .loaded loadKey counter) :
    Faithful ⟨{ config.shared with counterTable :=
        config.shared.counterTable.set config.shared.uid (counter + 1) },
      config.invocations.set index
        { invocation with phase := .done loadKey config.shared.uid }⟩ := by
  have count (uid : Word) := completions_update
    { config.shared with counterTable :=
        config.shared.counterTable.set config.shared.uid (counter + 1) } config.shared.uid uid found reached
  have keyed := holds.keyed invocation (List.mem_of_getElem? found)
  unfold Invocation.Keyed at keyed
  rw [reached] at keyed
  obtain ⟨own, loadOwn, below⟩ := keyed
  constructor
  · refine forall_mem_set index (fun other inside => ?_) ⟨loadOwn, own⟩
    refine (holds.keyed other inside).mono (holds.global inside) ?_
    rw [count]
    exact Nat.le_add_right _ _
  · intro uid value written
    rw [count]
    change (config.shared.counterTable.set config.shared.uid (counter + 1)).lookup uid = some value
      at written
    rw [Table.lookup_set] at written
    split at written
    · next hit =>
        have bound := toNat_succ_le counter
        rw [if_pos (own.symm.trans hit.1.symm), ← Option.some.inj written, hit.1, own]
        omega
    · exact (holds.stored uid value written).trans (Nat.le_add_right _ _)
  · intro uid present
    rw [count]
    rcases Table.mem_keys_of_set present with hit | old
    · rw [if_pos (own.symm.trans hit.symm)]
      exact Nat.succ_pos _
    · exact (holds.served uid old).trans_le (Nat.le_add_right _ _)

theorem Faithful.step {config : Configuration Shared Invocation} {index : Nat}
    {invocation next : Invocation} {shared : Shared} (holds : Faithful config)
    (undisturbed : Undisturbed config invocation)
    (found : config.invocations[index]? = some invocation)
    (stepped : helloStep config.shared invocation = some (shared, next)) :
    Faithful ⟨shared, config.invocations.set index next⟩ := by
  rcases helloStep_cases stepped with
    ⟨starts, rfl, rfl⟩ | ⟨reached, rfl, rfl⟩ | ⟨loadKey, counter, reached, rfl, rfl⟩
  · exact holds.store undisturbed found starts
  · exact holds.lookup found reached
  · exact holds.update found reached

theorem faithful_initial (uidGids : List Word) : Faithful (initial uidGids) where
  keyed invocation member := by
    obtain ⟨uidGid, _, rfl⟩ := List.mem_map.mp member
    trivial
  stored uid value found := by simp [initial] at found
  served uid present := by simp [initial] at present

theorem completions_le (config : Configuration Shared Invocation) (uid : Word) :
    completions config uid ≤ config.invocations.countP fun invocation => invocation.uid = uid :=
  List.countP_mono_left fun invocation _ completed => by
    simp only [Invocation.completed, Bool.and_eq_true] at completed
    exact completed.1

theorem Faithful.attributed {config : Configuration Shared Invocation} (holds : Faithful config) :
    Attributed config where
  updates invocation member loadKey updateKey reached := by
    have keyed := holds.keyed invocation member
    unfold Invocation.Keyed at keyed
    rwa [reached] at keyed
  bounded uid value found := (holds.stored uid value found).trans (completions_le config uid)
  owned uid present := by
    obtain ⟨invocation, member, completed⟩ := List.countP_pos_iff.mp (holds.served uid present)
    simp only [Invocation.completed, Bool.and_eq_true, decide_eq_true_eq] at completed
    exact ⟨invocation, member, completed.1⟩

/-- Undisturbed runs attribute every update in every reachable state. -/
theorem attributed_of_undisturbed {uidGids : List Word} {schedule : List Nat}
    (undisturbed : Meets helloStep Undisturbed (initial uidGids) schedule) :
    Attributed (run helloStep (initial uidGids) schedule) :=
  (run_guarded helloStep Undisturbed Faithful
    (fun _ _ _ _ _ holds undisturbed found stepped => holds.step undisturbed found stepped)
    (faithful_initial uidGids) undisturbed).attributed

/-- An update at a foreign global goes to a foreign entry. -/
theorem misattributed_of_loaded {config : Configuration Shared Invocation} {index : Nat}
    {invocation : Invocation} {loadKey counter : Word}
    (found : config.invocations[index]? = some invocation)
    (reached : invocation.phase = .loaded loadKey counter)
    (foreign : config.shared.uid ≠ invocation.uid) : ¬ Attributed (fire helloStep config index) := by
  intro attributed
  have inside := (List.getElem?_eq_some_iff.mp found).1
  have stepped : helloStep config.shared invocation = some
      ({ config.shared with counterTable :=
          (bpfMapUpdateElem config.shared.counterTable config.shared.uid (counter + 1) 0).2 },
        { invocation with phase := .done loadKey config.shared.uid }) := by
    simp only [helloStep, reached]
  rw [fire_eq found stepped] at attributed
  have updated := attributed.updates { invocation with phase := .done loadKey config.shared.uid }
    (List.mem_of_getElem? (i := index) (List.getElem?_set_self inside)) loadKey config.shared.uid rfl
  exact foreign updated.2

/-- An active invocation that meets a foreign global reaches a foreign entry in at most two steps. -/
theorem misattributed_of_foreign {config : Configuration Shared Invocation} {index : Nat}
    {invocation : Invocation} (found : config.invocations[index]? = some invocation)
    (active : invocation.active = true) (foreign : config.shared.uid ≠ invocation.uid) :
    ∃ steps ≤ 2, ¬ Attributed (run helloStep config (List.replicate steps index)) := by
  have inside := (List.getElem?_eq_some_iff.mp found).1
  cases reached : invocation.phase with
  | start => simp [Invocation.active, reached] at active
  | stored =>
      refine ⟨2, Nat.le_refl 2, ?_⟩
      have stepped : helloStep config.shared invocation = some (config.shared,
          { invocation with
            phase := .loaded config.shared.uid
              (current config.shared.counterTable config.shared.uid) }) := by
        simp only [helloStep, reached, loadCounter_lookup]
      rw [List.replicate_succ, run_cons, fire_eq found stepped]
      exact misattributed_of_loaded (List.getElem?_set_self inside) rfl foreign
  | loaded loadKey counter =>
      exact ⟨1, Nat.le_succ 1, misattributed_of_loaded found reached foreign⟩
  | done loadKey updateKey => simp [Invocation.active, reached] at active

/-- At most two steps after a disturbing store an update is misattributed. -/
theorem exists_misattributed_of_disturbed {uidGids : List Word} {schedule : List Nat}
    (disturbed : ¬ Meets helloStep Undisturbed (initial uidGids) schedule) :
    ∃ before position, ∃ steps ≤ 2, before <+: schedule ∧
      ¬ Attributed (run helloStep (initial uidGids) (before ++ List.replicate steps position)) := by
  obtain ⟨before, index, after, invocation, split, _, found, refused⟩ := exists_of_not_meets disturbed
  simp only [Undisturbed, not_forall, exists_prop] at refused
  obtain ⟨starts, other, member, active, foreign⟩ := refused
  have stepped : helloStep (run helloStep (initial uidGids) before).shared invocation =
      some ({ (run helloStep (initial uidGids) before).shared with uid := invocation.uid },
        { invocation with phase := .stored }) := by
    simp only [helloStep, starts]
  obtain ⟨position, present⟩ := List.getElem?_of_mem member
  have different : index ≠ position := by
    rintro rfl
    rw [found] at present
    obtain rfl := Option.some.inj present
    simp [Invocation.active, starts] at active
  have kept : (fire helloStep (run helloStep (initial uidGids) before) index).invocations[position]? =
      some other := by
    rw [fire_eq found stepped, List.getElem?_set_ne different, present]
  have overwritten : (fire helloStep (run helloStep (initial uidGids) before) index).shared.uid ≠
      other.uid := by
    rw [fire_eq found stepped]
    exact Ne.symm foreign
  obtain ⟨steps, few, wrong⟩ := misattributed_of_foreign kept active overwritten
  refine ⟨before ++ [index], position, steps, few,
    ⟨after, by rw [split, List.append_assoc]; rfl⟩, ?_⟩
  rw [run_append, run_append]
  exact wrong

/-- Updates are attributed in the runs without a disturbing store, and at most two steps after a
disturbing store an update is misattributed. -/
theorem helloStep_attributed (uidGids : List Word) (schedule : List Nat) :
    (Meets helloStep Undisturbed (initial uidGids) schedule →
      Attributed (run helloStep (initial uidGids) schedule)) ∧
    (¬ Meets helloStep Undisturbed (initial uidGids) schedule →
      ∃ before position, ∃ steps ≤ 2, before <+: schedule ∧
        ¬ Attributed (run helloStep (initial uidGids) (before ++ List.replicate steps position))) :=
  ⟨attributed_of_undisturbed, exists_misattributed_of_disturbed⟩

/-- User 7 stores the global, user 8 overwrites it, and user 7 updates the entry of user 8. -/
theorem helloStep_misattributes :
    ¬ ∀ (uidGids : List Word) (schedule : List Nat),
      Attributed (run helloStep (initial uidGids) schedule) := by
  intro always
  have own := (always [7, 8] [0, 1, 0, 0]).updates ⟨7, .done 8 8⟩ (by decide +kernel) 8 8 rfl
  exact absurd own.1 (by decide)

end EbpfNotes.HashMapExampleDup
