import EbpfNotes.Proof.HashMapExample.Undercount

namespace EbpfNotes.HashMapExample

open Library

/-- The finished run counts every invocation of every user. -/
def NoLostUpdate (uidGids : List Word) (config : Configuration CounterTable Invocation) : Prop :=
  ∀ uid ∈ uidGids.map maskUid, config.shared.lookup uid =
    some (BitVec.ofNat 64 ((uidGids.map maskUid).count uid))

instance (uidGids : List Word) (config : Configuration CounterTable Invocation) :
    Decidable (NoLostUpdate uidGids config) := List.decidableBAll _ _

instance (config : Configuration CounterTable Invocation) : Decidable (Finished config) :=
  List.decidableBAll _ _

/-- No lookup falls between the lookup and the update of another invocation for the same user. -/
def NonOverlapping : Guard CounterTable Invocation := fun config invocation =>
  invocation.phase = .start → ∀ other ∈ config.invocations, other.pending invocation.uid = false

instance (config : Configuration CounterTable Invocation) (invocation : Invocation) :
    Decidable (NonOverlapping config invocation) := inferInstanceAs (Decidable (_ → _))

theorem sole_of_nonOverlapping {schedule : List Nat} {config : Configuration CounterTable Invocation}
    (meets : Meets helloStep NonOverlapping config schedule) (uid : Word) :
    Meets helloStep (Sole uid) config schedule :=
  meets.mono fun _ _ apart own starts => own ▸ apart starts

theorem run_uids (uidGids : List Word) (schedule : List Nat) :
    (run helloStep (initial uidGids) schedule).invocations.map Invocation.uid =
      uidGids.map maskUid := by
  rw [run_map Invocation.uid]
  · simp [initial, Invocation.uid, Function.comp_def]
  · intro shared invocation after next stepped
    rcases helloStep_cases stepped with ⟨_, _, rfl⟩ | ⟨counter, _, _, rfl⟩ <;> rfl

/-- A finished run has completed every invocation of the user. -/
theorem completions_finished {uidGids : List Word} {schedule : List Nat}
    (finished : Finished (run helloStep (initial uidGids) schedule)) (uid : Word) :
    completions (run helloStep (initial uidGids) schedule) uid = (uidGids.map maskUid).count uid := by
  rw [← run_uids uidGids schedule, List.count_eq_countP, List.countP_map, completions]
  apply List.countP_congr
  intro invocation member
  simp [Invocation.completed, finished invocation member]

theorem waiting_finished {config : Configuration CounterTable Invocation}
    (finished : Finished config) (uid : Word) : waiting config uid = 0 := by
  apply (waiting_eq_zero config uid).mpr
  intro invocation member
  simp [Invocation.pending, finished invocation member]

/-- A user of the run has a slot, because the entries belong to users of the run. -/
theorem admits_of_users {uidGids : List Word} (schedule : List Nat)
    (capacity : (uidGids.map maskUid).eraseDups.length ≤ 5000000) {uid : Word}
    (member : uid ∈ uidGids.map maskUid) :
    (run helloStep (initial uidGids) schedule).shared.Admits uid := by
  by_cases present : uid ∈ (run helloStep (initial uidGids) schedule).shared.keys
  · exact Or.inl present
  · right
    have users : uid :: (run helloStep (initial uidGids) schedule).shared.keys ⊆
        (uidGids.map maskUid).eraseDups := by
      rintro user (_ | ⟨_, stored⟩)
      · exact List.mem_eraseDups.mpr member
      · have served := (undercounts_run uidGids schedule user).served stored
        obtain ⟨invocation, inside, completed⟩ := List.countP_pos_iff.mp served
        rw [List.mem_eraseDups, ← run_uids uidGids schedule]
        simp only [Invocation.completed, Bool.and_eq_true, decide_eq_true_eq] at completed
        exact List.mem_map.mpr ⟨invocation, inside, completed.1⟩
    have distinct : (uid :: (run helloStep (initial uidGids) schedule).shared.keys).Nodup :=
      List.nodup_cons.mpr ⟨present, Table.keys_nodup _⟩
    have length := (distinct.subperm users).length_le
    rw [List.length_cons] at length
    omega

/-- Without overlap, a finished run counts every invocation. -/
theorem noLostUpdate_of_nonOverlapping {uidGids : List Word} {schedule : List Nat}
    (capacity : (uidGids.map maskUid).eraseDups.length ≤ 5000000)
    (finished : Finished (run helloStep (initial uidGids) schedule))
    (apart : Meets helloStep NonOverlapping (initial uidGids) schedule) :
    NoLostUpdate uidGids (run helloStep (initial uidGids) schedule) := by
  intro uid member
  have exclusive := exclusive_run uidGids schedule uid (sole_of_nonOverlapping apart uid)
  have counted := completions_finished finished uid
  have present : uid ∈ (run helloStep (initial uidGids) schedule).shared.keys := by
    have positive : 0 < completions (run helloStep (initial uidGids) schedule) uid := by
      rw [counted]; exact List.count_pos_iff.mpr member
    rcases exclusive.tallied.stored positive with stored | full
    · exact stored
    · rcases admits_of_users schedule capacity member with stored | room
      · exact stored
      · omega
  obtain ⟨value, found⟩ := Option.isSome_iff_exists.mp ((Table.lookup_isSome _ uid).mpr present)
  rw [found, exclusive.tallied.exact value found, counted]

/-- After an overlap even the last update must fall short of the completed updates. -/
structure Behind (config : Configuration CounterTable Invocation) (uid : Word) : Prop where
  loaded : ∀ invocation ∈ config.invocations, ∀ counter, invocation.uid = uid →
    invocation.phase = .loaded counter →
    counter.toNat + 1 < completions config uid + waiting config uid
  stored : waiting config uid = 0 → (current config.shared uid).toNat < completions config uid

theorem current_set_le (counterTable : CounterTable) (uid counter : Word) {bound : Nat}
    (below : counter.toNat + 1 < bound) :
    (current (counterTable.set uid (counter + 1)) uid).toNat < bound := by
  unfold current
  rw [Table.lookup_set]
  split
  · exact (toNat_succ_le counter).trans_lt below
  · next refused =>
      have absent : counterTable.lookup uid = none :=
        (Table.lookup_eq_none _ _).mpr fun present => refused ⟨rfl, Or.inl present⟩
      rw [absent]
      exact Nat.lt_of_le_of_lt (Nat.zero_le _) below

/-- A lookup beside a waiting invocation of the same user puts the user behind. -/
theorem behind_of_overlap {config : Configuration CounterTable Invocation} {index : Nat}
    {invocation : Invocation} (under : Undercounts config invocation.uid)
    (found : config.invocations[index]? = some invocation) (starts : invocation.phase = .start)
    (overlap : 0 < waiting config invocation.uid) :
    Behind (fire helloStep config index) invocation.uid := by
  have stepped : helloStep config.shared invocation = some (config.shared,
      { invocation with phase := .loaded (current config.shared invocation.uid) }) := by
    simp only [helloStep, starts, loadCounter_lookup]
  rw [fire_eq found stepped]
  obtain ⟨same, added⟩ := lookup_counts config.shared (current config.shared invocation.uid)
    invocation.uid found starts
  rw [if_pos rfl] at added
  refine ⟨?_, fun idle => by omega⟩
  rw [same, added]
  refine forall_mem_set index (fun other member counter own waits => ?_) ?_
  · have below := under.loaded other member counter own waits
    omega
  · rintro counter _ ⟨⟩
    have below := under.current_le
    omega

theorem Behind.frame {config after : Configuration CounterTable Invocation} {uid : Word}
    (holds : Behind config uid) (unseen : Unseen uid config after) : Behind after uid := by
  constructor
  · intro invocation member counter own waits
    rw [unseen.completed, unseen.waited]
    exact holds.loaded invocation (unseen.own invocation member own) counter own waits
  · rw [unseen.waited, unseen.completed, current, unseen.lookup]
    exact holds.stored

/-- A lookup loads a counter that stays behind the completed and the waiting updates. -/
theorem Behind.lookup {config : Configuration CounterTable Invocation} {index : Nat}
    {invocation : Invocation} (holds : Behind config invocation.uid)
    (under : Undercounts config invocation.uid)
    (found : config.invocations[index]? = some invocation) (starts : invocation.phase = .start) :
    Behind ⟨config.shared, config.invocations.set index
      { invocation with phase := .loaded (current config.shared invocation.uid) }⟩ invocation.uid := by
  obtain ⟨same, added⟩ := lookup_counts config.shared (current config.shared invocation.uid)
    invocation.uid found starts
  rw [if_pos rfl] at added
  refine ⟨?_, fun idle => by omega⟩
  rw [same, added]
  refine forall_mem_set index (fun other member counter owned waits => ?_) ?_
  · have short := holds.loaded other member counter owned waits
    omega
  · rintro counter _ ⟨⟩
    have below := under.current_le
    by_cases idle : waiting config invocation.uid = 0
    · have short := holds.stored idle
      omega
    · omega

/-- An update writes a counter that stays behind the completed updates. -/
theorem Behind.update {config : Configuration CounterTable Invocation} {index : Nat}
    {invocation : Invocation} {counter : Word} (holds : Behind config invocation.uid)
    (found : config.invocations[index]? = some invocation)
    (reached : invocation.phase = .loaded counter) :
    Behind ⟨config.shared.set invocation.uid (counter + 1),
      config.invocations.set index { invocation with phase := .done }⟩ invocation.uid := by
  obtain ⟨count, left⟩ :=
    update_counts (config.shared.set invocation.uid (counter + 1)) invocation.uid found reached
  rw [if_pos rfl] at count left
  have short := holds.loaded invocation (List.mem_of_getElem? found) counter rfl reached
  constructor
  · refine forall_mem_set index (fun other member value owned waits => ?_) (by rintro value _ ⟨⟩)
    have behind := holds.loaded other member value owned waits
    omega
  · intro idle
    rw [count]
    exact current_set_le _ _ _ (by omega)

theorem Behind.step {config : Configuration CounterTable Invocation} {uid : Word} {index : Nat}
    {invocation next : Invocation} {shared : CounterTable} (holds : Behind config uid)
    (under : Undercounts config uid) (found : config.invocations[index]? = some invocation)
    (stepped : helloStep config.shared invocation = some (shared, next)) :
    Behind ⟨shared, config.invocations.set index next⟩ uid := by
  by_cases own : invocation.uid = uid
  · subst own
    rcases helloStep_cases stepped with ⟨starts, rfl, rfl⟩ | ⟨counter, reached, rfl, rfl⟩
    · exact holds.lookup under found starts
    · exact holds.update found reached
  · exact holds.frame (unseen_of_foreign own found stepped)

/-- An overlap in the schedule leaves some user behind for the rest of the run. -/
theorem behind_run {uidGids : List Word} {schedule : List Nat}
    (overlaps : ¬ Meets helloStep NonOverlapping (initial uidGids) schedule) :
    ∃ uid, Behind (run helloStep (initial uidGids) schedule) uid := by
  obtain ⟨before, index, after, invocation, split, _, found, refused⟩ := exists_of_not_meets overlaps
  simp only [NonOverlapping, not_forall, exists_prop, Bool.not_eq_false] at refused
  obtain ⟨starts, other, member, pending⟩ := refused
  have overlap : 0 < waiting (run helloStep (initial uidGids) before) invocation.uid :=
    List.countP_pos_iff.mpr ⟨other, member, pending⟩
  have under := undercounts_run uidGids before invocation.uid
  refine ⟨invocation.uid, ?_⟩
  rw [split, run_append, run_cons]
  -- The undercount travels along because a new lookup reads the current counter.
  refine (run_invariant helloStep (fun config =>
    Behind config invocation.uid ∧ Undercounts config invocation.uid) ?_ ⟨?_, ?_⟩ after).1
  · rintro config position mover shared next ⟨behind, under⟩ found stepped
    exact ⟨behind.step under found stepped, under.step found stepped⟩
  · exact behind_of_overlap under found starts overlap
  · have reached := undercounts_run uidGids (before ++ [index]) invocation.uid
    rwa [run_append, run_cons, run_nil] at reached

/-- An overlap loses an update of every finished run with fewer than 2^64 invocations. -/
theorem nonOverlapping_of_noLostUpdate {uidGids : List Word} {schedule : List Nat}
    (finished : Finished (run helloStep (initial uidGids) schedule))
    (few : uidGids.length < 2 ^ 64)
    (counted : NoLostUpdate uidGids (run helloStep (initial uidGids) schedule)) :
    Meets helloStep NonOverlapping (initial uidGids) schedule := by
  by_contra overlaps
  obtain ⟨uid, behind⟩ := behind_run overlaps
  have short := behind.stored (waiting_finished finished uid)
  rw [completions_finished finished uid] at short
  have member : uid ∈ uidGids.map maskUid := List.count_pos_iff.mp (Nat.zero_lt_of_lt short)
  have bounded : (uidGids.map maskUid).count uid < 2 ^ 64 := by
    have length := List.count_le_length (a := uid) (l := uidGids.map maskUid)
    rw [List.length_map] at length
    omega
  rw [current, counted uid member, Option.getD_some, BitVec.toNat_ofNat,
    Nat.mod_eq_of_lt bounded] at short
  exact Nat.lt_irrefl _ short

/-- A finished run keeps every update exactly when invocations of one user do not overlap. -/
theorem helloStep_noLostUpdate (uidGids : List Word) (schedule : List Nat)
    (capacity : (uidGids.map maskUid).eraseDups.length ≤ 5000000)
    (finished : Finished (run helloStep (initial uidGids) schedule)) :
    (Meets helloStep NonOverlapping (initial uidGids) schedule →
      NoLostUpdate uidGids (run helloStep (initial uidGids) schedule)) ∧
    (uidGids.length < 2 ^ 64 →
      NoLostUpdate uidGids (run helloStep (initial uidGids) schedule) →
      Meets helloStep NonOverlapping (initial uidGids) schedule) :=
  ⟨noLostUpdate_of_nonOverlapping capacity finished, nonOverlapping_of_noLostUpdate finished⟩

/-- The invocations of users 7 and 8 interleave, but each user runs alone. -/
theorem helloStep_noLostUpdate_apart :
    NoLostUpdate [7, 8, 7] (run helloStep (initial [7, 8, 7]) [0, 1, 0, 1, 2, 2]) :=
  (helloStep_noLostUpdate [7, 8, 7] [0, 1, 0, 1, 2, 2] (by decide +kernel) (by decide +kernel)).1
    (by decide +kernel)

/-- Two overlapping invocations of user 7 leave the entry at one. -/
theorem helloStep_loses_update :
    ¬ ∀ (uidGids : List Word) (schedule : List Nat),
      (uidGids.map maskUid).eraseDups.length ≤ 5000000 →
      Finished (run helloStep (initial uidGids) schedule) →
      NoLostUpdate uidGids (run helloStep (initial uidGids) schedule) := by
  intro always
  have counted := always [7, 7] [0, 1, 0, 1] (by decide +kernel) (by decide +kernel)
  revert counted
  decide +kernel

end EbpfNotes.HashMapExample
