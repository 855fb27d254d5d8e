import EbpfNotes.Proof.HashMapExample.SequentialRuns

namespace EbpfNotes.HashMapExample

open Library

/-- A step is the atomic lookup or the atomic update of one invocation. -/
theorem helloStep_cases {counterTable shared : CounterTable} {invocation next : Invocation}
    (stepped : helloStep counterTable invocation = some (shared, next)) :
    (invocation.phase = .start ∧ shared = counterTable ∧
      next = { invocation with phase := .loaded (current counterTable invocation.uid) }) ∨
    ∃ counter, invocation.phase = .loaded counter ∧
      shared = counterTable.set invocation.uid (counter + 1) ∧
      next = { invocation with phase := .done } := by
  unfold helloStep at stepped
  cases reached : invocation.phase with
  | start =>
      rw [reached, loadCounter_lookup] at stepped
      obtain ⟨rfl, rfl⟩ := Prod.mk.inj (Option.some.inj stepped)
      exact Or.inl ⟨rfl, rfl, rfl⟩
  | loaded counter =>
      rw [reached] at stepped
      obtain ⟨rfl, rfl⟩ := Prod.mk.inj (Option.some.inj stepped)
      exact Or.inr ⟨counter, rfl, bpfMapUpdateElem_any _ _ _, rfl⟩
  | done => rw [reached] at stepped; cases stepped

section Counts

variable {config : Configuration CounterTable Invocation} {index : Nat} {invocation : Invocation}

/-- A lookup completes nothing and adds one waiting invocation for its user. -/
theorem lookup_counts (shared : CounterTable) (counter uid : Word)
    (found : config.invocations[index]? = some invocation) (starts : invocation.phase = .start) :
    let next : Configuration CounterTable Invocation :=
      ⟨shared, config.invocations.set index { invocation with phase := .loaded counter }⟩
    completions next uid = completions config uid ∧
      waiting next uid = waiting config uid + if invocation.uid = uid then 1 else 0 := by
  have completed := countP_set_add (p := Invocation.completed uid)
    { invocation with phase := .loaded counter } found
  have pending := countP_set_add (p := Invocation.pending uid)
    { invocation with phase := .loaded counter } found
  obtain ⟨uidGid, phase⟩ := invocation
  change phase = .start at starts
  subst starts
  constructor
  · simpa [completions, Invocation.completed] using completed
  · by_cases own : maskUid uidGid = uid <;>
      simpa [waiting, Invocation.pending, Invocation.uid, own] using pending

/-- An update completes one waiting invocation of its user. -/
theorem update_counts (shared : CounterTable) {counter : Word} (uid : Word)
    (found : config.invocations[index]? = some invocation) (holds : invocation.phase = .loaded counter) :
    let next : Configuration CounterTable Invocation :=
      ⟨shared, config.invocations.set index { invocation with phase := .done }⟩
    completions next uid = completions config uid + (if invocation.uid = uid then 1 else 0) ∧
      waiting next uid + (if invocation.uid = uid then 1 else 0) = waiting config uid := by
  have completed := countP_set_add (p := Invocation.completed uid)
    { invocation with phase := .done } found
  have pending := countP_set_add (p := Invocation.pending uid) { invocation with phase := .done } found
  obtain ⟨uidGid, phase⟩ := invocation
  change phase = .loaded counter at holds
  subst holds
  by_cases own : maskUid uidGid = uid
  · exact ⟨by simpa [completions, Invocation.completed, Invocation.uid, own] using completed,
      by simpa [waiting, Invocation.pending, Invocation.uid, own] using pending⟩
  · exact ⟨by simpa [completions, Invocation.completed, Invocation.uid, own] using completed,
      by simpa [waiting, Invocation.pending, Invocation.uid, own] using pending⟩

end Counts

/-- A user sees the same counter, the same counts and the same own invocations. -/
structure Unseen (uid : Word) (config after : Configuration CounterTable Invocation) : Prop where
  lookup : after.shared.lookup uid = config.shared.lookup uid
  grown : config.shared.keys.length ≤ after.shared.keys.length
  completed : completions after uid = completions config uid
  waited : waiting after uid = waiting config uid
  own : ∀ invocation ∈ after.invocations, invocation.uid = uid → invocation ∈ config.invocations

/-- A step of another user's invocation is unseen. -/
theorem unseen_of_foreign {config : Configuration CounterTable Invocation} {uid : Word} {index : Nat}
    {invocation next : Invocation} {shared : CounterTable} (foreign : invocation.uid ≠ uid)
    (found : config.invocations[index]? = some invocation)
    (stepped : helloStep config.shared invocation = some (shared, next)) :
    Unseen uid config ⟨shared, config.invocations.set index next⟩ := by
  rcases helloStep_cases stepped with ⟨starts, rfl, rfl⟩ | ⟨counter, reached, rfl, rfl⟩
  · obtain ⟨same, added⟩ :=
      lookup_counts config.shared (current config.shared invocation.uid) uid found starts
    rw [if_neg foreign, Nat.add_zero] at added
    exact ⟨rfl, Nat.le_refl _, same, added,
      forall_mem_set index (fun _ inside _ => inside) (fun own => absurd own foreign)⟩
  · obtain ⟨count, left⟩ :=
      update_counts (config.shared.set invocation.uid (counter + 1)) uid found reached
    rw [if_neg foreign, Nat.add_zero] at count left
    exact ⟨Table.lookup_set_other _ _ (Ne.symm foreign), Table.keys_length_set _ _ _, count, left,
      forall_mem_set index (fun _ inside _ => inside) (fun own => absurd own foreign)⟩

/-- The table and every waiting invocation hold at most the completed updates of the user. -/
structure Undercounts (config : Configuration CounterTable Invocation) (uid : Word) : Prop where
  stored : ∀ value, config.shared.lookup uid = some value → value.toNat ≤ completions config uid
  loaded : ∀ invocation ∈ config.invocations, ∀ counter, invocation.uid = uid →
    invocation.phase = .loaded counter → counter.toNat ≤ completions config uid
  served : uid ∈ config.shared.keys → 0 < completions config uid
  positive : completions config uid < 2 ^ 64 →
    ∀ value, config.shared.lookup uid = some value → 1 ≤ value.toNat

theorem Undercounts.current_le {config : Configuration CounterTable Invocation} {uid : Word}
    (holds : Undercounts config uid) : (current config.shared uid).toNat ≤ completions config uid := by
  unfold current
  cases found : config.shared.lookup uid with
  | none => exact Nat.zero_le _
  | some value => exact holds.stored value found

theorem toNat_succ_le (counter : Word) : (counter + 1).toNat ≤ counter.toNat + 1 := by
  rw [BitVec.toNat_add]
  exact Nat.mod_le _ _

theorem Undercounts.frame {config after : Configuration CounterTable Invocation} {uid : Word}
    (holds : Undercounts config uid) (unseen : Unseen uid config after) : Undercounts after uid := by
  constructor
  · rw [unseen.lookup, unseen.completed]
    exact holds.stored
  · intro invocation member counter own waits
    rw [unseen.completed]
    exact holds.loaded invocation (unseen.own invocation member own) counter own waits
  · rw [← Table.lookup_isSome, unseen.lookup, unseen.completed, Table.lookup_isSome]
    exact holds.served
  · rw [unseen.lookup, unseen.completed]
    exact holds.positive

/-- A lookup loads at most the completed updates. -/
theorem Undercounts.lookup {config : Configuration CounterTable Invocation} {index : Nat}
    {invocation : Invocation} (holds : Undercounts config invocation.uid)
    (found : config.invocations[index]? = some invocation) (starts : invocation.phase = .start) :
    Undercounts ⟨config.shared, config.invocations.set index
      { invocation with phase := .loaded (current config.shared invocation.uid) }⟩ invocation.uid := by
  have same := (lookup_counts config.shared (current config.shared invocation.uid) invocation.uid
    found starts).1
  constructor
  · rw [same]; exact holds.stored
  · rw [same]
    apply forall_mem_set index holds.loaded
    rintro counter _ ⟨⟩
    exact holds.current_le
  · rw [same]; exact holds.served
  · rw [same]; exact holds.positive

/-- An update writes at most one more than the completed updates before it. -/
theorem Undercounts.update {config : Configuration CounterTable Invocation} {index : Nat}
    {invocation : Invocation} {counter : Word} (holds : Undercounts config invocation.uid)
    (found : config.invocations[index]? = some invocation)
    (reached : invocation.phase = .loaded counter) :
    Undercounts ⟨config.shared.set invocation.uid (counter + 1),
      config.invocations.set index { invocation with phase := .done }⟩ invocation.uid := by
  have count := (update_counts (config.shared.set invocation.uid (counter + 1)) invocation.uid
    found reached).1
  rw [if_pos rfl] at count
  have bound := holds.loaded invocation (List.mem_of_getElem? found) counter rfl reached
  have successor := toNat_succ_le counter
  constructor
  · intro value stored
    rw [count]
    rw [Table.lookup_set] at stored
    split at stored
    · rw [← Option.some.inj stored]
      omega
    · exact (holds.stored value stored).trans (Nat.le_succ _)
  · rw [count]
    refine forall_mem_set index (fun other inside value same waits => ?_) (by rintro value _ ⟨⟩)
    exact (holds.loaded other inside value same waits).trans (Nat.le_succ _)
  · intro _
    omega
  · intro small value stored
    rw [count] at small
    rw [Table.lookup_set] at stored
    split at stored
    · rw [← Option.some.inj stored, BitVec.toNat_add]
      change 1 ≤ (counter.toNat + 1) % 2 ^ 64
      rw [Nat.mod_eq_of_lt (by omega)]
      omega
    · exact holds.positive (by omega) value stored

theorem Undercounts.step {config : Configuration CounterTable Invocation} {uid : Word} {index : Nat}
    {invocation next : Invocation} {shared : CounterTable} (holds : Undercounts config uid)
    (found : config.invocations[index]? = some invocation)
    (stepped : helloStep config.shared invocation = some (shared, next)) :
    Undercounts ⟨shared, config.invocations.set index next⟩ uid := by
  by_cases own : invocation.uid = uid
  · subst own
    rcases helloStep_cases stepped with ⟨starts, rfl, rfl⟩ | ⟨counter, reached, rfl, rfl⟩
    · exact holds.lookup found starts
    · exact holds.update found reached
  · exact holds.frame (unseen_of_foreign own found stepped)

theorem completions_initial (uidGids : List Word) (uid : Word) :
    completions (initial uidGids) uid = 0 := by
  apply List.countP_eq_zero.mpr
  intro invocation member
  obtain ⟨uidGid, _, rfl⟩ := List.mem_map.mp member
  simp [Invocation.completed]

theorem initial_phase {uidGids : List Word} {invocation : Invocation}
    (member : invocation ∈ (initial uidGids).invocations) : invocation.phase = .start := by
  obtain ⟨uidGid, _, rfl⟩ := List.mem_map.mp member
  rfl

theorem undercounts_initial (uidGids : List Word) (uid : Word) : Undercounts (initial uidGids) uid where
  stored value found := by simp [initial] at found
  loaded invocation member counter _ waits := by simp [initial_phase member] at waits
  served present := by simp [initial] at present
  positive _ value found := by simp [initial] at found

/-- Every reachable state undercounts, for every interleaving and every capacity shortage. -/
theorem undercounts_run (uidGids : List Word) (schedule : List Nat) (uid : Word) :
    Undercounts (run helloStep (initial uidGids) schedule) uid :=
  run_invariant helloStep (fun config => Undercounts config uid)
    (fun _ _ _ _ _ holds found stepped => holds.step found stepped)
    (undercounts_initial uidGids uid) schedule

/-- No step removes an entry. -/
theorem keys_run {uid : Word} {config : Configuration CounterTable Invocation}
    (present : uid ∈ config.shared.keys) (schedule : List Nat) :
    uid ∈ (run helloStep config schedule).shared.keys := by
  refine run_invariant helloStep (fun config => uid ∈ config.shared.keys) ?_ present schedule
  intro config index invocation shared next present _ stepped
  rcases helloStep_cases stepped with ⟨_, rfl, _⟩ | ⟨counter, _, rfl, _⟩
  · exact present
  · exact Table.mem_keys_set _ _ present

/-- An invocation for the user looks up only while no other one for this user waits. -/
def Sole (uid : Word) : Guard CounterTable Invocation := fun config invocation =>
  invocation.uid = uid → invocation.phase = .start →
    ∀ other ∈ config.invocations, other.pending uid = false

/-- Without overlap, at most one invocation waits, and it holds the current counter. -/
structure Exclusive (config : Configuration CounterTable Invocation) (uid : Word) : Prop where
  tallied : TalliedAt config.shared uid (completions config uid)
  fresh : ∀ invocation ∈ config.invocations, ∀ counter, invocation.uid = uid →
    invocation.phase = .loaded counter → counter = current config.shared uid
  single : waiting config uid ≤ 1

theorem pending_of_loaded {invocation : Invocation} {counter : Word}
    (reached : invocation.phase = .loaded counter) : invocation.pending invocation.uid = true := by
  simp [Invocation.pending, reached]

theorem waiting_eq_zero (config : Configuration CounterTable Invocation) (uid : Word) :
    waiting config uid = 0 ↔ ∀ invocation ∈ config.invocations, invocation.pending uid = false := by
  simp only [waiting, List.countP_eq_zero, Bool.not_eq_true]

theorem Exclusive.frame {config after : Configuration CounterTable Invocation} {uid : Word}
    (holds : Exclusive config uid) (unseen : Unseen uid config after) : Exclusive after uid := by
  constructor
  · rw [unseen.completed]
    exact holds.tallied.frame unseen.lookup unseen.grown
  · intro invocation member counter own waits
    rw [current, unseen.lookup]
    exact holds.fresh invocation (unseen.own invocation member own) counter own waits
  · rw [unseen.waited]
    exact holds.single

/-- A lookup beside no waiting invocation loads the current counter. -/
theorem Exclusive.lookup {config : Configuration CounterTable Invocation} {index : Nat}
    {invocation : Invocation} (holds : Exclusive config invocation.uid)
    (idle : waiting config invocation.uid = 0)
    (found : config.invocations[index]? = some invocation) (starts : invocation.phase = .start) :
    Exclusive ⟨config.shared, config.invocations.set index
      { invocation with phase := .loaded (current config.shared invocation.uid) }⟩ invocation.uid := by
  obtain ⟨same, added⟩ := lookup_counts config.shared (current config.shared invocation.uid)
    invocation.uid found starts
  constructor
  · rw [same]
    exact holds.tallied
  · apply forall_mem_set index holds.fresh
    rintro counter _ ⟨⟩
    rfl
  · rw [added, idle, if_pos rfl]

/-- The only waiting invocation ticks the counter. -/
theorem Exclusive.update {config : Configuration CounterTable Invocation} {index : Nat}
    {invocation : Invocation} {counter : Word} (holds : Exclusive config invocation.uid)
    (found : config.invocations[index]? = some invocation)
    (reached : invocation.phase = .loaded counter) :
    Exclusive ⟨config.shared.set invocation.uid (counter + 1),
      config.invocations.set index { invocation with phase := .done }⟩ invocation.uid := by
  obtain ⟨count, left⟩ :=
    update_counts (config.shared.set invocation.uid (counter + 1)) invocation.uid found reached
  rw [if_pos rfl] at count left
  have held := holds.fresh invocation (List.mem_of_getElem? found) counter rfl reached
  have none : waiting ⟨config.shared.set invocation.uid (counter + 1),
      config.invocations.set index { invocation with phase := .done }⟩ invocation.uid = 0 := by
    have single := holds.single
    omega
  constructor
  · rw [count, held]
    exact holds.tallied.tick
  · intro other member value same waits
    have idle := (waiting_eq_zero _ _).mp none other member
    rw [← same, pending_of_loaded waits] at idle
    cases idle
  · omega

theorem Exclusive.step {config : Configuration CounterTable Invocation} {uid : Word} {index : Nat}
    {invocation next : Invocation} {shared : CounterTable} (holds : Exclusive config uid)
    (sole : Sole uid config invocation) (found : config.invocations[index]? = some invocation)
    (stepped : helloStep config.shared invocation = some (shared, next)) :
    Exclusive ⟨shared, config.invocations.set index next⟩ uid := by
  by_cases own : invocation.uid = uid
  · subst own
    rcases helloStep_cases stepped with ⟨starts, rfl, rfl⟩ | ⟨counter, reached, rfl, rfl⟩
    · exact holds.lookup ((waiting_eq_zero _ _).mpr (sole rfl starts)) found starts
    · exact holds.update found reached
  · exact holds.frame (unseen_of_foreign own found stepped)

theorem exclusive_initial (uidGids : List Word) (uid : Word) : Exclusive (initial uidGids) uid where
  tallied := by rw [completions_initial]; exact talliedAt_empty uid
  fresh invocation member counter _ waits := by simp [initial_phase member] at waits
  single := by
    rw [(waiting_eq_zero _ _).mpr]
    · exact Nat.zero_le 1
    · intro invocation member
      simp [Invocation.pending, initial_phase member]

/-- A user without overlapping invocations is counted exactly, whatever the others do. -/
theorem exclusive_run (uidGids : List Word) (schedule : List Nat) (uid : Word)
    (sole : Meets helloStep (Sole uid) (initial uidGids) schedule) :
    Exclusive (run helloStep (initial uidGids) schedule) uid :=
  run_guarded helloStep (Sole uid) (fun config => Exclusive config uid)
    (fun _ _ _ _ _ holds sole found stepped => holds.step sole found stepped)
    (exclusive_initial uidGids uid) sole

/-- The completed updates of one user are among all completed updates. -/
theorem completions_le (config : Configuration CounterTable Invocation) (uid : Word) :
    completions config uid ≤ config.invocations.countP fun invocation => invocation.phase = .done :=
  List.countP_mono_left fun invocation _ completed => by
    simp only [Invocation.completed, Bool.and_eq_true] at completed
    exact completed.2

/-- Racing invocations only undercount, and users without overlap are exact. -/
theorem helloStep_undercounts (uidGids : List Word) (schedule : List Nat) :
    let reached := run helloStep (initial uidGids) schedule
    (∀ uid value, reached.shared.lookup uid = some value →
      value.toNat ≤ completions reached uid) ∧
    (∀ uid ∈ reached.shared.keys, 0 < completions reached uid ∧
      ∀ later, uid ∈ (run helloStep reached later).shared.keys) ∧
    ((reached.invocations.countP fun invocation => invocation.phase = .done) < 2 ^ 64 →
      ∀ uid value, reached.shared.lookup uid = some value → 1 ≤ value.toNat) ∧
    ∀ uid, Meets helloStep (Sole uid) (initial uidGids) schedule →
      ∀ value, reached.shared.lookup uid = some value →
        value = BitVec.ofNat 64 (completions reached uid) := by
  intro reached
  have under (uid : Word) : Undercounts reached uid := undercounts_run uidGids schedule uid
  refine ⟨fun uid => (under uid).stored, fun uid present => ?_, fun few uid => ?_, fun uid sole => ?_⟩
  · exact ⟨(under uid).served present, fun later => keys_run present later⟩
  · exact (under uid).positive ((completions_le reached uid).trans_lt few)
  · exact (exclusive_run uidGids schedule uid sole).tallied.exact

end EbpfNotes.HashMapExample
