import EbpfNotes.Proof.HelloVerifier.SequentialRuns

namespace EbpfNotes.HelloVerifier

open Library

/-- Every index that an invocation has used is inside of both arrays. -/
def Bounded (config : Configuration (BitVec 32) Invocation) : Prop :=
  ∀ invocation ∈ config.invocations, ∀ entry ∈ invocation.indices, 0 ≤ entry.2 ∧ entry.2 ≤ 11

/-- No invocation moves the counter out of the arrays between a bounds check and its index. -/
def Unraced : Guard (BitVec 32) Invocation := fun config invocation =>
  ∀ value, invocation.phase = .incrementing value → belowSize (value + 1) 12 = false →
    ∀ other ∈ config.invocations, other.checked = false

/-- An invocation past a bounds check still finds the counter inside of the arrays. -/
structure Guarded (config : Configuration (BitVec 32) Invocation) : Prop where
  bounded : Bounded config
  inside : ∀ invocation ∈ config.invocations, invocation.checked = true →
    belowSize config.shared 12 = true

theorem index_bounded {c : BitVec 32} (inside : belowSize c 12 = true) :
    0 ≤ c.toInt ∧ c.toInt ≤ 11 := by
  have small : c.toNat < 12 := (belowSize_iff (by decide) c).mp inside
  have nonnegative : c.toInt = c.toNat := BitVec.toInt_eq_toNat_of_lt (by omega)
  omega

/-- A counter at 12 or above, or below zero, is no index of the arrays. -/
theorem index_unbounded {c : BitVec 32} (outside : belowSize c 12 = false) :
    ¬ (0 ≤ c.toInt ∧ c.toInt ≤ 11) := by
  have large : ¬ c.toNat < 12 := mt (belowSize_iff (by decide) c).mpr (by simp [outside])
  rintro ⟨nonnegative, below⟩
  rw [BitVec.toInt_eq_toNat_cond] at nonnegative below
  have bound := c.isLt
  split at below <;> omega

/-- Alone, both bounds checks and both index expressions find the same counter. -/
theorem run_incremented (c counter : BitVec 32) :
    run kprobeStep ⟨c, [⟨.incremented, counter, []⟩]⟩ [0, 0, 0, 0] =
      ⟨c, [⟨.done, counter, arrayIndices c.toNat⟩]⟩ := by
  cases check : belowSize c 12 with
  | true =>
      have inside : c.toNat < 12 := (belowSize_iff (by decide) c).mp check
      have nonnegative : c.toInt = c.toNat := BitVec.toInt_eq_toNat_of_lt (by omega)
      simp [fire, kprobeStep, check, arrayIndices, inside, nonnegative]
  | false =>
      have outside : ¬ c.toNat < 12 := mt (belowSize_iff (by decide) c).mpr (by simp [check])
      simp [fire, kprobeStep, check, arrayIndices, outside]

/-- Seven uninterrupted steps of an invocation use the counter and the indices of `kprobeExec`. -/
theorem kprobeStep_solo {endian : Endian} {myConfig : MyConfig} {globals : Globals} {event : Event}
    {result : Result} (executed : kprobeExec endian myConfig globals event = some result) :
    run kprobeStep ⟨globals.c, [⟨.start, 0, []⟩]⟩ [0, 0, 0, 0, 0, 0, 0] =
      ⟨result.globals.c, [⟨.done, globals.c, result.indices⟩]⟩ := by
  have counted : run kprobeStep ⟨globals.c, [⟨.start, 0, []⟩]⟩ [0, 0, 0] =
      ⟨globals.c + 1, [⟨.incremented, globals.c, []⟩]⟩ := rfl
  have after : result.globals.c = globals.c + 1 := by
    rw [kprobeExec_eq] at executed
    obtain rfl := Option.some.inj executed
    rfl
  rw [kprobeExec_indices executed, after, ← run_incremented, ← counted, ← run_append]
  rfl

/-- A bounds check that lets an invocation through has found the counter inside of the arrays. -/
theorem belowSize_of_checked {c : BitVec 32} {invocation : Invocation} {passed failed : Phase}
    (unchecked : Invocation.checked { invocation with phase := failed } = false)
    (checked : Invocation.checked
      { invocation with phase := if belowSize c 12 then passed else failed } = true) :
    belowSize c 12 = true := by
  by_contra outside
  rw [if_neg outside, unchecked] at checked
  cases checked

/-- A step uses the counter as an index, changes the counter, or does neither. -/
theorem kprobeStep_cases {c after : BitVec 32} {invocation next : Invocation}
    (stepped : kprobeStep c invocation = some (after, next)) :
    (invocation.checked = true ∧ after = c ∧ next.checked = false ∧
      ∃ array, next.indices = invocation.indices ++ [(array, c.toInt)]) ∨
    (∃ value, invocation.phase = .incrementing value ∧ after = value + 1 ∧ next.checked = false ∧
      next.indices = invocation.indices) ∨
    after = c ∧ next.indices = invocation.indices ∧ (next.checked = true → belowSize c 12 = true) := by
  obtain ⟨phase, counter, indices⟩ := invocation
  cases phase with
  | start =>
      obtain ⟨rfl, rfl⟩ := Prod.mk.inj (Option.some.inj stepped)
      exact Or.inr (Or.inr ⟨rfl, rfl, fun checked => by cases checked⟩)
  | counted =>
      obtain ⟨rfl, rfl⟩ := Prod.mk.inj (Option.some.inj stepped)
      exact Or.inr (Or.inr ⟨rfl, rfl, fun checked => by cases checked⟩)
  | incrementing value =>
      obtain ⟨rfl, rfl⟩ := Prod.mk.inj (Option.some.inj stepped)
      exact Or.inr (Or.inl ⟨value, rfl, rfl, rfl, rfl⟩)
  | incremented =>
      obtain ⟨rfl, rfl⟩ := Prod.mk.inj (Option.some.inj stepped)
      exact Or.inr (Or.inr ⟨rfl, rfl, belowSize_of_checked rfl⟩)
  | insideMessage =>
      obtain ⟨rfl, rfl⟩ := Prod.mk.inj (Option.some.inj stepped)
      exact Or.inl ⟨rfl, rfl, rfl, .message, rfl⟩
  | afterMessage =>
      obtain ⟨rfl, rfl⟩ := Prod.mk.inj (Option.some.inj stepped)
      exact Or.inr (Or.inr ⟨rfl, rfl, belowSize_of_checked rfl⟩)
  | insideDataMessage =>
      obtain ⟨rfl, rfl⟩ := Prod.mk.inj (Option.some.inj stepped)
      exact Or.inl ⟨rfl, rfl, rfl, .dataMessage, rfl⟩
  | done => cases stepped

theorem Guarded.step {config : Configuration (BitVec 32) Invocation} {index : Nat}
    {invocation next : Invocation} {c : BitVec 32} (holds : Guarded config)
    (unraced : Unraced config invocation) (found : config.invocations[index]? = some invocation)
    (stepped : kprobeStep config.shared invocation = some (c, next)) :
    Guarded ⟨c, config.invocations.set index next⟩ := by
  have member := List.mem_of_getElem? found
  rcases kprobeStep_cases stepped with
    ⟨checked, rfl, unchecked, array, used⟩ | ⟨value, writing, rfl, unchecked, same⟩ |
    ⟨rfl, same, inside⟩
  · constructor
    · apply forall_mem_set index holds.bounded
      intro entry listed
      rw [used, List.mem_append, List.mem_singleton] at listed
      rcases listed with old | rfl
      · exact holds.bounded invocation member entry old
      · exact index_bounded (holds.inside invocation member checked)
    · apply forall_mem_set index holds.inside
      intro active
      exact absurd active (by simp [unchecked])
  · constructor
    · apply forall_mem_set index holds.bounded
      rw [same]
      exact holds.bounded invocation member
    · have others : ∀ other ∈ config.invocations, other.checked = true →
          belowSize (value + 1) 12 = true := by
        intro other present checked
        by_contra outside
        rw [Bool.not_eq_true] at outside
        exact absurd checked (by simp [unraced value writing outside other present])
      apply forall_mem_set index others
      intro active
      exact absurd active (by simp [unchecked])
  · constructor
    · apply forall_mem_set index holds.bounded
      rw [same]
      exact holds.bounded invocation member
    · exact forall_mem_set index holds.inside inside

theorem guarded_initial (count : Nat) : Guarded (initial count) := by
  have fresh : ∀ invocation ∈ (initial count).invocations, invocation = ⟨.start, 0, []⟩ :=
    fun invocation member => List.eq_of_mem_replicate member
  constructor
  · intro invocation member entry listed
    rw [fresh invocation member] at listed
    cases listed
  · intro invocation member checked
    rw [fresh invocation member] at checked
    cases checked

/-- Every index is inside in every state that a run without a racing write reaches. -/
theorem bounded_of_unraced {count : Nat} {schedule : List Nat}
    (unraced : Meets kprobeStep Unraced (initial count) schedule) :
    Bounded (run kprobeStep (initial count) schedule) :=
  (run_guarded kprobeStep Unraced Guarded
    (fun _ _ _ _ _ holds unraced found stepped => holds.step unraced found stepped)
    (guarded_initial count) unraced).bounded

/-- A checked invocation that finds the counter outside uses it as an index. -/
theorem exists_unbounded {config : Configuration (BitVec 32) Invocation} {index : Nat}
    {invocation : Invocation} (found : config.invocations[index]? = some invocation)
    (checked : invocation.checked = true) (outside : belowSize config.shared 12 = false) :
    ¬ Bounded (fire kprobeStep config index) := by
  intro bounded
  have inside := (List.getElem?_eq_some_iff.mp found).1
  obtain ⟨next, array, stepped, used⟩ : ∃ next array,
      kprobeStep config.shared invocation = some (config.shared, next) ∧
        (array, config.shared.toInt) ∈ next.indices := by
    obtain ⟨phase, counter, indices⟩ := invocation
    cases phase with
    | insideMessage => exact ⟨_, .message, rfl, List.mem_append_right _ List.mem_cons_self⟩
    | insideDataMessage => exact ⟨_, .dataMessage, rfl, List.mem_append_right _ List.mem_cons_self⟩
    | _ => cases checked
  rw [fire_eq found stepped] at bounded
  exact index_unbounded outside (bounded next
    (List.mem_of_getElem? (i := index) (List.getElem?_set_self inside)) _ used)

/-- One step after a racing write uses an index outside of the arrays. -/
theorem exists_unbounded_of_raced {count : Nat} {schedule : List Nat}
    (raced : ¬ Meets kprobeStep Unraced (initial count) schedule) :
    ∃ before position, before <+: schedule ∧
      ¬ Bounded (run kprobeStep (initial count) (before ++ [position])) := by
  obtain ⟨before, index, after, invocation, split, _, found, refused⟩ := exists_of_not_meets raced
  simp only [Unraced, not_forall, exists_prop, Bool.not_eq_false] at refused
  obtain ⟨value, writing, outside, other, member, checked⟩ := refused
  have stepped : kprobeStep (run kprobeStep (initial count) before).shared invocation =
      some (value + 1, { invocation with phase := .incremented }) := by
    simp only [kprobeStep, writing]
  obtain ⟨position, present⟩ := List.getElem?_of_mem member
  have different : index ≠ position := by
    rintro rfl
    rw [found] at present
    obtain rfl := Option.some.inj present
    simp [Invocation.checked, writing] at checked
  have kept : (fire kprobeStep (run kprobeStep (initial count) before) index).invocations[position]? =
      some other := by
    rw [fire_eq found stepped, List.getElem?_set_ne different, present]
  have moved : belowSize (fire kprobeStep (run kprobeStep (initial count) before) index).shared 12 =
      false := by
    rw [fire_eq found stepped]
    exact outside
  refine ⟨before ++ [index], position, ⟨after, by rw [split, List.append_assoc]; rfl⟩, ?_⟩
  rw [run_append, run_append]
  exact exists_unbounded kept checked moved

/-- Every index is inside in the runs without a racing write, and one step after a racing write uses
an index outside of the arrays. -/
theorem kprobeStep_bounded (count : Nat) (schedule : List Nat) :
    (Meets kprobeStep Unraced (initial count) schedule →
      Bounded (run kprobeStep (initial count) schedule)) ∧
    (¬ Meets kprobeStep Unraced (initial count) schedule →
      ∃ before position, before <+: schedule ∧
        ¬ Bounded (run kprobeStep (initial count) (before ++ [position]))) :=
  ⟨bounded_of_unraced, exists_unbounded_of_raced⟩

/-- One invocation checks the counter at 2, ten others move it to 12, and it is used as the index. -/
theorem kprobeStep_unbounded :
    ¬ ∀ (count : Nat) (schedule : List Nat), Bounded (run kprobeStep (initial count) schedule) := by
  intro always
  have bounded := always 11 ([0, 0, 0, 0] ++
    (List.range 10).flatMap (fun index => [index + 1, index + 1, index + 1]) ++ [0])
  have used := bounded ⟨.afterMessage, 1, [(.message, 12)]⟩ (by decide +kernel) (.message, 12)
    List.mem_cons_self
  exact absurd used.2 (by decide)

end EbpfNotes.HelloVerifier
