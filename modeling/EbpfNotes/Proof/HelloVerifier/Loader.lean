import EbpfNotes.Construction.HelloVerifierLoader

namespace EbpfNotes.HelloVerifierUser

open Library

variable {Skeleton PerfBuffer : Type}

/-- One of the calls that set the program up fails. -/
def Setup.Fails (setup : Setup Skeleton PerfBuffer) : Prop :=
  setup.openOpts = none ∨ setup.load ≠ 0 ∨ setup.updateElem ≠ 0 ∨ setup.attach ≠ 0 ∨
    setup.perfBufferNew = none

/-- The results that the run has polled, in their order. -/
def Run.polled (run : Run Skeleton PerfBuffer) : List (BitVec 32) := run.actions.filterMap Action.polled

/-- Each object that the run has created is released once, and no other object is released. -/
structure Run.Released (run : Run Skeleton PerfBuffer) : Prop where
  skeletons : run.actions.filterMap Action.destroyed = run.actions.filterMap Action.opened
  perfBuffers : run.actions.filterMap Action.freed = run.actions.filterMap Action.created

/-- A failed call ends the run with an error, another run polls until the first negative result, and
a run that returns has released its objects. -/
structure Handled (setup : Setup Skeleton PerfBuffer) (polls : List (BitVec 32))
    (run : Run Skeleton PerfBuffer) : Prop where
  refused : setup.Fails → (∃ status, run.status = some status ∧ status ≠ 0) ∧ run.polled = []
  stopped : ¬ setup.Fails → ∀ before err after, polls = before ++ err :: after →
    (∀ result ∈ before, 0 ≤ result.toInt) → err.toInt < 0 →
    run.polled = before ++ [err] ∧ ∃ status, run.status = some status ∧ (status = 0 ↔ err = -EINTR)
  continued : ¬ setup.Fails → (∀ result ∈ polls, 0 ≤ result.toInt) →
    run.polled = polls ∧ run.status = none
  released : ∀ status, run.status = some status → run.Released

/-- A call whose failure the program handles fails. -/
def Setup.Refused (setup : Setup Skeleton PerfBuffer) : Prop :=
  setup.openOpts = none ∨ setup.load ≠ 0 ∨ setup.attach ≠ 0 ∨ setup.perfBufferNew = none

theorem Setup.fails_iff (setup : Setup Skeleton PerfBuffer) :
    setup.Fails ↔ setup.updateElem ≠ 0 ∨ setup.Refused := by
  simp only [Fails, Refused]
  tauto

/-- Without a handled failure every other call succeeds. -/
theorem Setup.exists_of_not_refused {setup : Setup Skeleton PerfBuffer} (succeeds : ¬ setup.Refused) :
    ∃ skel pb updateElem, setup = ⟨some skel, 0, updateElem, 0, some pb⟩ := by
  obtain ⟨openOpts, load, updateElem, attach, perfBufferNew⟩ := setup
  simp only [Refused, not_or, not_not] at succeeds
  obtain ⟨opened, rfl, rfl, created⟩ := succeeds
  obtain ⟨skel, rfl⟩ := Option.ne_none_iff_exists'.mp opened
  obtain ⟨pb, rfl⟩ := Option.ne_none_iff_exists'.mp created
  exact ⟨skel, pb, updateElem, rfl⟩

/-- A handled failure ends the run with status one, without a poll and with its objects released. -/
theorem main_refused (endian : Endian) (stack : Vector Byte 12) (printed : List Byte)
    {setup : Setup Skeleton PerfBuffer} (refused : setup.Refused) (polls : List (BitVec 32)) :
    (main endian stack printed setup polls).status = some 1 ∧
      (main endian stack printed setup polls).polled = [] ∧
      (main endian stack printed setup polls).Released := by
  obtain ⟨openOpts, load, updateElem, attach, perfBufferNew⟩ := setup
  simp only [Setup.Refused] at refused
  cases openOpts with
  | none => exact ⟨rfl, rfl, rfl, rfl⟩
  | some skel =>
      by_cases loaded : load = 0
      · by_cases attached : attach = 0
        · have missing : perfBufferNew = none := by simpa [loaded, attached] using refused
          subst loaded attached missing
          exact ⟨rfl, rfl, rfl, rfl⟩
        · subst loaded
          simp only [main, ne_eq, not_true_eq_false, if_false, attached, not_false_eq_true, if_true]
          exact ⟨trivial, rfl, rfl, rfl⟩
      · simp only [main, ne_eq, loaded, not_false_eq_true, if_true]
        exact ⟨trivial, rfl, rfl, rfl⟩

/-- The calls of a run before it polls. -/
def setupActions (endian : Endian) (stack : Vector Byte 12) (printed : List Byte) (skel : Skeleton)
    (updateElem : BitVec 32) (pb : PerfBuffer) : List (Action Skeleton PerfBuffer) :=
  [.openOpts (some skel), .load skel 0, .log printed,
    .updateElem skel (keyBytes endian 501) ⟨strncpy stack (ascii "hello Liz") 9⟩ 0 updateElem,
    .attach skel 0, .perfBufferNew skel 8 (some pb)]

/-- Without a handled failure the run polls, and it releases both objects when the loop ends. -/
theorem main_polls (endian : Endian) (stack : Vector Byte 12) (printed : List Byte) (skel : Skeleton)
    (updateElem : BitVec 32) (pb : PerfBuffer) (polls : List (BitVec 32)) :
    main endian stack printed ⟨some skel, 0, updateElem, 0, some pb⟩ polls =
      ⟨(pollLoop Skeleton pb polls).1.map fun err => -err,
        setupActions endian stack printed skel updateElem pb ++ (pollLoop Skeleton pb polls).2 ++
          ((pollLoop Skeleton pb polls).1.map fun _ => [.free pb, .destroy skel]).getD []⟩ := by
  cases ended : (pollLoop Skeleton pb polls).1 with
  | none =>
      simp only [main, ne_eq, not_true_eq_false, if_false, ended, Option.map_none, Option.getD_none,
        List.append_nil]
      rfl
  | some err =>
      simp only [main, ne_eq, not_true_eq_false, if_false, ended, Option.map_some, Option.getD_some]
      rfl

variable (Skeleton) in
/-- The loop consumes the results that are not negative. -/
theorem pollLoop_nonnegative (pb : PerfBuffer) {before : List (BitVec 32)}
    (nonnegative : ∀ result ∈ before, 0 ≤ result.toInt) (polls : List (BitVec 32)) :
    pollLoop Skeleton pb (before ++ polls) =
      ((pollLoop Skeleton pb polls).1, before.map (.poll pb 100) ++ (pollLoop Skeleton pb polls).2) := by
  induction before with
  | nil => rfl
  | cons result before ih =>
      have here : 0 ≤ result.toInt := nonnegative result List.mem_cons_self
      have uninterrupted : result ≠ -EINTR := by
        rintro rfl
        exact absurd here (by decide)
      rw [List.cons_append, pollLoop, if_neg uninterrupted, if_neg (by omega),
        ih fun other member => nonnegative other (List.mem_cons_of_mem _ member)]
      rfl

variable (Skeleton) in
/-- The first negative result ends the loop, and only an interrupt sets the status to zero. -/
theorem pollLoop_negative (pb : PerfBuffer) {err : BitVec 32} (negative : err.toInt < 0)
    (after : List (BitVec 32)) :
    ∃ status lines, pollLoop Skeleton pb (err :: after) = (some status, .poll pb 100 err :: lines) ∧
      lines.filterMap Action.polled = [] ∧ (-status = 0 ↔ err = -EINTR) := by
  by_cases interrupted : err = -EINTR
  · refine ⟨0, [], ?_, rfl, iff_of_true rfl interrupted⟩
    rw [pollLoop, if_pos interrupted]
  · have nonzero : err ≠ 0 := by
      rintro rfl
      exact absurd negative (by decide)
    refine ⟨err, [.print .stdout "Error polling perf buffer: %d\n" (some err.toInt)], ?_, rfl,
      iff_of_false (fun zero => nonzero (BitVec.neg_eq_zero_iff.mp zero)) interrupted⟩
    rw [pollLoop, if_neg interrupted, if_pos negative]

theorem map_poll_polled (pb : PerfBuffer) (polls : List (BitVec 32)) :
    (polls.map (.poll pb 100) : List (Action Skeleton PerfBuffer)).filterMap Action.polled = polls := by
  rw [List.filterMap_map]
  exact List.filterMap_some

variable (Skeleton) in
/-- The loop neither creates nor releases an object. -/
theorem pollLoop_objects (pb : PerfBuffer) (polls : List (BitVec 32)) :
    (pollLoop Skeleton pb polls).2.filterMap Action.opened = [] ∧
      (pollLoop Skeleton pb polls).2.filterMap Action.destroyed = [] ∧
      (pollLoop Skeleton pb polls).2.filterMap Action.created = [] ∧
      (pollLoop Skeleton pb polls).2.filterMap Action.freed = [] := by
  induction polls with
  | nil => exact ⟨rfl, rfl, rfl, rfl⟩
  | cons err polls ih =>
      rw [pollLoop]
      split
      · exact ⟨rfl, rfl, rfl, rfl⟩
      · split
        · exact ⟨rfl, rfl, rfl, rfl⟩
        · exact ih

/-- A run that polls and returns has released its skeleton and its perf buffer. -/
theorem main_released (endian : Endian) (stack : Vector Byte 12) (printed : List Byte) (skel : Skeleton)
    (updateElem : BitVec 32) (pb : PerfBuffer) (polls : List (BitVec 32)) {status : BitVec 32}
    (returned : (main endian stack printed ⟨some skel, 0, updateElem, 0, some pb⟩ polls).status =
      some status) :
    (main endian stack printed ⟨some skel, 0, updateElem, 0, some pb⟩ polls).Released := by
  have ⟨opened, destroyed, created, freed⟩ := pollLoop_objects Skeleton pb polls
  rw [main_polls] at returned ⊢
  obtain ⟨err, ended, _⟩ := Option.map_eq_some_iff.mp returned
  constructor
  · simp only [ended, Option.map_some, Option.getD_some, List.filterMap_append, opened, destroyed]
    rfl
  · simp only [ended, Option.map_some, Option.getD_some, List.filterMap_append, created, freed]
    rfl

theorem setupActions_polled (endian : Endian) (stack : Vector Byte 12) (printed : List Byte)
    (skel : Skeleton) (updateElem : BitVec 32) (pb : PerfBuffer) :
    (setupActions endian stack printed skel updateElem pb).filterMap Action.polled = [] := rfl

/-- Without a handled failure the run polls what the loop polls. -/
theorem main_polled (endian : Endian) (stack : Vector Byte 12) (printed : List Byte) (skel : Skeleton)
    (updateElem : BitVec 32) (pb : PerfBuffer) (polls : List (BitVec 32)) :
    (main endian stack printed ⟨some skel, 0, updateElem, 0, some pb⟩ polls).polled =
      (pollLoop Skeleton pb polls).2.filterMap Action.polled := by
  rw [Run.polled, main_polls, List.filterMap_append, List.filterMap_append, setupActions_polled,
    List.nil_append]
  cases (pollLoop Skeleton pb polls).1 with
  | none => exact List.append_nil _
  | some err => exact List.append_nil _

/-- Without a handled failure the run polls until the first negative result. -/
theorem main_stopped (endian : Endian) (stack : Vector Byte 12) (printed : List Byte) (skel : Skeleton)
    (updateElem : BitVec 32) (pb : PerfBuffer) {before : List (BitVec 32)}
    (nonnegative : ∀ result ∈ before, 0 ≤ result.toInt) {err : BitVec 32} (negative : err.toInt < 0)
    (after : List (BitVec 32)) :
    let run := main endian stack printed ⟨some skel, 0, updateElem, 0, some pb⟩ (before ++ err :: after)
    run.polled = before ++ [err] ∧ ∃ status, run.status = some status ∧ (status = 0 ↔ err = -EINTR) := by
  obtain ⟨status, lines, ended, silent, interrupted⟩ := pollLoop_negative Skeleton pb negative after
  constructor
  · rw [main_polled, pollLoop_nonnegative Skeleton pb nonnegative, ended, List.filterMap_append,
      map_poll_polled, List.filterMap_cons, silent]
    rfl
  · rw [main_polls, pollLoop_nonnegative Skeleton pb nonnegative, ended]
    exact ⟨-status, rfl, interrupted⟩

/-- Without a handled failure and without a negative result the run still polls. -/
theorem main_continued (endian : Endian) (stack : Vector Byte 12) (printed : List Byte) (skel : Skeleton)
    (updateElem : BitVec 32) (pb : PerfBuffer) {polls : List (BitVec 32)}
    (nonnegative : ∀ result ∈ polls, 0 ≤ result.toInt) :
    let run := main endian stack printed ⟨some skel, 0, updateElem, 0, some pb⟩ polls
    run.polled = polls ∧ run.status = none := by
  have loop : pollLoop Skeleton pb polls = (none, polls.map (.poll pb 100)) := by
    have consumed := pollLoop_nonnegative Skeleton pb nonnegative []
    rw [List.append_nil] at consumed
    rw [consumed, pollLoop, List.append_nil]
  constructor
  · rw [main_polled, loop, map_poll_polled]
  · rw [main_polls, loop]
    rfl

/-- Without a handled failure a run that returns has polled. -/
theorem main_polled_of_returned (endian : Endian) (stack : Vector Byte 12) (printed : List Byte)
    (skel : Skeleton) (updateElem : BitVec 32) (pb : PerfBuffer) (polls : List (BitVec 32))
    {status : BitVec 32}
    (returned : (main endian stack printed ⟨some skel, 0, updateElem, 0, some pb⟩ polls).status =
      some status) :
    (main endian stack printed ⟨some skel, 0, updateElem, 0, some pb⟩ polls).polled ≠ [] := by
  rw [main_polls] at returned
  rw [main_polled]
  cases polls with
  | nil => cases returned
  | cons err polls =>
      rw [pollLoop]
      split
      · exact List.cons_ne_nil _ _
      · split <;> exact List.cons_ne_nil _ _

/-- The run handles every outcome exactly when the configuration is written or another call fails. -/
theorem main_handled_iff (endian : Endian) (stack : Vector Byte 12) (printed : List Byte)
    (setup : Setup Skeleton PerfBuffer) (polls : List (BitVec 32)) :
    Handled setup polls (main endian stack printed setup polls) ↔
      setup.updateElem = 0 ∨ setup.openOpts = none ∨ setup.load ≠ 0 ∨ setup.attach ≠ 0 ∨
        setup.perfBufferNew = none := by
  by_cases refused : setup.Refused
  · obtain ⟨status, polled, released⟩ := main_refused endian stack printed refused polls
    have fails : setup.Fails := setup.fails_iff.mpr (Or.inr refused)
    apply iff_of_true _ (Or.inr refused)
    constructor
    · exact fun _ => ⟨⟨1, status, by decide⟩, polled⟩
    · exact fun succeeds => absurd fails succeeds
    · exact fun succeeds => absurd fails succeeds
    · exact fun _ _ => released
  · rw [← Setup.Refused, or_iff_left refused]
    obtain ⟨skel, pb, updateElem, rfl⟩ := Setup.exists_of_not_refused refused
    constructor
    · intro handled
      -- A failed update leaves no trace, so the run returns only after a poll.
      by_contra failed
      obtain ⟨⟨status, returned, _⟩, silent⟩ :=
        handled.refused ((Setup.fails_iff _).mpr (Or.inl failed))
      exact main_polled_of_returned endian stack printed skel updateElem pb polls returned silent
    · rintro written
      have succeeds : ¬ Setup.Fails ⟨some skel, 0, updateElem, 0, some pb⟩ := by
        rw [Setup.fails_iff]
        exact not_or.mpr ⟨not_not.mpr written, refused⟩
      constructor
      · exact fun fails => absurd fails succeeds
      · rintro _ before err after rfl nonnegative negative
        exact main_stopped endian stack printed skel updateElem pb nonnegative negative after
      · exact fun _ nonnegative => main_continued endian stack printed skel updateElem pb nonnegative
      · exact fun _ returned => main_released endian stack printed skel updateElem pb polls returned

/-- A failed update of the configuration is not noticed, and the program starts to poll. -/
theorem main_ignores_update :
    ¬ ∀ (endian : Endian) (stack : Vector Byte 12) (printed : List Byte) (setup : Setup Unit Unit)
      (polls : List (BitVec 32)), Handled setup polls (main endian stack printed setup polls) := by
  intro always
  have handled := always .little (Vector.replicate 12 0) []
    ⟨some (), 0, -7, 0, some ()⟩ [3, -EINTR]
  have polled := (handled.refused (Or.inr (Or.inr (Or.inl (by decide))))).2
  exact absurd polled (by decide)

end EbpfNotes.HelloVerifierUser
