import EbpfNotes.Proof.PacketCount.SequentialRuns

namespace EbpfNotes.PacketCount

open Library

/-- No value is printed twice, and finished invocations have printed and counted all packets. -/
structure Counts (packets : Nat) (config : Configuration (BitVec 32) Invocation) : Prop where
  distinct : (printedValues config).Nodup
  complete : (∀ invocation ∈ config.invocations, invocation.finished = true) →
    (printedValues config).Perm ((List.range packets).map Nat.cast) ∧ config.shared.toInt = packets

/-- An invocation starts only while no other one is between its print and its write. -/
def NonOverlapping : Guard (BitVec 32) Invocation := fun config invocation =>
  invocation.phase = .start → ∀ other ∈ config.invocations, other.active = false

instance (config : Configuration (BitVec 32) Invocation) (invocation : Invocation) :
    Decidable (NonOverlapping config invocation) :=
  inferInstanceAs (Decidable (_ → _))

/-- The counter is the number of the finished invocations, and at most one is active. -/
structure Serial (packets : Nat) (config : Configuration (BitVec 32) Invocation) : Prop where
  length : config.invocations.length = packets
  counter : config.shared = BitVec.ofNat 32 (config.invocations.countP Invocation.finished)
  single : config.invocations.countP Invocation.active ≤ 1
  fresh : ∀ invocation ∈ config.invocations, invocation.phase = .start → invocation.lines = []
  loaded : ∀ invocation ∈ config.invocations, ∀ value, invocation.phase = .loaded value →
    value = config.shared
  printed : (printedValues config).Perm ((List.range (config.invocations.countP Invocation.finished +
    config.invocations.countP Invocation.active)).map Nat.cast)

/-- Three uninterrupted steps of an invocation are one call of its program. -/
theorem packetCountStep_solo (counter : BitVec 32) :
    run packetCountStep ⟨counter, [⟨.start, []⟩]⟩ [0, 0, 0] =
      ⟨(packetCount counter).counter,
        [⟨.done (packetCount counter).verdict, (packetCount counter).printed⟩]⟩ ∧
    run errorPacketCountStep ⟨counter, [⟨.start, []⟩]⟩ [0, 0, 0] =
      ⟨(errorPacketCount counter).counter,
        [⟨.done (errorPacketCount counter).verdict, (errorPacketCount counter).printed⟩]⟩ :=
  ⟨rfl, rfl⟩

/-- A step prints the counter, loads it, or writes the loaded value plus one. -/
theorem countStep_cases {verdict : Option (BitVec 32)} {counter after : BitVec 32}
    {invocation next : Invocation} (stepped : countStep verdict counter invocation = some (after, next)) :
    (invocation.phase = .start ∧ after = counter ∧
      next = ⟨.printed, invocation.lines ++ [counterLine counter]⟩) ∨
    (invocation.phase = .printed ∧ after = counter ∧ next = ⟨.loaded counter, invocation.lines⟩) ∨
    ∃ value, invocation.phase = .loaded value ∧ after = value + 1 ∧
      next = ⟨.done verdict, invocation.lines⟩ := by
  obtain ⟨phase, lines⟩ := invocation
  cases phase with
  | start =>
      obtain ⟨rfl, rfl⟩ := Prod.mk.inj (Option.some.inj stepped)
      exact Or.inl ⟨rfl, rfl, rfl⟩
  | printed =>
      obtain ⟨rfl, rfl⟩ := Prod.mk.inj (Option.some.inj stepped)
      exact Or.inr (Or.inl ⟨rfl, rfl, rfl⟩)
  | loaded value =>
      obtain ⟨rfl, rfl⟩ := Prod.mk.inj (Option.some.inj stepped)
      exact Or.inr (Or.inr ⟨value, rfl, rfl, rfl⟩)
  | done verdict => cases stepped

theorem finished_not_active (invocation : Invocation) (finished : invocation.finished = true) :
    invocation.active = false := by
  obtain ⟨phase, lines⟩ := invocation
  cases phase with
  | done verdict => rfl
  | _ => cases finished

/-- A step adds the lines of the moving invocation to the printed values. -/
theorem printedValues_set {config : Configuration (BitVec 32) Invocation} {index : Nat}
    {invocation : Invocation} (after : BitVec 32) (next : Invocation) (extra : List Printk)
    (found : config.invocations[index]? = some invocation)
    (grown : next.lines = invocation.lines ++ extra) :
    (printedValues ⟨after, config.invocations.set index next⟩).Perm
      (printedValues config ++ extra.map Printk.decimal) := by
  apply flatMap_set_perm found
  rw [grown, List.map_append]

/-- A step that prints nothing keeps the printed values. -/
theorem printedValues_keep {config : Configuration (BitVec 32) Invocation} {index : Nat}
    {invocation : Invocation} (after : BitVec 32) (next : Invocation)
    (found : config.invocations[index]? = some invocation) (kept : next.lines = invocation.lines) :
    (printedValues ⟨after, config.invocations.set index next⟩).Perm (printedValues config) := by
  have grown := printedValues_set after next [] found (by rw [kept, List.append_nil])
  rwa [List.map_nil, List.append_nil] at grown

theorem idle_iff (invocations : List Invocation) :
    invocations.countP Invocation.active = 0 ↔
      ∀ invocation ∈ invocations, invocation.active = false := by
  simp only [List.countP_eq_zero, Bool.not_eq_true]

/-- The counter of a serial state shows the number of the finished invocations. -/
theorem Serial.shared_toInt {packets : Nat} (few : packets < 2 ^ 31)
    {config : Configuration (BitVec 32) Invocation} (serial : Serial packets config) :
    config.shared.toInt = config.invocations.countP Invocation.finished := by
  have bound : config.invocations.countP Invocation.finished ≤ config.invocations.length :=
    List.countP_le_length
  rw [serial.length] at bound
  rw [serial.counter, toInt_ofNat_iff]
  omega

/-- A start prints the number of the finished invocations, because no other one is active. -/
theorem Serial.start {packets : Nat} (few : packets < 2 ^ 31)
    {config : Configuration (BitVec 32) Invocation} {index : Nat} {lines : List Printk}
    (serial : Serial packets config) (found : config.invocations[index]? = some ⟨.start, lines⟩)
    (idle : config.invocations.countP Invocation.active = 0) :
    Serial packets ⟨config.shared,
      config.invocations.set index ⟨.printed, lines ++ [counterLine config.shared]⟩⟩ := by
  obtain rfl : lines = [] := serial.fresh _ (List.mem_of_getElem? found) rfl
  rw [List.nil_append]
  have finished := countP_set_add (p := Invocation.finished) ⟨.printed, [counterLine config.shared]⟩ found
  have active := countP_set_add (p := Invocation.active) ⟨.printed, [counterLine config.shared]⟩ found
  simp only [Invocation.finished, Invocation.active, Bool.false_eq_true, if_false, if_true, idle,
    Nat.add_zero] at finished active
  constructor
  · rw [List.length_set, serial.length]
  · exact serial.counter.trans (congrArg _ finished.symm)
  · exact active.le
  · apply forall_mem_set index serial.fresh
    exact nofun
  · apply forall_mem_set index serial.loaded
    exact nofun
  · have grown := printedValues_set config.shared ⟨.printed, [counterLine config.shared]⟩
      [counterLine config.shared] found rfl
    have old := serial.printed
    rw [idle, Nat.add_zero] at old
    rw [finished, active, List.range_succ, List.map_append, List.map_singleton,
      ← serial.shared_toInt few, ← decimal_counterLine]
    exact grown.trans (old.append_right _)

/-- A load keeps the counter and the printed values. -/
theorem Serial.load {packets : Nat} {config : Configuration (BitVec 32) Invocation} {index : Nat}
    {lines : List Printk} (serial : Serial packets config)
    (found : config.invocations[index]? = some ⟨.printed, lines⟩) :
    Serial packets ⟨config.shared, config.invocations.set index ⟨.loaded config.shared, lines⟩⟩ := by
  have finished := countP_set_add (p := Invocation.finished) ⟨.loaded config.shared, lines⟩ found
  have active := countP_set_add (p := Invocation.active) ⟨.loaded config.shared, lines⟩ found
  simp only [Invocation.finished, Invocation.active, Bool.false_eq_true, if_false, if_true,
    Nat.add_zero, Nat.add_right_cancel_iff] at finished active
  constructor
  · rw [List.length_set, serial.length]
  · exact serial.counter.trans (congrArg _ finished.symm)
  · exact active.le.trans serial.single
  · apply forall_mem_set index serial.fresh
    exact nofun
  · apply forall_mem_set index serial.loaded
    rintro value ⟨⟩
    rfl
  · rw [finished, active]
    exact (printedValues_keep config.shared ⟨.loaded config.shared, lines⟩ found rfl).trans serial.printed

/-- A write counts the only active invocation, which has loaded the present counter. -/
theorem Serial.write {packets : Nat} {config : Configuration (BitVec 32) Invocation} {index : Nat}
    {value : BitVec 32} {lines : List Printk} (verdict : Option (BitVec 32))
    (serial : Serial packets config)
    (found : config.invocations[index]? = some ⟨.loaded value, lines⟩) :
    Serial packets ⟨value + 1, config.invocations.set index ⟨.done verdict, lines⟩⟩ := by
  obtain rfl : value = config.shared := serial.loaded _ (List.mem_of_getElem? found) value rfl
  have finished := countP_set_add (p := Invocation.finished) ⟨.done verdict, lines⟩ found
  have active := countP_set_add (p := Invocation.active) ⟨.done verdict, lines⟩ found
  have single := serial.single
  simp only [Invocation.finished, Invocation.active, Bool.false_eq_true, if_false, if_true,
    Nat.add_zero] at finished active
  have idle : (config.invocations.set index ⟨.done verdict, lines⟩).countP Invocation.active = 0 := by
    omega
  constructor
  · rw [List.length_set, serial.length]
  · rw [finished, serial.counter, BitVec.ofNat_add]
    rfl
  · exact idle.le.trans (Nat.zero_le 1)
  · apply forall_mem_set index serial.fresh
    exact nofun
  · intro invocation member other loading
    have inactive := (idle_iff _).mp idle invocation member
    rw [Invocation.active, loading] at inactive
    cases inactive
  · have one : config.invocations.countP Invocation.active = 1 := by omega
    have old := serial.printed
    rw [one] at old
    rw [finished, idle, Nat.add_zero]
    exact (printedValues_keep (config.shared + 1) ⟨.done verdict, lines⟩ found rfl).trans old

theorem Serial.step {verdict : Option (BitVec 32)} {packets : Nat} (few : packets < 2 ^ 31)
    {config : Configuration (BitVec 32) Invocation} {index : Nat} {invocation next : Invocation}
    {after : BitVec 32} (serial : Serial packets config) (apart : NonOverlapping config invocation)
    (found : config.invocations[index]? = some invocation)
    (stepped : countStep verdict config.shared invocation = some (after, next)) :
    Serial packets ⟨after, config.invocations.set index next⟩ := by
  obtain ⟨phase, lines⟩ := invocation
  rcases countStep_cases stepped with ⟨rfl, rfl, rfl⟩ | ⟨rfl, rfl, rfl⟩ | ⟨value, rfl, rfl, rfl⟩
  · exact serial.start few found ((idle_iff _).mpr (apart rfl))
  · exact serial.load found
  · exact serial.write verdict found

theorem serial_initial (packets : Nat) : Serial packets (initial packets) := by
  have fresh : ∀ invocation ∈ (initial packets).invocations, invocation = ⟨.start, []⟩ :=
    fun invocation member => List.eq_of_mem_replicate member
  have finished : (initial packets).invocations.countP Invocation.finished = 0 :=
    List.countP_eq_zero.mpr fun invocation member => by rw [fresh invocation member]; decide
  have active : (initial packets).invocations.countP Invocation.active = 0 :=
    (idle_iff _).mpr fun invocation member => by rw [fresh invocation member]; rfl
  have silent : printedValues (initial packets) = [] :=
    List.flatMap_eq_nil_iff.mpr fun invocation member => by rw [fresh invocation member]; rfl
  constructor
  · exact List.length_replicate
  · rw [finished]
    rfl
  · exact active.le.trans (Nat.zero_le 1)
  · intro invocation member _
    rw [fresh invocation member]
  · intro invocation member value loading
    rw [fresh invocation member] at loading
    cases loading
  · rw [silent, finished, active]
    exact List.Perm.refl []

/-- A serial state prints no value twice and counts its finished invocations. -/
theorem Serial.counts {packets : Nat} (few : packets < 2 ^ 31)
    {config : Configuration (BitVec 32) Invocation} (serial : Serial packets config) :
    Counts packets config := by
  constructor
  · apply serial.printed.nodup_iff.mpr
    exact List.nodup_range.map Nat.cast_injective
  · intro all
    have finished : config.invocations.countP Invocation.finished = packets := by
      rw [← serial.length]
      exact List.countP_eq_length.mpr all
    have active : config.invocations.countP Invocation.active = 0 :=
      (idle_iff _).mpr fun invocation member => finished_not_active invocation (all invocation member)
    have printed := serial.printed
    have counter := serial.shared_toInt few
    rw [finished, active, Nat.add_zero] at printed
    rw [finished] at counter
    exact ⟨printed, counter⟩

/-- A value that is printed twice stays printed twice. -/
theorem printedValues_run (verdict : Option (BitVec 32)) (config : Configuration (BitVec 32) Invocation)
    (schedule : List Nat) (distinct : (printedValues (run (countStep verdict) config schedule)).Nodup) :
    (printedValues config).Nodup := by
  have grown : ∃ extra, (printedValues (run (countStep verdict) config schedule)).Perm
      (printedValues config ++ extra) := by
    apply run_invariant (countStep verdict)
      (fun reached => ∃ extra, (printedValues reached).Perm (printedValues config ++ extra))
    · rintro reached index invocation after next ⟨extra, printed⟩ found stepped
      obtain ⟨added, lines⟩ : ∃ added, next.lines = invocation.lines ++ added := by
        rcases countStep_cases stepped with ⟨_, _, rfl⟩ | ⟨_, _, rfl⟩ | ⟨_, _, _, rfl⟩
        · exact ⟨_, rfl⟩
        · exact ⟨[], (List.append_nil _).symm⟩
        · exact ⟨[], (List.append_nil _).symm⟩
      refine ⟨extra ++ added.map Printk.decimal, ?_⟩
      rw [← List.append_assoc]
      exact (printedValues_set after next added found lines).trans (printed.append_right _)
    · exact ⟨[], by rw [List.append_nil]⟩
  obtain ⟨extra, printed⟩ := grown
  exact (List.nodup_append.mp (printed.nodup_iff.mp distinct)).1

/-- An overlapping start prints the value that the active invocation has printed. -/
theorem Serial.repeats {verdict : Option (BitVec 32)} {packets : Nat} (few : packets < 2 ^ 31)
    {config : Configuration (BitVec 32) Invocation} {index : Nat} {invocation : Invocation}
    (serial : Serial packets config) (found : config.invocations[index]? = some invocation)
    (overlaps : ¬ NonOverlapping config invocation) :
    ¬ (printedValues (fire (countStep verdict) config index)).Nodup := by
  obtain ⟨phase, lines⟩ := invocation
  simp only [NonOverlapping, not_forall, exists_prop, Bool.not_eq_false] at overlaps
  obtain ⟨rfl, other, member, active⟩ := overlaps
  have one : config.invocations.countP Invocation.active = 1 := by
    have positive : 0 < config.invocations.countP Invocation.active :=
      List.countP_pos_iff.mpr ⟨other, member, active⟩
    have single := serial.single
    omega
  have printed : config.shared.toInt ∈ printedValues config := by
    rw [serial.printed.mem_iff, one, serial.shared_toInt few]
    exact List.mem_map_of_mem (List.mem_range.mpr (Nat.lt_succ_self _))
  have fired : fire (countStep verdict) config index = _ := fire_eq found rfl
  rw [fired, (printedValues_set config.shared _ [counterLine config.shared] found rfl).nodup_iff,
    List.map_singleton, decimal_counterLine]
  intro distinct
  exact (List.nodup_append.mp distinct).2.2 _ printed _ (List.mem_singleton_self _) rfl

theorem countStep_counts_iff (verdict : Option (BitVec 32)) {packets : Nat} (few : packets < 2 ^ 31)
    (schedule : List Nat) :
    Counts packets (run (countStep verdict) (initial packets) schedule) ↔
      Meets (countStep verdict) NonOverlapping (initial packets) schedule := by
  have reached {schedule : List Nat} (apart : Meets (countStep verdict) NonOverlapping (initial packets)
      schedule) : Serial packets (run (countStep verdict) (initial packets) schedule) :=
    run_guarded (countStep verdict) NonOverlapping (Serial packets)
      (fun _ _ _ _ _ serial apart found stepped => serial.step few apart found stepped)
      (serial_initial packets) apart
  constructor
  · intro counts
    by_contra overlapping
    -- The first overlapping start repeats a value, and no later step takes a value back.
    obtain ⟨before, index, after, invocation, split, apart, found, overlaps⟩ :=
      exists_of_not_meets overlapping
    have distinct := counts.distinct
    rw [split, run_append, run_cons] at distinct
    exact (reached apart).repeats few found overlaps (printedValues_run verdict _ after distinct)
  · exact fun apart => (reached apart).counts few

/-- In both programs the packets are counted exactly when no invocation starts while another one is
active. -/
theorem packetCountStep_counts_iff {packets : Nat} (few : packets < 2 ^ 31) (schedule : List Nat) :
    (Counts packets (run packetCountStep (initial packets) schedule) ↔
      Meets packetCountStep NonOverlapping (initial packets) schedule) ∧
    (Counts packets (run errorPacketCountStep (initial packets) schedule) ↔
      Meets errorPacketCountStep NonOverlapping (initial packets) schedule) :=
  ⟨countStep_counts_iff (some XDP_PASS) few schedule, countStep_counts_iff none few schedule⟩

/-- Two invocations after one another count two packets. -/
theorem packetCountStep_counts_serial :
    Counts 2 (run packetCountStep (initial 2) [0, 0, 0, 1, 1, 1]) ∧
      Counts 2 (run errorPacketCountStep (initial 2) [0, 0, 0, 1, 1, 1]) :=
  ⟨(packetCountStep_counts_iff (by decide) _).1.mpr (by decide),
    (packetCountStep_counts_iff (by decide) _).2.mpr (by decide)⟩

/-- Two invocations that start together print the same number. -/
theorem packetCountStep_repeats :
    ¬ ∀ (packets : Nat) (schedule : List Nat), packets < 2 ^ 31 →
      Counts packets (run packetCountStep (initial packets) schedule) ∧
        Counts packets (run errorPacketCountStep (initial packets) schedule) := by
  intro always
  have distinct := (always 2 [0, 1] (by decide)).1.distinct
  exact absurd distinct (by decide)

end EbpfNotes.PacketCount
