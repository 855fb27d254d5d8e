import EbpfNotes.Proof.PacketCount.Race

namespace EbpfNotes.PacketCount

open Library

/-- Neither the counter nor a loaded number is above the number of the finished invocations, and each
started invocation has printed a number below the number of the packets. -/
structure Undercounts (packets : Nat) (config : Configuration (BitVec 32) Invocation) : Prop where
  length : config.invocations.length = packets
  counter : config.shared.toNat ≤ config.invocations.countP Invocation.finished
  loaded : ∀ invocation ∈ config.invocations, ∀ value, invocation.phase = .loaded value →
    value.toNat ≤ config.invocations.countP Invocation.finished
  counted : 0 < config.invocations.countP Invocation.finished → 0 < config.shared.toNat
  lines : ∀ invocation ∈ config.invocations,
    invocation.lines.length = if invocation.phase = .start then 0 else 1
  printed : ∀ value ∈ printedValues config, 0 ≤ value ∧ value < packets

section Step

variable {packets : Nat} {config : Configuration (BitVec 32) Invocation} {index : Nat}
  {invocation : Invocation}

/-- An invocation that still has a step to take is not counted. -/
theorem finished_lt {invocations : List Invocation} (found : invocations[index]? = some invocation)
    (unfinished : invocation.finished = false) :
    invocations.countP Invocation.finished < invocations.length := by
  apply lt_of_le_of_ne List.countP_le_length
  intro all
  have finished := List.countP_eq_length.mp all invocation (List.mem_of_getElem? found)
  rw [unfinished] at finished
  cases finished

theorem Undercounts.start (few : packets < 2 ^ 31) {lines : List Printk} (holds : Undercounts packets config)
    (found : config.invocations[index]? = some ⟨.start, lines⟩) :
    Undercounts packets ⟨config.shared,
      config.invocations.set index ⟨.printed, lines ++ [counterLine config.shared]⟩⟩ := by
  have finished := countP_set_add (p := Invocation.finished)
    ⟨.printed, lines ++ [counterLine config.shared]⟩ found
  simp only [Invocation.finished, Bool.false_eq_true, if_false, Nat.add_zero] at finished
  have before := finished_lt found rfl
  have length := holds.length
  have counter := holds.counter
  constructor
  · rw [List.length_set, holds.length]
  · exact finished ▸ holds.counter
  · rw [finished]
    apply forall_mem_set index holds.loaded
    intro value waits
    cases waits
  · rw [finished]
    exact holds.counted
  · apply forall_mem_set index holds.lines
    have empty := holds.lines _ (List.mem_of_getElem? found)
    simp only [if_true, List.length_eq_zero_iff] at empty
    simp [empty]
  · have grown := printedValues_set config.shared ⟨.printed, lines ++ [counterLine config.shared]⟩
      [counterLine config.shared] found rfl
    intro value member
    rcases List.mem_append.mp (grown.mem_iff.mp member) with old | new
    · exact holds.printed value old
    · rw [List.map_singleton, List.mem_singleton, decimal_counterLine,
        BitVec.toInt_eq_toNat_of_lt (by omega)] at new
      omega

theorem Undercounts.load {lines : List Printk} (holds : Undercounts packets config)
    (found : config.invocations[index]? = some ⟨.printed, lines⟩) :
    Undercounts packets ⟨config.shared, config.invocations.set index ⟨.loaded config.shared, lines⟩⟩ := by
  have finished := countP_set_add (p := Invocation.finished) ⟨.loaded config.shared, lines⟩ found
  simp only [Invocation.finished, Bool.false_eq_true, if_false, Nat.add_zero] at finished
  constructor
  · rw [List.length_set, holds.length]
  · exact finished ▸ holds.counter
  · rw [finished]
    apply forall_mem_set index holds.loaded
    rintro value ⟨⟩
    exact holds.counter
  · rw [finished]
    exact holds.counted
  · apply forall_mem_set index holds.lines
    have one := holds.lines _ (List.mem_of_getElem? found)
    simpa using one
  · intro value member
    have kept := printedValues_keep config.shared ⟨.loaded config.shared, lines⟩ found rfl
    exact holds.printed value (kept.mem_iff.mp member)

theorem Undercounts.write (few : packets < 2 ^ 31) {value : BitVec 32} {lines : List Printk}
    (verdict : Option (BitVec 32)) (holds : Undercounts packets config)
    (found : config.invocations[index]? = some ⟨.loaded value, lines⟩) :
    Undercounts packets ⟨value + 1, config.invocations.set index ⟨.done verdict, lines⟩⟩ := by
  have finished := countP_set_add (p := Invocation.finished) ⟨.done verdict, lines⟩ found
  simp only [Invocation.finished, Bool.false_eq_true, if_false, if_true, Nat.add_zero] at finished
  have before := finished_lt found rfl
  have length := holds.length
  have small := holds.loaded _ (List.mem_of_getElem? found) value rfl
  have sum : (value + 1).toNat = value.toNat + 1 := by
    rw [BitVec.toNat_add]
    change (value.toNat + 1) % 2 ^ 32 = _
    omega
  constructor
  · rw [List.length_set, holds.length]
  · rw [finished, sum]
    exact Nat.succ_le_succ small
  · rw [finished]
    intro other member loaded reached
    rcases List.mem_or_eq_of_mem_set member with kept | rfl
    · exact (holds.loaded other kept loaded reached).trans (Nat.le_succ _)
    · cases reached
  · rw [sum]
    exact fun _ => Nat.succ_pos _
  · apply forall_mem_set index holds.lines
    have one := holds.lines _ (List.mem_of_getElem? found)
    simpa using one
  · intro other member
    have kept := printedValues_keep (value + 1) ⟨.done verdict, lines⟩ found rfl
    exact holds.printed other (kept.mem_iff.mp member)

end Step

theorem undercounts_initial (packets : Nat) : Undercounts packets (initial packets) := by
  have fresh : ∀ invocation ∈ (initial packets).invocations, invocation = ⟨.start, []⟩ :=
    fun invocation member => List.eq_of_mem_replicate member
  have finished : (initial packets).invocations.countP Invocation.finished = 0 :=
    List.countP_eq_zero.mpr fun invocation member => by rw [fresh invocation member]; decide
  constructor
  · exact List.length_replicate
  · exact Nat.zero_le _
  · intro invocation member value loading
    rw [fresh invocation member] at loading
    cases loading
  · rw [finished]
    exact fun none => absurd none (Nat.lt_irrefl 0)
  · intro invocation member
    rw [fresh invocation member]
    rfl
  · intro value member
    obtain ⟨invocation, present, shown⟩ := List.mem_flatMap.mp member
    rw [fresh invocation present] at shown
    cases shown

/-- A finished invocation takes no step. -/
theorem countStep_finished {verdict : Option (BitVec 32)} {counter : BitVec 32} {invocation : Invocation}
    (finished : invocation.finished = true) : countStep verdict counter invocation = none := by
  obtain ⟨phase, lines⟩ := invocation
  cases phase with
  | done verdict => rfl
  | _ => cases finished

/-- Every interleaving undercounts. -/
theorem undercounts_run (verdict : Option (BitVec 32)) {packets : Nat} (few : packets < 2 ^ 31)
    (schedule : List Nat) :
    Undercounts packets (run (countStep verdict) (initial packets) schedule) := by
  refine run_invariant (countStep verdict) (Undercounts packets) ?_ (undercounts_initial packets) schedule
  intro config index invocation shared next holds found stepped
  obtain ⟨phase, lines⟩ := invocation
  rcases countStep_cases stepped with ⟨rfl, rfl, rfl⟩ | ⟨rfl, rfl, rfl⟩ | ⟨value, rfl, rfl, rfl⟩
  · exact holds.start few found
  · exact holds.load found
  · exact holds.write few verdict found

/-- When all invocations have finished, each one has printed one number. -/
theorem Undercounts.finished {packets : Nat} {config : Configuration (BitVec 32) Invocation}
    (holds : Undercounts packets config)
    (all : ∀ invocation ∈ config.invocations, invocation.finished = true) :
    min 1 packets ≤ config.shared.toNat ∧ config.shared.toNat ≤ packets ∧
      (printedValues config).length = packets := by
  have finished : config.invocations.countP Invocation.finished = packets := by
    rw [← holds.length]
    exact List.countP_eq_length.mpr all
  have counter := holds.counter
  have counted := holds.counted
  have single : (config.invocations.map fun invocation =>
      (invocation.lines.map Printk.decimal).length) = config.invocations.map fun _ => 1 := by
    apply List.map_congr_left
    intro invocation member
    have ended : invocation.phase ≠ .start := by
      intro started
      have complete := all invocation member
      rw [Invocation.finished, started] at complete
      cases complete
    rw [List.length_map, holds.lines invocation member, if_neg ended]
  refine ⟨by omega, by omega, ?_⟩
  rw [printedValues, List.length_flatMap, single, List.map_const', List.sum_replicate, smul_eq_mul,
    Nat.mul_one, holds.length]

section Serial

variable (verdict : Option (BitVec 32))

/-- Three steps in a row take a fresh invocation to its end. -/
theorem serial_one {config : Configuration (BitVec 32) Invocation} {index : Nat}
    (found : config.invocations[index]? = some ⟨.start, []⟩) :
    run (countStep verdict) config [index, index, index] =
      ⟨config.shared + 1,
        config.invocations.set index ⟨.done verdict, [counterLine config.shared]⟩⟩ := by
  have inside := (List.getElem?_eq_some_iff.mp found).1
  have present : ∀ invocation : Invocation,
      (config.invocations.set index invocation)[index]? = some invocation :=
    fun invocation => List.getElem?_set_self inside
  have first : fire (countStep verdict) config index = ⟨config.shared,
      config.invocations.set index ⟨.printed, [counterLine config.shared]⟩⟩ := fire_eq found rfl
  have second : fire (countStep verdict) ⟨config.shared,
      config.invocations.set index ⟨.printed, [counterLine config.shared]⟩⟩ index = ⟨config.shared,
      config.invocations.set index ⟨.loaded config.shared, [counterLine config.shared]⟩⟩ := by
    rw [fire_eq (present _) rfl, List.set_set]
  have third : fire (countStep verdict) ⟨config.shared,
      config.invocations.set index ⟨.loaded config.shared, [counterLine config.shared]⟩⟩ index =
      ⟨config.shared + 1,
        config.invocations.set index ⟨.done verdict, [counterLine config.shared]⟩⟩ := by
    rw [fire_eq (present _) rfl, List.set_set]
  rw [run_cons, first, run_cons, second, run_cons, third, run_nil]

/-- Each invocation of a range takes its three steps in a row. -/
def serialSchedule (first count : Nat) : List Nat :=
  (List.range' first count).flatMap fun index => [index, index, index]

/-- What the invocations of a range have done when they run one after another. -/
structure SerialRun (first count : Nat) (config after : Configuration (BitVec 32) Invocation) : Prop where
  counter : after.shared = config.shared + BitVec.ofNat 32 count
  length : after.invocations.length = config.invocations.length
  finished : ∀ index, first ≤ index → index < first + count →
    ∃ invocation, after.invocations[index]? = some invocation ∧ invocation.finished = true
  others : ∀ index, index < first ∨ first + count ≤ index →
    after.invocations[index]? = config.invocations[index]?

theorem serial_run (config : Configuration (BitVec 32) Invocation) (first count : Nat)
    (fresh : ∀ index, first ≤ index → index < first + count →
      config.invocations[index]? = some ⟨.start, []⟩) :
    SerialRun first count config (run (countStep verdict) config (serialSchedule first count)) := by
  induction count generalizing first config with
  | zero =>
      refine ⟨?_, rfl, fun index low high => absurd high (by omega), fun _ _ => rfl⟩
      exact (BitVec.add_zero _).symm
  | succ count ih =>
      have head := fresh first le_rfl (by omega)
      have inside := (List.getElem?_eq_some_iff.mp head).1
      have schedule : serialSchedule first (count + 1) =
          [first, first, first] ++ serialSchedule (first + 1) count := rfl
      rw [schedule, run_append, serial_one verdict head]
      have rest := ih ⟨config.shared + 1, config.invocations.set first
        ⟨.done verdict, [counterLine config.shared]⟩⟩ (first + 1) (by
          intro index low high
          rw [List.getElem?_set_ne (by omega)]
          exact fresh index (by omega) (by omega))
      constructor
      · rw [rest.counter, BitVec.ofNat_add, BitVec.add_assoc, BitVec.add_comm 1]
        rfl
      · rw [rest.length, List.length_set]
      · intro index low high
        by_cases same : index = first
        · subst same
          refine ⟨_, (rest.others index (by omega)).trans (List.getElem?_set_self inside), rfl⟩
        · exact rest.finished index (by omega) (by omega)
      · intro index outside
        rw [rest.others index (by omega), List.getElem?_set_ne (by omega)]

end Serial

/-- One invocation loads the first counter, the others before `count` run meanwhile, and its late write
loses what they have counted. -/
def losingSchedule (packets count : Nat) : List Nat :=
  [0, 0] ++ serialSchedule 1 (packets - count) ++ [0] ++ serialSchedule (packets - count + 1) (count - 1)

/-- Each number from one to the number of the packets is left by some interleaving. -/
theorem losingSchedule_counter (verdict : Option (BitVec 32)) {packets count : Nat} (positive : 1 ≤ count)
    (within : count ≤ packets) :
    (run (countStep verdict) (initial packets) (losingSchedule packets count)).shared =
        BitVec.ofNat 32 count ∧
      ∀ invocation ∈ (run (countStep verdict) (initial packets)
        (losingSchedule packets count)).invocations, invocation.finished = true := by
  have fresh : ∀ index < packets, (initial packets).invocations[index]? = some ⟨.start, []⟩ :=
    fun index inside => List.getElem?_replicate_of_lt inside
  have length : (initial packets).invocations.length = packets := List.length_replicate
  let waiting : Invocation := ⟨.loaded 0, [counterLine 0]⟩
  let written : Invocation := ⟨.done verdict, [counterLine 0]⟩
  -- The first invocation loads zero and waits.
  have loads : run (countStep verdict) (initial packets) [0, 0] =
      ⟨0, (initial packets).invocations.set 0 waiting⟩ := by
    have printed : fire (countStep verdict) (initial packets) 0 = ⟨0,
        (initial packets).invocations.set 0 ⟨.printed, [counterLine 0]⟩⟩ :=
      fire_eq (fresh 0 (by omega)) rfl
    rw [run_cons, printed, run_cons, run_nil, fire_eq (List.getElem?_set_self (by omega)) rfl,
      List.set_set]
  have meanwhile := serial_run verdict ⟨0, (initial packets).invocations.set 0 waiting⟩ 1
    (packets - count) (by
      intro index low high
      rw [List.getElem?_set_ne (by omega)]
      exact fresh index (by omega))
  generalize counts : run (countStep verdict) ⟨0, (initial packets).invocations.set 0 waiting⟩
    (serialSchedule 1 (packets - count)) = middle at meanwhile
  have waits : middle.invocations[0]? = some waiting := by
    rw [meanwhile.others 0 (by omega)]
    exact List.getElem?_set_self (by omega)
  have inside : 0 < middle.invocations.length := (List.getElem?_eq_some_iff.mp waits).1
  have writes : run (countStep verdict) middle [0] = ⟨1, middle.invocations.set 0 written⟩ := by
    rw [run_cons, run_nil, fire_eq waits rfl]
    rfl
  have last := serial_run verdict ⟨1, middle.invocations.set 0 written⟩ (packets - count + 1)
    (count - 1) (by
      intro index low high
      rw [List.getElem?_set_ne (by omega), meanwhile.others index (by omega),
        List.getElem?_set_ne (by omega)]
      exact fresh index (by omega))
  have reached : run (countStep verdict) (initial packets) (losingSchedule packets count) =
      run (countStep verdict) ⟨1, middle.invocations.set 0 written⟩
        (serialSchedule (packets - count + 1) (count - 1)) := by
    rw [losingSchedule, run_append, run_append, run_append, loads, counts, writes]
  rw [reached]
  generalize run (countStep verdict) ⟨1, middle.invocations.set 0 written⟩
    (serialSchedule (packets - count + 1) (count - 1)) = final at last
  constructor
  · have sum : BitVec.ofNat 32 1 + BitVec.ofNat 32 (count - 1) = BitVec.ofNat 32 count := by
      rw [← BitVec.ofNat_add]
      congr 1
      omega
    exact last.counter.trans sum
  · intro invocation member
    obtain ⟨index, found⟩ := List.getElem?_of_mem member
    have bound : index < packets := by
      have within := (List.getElem?_eq_some_iff.mp found).1
      have lengths := last.length
      rw [List.length_set, meanwhile.length, List.length_set, length] at lengths
      omega
    by_cases late : packets - count + 1 ≤ index
    · obtain ⟨ended, present, finished⟩ := last.finished index late (by omega)
      rw [found] at present
      exact Option.some.inj present ▸ finished
    · rw [last.others index (by omega)] at found
      by_cases zero : index = 0
      · subst zero
        rw [List.getElem?_set_self inside] at found
        exact Option.some.inj found ▸ rfl
      · rw [List.getElem?_set_ne (Ne.symm zero)] at found
        obtain ⟨ended, present, finished⟩ := meanwhile.finished index (by omega) (by omega)
        rw [found] at present
        exact Option.some.inj present ▸ finished

end EbpfNotes.PacketCount
