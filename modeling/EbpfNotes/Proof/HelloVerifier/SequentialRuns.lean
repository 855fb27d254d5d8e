import EbpfNotes.Construction.HelloVerifier

namespace EbpfNotes.HelloVerifier

open Library

/-- A negative counter converts to a large size, so the comparison is one of 32-bit numbers. -/
theorem belowSize_iff {size : Nat} (small : size ≤ 2 ^ 31) (c : BitVec 32) :
    belowSize c size = true ↔ c.toNat < size := by
  have bound := c.isLt
  rw [belowSize, decide_eq_true_iff, BitVec.lt_def, BitVec.toNat_signExtend, BitVec.toNat_ofNat,
    BitVec.toNat_setWidth, BitVec.msb_eq_decide]
  by_cases negative : 2 ^ (32 - 1) ≤ c.toNat
  · simp only [negative, decide_true, if_true]
    omega
  · simp only [negative, decide_false, Bool.false_eq_true, if_false]
    omega

/-- The read and the trace line that follow a successful bounds check. -/
def charActions {size : Nat} (name : Indexed) (array : Vector Byte size) (position : Nat) : List Action :=
  if inside : position < size then
    [.index name position, .printk ⟨literal "%c", charArgument array[position]⟩]
  else []

/-- The bounds check never lets an index outside of the array through. -/
theorem printChar_eq {size : Nat} (small : size ≤ 2 ^ 31) (name : Indexed) (array : Vector Byte size)
    (c : BitVec 32) : printChar name array c = some (charActions name array c.toNat) := by
  unfold printChar charActions
  by_cases inside : c.toNat < size
  · have nonnegative : c.toInt = c.toNat := BitVec.toInt_eq_toNat_of_lt (by omega)
    have read : indexArray array c = some array[c.toNat] := by
      rw [indexArray, nonnegative, if_pos (Int.natCast_nonneg _), Int.toNat_natCast,
        Vector.getElem?_eq_getElem inside]
    rw [if_pos ((belowSize_iff small c).mpr inside), dif_pos inside, read, nonnegative]
    rfl
  · rw [if_neg (mt (belowSize_iff small c).mp inside), dif_neg inside]

/-- The message that the record carries for a user. -/
def configuredMessage (endian : Endian) (myConfig : MyConfig) (globals : Globals) (uid : Word) :
    Vector Byte 12 :=
  ((myConfig.lookup (configKey endian uid)).map MsgT.message).getD globals.message

/-- Only a configured user gets the trace line of its message. -/
def configuredActions (endian : Endian) (myConfig : MyConfig) (uid : Word) : List Action :=
  ((myConfig.lookup (configKey endian uid)).map printFirst).toList

/-- The record that an invocation submits. -/
def record (endian : Endian) (myConfig : MyConfig) (globals : Globals) (event : Event) : DataT where
  pid := event.pidTgid.setWidth 32
  uid := (event.uidGid &&& 0xFFFFFFFF).setWidth 32
  counter := globals.c
  command := event.comm
  message := configuredMessage endian myConfig globals (event.uidGid &&& 0xFFFFFFFF)

/-- The actions between the configuration and the record, at an index of the two arrays. -/
def arrayActions (message dataMessage : Vector Byte 12) (position : Nat) : List Action :=
  charActions .message message position ++ charActions .dataMessage dataMessage position

/-- An invocation never fails, and it increments the counter and submits one record. -/
theorem kprobeExec_eq (endian : Endian) (myConfig : MyConfig) (globals : Globals) (event : Event) :
    kprobeExec endian myConfig globals event = some
      ⟨0, { globals with c := globals.c + 1 },
        configuredActions endian myConfig (event.uidGid &&& 0xFFFFFFFF) ++
          arrayActions globals.message (record endian myConfig globals event).message
            (globals.c + 1).toNat ++
          [.output BPF_F_CURRENT_CPU (record endian myConfig globals event)]⟩ := by
  simp only [kprobeExec, printChar_eq (by decide : 12 ≤ 2 ^ 31), Option.bind_eq_bind, Option.bind_some,
    bpfMapLookupElem, record, configuredMessage, configuredActions, arrayActions, List.append_assoc]
  cases found : myConfig.lookup (configKey endian (event.uidGid &&& 0xFFFFFFFF)) <;> rfl

theorem kprobeRun_cons (endian : Endian) (globals : Globals) (myConfig : MyConfig) (event : Event)
    (rest : List (MyConfig × Event)) :
    ∃ result, kprobeExec endian myConfig globals event = some result ∧
      kprobeRun endian globals ((myConfig, event) :: rest) =
        (kprobeRun endian { globals with c := globals.c + 1 } rest).map
          fun ran => (ran.1, result :: ran.2) := by
  refine ⟨_, kprobeExec_eq endian myConfig globals event, ?_⟩
  simp only [kprobeRun, kprobeExec_eq, Option.bind_eq_bind, Option.bind_some]
  cases kprobeRun endian { globals with c := globals.c + 1 } rest <;> rfl

/-- A run adds its length to the counter and keeps the message. -/
theorem kprobeRun_globals (endian : Endian) (globals : Globals) (history : List (MyConfig × Event)) :
    ∃ results, kprobeRun endian globals history = some
      ({ globals with c := globals.c + BitVec.ofNat 32 history.length }, results) := by
  induction history generalizing globals with
  | nil => exact ⟨[], by simp [kprobeRun]⟩
  | cons invocation history ih =>
      obtain ⟨result, _, unfolded⟩ :=
        kprobeRun_cons endian globals invocation.1 invocation.2 history
      obtain ⟨results, ran⟩ := ih { globals with c := globals.c + 1 }
      refine ⟨result :: results, ?_⟩
      rw [unfolded, ran, Option.map_some, List.length_cons, Nat.add_comm history.length 1,
        BitVec.ofNat_add, ← BitVec.add_assoc]
      rfl

/-- A run goes on with the globals that its first part leaves. -/
theorem kprobeRun_append (endian : Endian) (globals : Globals) (first second : List (MyConfig × Event)) :
    kprobeRun endian globals (first ++ second) = (kprobeRun endian globals first).bind fun ran =>
      (kprobeRun endian ran.1 second).map fun rest => (rest.1, ran.2 ++ rest.2) := by
  induction first generalizing globals with
  | nil =>
      rw [List.nil_append, kprobeRun, Option.bind_some]
      cases kprobeRun endian globals second <;> rfl
  | cons invocation first ih =>
      obtain ⟨myConfig, event⟩ := invocation
      rw [List.cons_append, kprobeRun, kprobeRun]
      cases kprobeExec endian myConfig globals event with
      | none => rfl
      | some result =>
          simp only [Option.bind_eq_bind, Option.bind_some, ih]
          cases kprobeRun endian result.globals first with
          | none => rfl
          | some ran =>
              simp only [Option.bind_some]
              cases kprobeRun endian ran.1 second <;> rfl

/-- A run has one result for each invocation. -/
theorem kprobeRun_length {endian : Endian} {globals final : Globals} {history : List (MyConfig × Event)}
    {results : List Result} (ran : kprobeRun endian globals history = some (final, results)) :
    results.length = history.length := by
  induction history generalizing globals final results with
  | nil =>
      rw [kprobeRun, Option.some.injEq, Prod.mk.injEq] at ran
      rw [← ran.2]
      rfl
  | cons invocation history ih =>
      obtain ⟨result, _, unfolded⟩ :=
        kprobeRun_cons endian globals invocation.1 invocation.2 history
      rw [unfolded] at ran
      obtain ⟨rest, later, joined⟩ := Option.map_eq_some_iff.mp ran
      rw [Prod.mk.injEq] at joined
      rw [← joined.2, List.length_cons, List.length_cons, ih later]

/-- The configuration prints at most one decimal line. -/
theorem configuredActions_printk (endian : Endian) (myConfig : MyConfig) (uid : Word) :
    ∀ action ∈ configuredActions endian myConfig uid,
      ∃ argument, action = .printk ⟨literal "%d", argument⟩ := by
  intro action member
  unfold configuredActions at member
  cases found : myConfig.lookup (configKey endian uid) with
  | none => simp [found] at member
  | some msg => exact ⟨charArgument msg.message[0], by simpa [found, printFirst] using member⟩

/-- A view that shows no trace line shows nothing of the configuration. -/
theorem configuredActions_filterMap {Value : Type} (shown : Action → Option Value)
    (silent : ∀ line, shown (.printk line) = none) (endian : Endian) (myConfig : MyConfig) (uid : Word) :
    (configuredActions endian myConfig uid).filterMap shown = [] := by
  apply List.filterMap_eq_nil_iff.mpr
  intro action member
  obtain ⟨argument, rfl⟩ := configuredActions_printk endian myConfig uid action member
  exact silent _

/-- Both arrays are read at the position while it is inside of them. -/
def arrayIndices (position : Nat) : List (Indexed × Int) :=
  if position < 12 then [(.message, position), (.dataMessage, position)] else []

/-- An invocation reads both arrays at the incremented counter, or it reads neither. -/
theorem kprobeExec_indices {endian : Endian} {myConfig : MyConfig} {globals : Globals} {event : Event}
    {result : Result} (ran : kprobeExec endian myConfig globals event = some result) :
    result.indices = arrayIndices (globals.c + 1).toNat := by
  rw [kprobeExec_eq] at ran
  obtain rfl := Option.some.inj ran
  have unindexed := configuredActions_filterMap Action.indexed (fun _ => rfl) endian myConfig
    (event.uidGid &&& 0xFFFFFFFF)
  simp only [Result.indices, List.filterMap_append, unindexed, List.nil_append, arrayActions,
    charActions, arrayIndices]
  split <;> rfl

/-- An invocation submits exactly its record. -/
theorem kprobeExec_outputs {endian : Endian} {myConfig : MyConfig} {globals : Globals} {event : Event}
    {result : Result} (ran : kprobeExec endian myConfig globals event = some result) :
    result.outputs = [record endian myConfig globals event] := by
  rw [kprobeExec_eq] at ran
  obtain rfl := Option.some.inj ran
  have configured := configuredActions_filterMap Action.submitted (fun _ => rfl) endian myConfig
    (event.uidGid &&& 0xFFFFFFFF)
  simp only [Result.outputs, List.filterMap_append, configured, List.nil_append, arrayActions,
    charActions]
  split <;> rfl

/-- An index that an invocation uses is inside of both arrays. -/
theorem arrayIndices_inside (position : Nat) :
    ∀ entry ∈ arrayIndices position, 0 ≤ entry.2 ∧ entry.2 ≤ 11 := by
  intro entry member
  unfold arrayIndices at member
  split at member
  · next inside =>
      have listed : entry = (.message, (position : Int)) ∨ entry = (.dataMessage, (position : Int)) := by
        simpa using member
      rcases listed with rfl | rfl
      all_goals exact ⟨Int.natCast_nonneg _, by change (position : Int) ≤ 11; omega⟩
  · cases member

/-- The invocation reports k, and it reads and prints both arrays at k + 1 exactly while that index
is inside of them. -/
def Reports (k : Nat) (globals : Globals) (result : Result) : Prop :=
  ∃ (data : DataT) (lines : List Action),
    result.actions = lines ++ arrayActions globals.message data.message ((k + 1) % 2 ^ 32) ++
      [.output BPF_F_CURRENT_CPU data] ∧
    data.counter.toInt = Int.bmod k (2 ^ 32) ∧
    (∀ action ∈ lines, ∃ argument, action = .printk ⟨literal "%d", argument⟩) ∧
    ∀ entry ∈ result.indices, 0 ≤ entry.2 ∧ entry.2 ≤ 11

/-- An invocation that finds the counter k reports k. -/
theorem kprobeExec_reports (endian : Endian) (myConfig : MyConfig) (globals : Globals) (event : Event)
    {k : Nat} (counts : globals.c = BitVec.ofNat 32 k) :
    ∃ result, kprobeExec endian myConfig globals event = some result ∧ Reports k globals result := by
  have position : (globals.c + 1).toNat = (k + 1) % 2 ^ 32 := by
    rw [counts, ← BitVec.toNat_ofNat, BitVec.ofNat_add]
    rfl
  have executed := kprobeExec_eq endian myConfig globals event
  refine ⟨_, executed, record endian myConfig globals event, _, ?_, ?_,
    configuredActions_printk endian myConfig (event.uidGid &&& 0xFFFFFFFF), ?_⟩
  · rw [position]
  · change globals.c.toInt = _
    rw [counts, BitVec.toInt_ofNat']
  · rw [kprobeExec_indices executed]
    exact arrayIndices_inside _

/-- After every history the k-th invocation reports k and indexes both arrays inside at k + 1, and so does
the k-th result of each run that goes on behind it. -/
theorem kprobeRun_reports (endian : Endian) (history : List (MyConfig × Event)) (myConfig : MyConfig)
    (event : Event) (later : List (MyConfig × Event)) :
    ∃ globals results result final others,
      kprobeRun endian Globals.loaded history = some (globals, results) ∧
      kprobeExec endian myConfig globals event = some result ∧
      Reports (history.length + 1) globals result ∧
      kprobeRun endian Globals.loaded (history ++ (myConfig, event) :: later) =
        some (final, results ++ result :: others) ∧
      results.length = history.length := by
  obtain ⟨results, ran⟩ := kprobeRun_globals endian Globals.loaded history
  have counts : Globals.loaded.c + BitVec.ofNat 32 history.length =
      BitVec.ofNat 32 (history.length + 1) := by
    rw [Nat.add_comm, BitVec.ofNat_add]
    rfl
  obtain ⟨result, executed, reports⟩ := kprobeExec_reports endian myConfig
    { Globals.loaded with c := Globals.loaded.c + BitVec.ofNat 32 history.length } event counts
  obtain ⟨others, followed⟩ := kprobeRun_globals endian result.globals later
  refine ⟨_, results, result, { result.globals with c := result.globals.c + BitVec.ofNat 32 later.length },
    others, ran, executed, reports, ?_, kprobeRun_length ran⟩
  rw [kprobeRun_append, ran, Option.bind_some, kprobeRun, executed]
  simp only [Option.bind_eq_bind, Option.bind_some, followed, Option.map_some]

end EbpfNotes.HelloVerifier
