import EbpfNotes.Library.Table

namespace EbpfNotes.Library

variable {Key : Type} [DecidableEq Key] {width capacity : Nat}

/-- An absent counter counts as zero. -/
def current (table : Table Key (BitVec width) capacity) (key : Key) : BitVec width :=
  (table.lookup key).getD 0

/-- A tick adds one to the counter of the key. -/
def tick (table : Table Key (BitVec width) capacity) (key : Key) : Table Key (BitVec width) capacity :=
  table.set key (current table key + 1)

/-- A present counter is exact, and a counted key is absent only because the table is full. -/
structure TalliedAt (table : Table Key (BitVec width) capacity) (key : Key) (count : Nat) : Prop where
  exact : ∀ value, table.lookup key = some value → value = BitVec.ofNat width count
  stored : 0 < count → key ∈ table.keys ∨ capacity ≤ table.keys.length

theorem talliedAt_empty (key : Key) :
    TalliedAt (Table.empty : Table Key (BitVec width) capacity) key 0 where
  exact value found := by simp at found
  stored positive := absurd positive (Nat.lt_irrefl 0)

/-- An admitted key reads its exact count, which is zero while it is absent. -/
theorem TalliedAt.current_eq {table : Table Key (BitVec width) capacity} {key : Key} {count : Nat}
    (tallied : TalliedAt table key count) (admitted : table.Admits key) :
    current table key = BitVec.ofNat width count := by
  unfold current
  cases found : table.lookup key with
  | some value => exact tallied.exact value found
  | none =>
      have absent : key ∉ table.keys := (table.lookup_eq_none key).mp found
      have room : table.keys.length < capacity := admitted.resolve_left absent
      have unseen : count = 0 := by
        by_contra seen
        rcases tallied.stored (Nat.pos_of_ne_zero seen) with present | full
        · exact absent present
        · omega
      rw [unseen]
      rfl

theorem TalliedAt.tick {table : Table Key (BitVec width) capacity} {key : Key} {count : Nat}
    (tallied : TalliedAt table key count) : TalliedAt (tick table key) key (count + 1) := by
  by_cases admitted : table.Admits key
  · have written : (Library.tick table key).lookup key = some (BitVec.ofNat width (count + 1)) := by
      rw [Library.tick, Table.lookup_set_self _ _ _ admitted, tallied.current_eq admitted,
        BitVec.ofNat_add]
      rfl
    refine ⟨fun value found => ?_, fun _ => Or.inl (Table.mem_keys_of_lookup written)⟩
    rw [written] at found
    exact (Option.some.inj found).symm
  · have refused : (Library.tick table key).lookup key = none := by
      rw [Library.tick, Table.lookup_set, if_neg (fun hit => admitted hit.2), Table.lookup_eq_none]
      exact fun present => admitted (Or.inl present)
    have full : capacity ≤ table.keys.length := Nat.le_of_not_lt fun room => admitted (Or.inr room)
    exact ⟨fun value found => by simp [refused] at found,
      fun _ => Or.inr (full.trans (Table.keys_length_set table key _))⟩

/-- A tally depends only on the counter of its key and on a table that does not shrink. -/
theorem TalliedAt.frame {table after : Table Key (BitVec width) capacity} {key : Key} {count : Nat}
    (tallied : TalliedAt table key count) (same : after.lookup key = table.lookup key)
    (grown : table.keys.length ≤ after.keys.length) : TalliedAt after key count where
  exact value found := tallied.exact value (by rwa [same] at found)
  stored positive := by
    rcases tallied.stored positive with present | full
    · rw [← Table.lookup_isSome, same, Table.lookup_isSome]
      exact Or.inl present
    · exact Or.inr (full.trans grown)

/-- A write to another key keeps the tally. -/
theorem TalliedAt.set_other {table : Table Key (BitVec width) capacity} {key other : Key} {count : Nat}
    (tallied : TalliedAt table key count) (value : BitVec width) (different : key ≠ other) :
    TalliedAt (table.set other value) key count :=
  tallied.frame (Table.lookup_set_other table value different) (Table.keys_length_set table other value)

/-- A tally handles the requests one after another from the empty table. -/
def tally (requests : List Key) : Table Key (BitVec width) capacity :=
  requests.foldl tick Table.empty

theorem tally_concat (requests : List Key) (request : Key) :
    (tally (requests ++ [request]) : Table Key (BitVec width) capacity) =
      tick (tally requests) request := by
  simp only [tally, List.foldl_append, List.foldl_cons, List.foldl_nil]

/-- A sequential tally counts each key of the table exactly. -/
theorem talliedAt_tally (requests : List Key) (key : Key) :
    TalliedAt (tally requests : Table Key (BitVec width) capacity) key (requests.count key) := by
  induction requests using List.reverseRecOn with
  | nil => exact talliedAt_empty key
  | append_singleton requests request ih =>
      rw [tally_concat, List.count_append, List.count_singleton]
      by_cases same : request = key
      · subst request
        simpa using ih.tick
      · simpa [same, Library.tick] using ih.set_other _ (Ne.symm same)

theorem tally_keys (requests : List Key) :
    (tally requests : Table Key (BitVec width) capacity).keys = requests.eraseDups.take capacity :=
  Table.keys_fold (fun table key => current table key + 1) requests

/-- The first `capacity` distinct keys are counted and all other keys are refused. -/
theorem tally_lookup (requests : List Key) (key : Key) :
    (tally requests : Table Key (BitVec width) capacity).lookup key =
      if key ∈ requests.eraseDups.take capacity then
        some (BitVec.ofNat width (requests.count key)) else none := by
  have tallied : TalliedAt (tally requests : Table Key (BitVec width) capacity) key
    (requests.count key) := talliedAt_tally requests key
  rw [← show (tally requests : Table Key (BitVec width) capacity).keys = _ from tally_keys requests]
  by_cases present : key ∈ (tally requests : Table Key (BitVec width) capacity).keys
  · rw [if_pos present]
    obtain ⟨value, found⟩ := Option.isSome_iff_exists.mp ((Table.lookup_isSome _ key).mpr present)
    rw [found, tallied.exact value found]
  · rw [if_neg present]
    exact (Table.lookup_eq_none _ key).mpr present

end EbpfNotes.Library
