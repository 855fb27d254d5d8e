import Mathlib.Tactic

namespace EbpfNotes.Library

/-- A table stores each key once and at most `capacity` keys. -/
structure Table (Key Value : Type) (capacity : Nat) where
  entries : List (Key × Value)
  distinct : (entries.map Prod.fst).Nodup
  within : entries.length ≤ capacity

namespace Table

variable {Key Value : Type} {capacity : Nat}

def empty : Table Key Value capacity := ⟨[], by simp, by simp⟩

/-- The keys stand in the order of their insertion. -/
def keys (table : Table Key Value capacity) : List Key := table.entries.map Prod.fst

theorem keys_nodup (table : Table Key Value capacity) : table.keys.Nodup := table.distinct

theorem keys_length_le (table : Table Key Value capacity) : table.keys.length ≤ capacity := by
  simpa only [keys, List.length_map] using table.within

@[simp] theorem keys_empty : (empty : Table Key Value capacity).keys = [] := rfl

variable [DecidableEq Key]

def lookup (table : Table Key Value capacity) (key : Key) : Option Value :=
  table.entries.lookup key

@[simp] theorem lookup_empty (key : Key) : (empty : Table Key Value capacity).lookup key = none := rfl

/-- Overwriting replaces the value of the entry and keeps its position. -/
def overwrite (key : Key) (value : Value) (entries : List (Key × Value)) : List (Key × Value) :=
  entries.map fun entry => if entry.1 = key then (key, value) else entry

@[simp] theorem overwrite_keys (key : Key) (value : Value) (entries : List (Key × Value)) :
    (overwrite key value entries).map Prod.fst = entries.map Prod.fst := by
  induction entries with
  | nil => rfl
  | cons entry rest ih =>
      simp only [overwrite, List.map_cons] at ih ⊢
      rw [ih]
      split
      · next same => rw [same]
      · rfl

theorem overwrite_lookup (key query : Key) (value : Value) (entries : List (Key × Value)) :
    (overwrite key value entries).lookup query =
      if query = key ∧ key ∈ entries.map Prod.fst then some value else entries.lookup query := by
  induction entries with
  | nil => simp [overwrite]
  | cons entry rest ih =>
      obtain ⟨stored, old⟩ := entry
      change List.lookup query ((if stored = key then (key, value) else (stored, old)) ::
        overwrite key value rest) = _
      by_cases same : query = stored
      · subst query
        by_cases overwritten : stored = key
        · simp [overwritten]
        · simp [overwritten]
      · have different : (query == stored) = false := beq_eq_false_iff_ne.mpr same
        by_cases overwritten : stored = key
        · subst key
          simp only [if_true, List.lookup_cons, different, ih, same, false_and, if_false]
        · simp only [overwritten, if_false, List.lookup_cons, different, ih, List.map_cons,
            List.mem_cons, Ne.symm overwritten, false_or]

/-- A write goes through to a present key, and to a new key while a slot is free. -/
def Admits (table : Table Key Value capacity) (key : Key) : Prop :=
  key ∈ table.keys ∨ table.keys.length < capacity

instance (table : Table Key Value capacity) (key : Key) : Decidable (table.Admits key) :=
  inferInstanceAs (Decidable (_ ∨ _))

/-- An update overwrites a present key, appends a new one, and fails on a full table. -/
def update (table : Table Key Value capacity) (key : Key) (value : Value) :
    Option (Table Key Value capacity) :=
  if present : key ∈ table.keys then
    some ⟨overwrite key value table.entries, by rw [overwrite_keys]; exact table.distinct,
      by simpa only [overwrite, List.length_map] using table.within⟩
  else if room : table.keys.length < capacity then
    some ⟨table.entries ++ [(key, value)],
      by
        rw [List.map_append]
        refine List.nodup_append.mpr ⟨table.distinct, List.nodup_singleton _, ?_⟩
        intro stored member new added same
        rw [List.map_singleton, List.mem_singleton] at added
        rw [same, added] at member
        exact present member,
      by
        rw [keys, List.length_map] at room
        rw [List.length_append, List.length_singleton]
        exact room⟩
  else none

/-- A failed update leaves the table as it is. -/
def set (table : Table Key Value capacity) (key : Key) (value : Value) :
    Table Key Value capacity := (table.update key value).getD table

theorem lookup_isSome (table : Table Key Value capacity) (key : Key) :
    (table.lookup key).isSome ↔ key ∈ table.keys := by
  unfold lookup keys
  induction table.entries with
  | nil => simp
  | cons entry rest ih =>
      obtain ⟨stored, old⟩ := entry
      by_cases same : key = stored
      · simp [same]
      · have different : (key == stored) = false := beq_eq_false_iff_ne.mpr same
        simp only [List.lookup_cons, different, List.map_cons, List.mem_cons, same, false_or]
        exact ih

theorem lookup_eq_none (table : Table Key Value capacity) (key : Key) :
    table.lookup key = none ↔ key ∉ table.keys := by
  rw [← lookup_isSome, Option.not_isSome_iff_eq_none]

theorem mem_keys_of_lookup {table : Table Key Value capacity} {key : Key} {value : Value}
    (found : table.lookup key = some value) : key ∈ table.keys := by
  rw [← lookup_isSome, found]
  rfl

/-- A write changes the value of an admitted key and no other value. -/
theorem lookup_set (table : Table Key Value capacity) (key query : Key) (value : Value) :
    (table.set key value).lookup query =
      if query = key ∧ table.Admits key then some value else table.lookup query := by
  unfold set update Admits
  split
  · next present =>
      change (overwrite key value table.entries).lookup query = _
      rw [overwrite_lookup]
      simp only [present, true_or, and_true]
      change (if query = key ∧ key ∈ table.keys then _ else _) = _
      simp only [present, and_true]
      rfl
  · next absent =>
      split
      · next room =>
          simp only [room, or_true, and_true, Option.getD_some]
          change (table.entries ++ [(key, value)]).lookup query = _
          rw [List.lookup_append]
          by_cases same : query = key
          · subst query
            have missing : table.entries.lookup key = none := (table.lookup_eq_none key).mpr absent
            simp [missing]
          · have different : (query == key) = false := beq_eq_false_iff_ne.mpr same
            simp [same, lookup, List.lookup_cons, different]
      · next full => simp [absent, full]

theorem lookup_set_self (table : Table Key Value capacity) (key : Key) (value : Value)
    (admitted : table.Admits key) : (table.set key value).lookup key = some value := by
  rw [lookup_set, if_pos ⟨rfl, admitted⟩]

theorem lookup_set_other (table : Table Key Value capacity) {key query : Key} (value : Value)
    (different : query ≠ key) : (table.set key value).lookup query = table.lookup query := by
  rw [lookup_set, if_neg (fun hit => different hit.1)]

/-- A new key takes the next free slot. -/
theorem keys_set (table : Table Key Value capacity) (key : Key) (value : Value) :
    (table.set key value).keys =
      if key ∈ table.keys ∨ capacity ≤ table.keys.length then table.keys
      else table.keys ++ [key] := by
  unfold set update
  split
  · next present =>
      simp only [present, true_or, if_true]
      exact overwrite_keys key value table.entries
  · next absent =>
      split
      · next room =>
          rw [if_neg (by simp only [absent, false_or]; omega)]
          simp only [Option.getD_some, keys, List.map_append, List.map_singleton]
      · next full => rw [if_pos (Or.inr (by omega))]; rfl

/-- No write removes a key. -/
theorem mem_keys_set {table : Table Key Value capacity} {query : Key} (key : Key) (value : Value)
    (present : query ∈ table.keys) : query ∈ (table.set key value).keys := by
  rw [keys_set]
  split
  · exact present
  · exact List.mem_append_left _ present

theorem mem_keys_of_set {table : Table Key Value capacity} {query key : Key} {value : Value}
    (present : query ∈ (table.set key value).keys) : query = key ∨ query ∈ table.keys := by
  rw [keys_set] at present
  split at present
  · exact Or.inr present
  · simpa only [List.mem_append, List.mem_singleton, or_comm] using present

theorem keys_length_set (table : Table Key Value capacity) (key : Key) (value : Value) :
    table.keys.length ≤ (table.set key value).keys.length := by
  rw [keys_set]
  split
  · exact Nat.le_refl _
  · rw [List.length_append]; exact Nat.le_add_right _ _

/-- A table filled from empty holds the first `capacity` distinct keys in order. -/
theorem keys_fold (write : Table Key Value capacity → Key → Value) (requests : List Key) :
    (requests.foldl (fun table key => table.set key (write table key))
      (empty : Table Key Value capacity)).keys = requests.eraseDups.take capacity := by
  induction requests using List.reverseRecOn with
  | nil => simp
  | append_singleton requests key ih =>
      rw [List.foldl_append, List.foldl_cons, List.foldl_nil, keys_set, ih, List.eraseDups_append]
      by_cases seen : key ∈ requests
      · have nothing : [key].removeAll requests = [] := by simp [List.removeAll, seen]
        rw [nothing, List.eraseDups_nil, List.append_nil]
        have listed : key ∈ requests.eraseDups := List.mem_eraseDups.mpr seen
        rw [if_pos]
        by_cases kept : key ∈ requests.eraseDups.take capacity
        · exact Or.inl kept
        · right
          rw [List.length_take]
          -- The key lies behind the cut, so the cut is a real one.
          by_contra short
          exact kept (by rw [List.take_of_length_le (by omega)]; exact listed)
      · have only : [key].removeAll requests = [key] := by simp [List.removeAll, seen]
        have single : [key].eraseDups = [key] := by simp [List.eraseDups_cons]
        have fresh : key ∉ requests.eraseDups := fun member => seen (List.mem_eraseDups.mp member)
        rw [only, single]
        by_cases room : requests.eraseDups.length < capacity
        · rw [List.take_of_length_le (by omega), List.take_of_length_le (by simp; omega), if_neg]
          simp only [fresh, false_or]
          omega
        · rw [if_pos (Or.inr (by rw [List.length_take]; omega)),
            List.take_append_of_le_length (by omega)]

end Table

end EbpfNotes.Library
