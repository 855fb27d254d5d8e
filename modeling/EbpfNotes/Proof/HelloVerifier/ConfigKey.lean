import EbpfNotes.Proof.HelloVerifier.Strings

namespace EbpfNotes.HelloVerifierUser

open Library
open HelloVerifier

/-- The entry that the map holds for a key. -/
def entry (myConfig : MyConfig) (key : Vector Byte 4) : Option (Vector Byte 4 × MsgT) :=
  (myConfig.lookup key).map fun msg => (key, msg)

/-- The program finds the entry that user space writes for the user of the event, and the event
carries the message of this entry or the global one. -/
structure FindsUser (endian : Endian) (myConfig : MyConfig) (globals : Globals) (event : Event) : Prop where
  found : entry myConfig (configKey endian (event.uidGid &&& 0xFFFFFFFF)) =
    entry myConfig (keyBytes endian (event.uidGid.setWidth 32))
  reported : ∃ result data, kprobeExec endian myConfig globals event = some result ∧
    result.outputs = [data] ∧
    data.message = ((myConfig.lookup (keyBytes endian (event.uidGid.setWidth 32))).map
      MsgT.message).getD globals.message

/-- The bytes of a key determine it in both byte orders. -/
theorem keyBytes_inj (endian : Endian) (first second : BitVec 32) :
    keyBytes endian first = keyBytes endian second ↔ first = second := by
  constructor
  · intro same
    have each (index : Nat) (inside : index < 4) :
        endian.byte 4 first.toNat index = endian.byte 4 second.toNat index := by
      simpa [keyBytes] using congrArg (·[index]) same
    have bytes : ∀ index < 4, byteAt first.toNat index = byteAt second.toNat index := by
      intro index inside
      cases endian with
      | little => exact each index inside
      | big =>
          have mirrored := each (4 - 1 - index) (by omega)
          rwa [Endian.byte, Endian.byte, show 4 - 1 - (4 - 1 - index) = index by omega] at mirrored
    have agree := (byteAt_eq_iff 4 _ _).mp bytes
    have firstBound := first.isLt
    have secondBound := second.isLt
    apply BitVec.eq_of_toNat_eq
    omega
  · intro same
    rw [same]

/-- The first four bytes of a big-endian word below `2 ^ 32` are zero. -/
theorem configKey_big (uidGid : Word) :
    configKey .big (uidGid &&& 0xFFFFFFFF) = keyBytes .big 0 := by
  ext index inside : 1
  have small : (uidGid &&& 0xFFFFFFFF).toNat < 256 ^ 4 := by
    rw [toNat_lowerHalf]
    omega
  have weight : 256 ^ 4 ≤ 256 ^ (8 - 1 - index) := Nat.pow_le_pow_right (by decide) (by omega)
  rw [configKey, keyBytes, Vector.getElem_ofFn, Vector.getElem_ofFn, wordBytes, Endian.byte, Endian.byte,
    byteAt, byteAt, Nat.div_eq_of_lt (small.trans_le weight)]
  exact congrArg _ (Nat.zero_div _).symm

/-- An invocation reports the message that the lookup of the variable finds. -/
theorem kprobeExec_message (endian : Endian) (myConfig : MyConfig) (globals : Globals) (event : Event) :
    ∃ result data, kprobeExec endian myConfig globals event = some result ∧
      result.outputs = [data] ∧
      data.message = ((myConfig.lookup (configKey endian (event.uidGid &&& 0xFFFFFFFF))).map
        MsgT.message).getD globals.message := by
  have executed := kprobeExec_eq endian myConfig globals event
  exact ⟨_, record endian myConfig globals event, executed, kprobeExec_outputs executed, rfl⟩

/-- The entries of two keys agree exactly when the keys do or both are absent. -/
theorem entry_eq_iff (myConfig : MyConfig) (first second : Vector Byte 4) :
    entry myConfig first = entry myConfig second ↔
      first = second ∨ myConfig.lookup first = none ∧ myConfig.lookup second = none := by
  constructor
  · intro same
    unfold entry at same
    cases left : myConfig.lookup first with
    | none =>
        rw [left, Option.map_none, eq_comm, Option.map_eq_none_iff] at same
        exact Or.inr ⟨rfl, same⟩
    | some msg =>
        rw [left, Option.map_some, eq_comm] at same
        obtain ⟨other, _, pair⟩ := Option.map_eq_some_iff.mp same
        exact Or.inl (Prod.mk.inj pair).1.symm
  · intro absent
    rcases absent with same | ⟨left, right⟩
    · rw [same]
    · rw [entry, entry, left, right]
      rfl

/-- The program finds the user's entry exactly when its key is the one that user space writes or
neither key has an entry. -/
theorem findsUser_iff (endian : Endian) (myConfig : MyConfig) (globals : Globals) (event : Event) :
    FindsUser endian myConfig globals event ↔
      configKey endian (event.uidGid &&& 0xFFFFFFFF) = keyBytes endian (event.uidGid.setWidth 32) ∨
      myConfig.lookup (configKey endian (event.uidGid &&& 0xFFFFFFFF)) = none ∧
        myConfig.lookup (keyBytes endian (event.uidGid.setWidth 32)) = none := by
  rw [← entry_eq_iff]
  constructor
  · exact FindsUser.found
  · intro found
    have lookups : myConfig.lookup (configKey endian (event.uidGid &&& 0xFFFFFFFF)) =
        myConfig.lookup (keyBytes endian (event.uidGid.setWidth 32)) := by
      rcases (entry_eq_iff _ _ _).mp found with same | ⟨left, right⟩
      · rw [same]
      · rw [left, right]
    apply FindsUser.mk found
    rw [← lookups]
    exact kprobeExec_message endian myConfig globals event

/-- A big-endian target reads the upper half of the variable, so it finds the user's entry exactly for
user zero and for the users without an entry while user zero has none either. -/
theorem kprobeExec_findsUser_iff (endian : Endian) (myConfig : MyConfig) (globals : Globals)
    (event : Event) :
    FindsUser endian myConfig globals event ↔
      endian = .little ∨ event.uidGid.setWidth 32 = (0 : BitVec 32) ∨
        myConfig.lookup (keyBytes endian (event.uidGid.setWidth 32)) = none ∧
          myConfig.lookup (keyBytes endian 0) = none := by
  rw [findsUser_iff]
  cases endian with
  | little =>
      have same := (configKey_eq_iff _ _).mpr (setWidth_mask event.uidGid)
      exact iff_of_true (Or.inl same) (Or.inl rfl)
  | big =>
      -- The lookup uses the key of user zero, whoever the user of the event is.
      have other : ¬ Endian.big = Endian.little := by decide
      rw [configKey_big, keyBytes_inj, or_iff_right other, eq_comm,
        and_comm (a := Table.lookup _ (keyBytes .big 0) = none)]

/-- On a big-endian target the configured user 501 gets the global message. -/
theorem kprobeExec_misses_user :
    ¬ ∀ (endian : Endian) (myConfig : MyConfig) (globals : Globals) (event : Event),
      FindsUser endian myConfig globals event := by
  intro always
  have found := (always .big (configure .big (Vector.replicate 12 0) Table.empty).2 Globals.loaded
    ⟨0, 501, Vector.replicate 16 0⟩).found
  exact absurd found (by decide +kernel)

end EbpfNotes.HelloVerifierUser
