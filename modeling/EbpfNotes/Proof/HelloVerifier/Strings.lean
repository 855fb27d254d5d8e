import EbpfNotes.Construction.HelloVerifierUser
import EbpfNotes.Proof.HelloVerifier.SequentialRuns

namespace EbpfNotes.HelloVerifierUser

open Library
open HelloVerifier

/-- The narrow key of a little-endian target is the key of the lower half of the variable. -/
theorem configKey_eq_iff (uid : Word) (key : BitVec 32) :
    configKey .little uid = keyBytes .little key ↔ uid.setWidth 32 = key := by
  have bound := key.isLt
  have bytes : configKey .little uid = keyBytes .little key ↔
      ∀ index < 4, byteAt uid.toNat index = byteAt key.toNat index := by
    constructor
    · intro same index inside
      simpa [configKey, keyBytes, wordBytes, Endian.byte] using congrArg (·[index]) same
    · intro same
      ext index inside : 1
      simpa [configKey, keyBytes, wordBytes, Endian.byte] using same index inside
  rw [bytes, byteAt_eq_iff, ← BitVec.toNat_inj, BitVec.toNat_setWidth]
  omega

/-- The bytes that `main` stores for user 501. -/
def greeting (stack : Vector Byte 12) : MsgT := ⟨strncpy stack (ascii "hello Liz") 9⟩

/-- The configuration holds one entry, the one of user 501. -/
theorem lookup_configure (endian : Endian) (stack : Vector Byte 12) (key : Vector Byte 4) :
    (configure endian stack Table.empty).2.lookup key =
      if key = keyBytes endian 501 then some (greeting stack) else none := by
  have written : (configure endian stack Table.empty).2 =
      (Table.empty : MyConfig).set (keyBytes endian 501) (greeting stack) :=
    bpfMapUpdateElem_any _ _ _
  have admitted : (Table.empty : MyConfig).Admits (keyBytes endian 501) := Or.inr (by decide)
  rw [written, Table.lookup_set]
  by_cases own : key = keyBytes endian 501
  · rw [if_pos ⟨own, admitted⟩, if_pos own]
  · rw [if_neg (fun hit => own hit.1), if_neg own, Table.lookup_empty]

/-- Masking to the lower half keeps the lower half. -/
theorem setWidth_mask (uidGid : Word) : (uidGid &&& 0xFFFFFFFF).setWidth 32 = uidGid.setWidth 32 := by
  apply BitVec.eq_of_toNat_eq
  rw [BitVec.toNat_setWidth, toNat_lowerHalf, Nat.mod_mod, BitVec.toNat_setWidth]

/-- User 501 gets the copied message, and every other user gets the global message. -/
theorem configuredMessage_configure (stack : Vector Byte 12) (globals : Globals) (uidGid : Word) :
    configuredMessage .little (configure .little stack Table.empty).2 globals (uidGid &&& 0xFFFFFFFF) =
      if uidGid.setWidth 32 = (501 : BitVec 32) then (greeting stack).message else globals.message := by
  rw [configuredMessage, lookup_configure]
  by_cases own : uidGid.setWidth 32 = (501 : BitVec 32)
  · rw [if_pos ((configKey_eq_iff _ _).mpr ((setWidth_mask uidGid).trans own)), if_pos own]
    rfl
  · rw [if_neg (fun same => own ((setWidth_mask uidGid).symm.trans ((configKey_eq_iff _ _).mp same))),
      if_neg own]
    rfl

/-- The record of an event carries a terminated message, and the printer shows the user's text. -/
structure Printable (event : Event) (data : DataT) : Prop where
  terminated : 0 ∈ data.message.toList
  printed : (handleEvent data).map Line.message = some
    (if event.uidGid.setWidth 32 = (501 : BitVec 32) then ascii "hello Liz" else ascii "Hello World")

/-- The printer shows the bytes of the message before its first NUL. -/
theorem handleEvent_message (m : DataT) :
    (handleEvent m).map Line.message = cString m.message.toList := by
  unfold handleEvent
  cases shown : cString m.message.toList with
  | none => cases cString (m.command.toList ++ m.message.toList) <;> rfl
  | some text =>
      have terminated : 0 ∈ m.message.toList := by rw [← cString_isSome, shown]; rfl
      obtain ⟨command, found⟩ := Option.isSome_iff_exists.mp
        ((cString_isSome (m.command.toList ++ m.message.toList)).mpr
          (List.mem_append_right _ terminated))
      rw [found]
      rfl

/-- The string of the copied message ends at its tenth byte only when the stack held a NUL there. -/
theorem cString_greeting (stack : Vector Byte 12) :
    cString (greeting stack).message.toList = some (ascii "hello Liz") ↔ stack[9] = 0 := by
  have bytes : (greeting stack).message.toList =
      ascii "hello Liz" ++ [stack[9], stack[10], stack[11]] := rfl
  have text : ∀ byte ∈ ascii "hello Liz", byte ≠ 0 := by decide
  rw [bytes, cString_append text]
  by_cases null : stack[9] = 0
  · rw [cString, if_pos null]
    exact iff_of_true rfl null
  · rw [cString, if_neg null]
    refine iff_of_false (fun shown => ?_) null
    cases rest : cString [stack[10], stack[11]] with
    | none => simp [rest] at shown
    | some tail => simp [rest] at shown

theorem cString_world : cString (charArray 12 "Hello World").toList = some (ascii "Hello World") := by
  decide

/-- A record is printable unless it carries the copied message without a NUL. -/
theorem printable_iff (stack : Vector Byte 12) (event : Event) {data : DataT}
    (message : data.message =
      if event.uidGid.setWidth 32 = (501 : BitVec 32) then (greeting stack).message
      else charArray 12 "Hello World") :
    Printable event data ↔ (event.uidGid.setWidth 32 = (501 : BitVec 32) → stack[9] = 0) := by
  by_cases own : event.uidGid.setWidth 32 = (501 : BitVec 32)
  · rw [if_pos own] at message
    rw [← cString_greeting, ← message, ← handleEvent_message]
    constructor
    · intro printable _
      rw [printable.printed, if_pos own]
    · intro shown
      refine ⟨?_, by rw [shown own, if_pos own]⟩
      rw [← cString_isSome, ← handleEvent_message, shown own]
      rfl
  · rw [if_neg own] at message
    refine iff_of_true ⟨?_, ?_⟩ (fun same => absurd same own)
    · rw [message]; decide
    · rw [handleEvent_message, message, if_neg own]
      exact cString_world

/-- The records of a run are printable exactly when each event finds a terminated message. -/
theorem kprobeRun_printable (stack : Vector Byte 12) (globals : Globals)
    (world : globals.message = charArray 12 "Hello World") (events : List Event) :
    ∃ after results, kprobeRun .little globals
        (events.map fun event => ((configure .little stack Table.empty).2, event)) =
          some (after, results) ∧
      (List.Forall₂ Printable events (results.flatMap Result.outputs) ↔
        ∀ event ∈ events, event.uidGid.setWidth 32 = (501 : BitVec 32) → stack[9] = 0) := by
  induction events generalizing globals with
  | nil => exact ⟨globals, [], rfl, by simp⟩
  | cons event events ih =>
      obtain ⟨result, executed, unfolded⟩ := kprobeRun_cons .little globals
        (configure .little stack Table.empty).2 event
        (events.map fun event => ((configure .little stack Table.empty).2, event))
      obtain ⟨after, results, ran, printable⟩ := ih { globals with c := globals.c + 1 } world
      refine ⟨after, result :: results, ?_, ?_⟩
      · rw [List.map_cons, unfolded, ran, Option.map_some]
      · have message : (record .little (configure .little stack Table.empty).2 globals event).message =
            if event.uidGid.setWidth 32 = (501 : BitVec 32) then (greeting stack).message
            else charArray 12 "Hello World" := by
          rw [← world]
          exact configuredMessage_configure stack globals event.uidGid
        rw [List.flatMap_cons, kprobeExec_outputs executed, List.singleton_append, List.forall₂_cons,
          printable, printable_iff stack event message, List.forall_mem_cons]

/-- The printed messages are the expected strings exactly when the stack held a NUL behind the copied
text or no event belongs to user 501. -/
theorem records_printable_iff (stack : Vector Byte 12) (events : List Event) :
    (∃ submitted, records .little stack events = some submitted ∧
      List.Forall₂ Printable events submitted) ↔
      stack[9] = 0 ∨ ∀ event ∈ events, event.uidGid.setWidth 32 ≠ (501 : BitVec 32) := by
  obtain ⟨after, results, ran, printable⟩ :=
    kprobeRun_printable stack Globals.loaded rfl events
  have submitted : records .little stack events = some (results.flatMap Result.outputs) := by
    simp only [records, ran, Option.map_some]
  rw [submitted]
  simp only [Option.some.injEq, exists_eq_left', printable]
  by_cases null : stack[9] = 0
  · exact iff_of_true (fun _ _ _ => null) (Or.inl null)
  · rw [or_iff_right null]
    exact forall₂_congr fun event _ =>
      ⟨fun ends own => null (ends own), fun other own => absurd own other⟩

/-- Without a NUL on the stack the message of user 501 is not a string. -/
theorem records_unterminated :
    ¬ ∀ (stack : Vector Byte 12) (events : List Event), ∃ submitted,
      records .little stack events = some submitted ∧ List.Forall₂ Printable events submitted := by
  intro always
  obtain ⟨submitted, ran, printable⟩ :=
    always (Vector.replicate 12 0x41) [⟨0, 501, Vector.replicate 16 0⟩]
  have expected : records .little (Vector.replicate 12 0x41) [⟨0, 501, Vector.replicate 16 0⟩] =
      some [⟨0, 501, 1, Vector.replicate 16 0,
        ⟨#[0x68, 0x65, 0x6c, 0x6c, 0x6f, 0x20, 0x4c, 0x69, 0x7a, 0x41, 0x41, 0x41], rfl⟩⟩] := by
    decide +kernel
  obtain rfl := Option.some.inj (expected.symm.trans ran)
  have terminated := (List.forall₂_cons.mp printable).1.terminated
  exact absurd terminated (by decide)

end EbpfNotes.HelloVerifierUser
