import EbpfNotes.Construction.HelloVerifierTranslated
import EbpfNotes.Proof.HelloVerifier.Bytecode

namespace EbpfNotes.HelloVerifier

open Library

/-- The kernel replaces the lookup by its own function and the distance of the value, and it calls the
other helpers by their distances. -/
def kernelInlining : Inlining where
  lookup := 1
  element := 267808
  header := 56
  rename
    | 6 => 4294858544
    | 14 => 235360
    | 15 => 235920
    | 16 => 236064
    | 25 => 4294857488
    | 113 => 4294847104
    | helper => helper

/-- The translated listing is the translation of the object listing. -/
theorem translate_kprobeExecCode :
    kernelInlining.translate kprobeExecCode = kprobeExecTranslatedCode := by decide +kernel

variable {myConfig : MyConfig} {globals : Globals} {event : Event}

namespace TranslatedEnvironment

variable (environment : TranslatedEnvironment myConfig globals event)

/-- The value of a found element stands behind the header. -/
theorem htabMapLookupElem_eq {state : State Name (List KernelCall)}
    {answer : Return Name (List KernelCall)} (answered : environment.mapLookupElem state = some answer) :
    ∃ element, environment.htabMapLookupElem state = some { answer with result := element } ∧
      (element = 0 ∧ answer.result = 0 ∨
        element ≠ 0 ∧ answer.result = element + immediate 56) := by
  unfold Environment.mapLookupElem at answered
  obtain ⟨map, answered⟩ := Option.ite_none_right_eq_some.mp answered
  obtain ⟨place, located, answered⟩ := Option.bind_eq_some_iff.mp answered
  obtain rfl := Option.some.inj answered
  simp only [htabMapLookupElem, map, if_true, located, Option.bind_eq_bind, Option.bind_some,
    Option.some.injEq, Return.mk.injEq, and_true, exists_eq_left']
  generalize (Vector.ofFn fun index : Fin 4 => state.contents place.1 (place.2 + index)) = key
  cases found : myConfig.lookup key with
  | none =>
      left
      simp [bpfMapLookupElem, found]
  | some msg =>
      right
      simp only [bpfMapLookupElem, found, Option.isSome_some, if_true]
      constructor
      · intro null
        exact environment.element_nonnull key (Table.mem_keys_of_lookup found)
          ((BitVec.sub_eq_iff_eq_add.mp null).trans (BitVec.zero_add _))
      · rw [BitVec.sub_add_cancel]
        exact BitVec.add_zero _

/-- The functions of the kernel answer like the helpers. -/
theorem answers : kernelInlining.Answers environment.world environment.translatedWorld where
  layout := rfl
  address := rfl
  clobber := rfl
  lookup _ _ answered := environment.htabMapLookupElem_eq answered
  rename helper state answer _ answered := by
    change environment.helper helper state = some answer at answered
    unfold Environment.helper at answered
    split at answered
    · contradiction
    · exact answered
    · exact answered
    · exact answered
    · exact answered
    · exact answered
    · exact answered
    · cases answered

end TranslatedEnvironment

/-- Only the elements of the map have a header. -/
def headerSize : Name → Nat
  | .element _ => 56
  | _ => 0

/-- Every configuration has an environment in which each element has room for its header. -/
theorem translatedEnvironment_exists (myConfig : MyConfig) (globals : Globals) (event : Event) :
    Nonempty (TranslatedEnvironment myConfig globals event) := by
  have total : ((liveNames myConfig).map fun name => headerSize name + objectSize name).sum =
      543 + myConfig.keys.length * 68 := by
    simp only [liveNames, List.map_cons, List.sum_cons, List.map_map]
    change 512 + (4 + (12 + (15 + (myConfig.keys.map fun _ => 68).sum))) = _
    rw [List.map_const', List.sum_replicate, smul_eq_mul]
    omega
  have bound := myConfig.keys_length_le
  obtain ⟨whole⟩ := Layout.exists_packed (liveNames myConfig)
    (fun name => headerSize name + objectSize name) (by omega)
  have positive : ∀ name ∈ liveNames myConfig, 0 < objectSize name := by
    intro name _
    cases name <;> exact Nat.succ_pos _
  refine ⟨⟨⟨whole.behind headerSize positive, 0, 0, 0, fun _ => 0, fun _ => 0, fun _ => 0,
    fun _ _ => 0⟩, ?_⟩⟩
  intro key member start
  have live : Name.element key ∈ liveNames myConfig := by simp [liveNames, member]
  have header : immediate 56 - BitVec.ofNat 64 56 = 0 := by decide
  exact whole.nonnull (.element key) live ((BitVec.eq_sub_iff_add_eq.mpr start).trans header)

/-- The translated listing is the object listing with its helper calls replaced. It also returns zero,
sends the same trace lines and the same forty bytes and leaves the same global variables as the source,
and none of its loads leaves the objects. -/
theorem kprobeExecTranslatedCode_refines (environment : TranslatedEnvironment myConfig globals event) :
    kernelInlining.translate kprobeExecCode = kprobeExecTranslatedCode ∧
    ∃ final result, Reaches environment.translatedWorld kprobeExecTranslatedCode
        (.running 0 environment.initial) (.exited final) ∧
      kprobeExec .little myConfig globals event = some result ∧
      final.registers .r0 = 0 ∧ result.status = 0 ∧
      final.kernel = result.actions.filterMap (Action.observed environment.ctx) ∧
      final.contents.read .c 0 4 = littleBytes 4 result.globals.c.toNat ∧
      final.contents.read .message 0 12 = result.globals.message.toList ∧
      (∀ key, final.contents (.element key) = environment.contents (.element key)) ∧
      LoadsInside environment.translatedWorld kprobeExecTranslatedCode
        (.running 0 environment.initial) := by
  obtain ⟨final, exits, zero, last⟩ := kprobeExecCode_final environment.toEnvironment
  have translated := environment.answers.exits exits
  rw [translate_kprobeExecCode] at translated
  refine ⟨translate_kprobeExecCode, final, _, translated, kprobeExec_eq .little myConfig globals event,
    zero, rfl, last.kernel, last.counter, last.message, ?_, translated.loads_inside⟩
  intro key
  exact last.others (.element key) (by simp) (by simp)

end EbpfNotes.HelloVerifier
