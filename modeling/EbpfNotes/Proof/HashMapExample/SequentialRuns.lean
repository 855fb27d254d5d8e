import EbpfNotes.Construction.HashMapExample
import EbpfNotes.Library.Tally

namespace EbpfNotes.HashMapExample

open Library

theorem loadCounter_lookup (counterTable : CounterTable) (uid : Word) :
    loadCounter (bpfMapLookupElem counterTable uid) = current counterTable uid := by
  unfold loadCounter bpfMapLookupElem current
  cases counterTable.lookup uid <;> rfl

/-- One event is one tick for its user. -/
theorem hello_counterTable (kernel : Kernel) (uidGid : Word) :
    (hello kernel uidGid).2.counterTable = tick kernel.counterTable (maskUid uidGid) := by
  change (bpfMapUpdateElem kernel.counterTable (maskUid uidGid)
    (loadCounter (bpfMapLookupElem kernel.counterTable (maskUid uidGid)) + 1) BPF_ANY).2 = _
  rw [bpfMapUpdateElem_any, loadCounter_lookup]
  rfl

/-- Two uninterrupted steps of an invocation are one call of `hello`. -/
theorem helloStep_solo (kernel : Kernel) (uidGid : Word) :
    run helloStep ⟨kernel.counterTable, [⟨uidGid, .start⟩]⟩ [0, 0] =
      ⟨(hello kernel uidGid).2.counterTable, [⟨uidGid, .done⟩]⟩ := rfl

theorem helloRun_concat (kernel : Kernel) (events : List Word) (uidGid : Word) :
    helloRun kernel (events ++ [uidGid]) = (hello (helloRun kernel events) uidGid).2 := by
  simp only [helloRun, List.foldl_append, List.foldl_cons, List.foldl_nil]

/-- A sequential run leaves the tally of the masked users. -/
theorem helloRun_counterTable (events : List Word) :
    (helloRun Kernel.loaded events).counterTable = tally (events.map maskUid) := by
  induction events using List.reverseRecOn with
  | nil => rfl
  | append_singleton events uidGid ih =>
      rw [helloRun_concat, hello_counterTable, ih, List.map_append, List.map_singleton, tally_concat]

/-- The group half of the value never matters. -/
theorem maskUid_eq_iff (uidGid key : Word) :
    maskUid uidGid = key ↔ uidGid.toNat % 2 ^ 32 = key.toNat := by
  rw [← BitVec.toNat_inj, maskUid, toNat_lowerHalf]

theorem count_map_maskUid (events : List Word) (key : Word) :
    (events.map maskUid).count key =
      events.countP fun uidGid => uidGid.toNat % 2 ^ 32 = key.toNat := by
  rw [List.count_eq_countP, List.countP_map]
  apply List.countP_congr
  intro uidGid _
  simp only [Function.comp_apply, beq_iff_eq, maskUid_eq_iff, decide_eq_true_eq]

/-- The first 5,000,000 users are counted exactly and every later user is lost. -/
theorem helloRun_lookup (events : List Word) (key : Word) :
    (helloRun Kernel.loaded events).counterTable.lookup key =
      if key ∈ (events.map fun uidGid => uidGid &&& 0xFFFFFFFF).eraseDups.take 5000000 then
        some (BitVec.ofNat 64 (events.countP fun uidGid => uidGid.toNat % 2 ^ 32 = key.toNat))
      else none := by
  rw [helloRun_counterTable, tally_lookup, count_map_maskUid]
  rfl

end EbpfNotes.HashMapExample
