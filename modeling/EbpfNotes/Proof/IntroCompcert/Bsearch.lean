import EbpfNotes.Construction.IntroCompcert

namespace EbpfNotes.IntroCompcert

open Library

variable {tbl : Vector (BitVec 32) 100} {v : BitVec 32}

/-- The window from `low` up to `high` holds every position of the value in an ascending table. -/
structure Window (tbl : Vector (BitVec 32) 100) (v : BitVec 32) (low high : Nat) : Prop where
  ordered : low ≤ high
  bounded : high ≤ 100
  covers : Ascending tbl → ∀ index : Fin 100, tbl.get index = v → low ≤ index.val ∧ index.val < high

/-- What a search with the given number of passes has found. -/
structure Found (tbl : Vector (BitVec 32) 100) (v : BitVec 32) (passes : Nat) (result : Int)
    (entered : List Int) : Prop where
  few : entered.length ≤ passes
  inside : ∀ m ∈ entered, 0 ≤ m ∧ m ≤ 99
  sound : result = -1 ∨ ∃ index : Fin 100, result = index.val ∧ tbl.get index = v
  complete : Ascending tbl → result = -1 → v ∉ tbl.toList

theorem signedInt_small {value : Int} (low : -2 ≤ value) (high : value ≤ 200) :
    signedInt value = some value :=
  if_pos ⟨by omega, by omega⟩

/-- A pass reads the middle of the window and keeps the half that can hold the value. -/
theorem Window.pass {low high : Nat} (window : Window tbl v low high) (nonempty : low < high) :
    ∃ middle, low ≤ middle ∧ middle < high ∧ 2 * middle ≤ low + high - 1 ∧ low + high ≤ 2 * middle + 2 ∧
      ∃ inside : middle < 100,
        (pass tbl v low (high - 1 : Int) = some ((middle : Int), .narrowed (middle + 1) (high - 1)) ∧
          Window tbl v (middle + 1) high) ∨
        (pass tbl v low (high - 1 : Int) = some ((middle : Int), .narrowed low (middle - 1)) ∧
          Window tbl v low middle) ∨
        (pass tbl v low (high - 1 : Int) = some ((middle : Int), .returned middle) ∧
          tbl.get ⟨middle, inside⟩ = v) := by
  have bounded := window.bounded
  obtain ⟨middle, half⟩ : ∃ middle : Nat, (low + high - 1) / 2 = middle := ⟨_, rfl⟩
  have inside : middle < 100 := by omega
  have sum : signedInt (low + (high - 1 : Int)) = some (low + (high - 1 : Int)) :=
    signedInt_small (by omega) (by omega)
  have divided : (low + (high - 1 : Int)).tdiv 2 = middle := by
    rw [Int.tdiv_eq_ediv_of_nonneg (by omega)]
    omega
  have read : readTbl tbl middle = some (tbl.get ⟨middle, inside⟩) := by
    rw [readTbl, if_pos (Int.natCast_nonneg middle), Int.toNat_natCast]
    exact Vector.getElem?_eq_getElem inside
  refine ⟨middle, by omega, by omega, by omega, by omega, inside, ?_⟩
  by_cases below : (tbl.get ⟨middle, inside⟩).slt v = true
  · refine Or.inl ⟨?_, by omega, bounded, ?_⟩
    · have next : signedInt ((middle : Int) + 1) = some ((middle : Int) + 1) :=
        signedInt_small (by omega) (by omega)
      simp only [IntroCompcert.pass, sum, Option.bind_eq_bind, Option.bind_some, divided, read, below,
        if_true, next]
    · intro ascending index same
      have old := window.covers ascending index same
      have above : middle < index.val := by
        by_contra behind
        have order := ascending index ⟨middle, inside⟩ (by exact Nat.le_of_not_lt behind)
        rw [same] at order
        have smaller := BitVec.slt_iff_toInt_lt.mp below
        exact absurd smaller (not_lt.mpr order)
      omega
  · by_cases greater : v.slt (tbl.get ⟨middle, inside⟩) = true
    · refine Or.inr (Or.inl ⟨?_, by omega, by omega, ?_⟩)
      · have next : signedInt ((middle : Int) - 1) = some ((middle : Int) - 1) :=
          signedInt_small (by omega) (by omega)
        simp only [IntroCompcert.pass, sum, Option.bind_eq_bind, Option.bind_some, divided, read, below,
          greater, if_true, next, Bool.false_eq_true, if_false]
      · intro ascending index same
        have old := window.covers ascending index same
        have under : index.val < middle := by
          by_contra behind
          have order := ascending ⟨middle, inside⟩ index (by exact Nat.le_of_not_lt behind)
          rw [same] at order
          have smaller := BitVec.slt_iff_toInt_lt.mp greater
          exact absurd smaller (not_lt.mpr order)
        omega
    · refine Or.inr (Or.inr ⟨?_, ?_⟩)
      · simp only [IntroCompcert.pass, sum, Option.bind_eq_bind, Option.bind_some, divided, read, below,
          greater, Bool.false_eq_true, if_false]
      · have first : ¬ (tbl.get ⟨middle, inside⟩).toInt < v.toInt := fun less =>
          below (BitVec.slt_iff_toInt_lt.mpr less)
        have second : ¬ v.toInt < (tbl.get ⟨middle, inside⟩).toInt := fun less =>
          greater (BitVec.slt_iff_toInt_lt.mpr less)
        exact BitVec.eq_of_toInt_eq (by omega)

/-- An empty window has no position of the value. -/
theorem Window.empty {low : Nat} (window : Window tbl v low low) : Found tbl v 0 (-1) [] where
  few := le_rfl
  inside m member := absurd member List.not_mem_nil
  sound := Or.inl rfl
  complete ascending _ member := by
    obtain ⟨index, inside, same⟩ := List.mem_iff_getElem.mp member
    have position : index < 100 := by simpa using inside
    have between := window.covers ascending ⟨index, position⟩ same
    omega

theorem Found.later {passes : Nat} {result m : Int} {entered : List Int}
    (found : Found tbl v passes result entered) (inside : 0 ≤ m ∧ m ≤ 99) :
    Found tbl v (passes + 1) result (m :: entered) where
  few := Nat.succ_le_succ found.few
  inside other member := by
    rcases List.mem_cons.mp member with rfl | rest
    · exact inside
    · exact found.inside other rest
  sound := found.sound
  complete := found.complete

/-- A window below the power of two needs at most as many passes as the exponent. -/
theorem Window.search {low high : Nat} (window : Window tbl v low high) {passes : Nat}
    (narrow : high - low < 2 ^ passes) (spare : Nat) :
    ∃ result entered, bsearchFrom tbl v (passes + spare) low (high - 1 : Int) = some (result, entered) ∧
      Found tbl v passes result entered := by
  induction passes generalizing low high with
  | zero =>
      have ordered := window.ordered
      obtain rfl : low = high := by omega
      refine ⟨-1, [], ?_, window.empty⟩
      cases spare with
      | zero => exact if_neg (by omega)
      | succ spare => exact if_neg (by omega)
  | succ passes ih =>
      by_cases nonempty : low < high
      · have power : 2 ^ (passes + 1) = 2 * 2 ^ passes := Nat.pow_succ'
        have fuel : passes + 1 + spare = (passes + spare) + 1 := by omega
        have enters : (low : Int) ≤ high - 1 := by omega
        have bounded := window.bounded
        obtain ⟨middle, lower, upper, most, least, inside, narrowed | narrowed | returned⟩ :=
          window.pass nonempty
        · obtain ⟨made, kept⟩ := narrowed
          obtain ⟨result, entered, searched, found⟩ := ih kept (by omega)
          push_cast at searched
          refine ⟨result, middle :: entered, ?_, found.later (by omega)⟩
          rw [fuel, bsearchFrom, if_pos enters, made]
          simp only [Option.bind_eq_bind, Option.bind_some, searched]
        · obtain ⟨made, kept⟩ := narrowed
          obtain ⟨result, entered, searched, found⟩ := ih kept (by omega)
          refine ⟨result, middle :: entered, ?_, found.later (by omega)⟩
          rw [fuel, bsearchFrom, if_pos enters, made]
          simp only [Option.bind_eq_bind, Option.bind_some, searched]
        · obtain ⟨made, same⟩ := returned
          refine ⟨middle, [(middle : Int)], ?_, ?_⟩
          · rw [fuel, bsearchFrom, if_pos enters, made]
            rfl
          · exact {
              few := Nat.succ_le_succ (Nat.zero_le _)
              inside := by
                intro m member
                obtain rfl := List.mem_singleton.mp member
                omega
              sound := Or.inr ⟨⟨middle, inside⟩, rfl, same⟩
              complete := fun _ absent => by omega }
      · have ordered := window.ordered
        obtain rfl : low = high := by omega
        have skips : ¬ (low : Int) ≤ low - 1 := by omega
        refine ⟨-1, [], ?_, ?_⟩
        · rw [show passes + 1 + spare = (passes + spare) + 1 by omega, bsearchFrom, if_neg skips]
        · exact { window.empty with few := Nat.zero_le _ }

/-- With fuel for seven passes or more, every search returns without undefined behaviour after at most
seven passes, each with an index from 0 to 99. It returns a position of the value or -1, and -1 from an
ascending table only when the value is absent. -/
theorem bsearch_finds (tbl : Vector (BitVec 32) 100) (v : BitVec 32) (spare : Nat) :
    ∃ result entered, bsearch (7 + spare) tbl v = some (result, entered) ∧
      entered.length ≤ 7 ∧ (∀ m ∈ entered, 0 ≤ m ∧ m ≤ 99) ∧
      (result = -1 ∨ ∃ index : Fin 100, result = index.val ∧ tbl.get index = v) ∧
      (Ascending tbl → (result = -1 ↔ v ∉ tbl.toList)) := by
  have window : Window tbl v 0 100 :=
    ⟨Nat.zero_le _, le_rfl, fun _ index _ => ⟨Nat.zero_le _, index.isLt⟩⟩
  have narrow : 100 - 0 < 2 ^ 7 := by omega
  obtain ⟨result, entered, searched, found⟩ := window.search narrow spare
  refine ⟨result, entered, searched, found.few, found.inside, found.sound, ?_⟩
  intro ascending
  constructor
  · exact found.complete ascending
  · intro absent
    rcases found.sound with missing | ⟨index, _, same⟩
    · exact missing
    · refine absurd ?_ absent
      rw [← same]
      exact Vector.mem_toList_iff.mpr (Vector.getElem_mem index.isLt)

end EbpfNotes.IntroCompcert
