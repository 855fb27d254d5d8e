import Mathlib.Data.List.Perm.Basic
import Mathlib.Logic.Function.Basic

namespace EbpfNotes.Library

/-- A heap has a block at each address in use. -/
abbrev Heap (Address Block : Type) := Address → Option Block

namespace Heap

variable {Address Block : Type}

section Extensions

variable [Zero Address]

/-- New addresses are pairwise different, not null and not in use. -/
def Fresh (heap : Heap Address Block) (addresses : List Address) : Prop :=
  addresses.Nodup ∧ ∀ address ∈ addresses, address ≠ 0 ∧ heap address = none

/-- The second heap is the first one and some cells at new addresses. -/
structure Extends (before after : Heap Address Block) (cells : List (Address × Block)) : Prop where
  null : before 0 = none
  apart : (cells.map Prod.fst).Nodup
  nonnull : 0 ∉ cells.map Prod.fst
  fresh : ∀ address ∈ cells.map Prod.fst, before address = none
  holds : ∀ cell ∈ cells, after cell.1 = some cell.2
  others : ∀ address, address ∉ cells.map Prod.fst → after address = before address

namespace Extends

variable {before after : Heap Address Block} {cells : List (Address × Block)}

theorem nil (null : before 0 = none) : Extends before before [] where
  null := null
  apart := List.nodup_nil
  nonnull := List.not_mem_nil
  fresh _ member := absurd member List.not_mem_nil
  holds _ member := absurd member List.not_mem_nil
  others _ _ := rfl

/-- Without cells the heap is the old one. -/
theorem eq_of_nil (extended : Extends before after []) : after = before :=
  funext fun address => extended.others address List.not_mem_nil

theorem after_null (extended : Extends before after cells) : after 0 = none :=
  (extended.others 0 extended.nonnull).trans extended.null

theorem ne_zero (extended : Extends before after cells) {cell : Address × Block} (member : cell ∈ cells) :
    cell.1 ≠ 0 :=
  fun zero => extended.nonnull (zero ▸ List.mem_map_of_mem member)

/-- An address that is not in use belongs to no cell. -/
theorem unused (extended : Extends before after cells) {address : Address} (none : after address = none) :
    address ∉ cells.map Prod.fst := by
  intro member
  obtain ⟨cell, inside, rfl⟩ := List.mem_map.mp member
  rw [extended.holds cell inside] at none
  cases none

/-- The cells have no order. -/
theorem perm {other : List (Address × Block)} (extended : Extends before after cells)
    (same : cells.Perm other) : Extends before after other := by
  have addresses := same.map Prod.fst
  refine ⟨extended.null, addresses.nodup_iff.mp extended.apart, ?_, ?_, ?_, ?_⟩
  · exact fun member => extended.nonnull (addresses.mem_iff.mpr member)
  · exact fun address member => extended.fresh address (addresses.mem_iff.mpr member)
  · exact fun cell member => extended.holds cell (same.mem_iff.mpr member)
  · exact fun address outside =>
      extended.others address fun member => outside (addresses.mem_iff.mp member)

/-- An extension of an extension has the cells of both. -/
theorem trans {last : Heap Address Block} {more : List (Address × Block)}
    (first : Extends before after cells) (second : Extends after last more) :
    Extends before last (more ++ cells) := by
  have apart : ∀ address ∈ more.map Prod.fst, address ∉ cells.map Prod.fst :=
    fun address member => first.unused (second.fresh address member)
  refine ⟨first.null, ?_, ?_, ?_, ?_, ?_⟩
  · rw [List.map_append]
    exact List.nodup_append.mpr ⟨second.apart, first.apart, fun address new other old same =>
      apart address new (same ▸ old)⟩
  · rw [List.map_append]
    exact fun member => (List.mem_append.mp member).elim second.nonnull first.nonnull
  · intro address member
    rw [List.map_append] at member
    rcases List.mem_append.mp member with new | old
    · rw [← first.others address (apart address new), second.fresh address new]
    · exact first.fresh address old
  · intro cell member
    rcases List.mem_append.mp member with new | old
    · exact second.holds cell new
    · have kept : cell.1 ∉ more.map Prod.fst :=
        fun new => apart cell.1 new (List.mem_map_of_mem old)
      rw [second.others cell.1 kept, first.holds cell old]
  · intro address outside
    rw [List.map_append, List.mem_append, not_or] at outside
    rw [second.others address outside.1, first.others address outside.2]

end Extends

end Extensions

variable [DecidableEq Address]

def set (heap : Heap Address Block) (address : Address) (block : Block) : Heap Address Block :=
  Function.update heap address (some block)

/-- The first of several cells with one address decides. -/
def store (heap : Heap Address Block) : List (Address × Block) → Heap Address Block
  | [] => heap
  | (address, block) :: cells => (store heap cells).set address block

def without (heap : Heap Address Block) (addresses : List Address) : Heap Address Block := fun address =>
  if address ∈ addresses then none else heap address

variable {heap : Heap Address Block}

@[simp] theorem set_same (heap : Heap Address Block) (address : Address) (block : Block) :
    heap.set address block address = some block := Function.update_self ..

theorem set_other {address other : Address} (different : other ≠ address) (block : Block) :
    heap.set address block other = heap other := Function.update_of_ne different ..

theorem store_other {address : Address} {cells : List (Address × Block)}
    (outside : address ∉ cells.map Prod.fst) : heap.store cells address = heap address := by
  induction cells with
  | nil => rfl
  | cons cell cells ih =>
      rw [List.map_cons, List.mem_cons, not_or] at outside
      exact (set_other outside.1 cell.2).trans (ih outside.2)

theorem store_mem {cells : List (Address × Block)} (apart : (cells.map Prod.fst).Nodup)
    {cell : Address × Block} (member : cell ∈ cells) : heap.store cells cell.1 = some cell.2 := by
  induction cells with
  | nil => cases member
  | cons first cells ih =>
      obtain ⟨new, rest⟩ := List.nodup_cons.mp apart
      rcases List.mem_cons.mp member with rfl | later
      · exact set_same _ _ _
      · have different : cell.1 ≠ first.1 := fun same => new (same ▸ List.mem_map_of_mem later)
        exact (set_other different first.2).trans (ih rest later)

variable [Zero Address]

namespace Extends

variable {before after : Heap Address Block} {cells : List (Address × Block)}

theorem allocate (extended : Extends before after cells) {address : Address} (nonzero : address ≠ 0)
    (none : after address = none) (block : Block) :
    Extends before (after.set address block) ((address, block) :: cells) := by
  have new := extended.unused none
  refine ⟨extended.null, List.nodup_cons.mpr ⟨new, extended.apart⟩, ?_, ?_, ?_, ?_⟩
  · exact fun member => (List.mem_cons.mp member).elim nonzero.symm extended.nonnull
  · intro other member
    rcases List.mem_cons.mp member with rfl | old
    · rw [← extended.others _ new]
      exact none
    · exact extended.fresh other old
  · intro cell member
    rcases List.mem_cons.mp member with rfl | old
    · exact set_same _ _ _
    · have different : cell.1 ≠ address := fun same => new (same ▸ List.mem_map_of_mem old)
      rw [set_other different, extended.holds cell old]
  · intro other outside
    obtain ⟨different, old⟩ := not_or.mp (List.mem_cons.not.mp outside)
    rw [set_other different, extended.others other old]

/-- Several blocks are allocated at once. -/
theorem allocates (extended : Extends before after cells) {new : List (Address × Block)}
    (fresh : after.Fresh (new.map Prod.fst)) : Extends before (after.store new) (new ++ cells) := by
  induction new with
  | nil => exact extended
  | cons cell new ih =>
      obtain ⟨apart, free⟩ := fresh
      obtain ⟨first, rest⟩ := List.nodup_cons.mp apart
      obtain ⟨nonzero, none⟩ := free cell.1 List.mem_cons_self
      have grown := ih ⟨rest, fun address member => free address (List.mem_cons_of_mem _ member)⟩
      exact grown.allocate nonzero ((store_other first).trans none) cell.2

/-- A block in use gets a new content. -/
theorem write (front : List (Address × Block)) {back : List (Address × Block)} {address : Address}
    {old : Block} (extended : Extends before after (front ++ (address, old) :: back)) (block : Block) :
    Extends before (after.set address block) (front ++ (address, block) :: back) := by
  have addresses : (front ++ (address, block) :: back).map Prod.fst =
      (front ++ (address, old) :: back).map Prod.fst := by
    rw [List.map_append, List.map_append, List.map_cons, List.map_cons]
  have apart : ∀ cell ∈ front ++ back, cell.1 ≠ address := by
    intro cell member same
    have moved : (front ++ (address, old) :: back).Perm ((address, old) :: (front ++ back)) :=
      List.perm_middle
    have once : address ∉ (front ++ back).map Prod.fst :=
      (List.nodup_cons.mp ((moved.map Prod.fst).nodup_iff.mp extended.apart)).1
    exact once (same ▸ List.mem_map_of_mem member)
  refine ⟨extended.null, addresses ▸ extended.apart, addresses ▸ extended.nonnull, ?_, ?_, ?_⟩
  · rw [addresses]
    exact extended.fresh
  · intro cell member
    rcases List.mem_cons.mp (List.perm_middle.mem_iff.mp member) with rfl | kept
    · exact set_same _ _ _
    · have still : cell ∈ front ++ (address, old) :: back :=
        List.perm_middle.mem_iff.mpr (List.mem_cons_of_mem _ kept)
      rw [set_other (apart cell kept), extended.holds cell still]
  · intro other outside
    rw [addresses] at outside
    have different : other ≠ address := by
      rintro rfl
      exact outside (List.mem_map_of_mem (List.mem_append_right front List.mem_cons_self))
    rw [set_other different, extended.others other outside]

/-- The addresses that are freed are those of the first cells and null. -/
theorem free {gone kept : List (Address × Block)} (extended : Extends before after (gone ++ kept))
    {addresses : List Address} (all : ∀ cell ∈ gone, cell.1 ∈ addresses)
    (only : ∀ address ∈ addresses, address = 0 ∨ address ∈ gone.map Prod.fst) :
    Extends before (after.without addresses) kept := by
  have split : (gone ++ kept).map Prod.fst = gone.map Prod.fst ++ kept.map Prod.fst := List.map_append
  obtain ⟨_, second, disjoint⟩ := List.nodup_append.mp (split ▸ extended.apart)
  refine ⟨extended.null, second, ?_, ?_, ?_, ?_⟩
  · exact fun member => extended.nonnull (split ▸ List.mem_append_right _ member)
  · exact fun address member => extended.fresh address (split ▸ List.mem_append_right _ member)
  · intro cell member
    have own : cell.1 ∈ kept.map Prod.fst := List.mem_map_of_mem member
    have outside : cell.1 ∉ addresses := by
      intro freed
      rcases only cell.1 freed with zero | first
      · exact extended.ne_zero (List.mem_append_right gone member) zero
      · exact disjoint _ first _ own rfl
    exact (if_neg outside).trans (extended.holds cell (List.mem_append_right gone member))
  · intro address outside
    by_cases freed : address ∈ addresses
    · refine (if_pos freed).trans ?_
      rcases only address freed with rfl | first
      · exact extended.null.symm
      · exact (extended.fresh address (split ▸ List.mem_append_left _ first)).symm
    · refine (if_neg freed).trans (extended.others address ?_)
      rw [split]
      intro member
      rcases List.mem_append.mp member with first | own
      · obtain ⟨cell, inside, rfl⟩ := List.mem_map.mp first
        exact freed (all cell inside)
      · exact outside own

/-- Some of the cells are an extension of the heap with the others. -/
theorem split {mine : List (Address × Block)} (extended : Extends before after (mine ++ cells)) :
    Extends before (before.store cells) cells ∧ Extends (before.store cells) after mine := by
  have addresses : (mine ++ cells).map Prod.fst = mine.map Prod.fst ++ cells.map Prod.fst :=
    List.map_append
  obtain ⟨first, second, disjoint⟩ := List.nodup_append.mp (addresses ▸ extended.apart)
  have nonnull : 0 ∉ cells.map Prod.fst :=
    fun member => extended.nonnull (addresses ▸ List.mem_append_right _ member)
  constructor
  · refine ⟨extended.null, second, nonnull, ?_, fun cell member => store_mem second member,
      fun address outside => store_other outside⟩
    exact fun address member => extended.fresh address (addresses ▸ List.mem_append_right _ member)
  · refine ⟨(store_other nonnull).trans extended.null, first, ?_, ?_, ?_, ?_⟩
    · exact fun member => extended.nonnull (addresses ▸ List.mem_append_left _ member)
    · intro address member
      rw [store_other fun other => disjoint _ member _ other rfl]
      exact extended.fresh address (addresses ▸ List.mem_append_left _ member)
    · exact fun cell member => extended.holds cell (List.mem_append_left _ member)
    · intro address outside
      by_cases old : address ∈ cells.map Prod.fst
      · obtain ⟨cell, inside, rfl⟩ := List.mem_map.mp old
        rw [store_mem second inside, extended.holds cell (List.mem_append_right mine inside)]
      · rw [store_other old]
        apply extended.others
        rw [addresses, List.mem_append]
        exact not_or.mpr ⟨outside, old⟩

end Extends

end Heap

end EbpfNotes.Library
