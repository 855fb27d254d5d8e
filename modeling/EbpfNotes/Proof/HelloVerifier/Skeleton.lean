import EbpfNotes.Construction.HelloVerifierSkeleton
import Mathlib.Data.List.Nodup

namespace EbpfNotes.HelloVerifierSkeleton

open Library Heap

variable {before : Heap Address Block} {process : Process} {held : List (Address × Block)}

theorem calloc_spec (allocator : Allocator) (extended : Extends before process.heap held) (block : Block) :
    ∃ address next, calloc allocator process block = (address, next) ∧
      ((address = 0 ∧ Extends before next.heap held) ∨
        (address ≠ 0 ∧ Extends before next.heap ((address, block) :: held))) := by
  refine ⟨_, _, rfl, ?_⟩
  by_cases failed : allocator.calloc process.callocs process.heap = 0
  · refine Or.inl ⟨failed, ?_⟩
    rw [if_pos failed]
    exact extended
  · refine Or.inr ⟨failed, ?_⟩
    rw [if_neg failed]
    exact extended.allocate failed (allocator.fresh _ _ failed) block

theorem write_spec (front : List (Address × Block)) {back : List (Address × Block)} {address : Address}
    {old : Block} (extended : Extends before process.heap (front ++ (address, old) :: back))
    (block : Block) :
    ∃ after, write process address block = some after ∧
      Extends before after.heap (front ++ (address, block) :: back) := by
  have used := extended.holds (address, old) (List.mem_append_right front List.mem_cons_self)
  refine ⟨{ process with heap := process.heap.set address block }, ?_, extended.write front block⟩
  rw [write, used]
  rfl

theorem free_spec {address : Address} {block : Block}
    (extended : Extends before process.heap ((address, block) :: held)) :
    ∃ after, free process address = some after ∧ Extends before after.heap held := by
  have used := extended.holds (address, block) List.mem_cons_self
  refine ⟨{ process with heap := process.heap.without [address] }, ?_, ?_⟩
  · rw [free, if_neg (extended.ne_zero List.mem_cons_self), used]
    rfl
  · have listed : Extends before process.heap ([(address, block)] ++ held) := extended
    apply listed.free
    · exact fun cell member => List.mem_singleton.mpr (congrArg Prod.fst (List.mem_singleton.mp member))
    · exact fun other member => Or.inr member

theorem readObject_eq {obj : Address} {fields : HelloVerifierBpf}
    (object : process.heap obj = some (.object fields)) : readObject process obj = some fields := by
  rw [readObject, object]

/-- The members of `links` that are set. -/
def linkFields (links : ProgField → Address) : List ProgField :=
  [.kprobeExec, .xdpHello].filter fun field => links field ≠ 0

/-- The links that the object has. -/
def linkCells (links : ProgField → Address) : List (Address × Block) :=
  (linkFields links).map fun field => (links field, .link)

/-- What belongs to an object of libbpf when there is one. -/
def openedCells (obj : Address) (parts : List (Address × Part)) : List (Address × Block) :=
  if obj = 0 then [] else (obj, .bpfObject parts) :: partCells parts

/-- The object of a program with its skeleton. -/
structure Holding where
  object : Address
  fields : HelloVerifierBpf
  maps : Address
  progs : Address
  parts : List (Address × Part)
  bare : fields.obj = 0 → parts = []

/-- The skeleton and its arrays. -/
def Holding.skeletonCells (holding : Holding) : List (Address × Block) := [
  (holding.fields.skeleton, .skeleton ⟨holding.object, holding.maps, holding.progs⟩),
  (holding.maps, .maps mapSkeletons),
  (holding.progs, .progs progSkeletons)]

/-- All blocks that belong to an object. -/
def Holding.cells (holding : Holding) : List (Address × Block) :=
  (holding.object, .object holding.fields) :: (holding.skeletonCells ++
    (openedCells holding.fields.obj holding.parts ++ linkCells holding.fields.links))

/-- An open object has its maps and programs. -/
structure Holding.Usable (holding : Holding) : Prop where
  opened : holding.fields.obj ≠ 0
  maps : ∀ field, (holding.fields.maps field, .map) ∈ holding.parts
  progs : ∀ field, (holding.fields.progs field, .program) ∈ holding.parts

/-- The second heap is the first one and the blocks of an object that is open. -/
def Owns (before after : Heap Address Block) (obj : Address) : Prop :=
  ∃ holding : Holding, holding.object = obj ∧ holding.Usable ∧ Extends before after holding.cells

theorem mem_linkFields {links : ProgField → Address} {field : ProgField} :
    field ∈ linkFields links ↔ links field ≠ 0 := by
  rw [linkFields, List.mem_filter, decide_eq_true_iff]
  exact and_iff_right (by cases field <;> simp)

theorem nodup_linkFields (links : ProgField → Address) : (linkFields links).Nodup :=
  List.Nodup.filter _ (by decide)

theorem map_linkCells (links : ProgField → Address) :
    (linkCells links).map Prod.fst = (linkFields links).map links := List.map_map

theorem map_partCells (parts : List (Address × Part)) :
    (partCells parts).map Prod.fst = parts.map Prod.fst := List.map_map

theorem progSkeletons_link (field : ProgField) : field ∈ progSkeletons.map BpfProgSkeleton.link := by
  cases field <;> decide

section Holdings

variable {holding : Holding}

theorem holds_link (extended : Extends before process.heap holding.cells) {field : ProgField}
    (nonzero : holding.fields.links field ≠ 0) :
    process.heap (holding.fields.links field) = some .link := by
  refine extended.holds (holding.fields.links field, .link) (List.mem_cons_of_mem _ ?_)
  refine List.mem_append_right _ (List.mem_append_right _ ?_)
  exact List.mem_map_of_mem (f := fun field => (holding.fields.links field, Block.link))
    (mem_linkFields.mpr nonzero)

theorem filled (extended : Extends before process.heap holding.cells) :
    Filled process.heap holding.fields.skeleton ⟨holding.object, holding.maps, holding.progs⟩
      holding.fields mapSkeletons progSkeletons := by
  have own : ∀ cell ∈ holding.skeletonCells, process.heap cell.1 = some cell.2 :=
    fun cell member => extended.holds cell (List.mem_cons_of_mem _ (List.mem_append_left _ member))
  have object := extended.holds _ List.mem_cons_self
  exact ⟨own _ List.mem_cons_self, object, own _ (List.mem_cons_of_mem _ List.mem_cons_self),
    own _ (List.mem_cons_of_mem _ (List.mem_cons_of_mem _ List.mem_cons_self))⟩

theorem opened (extended : Extends before process.heap holding.cells) (nonzero : holding.fields.obj ≠ 0) :
    Opened process.heap holding.fields holding.parts := by
  have inside : ∀ cell ∈ openedCells holding.fields.obj holding.parts,
      process.heap cell.1 = some cell.2 := fun cell member =>
    extended.holds cell
      (List.mem_cons_of_mem _ (List.mem_append_right _ (List.mem_append_left _ member)))
  rw [openedCells, if_neg nonzero] at inside
  refine ⟨inside _ List.mem_cons_self, fun part member => ?_⟩
  exact inside (part.1, .part part.2) (List.mem_cons_of_mem _ (List.mem_map_of_mem member))

theorem linked (extended : Extends before process.heap holding.cells) :
    Linked process.heap holding.fields progSkeletons := by
  constructor
  · intro entry _
    by_cases zero : holding.fields.links entry.link = 0
    · exact Or.inl zero
    · exact Or.inr (holds_link extended zero)
  · intro first _ second _ same
    by_cases zero : holding.fields.links first.link = 0
    · exact Or.inr zero
    · -- The links are cells of their own, so equal addresses belong to one member.
      have apart := extended.apart
      simp only [Holding.cells, List.map_cons, List.map_append, map_linkCells] at apart
      have own := (List.nodup_append.mp (List.nodup_append.mp (List.nodup_cons.mp apart).2).2.1).2.1
      exact Or.inl (List.inj_on_of_nodup_map own (mem_linkFields.mpr zero)
        (mem_linkFields.mpr (same ▸ zero)) same)

end Holdings

section Destruction

variable (libbpf : Libbpf)

/-- A skeleton releases the cells that come before its object. -/
theorem releases {gone : List (Address × Block)} {s : Address} (skeleton : BpfObjectSkeleton)
    {object : HelloVerifierBpf} {progs : List BpfProgSkeleton} (parts : List (Address × Part))
    (extended : Extends before process.heap (gone ++ [(skeleton.obj, .object object)]))
    (owned : (s, .skeleton skeleton) ∈ gone)
    (maps : skeleton.maps = 0 ∨ ∃ maps, process.heap skeleton.maps = some (.maps maps))
    (progs_held : skeleton.progs = 0 ∧ progs = [] ∨ process.heap skeleton.progs = some (.progs progs))
    (open_parts : object.obj = 0 ∧ parts = [] ∨ Opened process.heap object parts)
    (links : Linked process.heap object progs)
    (all : ∀ cell ∈ gone, cell.1 ∈ [s, skeleton.maps, skeleton.progs, object.obj] ++
      parts.map Prod.fst ++ linkAddresses object progs)
    (only : ∀ address ∈ [s, skeleton.maps, skeleton.progs, object.obj] ++ parts.map Prod.fst ++
      linkAddresses object progs, address = 0 ∨ address ∈ gone.map Prod.fst) :
    ∃ after, libbpf.destroySkeleton s process = some after ∧
      Extends before after.heap [(skeleton.obj, .object (object.detached progs))] := by
  have member := List.mem_append_left [(skeleton.obj, Block.object object)] owned
  have present := extended.holds _ (List.mem_append_right gone List.mem_cons_self)
  obtain ⟨after, destroyed, heap⟩ := libbpf.destroys (extended.ne_zero member)
    extended.after_null (extended.holds _ member) present maps progs_held open_parts links
  refine ⟨after, destroyed, ?_⟩
  rw [heap]
  exact (extended.free all only).write [] _

/-- A skeleton that is not complete releases itself and its arrays. -/
theorem discards (arrays : List (Address × Block)) {s obj maps : Address}
    (extended : Extends before process.heap
      (arrays ++ [(s, .skeleton ⟨obj, maps, 0⟩), (obj, .object .zero)]))
    (filled : maps = 0 ∧ arrays = [] ∨ ∃ entries, arrays = [(maps, .maps entries)]) :
    ∃ after, libbpf.destroySkeleton s process = some after ∧
      Extends before after.heap [(obj, .object .zero)] := by
  have gone : Extends before process.heap
      ((arrays ++ [(s, .skeleton ⟨obj, maps, 0⟩)]) ++ [(obj, .object .zero)]) := by
    rw [List.append_assoc]
    exact extended
  have detached : HelloVerifierBpf.zero.detached [] = .zero := rfl
  rw [← detached]
  refine releases libbpf ⟨obj, maps, 0⟩ [] gone (List.mem_append_right _ List.mem_cons_self)
    ?_ (Or.inl ⟨rfl, rfl⟩) (Or.inl ⟨rfl, rfl⟩) ?_ ?_ ?_
  · rcases filled with ⟨rfl, _⟩ | ⟨entries, rfl⟩
    · exact Or.inl rfl
    · exact Or.inr ⟨entries, extended.holds _ List.mem_cons_self⟩
  · exact ⟨fun entry member => (List.not_mem_nil member).elim,
      fun first member => (List.not_mem_nil member).elim⟩
  · rcases filled with ⟨rfl, rfl⟩ | ⟨entries, rfl⟩ <;> simp [linkAddresses]
  · rcases filled with ⟨rfl, rfl⟩ | ⟨entries, rfl⟩ <;> simp [linkAddresses, HelloVerifierBpf.zero]

/-- Detached programs have no links. -/
theorem detached_progSkeletons (object : HelloVerifierBpf) :
    object.detached progSkeletons = { object with links := fun _ => 0 } := by
  rw [HelloVerifierBpf.detached]
  congr 1
  exact funext fun field => if_pos (progSkeletons_link field)

theorem mem_linkAddresses {object : HelloVerifierBpf} {address : Address} :
    address ∈ linkAddresses object progSkeletons ↔ ∃ field, address = object.links field := by
  constructor
  · intro member
    obtain ⟨entry, _, rfl⟩ := List.mem_map.mp member
    exact ⟨entry.link, rfl⟩
  · rintro ⟨field, rfl⟩
    obtain ⟨entry, inside, rfl⟩ := List.mem_map.mp (progSkeletons_link field)
    exact List.mem_map_of_mem (f := fun entry => object.links entry.link) inside

/-- The addresses of an open object of libbpf and of its parts are those of its cells, and null. -/
theorem opened_addresses (holding : Holding) (address : Address) :
    (address ∈ (openedCells holding.fields.obj holding.parts).map Prod.fst →
      address ∈ holding.fields.obj :: holding.parts.map Prod.fst) ∧
    (address ∈ holding.fields.obj :: holding.parts.map Prod.fst → address = 0 ∨
      address ∈ (openedCells holding.fields.obj holding.parts).map Prod.fst) := by
  by_cases closed : holding.fields.obj = 0
  · rw [openedCells, if_pos closed, holding.bare closed, closed]
    exact ⟨fun member => (List.not_mem_nil member).elim,
      fun member => Or.inl (List.mem_singleton.mp member)⟩
  · rw [openedCells, if_neg closed, List.map_cons, map_partCells]
    exact ⟨id, Or.inr⟩

/-- The addresses in the links are those of their cells, and null. -/
theorem link_addresses (object : HelloVerifierBpf) (address : Address) :
    (address ∈ (linkCells object.links).map Prod.fst → address ∈ linkAddresses object progSkeletons) ∧
    (address ∈ linkAddresses object progSkeletons → address = 0 ∨
      address ∈ (linkCells object.links).map Prod.fst) := by
  rw [map_linkCells, mem_linkAddresses]
  constructor
  · intro member
    obtain ⟨field, _, rfl⟩ := List.mem_map.mp member
    exact ⟨field, rfl⟩
  · rintro ⟨field, rfl⟩
    by_cases zero : object.links field = 0
    · exact Or.inl zero
    · exact Or.inr (List.mem_map_of_mem (mem_linkFields.mpr zero))

theorem destroySkeleton_spec {holding : Holding} (extended : Extends before process.heap holding.cells) :
    ∃ after, libbpf.destroySkeleton holding.fields.skeleton process = some after ∧
      Extends before after.heap
        [(holding.object, .object { holding.fields with links := fun _ => 0 })] := by
  have last := extended.perm (List.perm_append_singleton _ _).symm
  have present := filled extended
  rw [← detached_progSkeletons]
  refine releases libbpf ⟨holding.object, holding.maps, holding.progs⟩ holding.parts last
    (List.mem_append_left _ List.mem_cons_self) (Or.inr ⟨_, present.maps⟩) (Or.inr present.progs) ?_
    (linked extended) ?_ ?_
  · by_cases closed : holding.fields.obj = 0
    · exact Or.inl ⟨closed, holding.bare closed⟩
    · exact Or.inr (opened extended closed)
  · intro cell member
    have inside := List.mem_map_of_mem (f := Prod.fst) member
    have opened_inside := (opened_addresses holding cell.1).1
    have link_inside := (link_addresses holding.fields cell.1).1
    simp only [Holding.skeletonCells, List.map_append, List.map_cons, List.mem_append,
      List.mem_cons] at inside opened_inside ⊢
    tauto
  · intro address member
    have opened_inside := (opened_addresses holding address).2
    have link_inside := (link_addresses holding.fields address).2
    simp only [Holding.skeletonCells, List.map_append, List.map_cons, List.mem_append,
      List.mem_cons] at member opened_inside ⊢
    tauto

theorem destroy_spec {holding : Holding} (extended : Extends before process.heap holding.cells) :
    ∃ after, destroy libbpf process holding.object = some after ∧ after.heap = before := by
  have nonzero : holding.object ≠ 0 := extended.ne_zero List.mem_cons_self
  have complete : holding.fields.skeleton ≠ 0 :=
    extended.ne_zero (List.mem_cons_of_mem _ List.mem_cons_self)
  obtain ⟨released, destroyed, remaining⟩ := destroySkeleton_spec libbpf extended
  obtain ⟨after, freed, nothing⟩ := free_spec remaining
  refine ⟨after, ?_, nothing.eq_of_nil⟩
  rw [destroy, if_neg nonzero, readObject_eq (filled extended).object]
  show (do
    let process ← if holding.fields.skeleton = 0 then some process
      else libbpf.destroySkeleton holding.fields.skeleton process
    free process holding.object) = some after
  rw [if_neg complete, destroyed]
  exact freed

theorem Owns.destroys {obj : Address} (owned : Owns before process.heap obj) :
    ∃ after, destroy libbpf process obj = some after ∧ after.heap = before := by
  obtain ⟨holding, rfl, _, extended⟩ := owned
  exact destroy_spec libbpf extended

/-- An object without a skeleton is only freed. -/
theorem destroy_bare {obj : Address} (extended : Extends before process.heap [(obj, .object .zero)]) :
    ∃ after, destroy libbpf process obj = some after ∧ after.heap = before := by
  obtain ⟨after, freed, nothing⟩ := free_spec extended
  refine ⟨after, ?_, nothing.eq_of_nil⟩
  rw [destroy, if_neg (extended.ne_zero List.mem_cons_self),
    readObject_eq (extended.holds _ List.mem_cons_self)]
  exact freed

theorem neg_nonzero {err : BitVec 32} (nonzero : err ≠ 0) : -err ≠ 0 :=
  fun zero => nonzero (BitVec.neg_eq_zero_iff.mp zero)

/-- A failure leaves the memory as it was before the object. -/
theorem fail_spec {obj : Address} {err : BitVec 32} (nonzero : err ≠ 0)
    (destroyed : ∃ after, destroy libbpf process obj = some after ∧ after.heap = before) :
    ∃ after, fail libbpf process obj err = some (0, after) ∧ after.heap = before ∧ after.errno ≠ 0 := by
  obtain ⟨after, ran, heap⟩ := destroyed
  refine ⟨{ after with errno := -err }, ?_, heap, neg_nonzero nonzero⟩
  rw [fail, ran]
  rfl

end Destruction

section Creation

variable (allocator : Allocator) (libbpf : Libbpf)

/-- The blank object has its skeleton. -/
def created (obj s maps progs : Address) : Holding :=
  ⟨obj, { HelloVerifierBpf.zero with skeleton := s }, maps, progs, [], fun _ => rfl⟩

/-- The skeleton is complete, or it is discarded. -/
theorem createSkeleton_spec {obj : Address}
    (extended : Extends before process.heap [(obj, .object .zero)]) :
    ∃ err after, createSkeleton allocator libbpf process obj = some (err, after) ∧
      ((err ≠ 0 ∧ Extends before after.heap [(obj, .object .zero)]) ∨
        (err = 0 ∧ ∃ s maps progs, Extends before after.heap (created obj s maps progs).cells)) := by
  have unfinished : -ENOMEM ≠ 0 := by decide
  obtain ⟨s, first, allocated, ⟨rfl, failed⟩ | ⟨nonzero, skeleton⟩⟩ :=
    calloc_spec allocator extended (.skeleton ⟨0, 0, 0⟩)
  · refine ⟨-ENOMEM, first, ?_, Or.inl ⟨unfinished, failed⟩⟩
    simp only [createSkeleton, allocated, if_true, libbpf.destroys_null, Option.bind_eq_bind,
      Option.bind_some]
  obtain ⟨named, naming, building⟩ := write_spec [] skeleton (.skeleton ⟨obj, 0, 0⟩)
  obtain ⟨maps, second, mapping, ⟨rfl, failed⟩ | ⟨maps_nonzero, mapped⟩⟩ :=
    calloc_spec allocator building (.maps [])
  · obtain ⟨noted, noting, unchanged⟩ := write_spec [] failed (.skeleton ⟨obj, 0, 0⟩)
    obtain ⟨after, destroyed, left⟩ := discards libbpf [] unchanged (Or.inl ⟨rfl, rfl⟩)
    refine ⟨-ENOMEM, after, ?_, Or.inl ⟨unfinished, left⟩⟩
    simp only [createSkeleton, allocated, nonzero, if_false, naming, mapping, noting, if_true, destroyed,
      Option.bind_eq_bind, Option.bind_some]
  obtain ⟨noted, noting, growing⟩ := write_spec [_] mapped (.skeleton ⟨obj, maps, 0⟩)
  obtain ⟨filled, filling, grown⟩ := write_spec [] growing (.maps mapSkeletons)
  obtain ⟨progs, third, programming, ⟨rfl, failed⟩ | ⟨progs_nonzero, programmed⟩⟩ :=
    calloc_spec allocator grown (.progs [])
  · obtain ⟨listed, listing, unchanged⟩ := write_spec [_] failed (.skeleton ⟨obj, maps, 0⟩)
    obtain ⟨after, destroyed, left⟩ :=
      discards libbpf [(maps, .maps mapSkeletons)] unchanged (Or.inr ⟨mapSkeletons, rfl⟩)
    refine ⟨-ENOMEM, after, ?_, Or.inl ⟨unfinished, left⟩⟩
    simp only [createSkeleton, allocated, nonzero, if_false, naming, mapping, noting, maps_nonzero, filling,
      programming, listing, if_true, destroyed, Option.bind_eq_bind, Option.bind_some]
  obtain ⟨listed, listing, linking⟩ := write_spec [_, _] programmed (.skeleton ⟨obj, maps, progs⟩)
  obtain ⟨complete, completing, full⟩ := write_spec [] linking (.progs progSkeletons)
  obtain ⟨after, storing, stored⟩ :=
    write_spec [_, _, _] full (.object { HelloVerifierBpf.zero with skeleton := s })
  have present : complete.heap obj = some (.object .zero) :=
    full.holds (obj, .object .zero) (by simp)
  refine ⟨0, after, ?_, Or.inr ⟨rfl, s, maps, progs, stored.perm (List.reverse_perm _).symm⟩⟩
  simp only [createSkeleton, allocated, nonzero, if_false, naming, mapping, noting, maps_nonzero, filling,
    programming, listing, progs_nonzero, completing, readObject_eq present, Option.bind_eq_bind,
    Option.bind_some]
  rw [storing]
  rfl

end Creation

section Changes

variable (libbpf : Libbpf) {holding : Holding}

/-- The object gets new fields, and more cells belong to it. -/
theorem exchanges (extended : Extends before process.heap holding.cells) (fields : HelloVerifierBpf)
    (added : List (Address × Block)) (fresh : process.heap.Fresh (added.map Prod.fst)) :
    Extends before (process.heap.store ((holding.object, .object fields) :: added))
      ((holding.object, .object fields) :: (holding.skeletonCells ++
        (added ++ (openedCells holding.fields.obj holding.parts ++ linkCells holding.fields.links)))) :=
  ((extended.allocates fresh).write added (.object fields)).perm
    (List.perm_middle.trans ((List.perm_append_comm_assoc _ _ _).cons _))

/-- The addresses of new links belong to the members that had none. -/
theorem linkCells_added {before after : ProgField → Address} {added : List ProgField}
    (apart : added.Nodup) (empty : ∀ field ∈ added, before field = 0 ∧ after field ≠ 0)
    (kept : ∀ field, field ∉ added → after field = before field) :
    (linkCells after).Perm ((added.map fun field => (after field, .link)) ++ linkCells before) := by
  have disjoint : ∀ field ∈ linkFields before, field ∉ added :=
    fun field member inside => mem_linkFields.mp member (empty field inside).1
  have nodup : (added ++ linkFields before).Nodup :=
    List.nodup_append.mpr ⟨apart, nodup_linkFields before, fun field inside other member same =>
      disjoint other member (same ▸ inside)⟩
  have fields : (linkFields after).Perm (added ++ linkFields before) := by
    rw [List.perm_ext_iff_of_nodup (nodup_linkFields after) nodup]
    intro field
    rw [List.mem_append, mem_linkFields, mem_linkFields]
    by_cases inside : field ∈ added
    · exact iff_of_true (empty field inside).2 (Or.inl inside)
    · rw [kept field inside]
      exact (or_iff_right inside).symm
  have cells := fields.map fun field => (after field, Block.link)
  rw [List.map_append] at cells
  have same : (linkFields before).map (fun field => (after field, Block.link)) = linkCells before :=
    List.map_congr_left fun field member => by rw [kept field (disjoint field member)]
  rw [same] at cells
  exact cells

/-- The links and the data of an object may change while it is open. -/
def Holding.changed (holding : Holding) (links : ProgField → Address) (data : Address) : Holding :=
  { holding with fields := { holding.fields with links := links, data := data } }

theorem Holding.Usable.changed (usable : holding.Usable) (links : ProgField → Address) (data : Address) :
    (holding.changed links data).Usable := ⟨usable.opened, usable.maps, usable.progs⟩

theorem load_spec {obj : Address} (owned : Owns before process.heap obj) :
    ∃ err after, load libbpf process obj = some (err, after) ∧ Owns before after.heap obj := by
  obtain ⟨holding, rfl, usable, extended⟩ := owned
  have present := filled extended
  obtain ⟨err, after, data, loaded, _, heap⟩ := libbpf.loads present (opened extended usable.opened)
  refine ⟨err, after, ?_, holding.changed holding.fields.links data, rfl, usable.changed _ _, ?_⟩
  · rw [load, readObject_eq present.object]
    exact loaded
  · rw [heap]
    exact exchanges extended _ [] ⟨List.nodup_nil, fun _ member => (List.not_mem_nil member).elim⟩

theorem attach_spec {obj : Address} (owned : Owns before process.heap obj) :
    ∃ err after, attach libbpf process obj = some (err, after) ∧ Owns before after.heap obj := by
  obtain ⟨holding, rfl, usable, extended⟩ := owned
  have present := filled extended
  obtain ⟨err, after, links, added, attached, empty, kept, fresh, heap⟩ := libbpf.attaches present
    (opened extended usable.opened) (fun entry _ => usable.progs entry.prog) (linked extended)
  refine ⟨err, after, ?_, holding.changed links holding.fields.data, rfl, usable.changed _ _, ?_⟩
  · rw [attach, readObject_eq present.object]
    exact attached
  · have addresses : (added.map fun field => (links field, Block.link)).map Prod.fst =
        added.map links := List.map_map
    have new : ∀ field ∈ added, holding.fields.links field = 0 ∧ links field ≠ 0 := fun field member =>
      ⟨(empty field member).1, (fresh.2 _ (List.mem_map_of_mem member)).1⟩
    have all := linkCells_added (List.Nodup.of_map links fresh.1) new kept
    rw [heap]
    refine (exchanges extended _ _ (addresses ▸ fresh)).perm (List.Perm.cons _ (List.Perm.append_left _ ?_))
    exact (List.perm_append_comm_assoc _ _ _).trans (all.symm.append_left _)

theorem detach_spec {obj : Address} (owned : Owns before process.heap obj) :
    ∃ after, detach libbpf process obj = some after ∧ Owns before after.heap obj := by
  obtain ⟨holding, rfl, usable, extended⟩ := owned
  have present := filled extended
  obtain ⟨after, detached, heap⟩ := libbpf.detaches present (linked extended)
  refine ⟨after, ?_, holding.changed (fun _ => 0) holding.fields.data, rfl, usable.changed _ _, ?_⟩
  · rw [detach, readObject_eq present.object]
    exact detached
  · have split : holding.cells = ((holding.object, .object holding.fields) ::
        (holding.skeletonCells ++ openedCells holding.fields.obj holding.parts)) ++
        linkCells holding.fields.links := by
      rw [Holding.cells, List.cons_append, List.append_assoc]
    have first := (split ▸ extended).perm List.perm_append_comm
    have freed : Extends before (process.heap.without (linkAddresses holding.fields progSkeletons)) _ :=
      first.free
        (fun cell member => (link_addresses holding.fields cell.1).1 (List.mem_map_of_mem member))
        (fun address => (link_addresses holding.fields address).2)
    have closed := freed.write [] (.object { holding.fields with links := fun _ => 0 })
    rw [← List.append_nil (openedCells holding.fields.obj holding.parts)] at closed
    rw [heap, detached_progSkeletons]
    exact closed

/-- The object of libbpf becomes a part of the holding, whether or not its opening succeeds. -/
theorem openSkeleton_spec (extended : Extends before process.heap holding.cells)
    (closed : holding.fields.obj = 0) :
    ∃ err after, ∃ now : Holding, libbpf.openSkeleton holding.fields.skeleton process = some (err, after) ∧
      now.object = holding.object ∧ Extends before after.heap now.cells ∧ (err = 0 → now.Usable) := by
  obtain ⟨err, after, ran, ⟨failed, same⟩ | ⟨now, parts, opens, fresh, heap⟩⟩ :=
    libbpf.opens (filled extended)
  · refine ⟨err, after, holding, ran, rfl, ?_, fun succeeded => absurd succeeded failed⟩
    rw [same]
    exact extended
  · have nonzero : now.obj ≠ 0 := (fresh.2 now.obj List.mem_cons_self).1
    have addresses : ((now.obj, .bpfObject parts) :: partCells parts).map Prod.fst =
        now.obj :: parts.map Prod.fst := by
      rw [List.map_cons, map_partCells]
    refine ⟨err, after, ⟨holding.object, now, holding.maps, holding.progs, parts,
      fun zero => absurd zero nonzero⟩, ran, rfl, ?_, fun succeeded => ⟨nonzero, ?_, ?_⟩⟩
    · have grown := exchanges extended now _ (addresses ▸ fresh)
      rw [openedCells, if_pos closed, List.nil_append] at grown
      rw [heap, Holding.cells, openedCells, if_neg nonzero, opens.links, Holding.skeletonCells,
        opens.skeleton]
      exact grown
    · have entries := opens.maps succeeded
      intro field
      cases field
      · exact entries ⟨"my_config", .myConfig, false⟩ (by decide)
      · exact entries ⟨"output", .output, false⟩ (by decide)
      · exact entries ⟨"hello_ve.data", .data, true⟩ (by decide)
      · exact entries ⟨"hello_ve.rodata", .rodata, false⟩ (by decide)
    · have entries := opens.progs succeeded
      intro field
      cases field
      · exact entries ⟨"kprobe_exec", .kprobeExec, .kprobeExec⟩ (by decide)
      · exact entries ⟨"xdp_hello", .xdpHello, .xdpHello⟩ (by decide)

end Changes

section Opening

variable (allocator : Allocator) (libbpf : Libbpf)

/-- A call gives a new object that is open, or NULL with an error and the memory as it was. -/
structure Gives (before : Heap Address Block) (obj : Address) (after : Process) : Prop where
  refused : obj = 0 → after.heap = before ∧ after.errno ≠ 0
  opened : obj ≠ 0 → Owns before after.heap obj

theorem Gives.failed {obj : Address} {err : BitVec 32} (nonzero : err ≠ 0)
    (destroyed : ∃ after, destroy libbpf process obj = some after ∧ after.heap = before) :
    ∃ after, fail libbpf process obj err = some (0, after) ∧ Gives before 0 after := by
  obtain ⟨after, ran, heap, errno⟩ := fail_spec libbpf nonzero destroyed
  exact ⟨after, ran, fun _ => ⟨heap, errno⟩, fun opened => absurd rfl opened⟩

theorem openOpts_spec (null : process.heap 0 = none) :
    ∃ obj after, openOpts allocator libbpf process = some (obj, after) ∧
      Gives process.heap obj after := by
  obtain ⟨obj, first, allocated, ⟨rfl, nothing⟩ | ⟨nonzero, blank⟩⟩ :=
    calloc_spec allocator (Extends.nil null) (.object .zero)
  · refine ⟨0, { first with errno := ENOMEM }, ?_, fun _ => ⟨nothing.eq_of_nil, ?_⟩,
      fun opened => absurd rfl opened⟩
    · simp only [openOpts, allocated, if_true]
    · exact show ENOMEM ≠ 0 by decide
  obtain ⟨err, second, creating, ⟨failed, blank⟩ | ⟨rfl, s, maps, progs, complete⟩⟩ :=
    createSkeleton_spec allocator libbpf blank
  · obtain ⟨after, failing, gives⟩ := Gives.failed libbpf failed (destroy_bare libbpf blank)
    refine ⟨0, after, ?_, gives⟩
    simp only [openOpts, allocated, nonzero, if_false, creating, Option.bind_eq_bind, Option.bind_some,
      ne_eq, failed, not_false_eq_true, if_true, failing]
  obtain ⟨err, third, now, opening, same, extended, usable⟩ := openSkeleton_spec libbpf complete rfl
  have present : readObject second obj = some (created obj s maps progs).fields :=
    readObject_eq (filled complete).object
  by_cases failed : err = 0
  · subst failed
    refine ⟨obj, third, ?_, fun zero => absurd zero nonzero,
      fun _ => ⟨now, same, usable rfl, extended⟩⟩
    simp only [openOpts, allocated, nonzero, if_false, creating, Option.bind_eq_bind, Option.bind_some,
      ne_eq, not_true_eq_false, present, opening]
  · have destroyed := destroy_spec libbpf extended
    rw [same] at destroyed
    obtain ⟨after, failing, gives⟩ := Gives.failed libbpf failed destroyed
    refine ⟨0, after, ?_, gives⟩
    simp only [openOpts, allocated, nonzero, if_false, creating, Option.bind_eq_bind, Option.bind_some,
      ne_eq, not_true_eq_false, present, opening, failed, not_false_eq_true, if_true]
    exact failing

theorem openAndLoad_spec (null : process.heap 0 = none) :
    ∃ obj after, openAndLoad allocator libbpf process = some (obj, after) ∧
      Gives process.heap obj after := by
  obtain ⟨obj, first, opening, gives⟩ := openOpts_spec allocator libbpf null
  by_cases refused : obj = 0
  · subst refused
    refine ⟨0, first, ?_, gives⟩
    simp only [openAndLoad, opening, Option.bind_eq_bind, Option.bind_some, if_true]
  obtain ⟨err, second, loading, owned⟩ := load_spec libbpf (gives.opened refused)
  by_cases failed : err = 0
  · subst failed
    refine ⟨obj, second, ?_, fun zero => absurd zero refused, fun _ => owned⟩
    simp only [openAndLoad, opening, Option.bind_eq_bind, Option.bind_some, refused, if_false, loading,
      ne_eq, not_true_eq_false]
  · obtain ⟨after, failing, gives⟩ := Gives.failed libbpf failed (owned.destroys libbpf)
    refine ⟨0, after, ?_, gives⟩
    simp only [openAndLoad, opening, Option.bind_eq_bind, Option.bind_some, refused, if_false, loading,
      ne_eq, failed, not_false_eq_true, if_true]
    exact failing

end Opening

end EbpfNotes.HelloVerifierSkeleton
