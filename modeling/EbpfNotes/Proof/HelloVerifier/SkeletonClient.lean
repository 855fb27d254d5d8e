import EbpfNotes.Library.Refinement
import EbpfNotes.Proof.HelloVerifier.Skeleton
import Mathlib.Data.List.InsertIdx
import Mathlib.Data.List.Perm.Basic

namespace EbpfNotes.HelloVerifierSkeleton

open Library Heap

/-- The memory is the initial one and the blocks of the objects that the client has open. -/
structure Tracks (initial : Heap Address Block) (client : Client) (holdings : List Holding) : Prop where
  objects : client.objects = holdings.map Holding.object
  usable : ∀ holding ∈ holdings, holding.Usable
  memory : Extends initial client.process.heap (holdings.flatMap Holding.cells)

def Client.Sound (initial : Heap Address Block) (client : Client) : Prop :=
  ∃ holdings, Tracks initial client holdings

namespace Tracks

variable {initial : Heap Address Block} {client : Client} {holdings : List Holding}

theorem holding (tracks : Tracks initial client holdings) {index : Nat} {obj : Address}
    (found : client.objects[index]? = some obj) :
    ∃ holding, holdings[index]? = some holding ∧ holding.object = obj := by
  rw [tracks.objects, List.getElem?_map, Option.map_eq_some_iff] at found
  exact found

/-- A call on one object finds its blocks, and what it does to them is all that changes. -/
theorem frame (tracks : Tracks initial client holdings) {index : Nat} {obj : Address}
    (found : client.objects[index]? = some obj) :
    ∃ before, Owns before client.process.heap obj ∧
      ∀ after : Process, Owns before after.heap obj →
        (⟨after, client.objects⟩ : Client).Sound initial := by
  obtain ⟨holding, held, rfl⟩ := tracks.holding found
  obtain ⟨rest, own, exchange⟩ := flatMap_set_exchange Holding.cells held
  obtain ⟨others, mine⟩ := (tracks.memory.perm own).split
  refine ⟨initial.store rest, ⟨holding, rfl, tracks.usable holding (List.mem_of_getElem? held), mine⟩, ?_⟩
  rintro after ⟨next, same, usable, changed⟩
  refine ⟨holdings.set index next, ?_, ?_, (others.trans changed).perm (exchange next).symm⟩
  · obtain ⟨inside, rfl⟩ := List.getElem?_eq_some_iff.mp held
    rw [tracks.objects, List.map_set, same, ← List.map_set, List.set_getElem_self]
  · intro other member
    rcases List.mem_or_eq_of_mem_set member with old | rfl
    · exact tracks.usable other old
    · exact usable

theorem opens (tracks : Tracks initial client holdings) {obj : Address} {after : Process}
    (gives : Gives client.process.heap obj after) :
    (⟨after, if obj = 0 then client.objects else obj :: client.objects⟩ : Client).Sound initial := by
  by_cases refused : obj = 0
  · rw [if_pos refused]
    refine ⟨holdings, tracks.objects, tracks.usable, ?_⟩
    show Extends initial after.heap _
    rw [(gives.refused refused).1]
    exact tracks.memory
  · rw [if_neg refused]
    obtain ⟨holding, rfl, usable, extended⟩ := gives.opened refused
    refine ⟨holding :: holdings, ?_, List.forall_mem_cons.mpr ⟨usable, tracks.usable⟩,
      tracks.memory.trans extended⟩
    rw [List.map_cons, ← tracks.objects]

theorem closes (tracks : Tracks initial client holdings) (libbpf : Libbpf) {index : Nat} {obj : Address}
    (found : client.objects[index]? = some obj) :
    ∃ after, destroy libbpf client.process obj = some after ∧
      (⟨after, client.objects.eraseIdx index⟩ : Client).Sound initial := by
  obtain ⟨holding, held, rfl⟩ := tracks.holding found
  obtain ⟨inside, rfl⟩ := List.getElem?_eq_some_iff.mp held
  have first := (List.getElem_cons_eraseIdx_perm inside).symm.flatMap_right Holding.cells
  rw [List.flatMap_cons] at first
  obtain ⟨others, mine⟩ := (tracks.memory.perm first).split
  obtain ⟨after, destroyed, heap⟩ := destroy_spec libbpf mine
  refine ⟨after, destroyed, holdings.eraseIdx index, ?_, ?_, ?_⟩
  · rw [tracks.objects, List.eraseIdx_map]
  · exact fun held member => tracks.usable held (List.mem_of_mem_eraseIdx member)
  · show Extends initial after.heap _
    rw [heap]
    exact others

end Tracks

/-- Every call of a sound client succeeds and keeps it sound. -/
theorem Client.Sound.performs (allocator : Allocator) (libbpf : Libbpf) {initial : Heap Address Block}
    {client : Client} (sound : client.Sound initial) (command : Command) :
    ∃ next, client.perform allocator libbpf command = some next ∧ next.Sound initial := by
  obtain ⟨holdings, tracks⟩ := sound
  have null : client.process.heap 0 = none := tracks.memory.after_null
  cases command with
  | openOpts =>
      obtain ⟨obj, after, opened, gives⟩ := openOpts_spec allocator libbpf null
      refine ⟨_, ?_, tracks.opens gives⟩
      simp only [Client.perform, opened, Option.bind_eq_bind, Option.bind_some]
  | openAndLoad =>
      obtain ⟨obj, after, opened, gives⟩ := openAndLoad_spec allocator libbpf null
      refine ⟨_, ?_, tracks.opens gives⟩
      simp only [Client.perform, opened, Option.bind_eq_bind, Option.bind_some]
  | load index =>
      cases found : client.objects[index]? with
      | none => exact ⟨client, by simp only [Client.perform, found], holdings, tracks⟩
      | some obj =>
          obtain ⟨before, mine, framed⟩ := tracks.frame found
          obtain ⟨err, after, loaded, changed⟩ := load_spec libbpf mine
          refine ⟨⟨after, client.objects⟩, ?_, framed after changed⟩
          simp only [Client.perform, found, loaded, Option.map_some]
  | attach index =>
      cases found : client.objects[index]? with
      | none => exact ⟨client, by simp only [Client.perform, found], holdings, tracks⟩
      | some obj =>
          obtain ⟨before, mine, framed⟩ := tracks.frame found
          obtain ⟨err, after, attached, changed⟩ := attach_spec libbpf mine
          refine ⟨⟨after, client.objects⟩, ?_, framed after changed⟩
          simp only [Client.perform, found, attached, Option.map_some]
  | detach index =>
      cases found : client.objects[index]? with
      | none => exact ⟨client, by simp only [Client.perform, found], holdings, tracks⟩
      | some obj =>
          obtain ⟨before, mine, framed⟩ := tracks.frame found
          obtain ⟨after, detached, changed⟩ := detach_spec libbpf mine
          refine ⟨⟨after, client.objects⟩, ?_, framed after changed⟩
          simp only [Client.perform, found, detached, Option.map_some]
  | destroy index =>
      cases found : client.objects[index]? with
      | none => exact ⟨client, by simp only [Client.perform, found], holdings, tracks⟩
      | some obj =>
          obtain ⟨after, destroyed, closed⟩ := tracks.closes libbpf found
          refine ⟨⟨after, client.objects.eraseIdx index⟩, ?_, closed⟩
          simp only [Client.perform, found, destroyed, Option.map_some]

theorem Client.Sound.runs (allocator : Allocator) (libbpf : Libbpf) {initial : Heap Address Block}
    (commands : List Command) {client : Client} (sound : client.Sound initial) :
    ∃ last, client.run allocator libbpf commands = some last ∧ last.Sound initial := by
  induction commands generalizing client with
  | nil => exact ⟨client, rfl, sound⟩
  | cons command rest ih =>
      obtain ⟨next, performed, kept⟩ := sound.performs allocator libbpf command
      obtain ⟨last, ran, final⟩ := ih kept
      refine ⟨last, ?_, final⟩
      rw [Client.run, List.foldlM_cons, performed]
      exact ran

/-- No call uses or frees memory wrongly, every open object is complete, and the memory is the initial
one and the blocks of the open objects. -/
theorem clientRun_safe (allocator : Allocator) (libbpf : Libbpf) {process : Process}
    (null : process.heap 0 = none) (commands : List Command) :
    ∃ client holdings, Client.run allocator libbpf ⟨process, []⟩ commands = some client ∧
      Tracks process.heap client holdings ∧
      (∀ address block, process.heap address = some block →
        client.process.heap address = some block) ∧
      (client.objects = [] → client.process.heap = process.heap) := by
  have start : (⟨process, []⟩ : Client).Sound process.heap :=
    ⟨[], rfl, fun _ member => (List.not_mem_nil member).elim, Extends.nil null⟩
  obtain ⟨client, ran, holdings, tracks⟩ := start.runs allocator libbpf commands
  refine ⟨client, holdings, ran, tracks, ?_, ?_⟩
  · intro address block used
    rw [tracks.memory.others address, used]
    intro member
    rw [tracks.memory.fresh address member] at used
    cases used
  · intro none_open
    have empty : holdings = [] := List.map_eq_nil_iff.mp (tracks.objects.symm.trans none_open)
    have memory := tracks.memory
    rw [empty] at memory
    exact memory.eq_of_nil

/-- The allocator takes the next address unless something is there already. -/
def countingAllocator : Allocator where
  calloc callocs heap := if heap (32 * (callocs + 1)) = none then 32 * (callocs + 1) else 0
  fresh := by
    intro callocs heap nonzero
    by_cases unused : heap (32 * (callocs + 1)) = none
    · rw [if_pos unused, unused]
    · exact absurd (if_neg unused) nonzero

section Nearby

def mapIndex : MapField → Nat
  | .myConfig => 2
  | .output => 3
  | .data => 4
  | .rodata => 5

def progIndex : ProgField → Nat
  | .kprobeExec => 6
  | .xdpHello => 7

def nearbyParts (s : Address) : List (Address × Part) :=
  [(s + 2, .map), (s + 3, .map), (s + 4, .map), (s + 5, .map), (s + 6, .program), (s + 7, .program)]

def nearbyAddresses (s : Address) : List Address := (s + 1) :: (nearbyParts s).map Prod.fst

def nearbyObject (s : Address) (object : HelloVerifierBpf) : HelloVerifierBpf :=
  { object with
    obj := s + 1
    maps := fun field => s + mapIndex field
    progs := fun field => s + progIndex field }

/-- The object and its parts are placed next to the skeleton. -/
def nearbyOpen (s : Address) (process : Process) : Option (BitVec 32 × Process) := do
  let .skeleton fields ← process.heap s | none
  let .object object ← process.heap fields.obj | none
  if ∀ address ∈ nearbyAddresses s, process.heap address = none then
    let heap := process.heap.store ((fields.obj, .object (nearbyObject s object)) ::
      (s + 1, .bpfObject (nearbyParts s)) :: partCells (nearbyParts s))
    some (0, { process with heap := heap })
  else some (-ENOMEM, process)

def nearbyLoad (s : Address) (process : Process) : Option (BitVec 32 × Process) := do
  let .skeleton fields ← process.heap s | none
  let .object object ← process.heap fields.obj | none
  let .maps maps ← process.heap fields.maps | none
  let data := if ∃ entry ∈ maps, entry.mmaped = true then s + 8 else object.data
  some (0, { process with heap := process.heap.set fields.obj (.object { object with data := data }) })

/-- The members that get a link. -/
def nearbyAdded (s : Address) (heap : Heap Address Block) (object : HelloVerifierBpf)
    (progs : List BpfProgSkeleton) : List ProgField :=
  [.kprobeExec, .xdpHello].filter fun field =>
    object.links field = 0 ∧ field ∈ progs.map BpfProgSkeleton.link ∧
      heap (s + 8 + progIndex field) = none

def nearbyLinks (s : Address) (object : HelloVerifierBpf) (added : List ProgField) : ProgField → Address :=
  fun field => if field ∈ added then s + 8 + progIndex field else object.links field

def nearbyAttach (s : Address) (process : Process) : Option (BitVec 32 × Process) := do
  let .skeleton fields ← process.heap s | none
  let .object object ← process.heap fields.obj | none
  let .progs progs ← process.heap fields.progs | none
  let added := nearbyAdded s process.heap object progs
  let links := nearbyLinks s object added
  let heap := process.heap.store ((fields.obj, .object { object with links := links }) ::
    added.map fun field => (links field, .link))
  some (if ∀ entry ∈ progs, links entry.link ≠ 0 then 0 else -ENOMEM, { process with heap := heap })

def nearbyDetach (s : Address) (process : Process) : Option Process := do
  let .skeleton fields ← process.heap s | none
  let .object object ← process.heap fields.obj | none
  let .progs progs ← process.heap fields.progs | none
  let heap := process.heap.without (linkAddresses object progs)
  some { process with heap := heap.set fields.obj (.object (object.detached progs)) }

def nearbyDestroy (s : Address) (process : Process) : Option Process :=
  if s = 0 then some process
  else do
    let .skeleton fields ← process.heap s | none
    let .object object ← process.heap fields.obj | none
    let progs := match process.heap fields.progs with
      | some (.progs progs) => progs
      | _ => []
    let parts := match process.heap object.obj with
      | some (.bpfObject parts) => parts
      | _ => []
    let heap := process.heap.without ([s, fields.maps, fields.progs, object.obj] ++ parts.map Prod.fst ++
      linkAddresses object progs)
    some { process with heap := heap.set fields.obj (.object (object.detached progs)) }

theorem nearbyOpen_cases {process : Process} {s : Address} {fields : BpfObjectSkeleton}
    {object : HelloVerifierBpf} {maps : List BpfMapSkeleton} {progs : List BpfProgSkeleton}
    (present : Filled process.heap s fields object maps progs) :
    ∃ result after, nearbyOpen s process = some (result, after) ∧
      ((result ≠ 0 ∧ after.heap = process.heap) ∨
        ∃ now parts, OpensTo result object now maps progs parts ∧
          process.heap.Fresh (now.obj :: parts.map Prod.fst) ∧
          after.heap = process.heap.store
            ((fields.obj, .object now) :: (now.obj, .bpfObject parts) :: partCells parts)) := by
  by_cases unused : ∀ address ∈ nearbyAddresses s, process.heap address = none
  · refine ⟨0, { process with heap := _ }, ?_,
      Or.inr ⟨nearbyObject s object, nearbyParts s, ⟨rfl, rfl, ?_, ?_⟩, ⟨?_, ?_⟩, rfl⟩⟩
    · simp only [nearbyOpen, present.skeleton, present.object, Option.bind_eq_bind, Option.bind_some,
        if_pos unused]
      rfl
    · intro _ entry _
      cases entry.map <;> simp [nearbyObject, nearbyParts, mapIndex]
    · intro _ entry _
      cases entry.prog <;> simp [nearbyObject, nearbyParts, progIndex]
    · simp [nearbyObject, nearbyParts]
    · intro address member
      refine ⟨?_, unused address member⟩
      rintro rfl
      simp [nearbyObject, nearbyParts] at member
  · refine ⟨-ENOMEM, process, ?_, Or.inl ⟨by decide, rfl⟩⟩
    simp only [nearbyOpen, present.skeleton, present.object, Option.bind_eq_bind, Option.bind_some,
      if_neg unused]

theorem mem_nearbyAdded {s : Address} {heap : Heap Address Block} {object : HelloVerifierBpf}
    {progs : List BpfProgSkeleton} {field : ProgField} (member : field ∈ nearbyAdded s heap object progs) :
    object.links field = 0 ∧ field ∈ progs.map BpfProgSkeleton.link ∧
      heap (s + 8 + progIndex field) = none :=
  of_decide_eq_true (List.mem_filter.mp member).2

/-- The new links have addresses of their own. -/
theorem nearbyLinks_fresh (s : Address) (heap : Heap Address Block) (object : HelloVerifierBpf)
    (progs : List BpfProgSkeleton) :
    let added := nearbyAdded s heap object progs
    heap.Fresh (added.map (nearbyLinks s object added)) := by
  intro added
  have links : ∀ field ∈ added, nearbyLinks s object added field = s + 8 + progIndex field :=
    fun field member => if_pos member
  constructor
  · refine List.Nodup.map_on ?_ (List.Nodup.filter _ (by decide))
    intro first inside second also same
    rw [links first inside, links second also] at same
    cases first <;> cases second <;> simp [progIndex] at same ⊢
  · intro address member
    obtain ⟨field, inside, rfl⟩ := List.mem_map.mp member
    rw [links field inside]
    exact ⟨(Nat.add_pos_left (Nat.add_pos_right s (by decide)) _).ne', (mem_nearbyAdded inside).2.2⟩

def nearbyLibbpf : Libbpf where
  openSkeleton := nearbyOpen
  loadSkeleton := nearbyLoad
  attachSkeleton := nearbyAttach
  detachSkeleton := nearbyDetach
  destroySkeleton := nearbyDestroy
  opens := nearbyOpen_cases
  loads := by
    intro process s fields object maps progs parts present _
    refine ⟨0, { process with heap := _ },
      if ∃ entry ∈ maps, entry.mmaped = true then s + 8 else object.data, ?_, ?_, rfl⟩
    · simp only [nearbyLoad, present.skeleton, present.object, present.maps, Option.bind_eq_bind,
        Option.bind_some]
      rfl
    · by_cases mapped : ∃ entry ∈ maps, entry.mmaped = true
      · exact Or.inr mapped
      · exact Or.inl (if_neg mapped)
  attaches := by
    intro process s fields object maps progs parts present _ _ _
    let added := nearbyAdded s process.heap object progs
    let links := nearbyLinks s object added
    refine ⟨if ∀ entry ∈ progs, links entry.link ≠ 0 then 0 else -ENOMEM, { process with heap := _ }, links,
      added, ?_, ?_, ?_, nearbyLinks_fresh s process.heap object progs, rfl⟩
    · simp only [nearbyAttach, present.skeleton, present.object, present.progs, Option.bind_eq_bind,
        Option.bind_some]
      rfl
    · exact fun field member => ⟨(mem_nearbyAdded member).1, (mem_nearbyAdded member).2.1⟩
    · exact fun field outside => if_neg outside
  detaches := by
    intro process s fields object maps progs present _
    refine ⟨{ process with heap := _ }, ?_, rfl⟩
    simp only [nearbyDetach, present.skeleton, present.object, present.progs, Option.bind_eq_bind,
      Option.bind_some]
    rfl
  destroys_null _ := rfl
  destroys := by
    intro process s fields object progs parts nonzero null skeleton present _ listed opened _
    have progs_read : (match process.heap fields.progs with
        | some (.progs progs) => progs
        | _ => []) = progs := by
      rcases listed with ⟨zero, rfl⟩ | listed
      · rw [zero, null]
      · rw [listed]
    have parts_read : (match process.heap object.obj with
        | some (.bpfObject parts) => parts
        | _ => []) = parts := by
      rcases opened with ⟨zero, rfl⟩ | opened
      · rw [zero, null]
      · rw [opened.object]
    refine ⟨{ process with heap := _ }, ?_, rfl⟩
    simp only [nearbyDestroy, if_neg nonzero, skeleton, present, Option.bind_eq_bind, Option.bind_some]
    rw [progs_read, parts_read]
    rfl

end Nearby

theorem emptyProcess_safe : ∃ client holdings,
    Client.run countingAllocator nearbyLibbpf ⟨⟨fun _ => none, 0, 0⟩, []⟩
      [.openAndLoad, .attach 0, .openOpts, .attach 1, .detach 1, .destroy 0] = some client ∧
    Tracks (fun _ => none) client holdings ∧
    (∀ address block, (none : Option Block) = some block →
      client.process.heap address = some block) ∧
    (client.objects = [] → client.process.heap = fun _ => none) :=
  clientRun_safe countingAllocator nearbyLibbpf rfl _

example : (Client.run countingAllocator nearbyLibbpf ⟨⟨fun _ => none, 0, 0⟩, []⟩
    [.openAndLoad, .attach 0, .openOpts, .detach 1, .destroy 0]).map Client.objects = some [32] := by
  decide +kernel

end EbpfNotes.HelloVerifierSkeleton
