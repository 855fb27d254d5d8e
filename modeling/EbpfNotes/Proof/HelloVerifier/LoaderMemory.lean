import EbpfNotes.Construction.HelloVerifierLoaderMemory
import EbpfNotes.Proof.HelloVerifier.Loader
import EbpfNotes.Proof.HelloVerifier.SkeletonClient

namespace EbpfNotes.HelloVerifierSkeleton

open Library Heap
open HelloVerifier (MsgT)
open HelloVerifierUser (Setup Run main mainWithLog pollLoop main_polls setupActions keyBytes)

variable {before : Heap Address Block} {process : Process} {allocator : Allocator} {libbpf : LoaderLibbpf}

section Calls

variable {obj : Address}

/-- The maps of an open object are there. -/
theorem Owns.reads (owned : Owns before process.heap obj) :
    ∃ fields, readObject process obj = some fields ∧
      ∀ field, process.heap (fields.maps field) = some (.part .map) := by
  obtain ⟨holding, rfl, usable, extended⟩ := owned
  exact ⟨holding.fields, readObject_eq (filled extended).object, fun field =>
    (opened extended usable.opened).parts (holding.fields.maps field, .map) (usable.maps field)⟩

theorem updateElem_spec (libbpf : LoaderLibbpf) (owned : Owns before process.heap obj)
    (key : Vector Byte 4) (msg : MsgT) (flags : Word) :
    ∃ err after, updateElem libbpf process obj key msg flags = some (err, after) ∧
      after.heap = process.heap := by
  obtain ⟨fields, read, maps⟩ := owned.reads
  obtain ⟨err, after, updated, same⟩ := libbpf.updates (maps .myConfig) key msg flags
  refine ⟨err, after, ?_, same⟩
  rw [updateElem, read]
  exact updated

/-- The call gives a new perf buffer, or NULL. -/
theorem perfBufferNew_spec (libbpf : LoaderLibbpf) (owned : Owns before process.heap obj) (pages : Nat) :
    ∃ pb after, perfBufferNew libbpf process obj pages = some (pb, after) ∧
      (pb = 0 → after.heap = process.heap) ∧
      (pb ≠ 0 → Extends process.heap after.heap [(pb, .perfBuffer)]) := by
  obtain ⟨fields, read, maps⟩ := owned.reads
  obtain ⟨fd, found⟩ := libbpf.mapFds (maps .output)
  obtain ⟨pb, after, created, result⟩ := libbpf.creates fd pages process
  refine ⟨pb, after, ?_, ?_, ?_⟩
  · rw [perfBufferNew, read]
    show (do
      let fd ← libbpf.mapFd (fields.maps .output) process
      some (libbpf.perfBufferNew fd pages process)) = some (pb, after)
    rw [found, ← created]
    rfl
  · intro zero
    rcases result with ⟨_, same⟩ | ⟨nonzero, _, _⟩
    · exact same
    · exact absurd zero nonzero
  · intro nonzero
    rcases result with ⟨zero, _⟩ | ⟨_, unused, heap⟩
    · exact absurd zero nonzero
    · obtain ⟨_, _, _, extended⟩ := owned
      rw [heap]
      exact (Extends.nil extended.after_null).allocate nonzero unused .perfBuffer

end Calls

theorem performActions_cons {next : Process} {action : HelloVerifierUser.Action Address Address}
    (performed : performAction allocator libbpf process action = some next)
    (rest : List (HelloVerifierUser.Action Address Address)) :
    performActions allocator libbpf process (action :: rest) =
      performActions allocator libbpf next rest := by
  rw [performActions, List.foldlM_cons, performed]
  rfl

theorem performActions_append {next : Process} {first : List (HelloVerifierUser.Action Address Address)}
    (performed : performActions allocator libbpf process first = some next)
    (second : List (HelloVerifierUser.Action Address Address)) :
    performActions allocator libbpf process (first ++ second) =
      performActions allocator libbpf next second := by
  rw [performActions, List.foldlM_append]
  rw [performActions] at performed
  rw [performed]
  rfl

/-- The loop polls the buffer as long as it is there, and leaves the memory alone. -/
theorem pollLoop_performs (allocator : Allocator) (libbpf : LoaderLibbpf) {pb : Address}
    (held : process.heap pb = some .perfBuffer) (polls : List (BitVec 32)) :
    ∃ after, performActions allocator libbpf process (pollLoop Address pb polls).2 = some after ∧
      after.heap = process.heap := by
  induction polls generalizing process with
  | nil => exact ⟨process, rfl, rfl⟩
  | cons err polls ih =>
      obtain ⟨next, polled, same⟩ := libbpf.polls held 100 err
      have performed : performAction allocator libbpf process (.poll pb 100 err) = some next := polled
      rw [pollLoop]
      split
      · exact ⟨next, performActions_cons performed [], same⟩
      · split
        · exact ⟨next, performActions_cons performed _, same⟩
        · rw [← same] at held
          obtain ⟨after, ran, still⟩ := ih held
          exact ⟨after, (performActions_cons performed _).trans ran, still.trans same⟩

section Runs

variable {obj : Address}

/-- After its message a refused run destroys the object. -/
theorem refused_restores (owned : Owns before process.heap obj) (stream : HelloVerifierUser.Stream)
    (format : String) (argument : Option Int) :
    ∃ after, performActions allocator libbpf process [.print stream format argument, .destroy obj] =
      some after ∧ after.heap = before := by
  obtain ⟨after, destroyed, restored⟩ := owned.destroys libbpf.toLibbpf
  have performed : performAction allocator libbpf process (.destroy obj) = some after := destroyed
  exact ⟨after, (performActions_cons rfl _).trans (performActions_cons performed []), restored⟩

/-- The loop and the releases behind it take the perf buffer and the object away. -/
theorem polls_restore {now : Process} {pb : Address} (owned : Owns before process.heap obj)
    (created : Extends process.heap now.heap [(pb, .perfBuffer)]) (polls : List (BitVec 32)) :
    let loop := pollLoop Address pb polls
    ∃ after, performActions allocator libbpf now
        (loop.2 ++ (loop.1.map fun _ => [.free pb, .destroy obj]).getD []) = some after ∧
      (loop.1 ≠ none → after.heap = before) := by
  intro loop
  have held : now.heap pb = some .perfBuffer := created.holds _ List.mem_cons_self
  obtain ⟨last, polled, same⟩ := pollLoop_performs allocator libbpf held polls
  rw [performActions_append polled]
  cases loop.1 with
  | none => exact ⟨last, rfl, fun returned => absurd rfl returned⟩
  | some err =>
      obtain ⟨freed, freeing, heap⟩ :=
        libbpf.frees (created.ne_zero List.mem_cons_self) (same ▸ held)
      have kept : freed.heap = process.heap := by
        rw [heap, same]
        have gone : Extends process.heap now.heap ([(pb, .perfBuffer)] ++ []) := created
        refine (gone.free ?_ fun address member => Or.inr member).eq_of_nil
        exact fun cell member => List.mem_singleton.mpr (congrArg Prod.fst (List.mem_singleton.mp member))
      have still : Owns before freed.heap obj := by
        rw [kept]
        exact owned
      obtain ⟨after, destroyed, restored⟩ := still.destroys libbpf.toLibbpf
      have free_performs : performAction allocator libbpf last (.free pb) = some freed := freeing
      have destroy_performs : performAction allocator libbpf freed (.destroy obj) = some after := destroyed
      refine ⟨after, ?_, fun _ => restored⟩
      exact (performActions_cons free_performs _).trans (performActions_cons destroy_performs [])

/-- The calls of a run before it creates the perf buffer. -/
def callsBefore (endian : Endian) (stack : Vector Byte 12) (printed : List Byte) (obj : Address)
    (updated attached : BitVec 32) : List (HelloVerifierUser.Action Address Address) :=
  [.openOpts (some obj), .load obj 0, .log printed,
    .updateElem obj (keyBytes endian 501) ⟨strncpy stack (ascii "hello Liz") 9⟩ 0 updated,
    .attach obj attached]

theorem main_load_refused (endian : Endian) (stack : Vector Byte 12) (printed : List Byte)
    {loaded : BitVec 32} (failed : loaded ≠ 0) (updated attached : BitVec 32) (pb : Option Address)
    (polls : List (BitVec 32)) :
    main endian stack printed ⟨some obj, loaded, updated, attached, pb⟩ polls =
      ⟨some 1, [.openOpts (some obj), .load obj loaded, .log printed] ++
        [.print .stdout "Failed to load BPF object\n" none, .destroy obj]⟩ := by
  simp only [main, ne_eq, failed, not_false_eq_true, if_true]
  rfl

theorem main_attach_refused (endian : Endian) (stack : Vector Byte 12) (printed : List Byte)
    {attached : BitVec 32} (failed : attached ≠ 0) (updated : BitVec 32) (pb : Option Address)
    (polls : List (BitVec 32)) :
    main endian stack printed ⟨some obj, 0, updated, attached, pb⟩ polls =
      ⟨some 1, callsBefore endian stack printed obj updated attached ++
        [.print .stderr "Failed to attach BPF skeleton: %d\n" (some attached.toInt), .destroy obj]⟩ := by
  simp only [main, ne_eq, not_true_eq_false, if_false, failed, not_false_eq_true, if_true]
  rfl

theorem main_perfBuffer_refused (endian : Endian) (stack : Vector Byte 12) (printed : List Byte)
    (updated : BitVec 32) (polls : List (BitVec 32)) :
    main endian stack printed ⟨some obj, 0, updated, 0, none⟩ polls =
      ⟨some 1, callsBefore endian stack printed obj updated 0 ++ [.perfBufferNew obj 8 none] ++
        [.print .stderr "Failed to create ring buffer\n" none, .destroy obj]⟩ := rfl

/-- Whatever is printed and polled, the calls of a run find their memory, and a run that returns leaves
the memory as it was. -/
def Restores (allocator : Allocator) (libbpf : LoaderLibbpf) (endian : Endian) (stack : Vector Byte 12)
    (process : Process) (setup : Setup Address Address) : Prop :=
  ∀ printed polls, ∃ after,
    performActions allocator libbpf process (main endian stack printed setup polls).actions = some after ∧
      ((main endian stack printed setup polls).status ≠ none → after.heap = process.heap)

variable {endian : Endian} {stack : Vector Byte 12}

theorem Restores.withLog {setup : Setup Address Address}
    (restores : Restores allocator libbpf endian stack process setup) (logBuf : List Byte)
    (polls : List (BitVec 32)) {run : Run Address Address}
    (ran : mainWithLog endian stack logBuf setup polls = some run) :
    ∃ after, performActions allocator libbpf process run.actions = some after ∧
      (run.status ≠ none → after.heap = process.heap) := by
  rw [mainWithLog] at ran
  split at ran
  · obtain rfl := Option.some.inj ran
    exact restores [] polls
  · obtain ⟨printed, _, rfl⟩ := Option.map_eq_some_iff.mp ran
    exact restores printed polls

/-- Without an object there is nothing to release. -/
theorem open_refused_restores {first : Process}
    (opening : performAction allocator libbpf process (.openOpts none) = some first)
    (same : first.heap = process.heap) :
    Restores allocator libbpf endian stack process ⟨none, 0, 0, 0, none⟩ := fun _ _ =>
  ⟨first, performActions_cons opening [.print .stdout "Failed to open BPF object\n" none], fun _ => same⟩

theorem load_refused_restores {second : Process} {loaded : BitVec 32} (failed : loaded ≠ 0)
    (calls : ∀ printed, performActions allocator libbpf process
      [.openOpts (some obj), .load obj loaded, .log printed] = some second)
    (owned : Owns process.heap second.heap obj) :
    Restores allocator libbpf endian stack process ⟨some obj, loaded, 0, 0, none⟩ := by
  intro printed polls
  rw [main_load_refused endian stack printed failed, performActions_append (calls printed)]
  obtain ⟨after, performed, restored⟩ := refused_restores owned .stdout _ none
  exact ⟨after, performed, fun _ => restored⟩

theorem attach_refused_restores {fourth : Process} {updated attached : BitVec 32} (failed : attached ≠ 0)
    (calls : ∀ printed, performActions allocator libbpf process
      (callsBefore endian stack printed obj updated attached) = some fourth)
    (owned : Owns process.heap fourth.heap obj) :
    Restores allocator libbpf endian stack process ⟨some obj, 0, updated, attached, none⟩ := by
  intro printed polls
  rw [main_attach_refused endian stack printed failed, performActions_append (calls printed)]
  obtain ⟨after, performed, restored⟩ := refused_restores owned .stderr _ _
  exact ⟨after, performed, fun _ => restored⟩

theorem perfBuffer_refused_restores {fifth : Process} {updated : BitVec 32}
    (calls : ∀ printed, performActions allocator libbpf process
      (callsBefore endian stack printed obj updated 0 ++ [.perfBufferNew obj 8 none]) = some fifth)
    (owned : Owns process.heap fifth.heap obj) :
    Restores allocator libbpf endian stack process ⟨some obj, 0, updated, 0, none⟩ := by
  intro printed polls
  rw [main_perfBuffer_refused, performActions_append (calls printed)]
  obtain ⟨after, performed, restored⟩ := refused_restores owned .stderr _ none
  exact ⟨after, performed, fun _ => restored⟩

theorem polled_restores {fourth fifth : Process} {updated : BitVec 32} {pb : Address}
    (calls : ∀ printed, performActions allocator libbpf process
      (callsBefore endian stack printed obj updated 0 ++ [.perfBufferNew obj 8 (some pb)]) = some fifth)
    (owned : Owns process.heap fourth.heap obj)
    (created : Extends fourth.heap fifth.heap [(pb, .perfBuffer)]) :
    Restores allocator libbpf endian stack process ⟨some obj, 0, updated, 0, some pb⟩ := by
  intro printed polls
  obtain ⟨after, performed, restored⟩ := polls_restore owned created polls
  refine ⟨after, ?_, fun returned => restored ?_⟩
  · rw [main_polls, List.append_assoc]
    exact (performActions_append (calls printed) _).trans performed
  · rw [main_polls] at returned
    exact fun still => returned (congrArg (Option.map fun err => -err) still)

end Runs

section Nearby

/-- The perf buffer is placed below the addresses of the allocator. -/
def nearbyPerfBufferNew (_fd : BitVec 32) (_pages : Nat) (process : Process) : Address × Process :=
  if process.heap 16 = none then (16, { process with heap := process.heap.set 16 .perfBuffer })
  else (0, process)

def nearbyPerfBufferFree (pb : Address) (process : Process) : Option Process :=
  if pb = 0 then some process else some { process with heap := process.heap.without [pb] }

def nearbyLoaderLibbpf : LoaderLibbpf where
  toLibbpf := nearbyLibbpf
  mapFd map _ := some (BitVec.ofNat 32 map)
  mapUpdateElem _ _ _ _ process := some (0, process)
  perfBufferNew := nearbyPerfBufferNew
  perfBufferPoll _ _ _ process := some process
  perfBufferFree := nearbyPerfBufferFree
  mapFds _ := ⟨_, rfl⟩
  updates _ _ _ _ := ⟨_, _, rfl, rfl⟩
  creates := by
    intro fd pages process
    by_cases unused : process.heap 16 = none
    · exact ⟨16, _, if_pos unused, Or.inr ⟨by decide, unused, rfl⟩⟩
    · exact ⟨0, process, if_neg unused, Or.inl ⟨rfl, rfl⟩⟩
  polls _ _ _ := ⟨_, rfl, rfl⟩
  frees_null _ := rfl
  frees nonzero _ := ⟨_, if_neg nonzero, rfl⟩

end Nearby

example : setupFrom countingAllocator nearbyLoaderLibbpf .little (Vector.replicate 12 0)
    ⟨fun _ => none, 0, 0⟩ = some ⟨some 32, 0, 0, 0, some 16⟩ := by
  decide +kernel

end EbpfNotes.HelloVerifierSkeleton
