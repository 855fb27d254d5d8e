import EbpfNotes.Library.Bytes

namespace EbpfNotes.Library

/-- A layout places the live objects apart from each other, below the end of the addresses and away
from the null address. -/
structure Layout {Name : Type} (live : List Name) (size : Name → Nat) where
  base : Name → Word
  nonnull : ∀ name ∈ live, base name ≠ 0
  inside : ∀ name ∈ live, (base name).toNat + size name ≤ 2 ^ 64
  separate : ∀ first ∈ live, ∀ second ∈ live, first ≠ second →
    (base first).toNat + size first ≤ (base second).toNat ∨
      (base second).toNat + size second ≤ (base first).toNat

/-- A signed constant is extended to a word. -/
def immediate (value : Int) : Word := BitVec.ofInt 64 value

theorem immediate_natCast (value : Nat) : immediate value = BitVec.ofNat 64 value :=
  BitVec.ofInt_natCast 64 value

namespace Layout

variable {Name : Type} {live : List Name} {size : Name → Nat} (layout : Layout live size)

/-- The address of a byte of an object. -/
def pointer (name : Name) (offset : Nat) : Word := layout.base name + BitVec.ofNat 64 offset

/-- The object contains all bytes of an access. -/
def covers (address : Word) (count : Nat) (name : Name) : Bool :=
  (layout.base name).toNat ≤ address.toNat &&
    address.toNat + count ≤ (layout.base name).toNat + size name

/-- An access outside of every live object has no location. -/
def locate (address : Word) (count : Nat) : Option (Name × Nat) :=
  (live.find? (layout.covers address count)).map fun name =>
    (name, address.toNat - (layout.base name).toNat)

variable {name : Name} (member : name ∈ live)

include member

theorem pointer_toNat {offset : Nat} (within : offset < size name) :
    (layout.pointer name offset).toNat = (layout.base name).toNat + offset := by
  have bound := layout.inside name member
  rw [pointer, BitVec.toNat_add, BitVec.toNat_ofNat]
  omega

theorem pointer_ne_zero {offset : Nat} (within : offset < size name) :
    layout.pointer name offset ≠ 0 := by
  intro null
  have address := layout.pointer_toNat member within
  have nonnull := layout.nonnull name member
  rw [null] at address
  apply nonnull
  apply BitVec.eq_of_toNat_eq
  simp only [BitVec.ofNat_eq_ofNat, BitVec.toNat_ofNat, Nat.zero_mod] at address ⊢
  omega

/-- Two objects never share a byte, so the access finds its own object. -/
theorem locate_pointer {offset count : Nat} (positive : 0 < count)
    (within : offset + count ≤ size name) :
    layout.locate (layout.pointer name offset) count = some (name, offset) := by
  have address := layout.pointer_toNat member (by omega : offset < size name)
  have covered : layout.covers (layout.pointer name offset) count name = true := by
    simp only [covers, address, Bool.and_eq_true, decide_eq_true_eq]
    omega
  unfold locate
  cases found : live.find? (layout.covers (layout.pointer name offset) count) with
  | none => exact absurd covered (List.find?_eq_none.mp found name member)
  | some other =>
      have hit := List.find?_some found
      have present := List.mem_of_find?_eq_some found
      have same : other = name := by
        by_contra different
        have apart := layout.separate other present name member different
        simp only [covers, address, Bool.and_eq_true, decide_eq_true_eq] at hit
        omega
      rw [same, Option.map_some, address, Nat.add_sub_cancel_left]

omit member

theorem pointer_offset (name : Name) (offset distance : Nat) :
    layout.pointer name offset + BitVec.ofNat 64 distance = layout.pointer name (offset + distance) := by
  rw [pointer, pointer, BitVec.add_assoc, BitVec.ofNat_add]

theorem pointer_immediate (name : Name) {offset target : Nat} {value : Int}
    (moved : (offset : Int) + value = target) :
    layout.pointer name offset + immediate value = layout.pointer name target := by
  have distance : BitVec.ofNat 64 offset + immediate value = BitVec.ofNat 64 target := by
    rw [immediate, ← BitVec.ofInt_natCast, ← BitVec.ofInt_natCast, ← moved, BitVec.ofInt_add]
  rw [pointer, pointer, BitVec.add_assoc, distance]

/-- The offset of a moved pointer is computed when it stays behind the base. -/
theorem pointer_moved (name : Name) {offset : Nat} {value : Int} (behind : 0 ≤ (offset : Int) + value) :
    layout.pointer name offset + immediate value =
      layout.pointer name ((offset : Int) + value).toNat :=
  layout.pointer_immediate name (Int.toNat_of_nonneg behind).symm

/-- A located access lies inside of its live object. -/
theorem locate_inside {address : Word} {count offset : Nat}
    (located : layout.locate address count = some (name, offset)) :
    name ∈ live ∧ address = layout.pointer name offset ∧ offset + count ≤ size name := by
  obtain ⟨other, found, place⟩ := Option.map_eq_some_iff.mp located
  obtain ⟨rfl, rfl⟩ := Prod.mk.inj place
  have member := List.mem_of_find?_eq_some found
  have hit := List.find?_some found
  simp only [covers, Bool.and_eq_true, decide_eq_true_eq] at hit
  refine ⟨member, ?_, by omega⟩
  apply BitVec.eq_of_toNat_eq
  have bound := address.isLt
  rw [pointer, BitVec.toNat_add, BitVec.toNat_ofNat]
  omega

/-- An access is located at the same place in a layout with larger objects at the same bases. -/
theorem locate_grown {larger : Name → Nat} {grown : Layout live larger}
    (bases : ∀ name ∈ live, grown.base name = layout.base name)
    (sizes : ∀ name ∈ live, size name ≤ larger name) {address : Word} {count offset : Nat}
    (positive : 0 < count) (located : layout.locate address count = some (name, offset)) :
    grown.locate address count = some (name, offset) := by
  obtain ⟨member, rfl, within⟩ := layout.locate_inside located
  have same : layout.pointer name offset = grown.pointer name offset := by
    rw [pointer, pointer, bases name member]
  rw [same]
  exact grown.locate_pointer member positive (within.trans (sizes name member))

section Packed

variable [DecidableEq Name]

/-- The distance of an object from the start when the objects stand one behind another. -/
def packedOffset (size : Name → Nat) : List Name → Name → Nat
  | [], _ => 0
  | other :: rest, name => if name = other then 0 else size other + packedOffset size rest name

theorem packedOffset_within (size : Name → Nat) {live : List Name} {name : Name} (member : name ∈ live) :
    packedOffset size live name + size name ≤ (live.map size).sum := by
  induction live with
  | nil => cases member
  | cons other rest ih =>
      rw [packedOffset, List.map_cons, List.sum_cons]
      by_cases same : name = other
      · rw [if_pos same, same]
        omega
      · have inside := ih ((List.mem_cons.mp member).resolve_left same)
        rw [if_neg same]
        omega

theorem packedOffset_separate (size : Name → Nat) {live : List Name} {first second : Name}
    (firstMember : first ∈ live) (secondMember : second ∈ live) (different : first ≠ second) :
    packedOffset size live first + size first ≤ packedOffset size live second ∨
      packedOffset size live second + size second ≤ packedOffset size live first := by
  induction live with
  | nil => cases firstMember
  | cons other rest ih =>
      rw [packedOffset, packedOffset]
      by_cases firstHead : first = other
      · rw [if_pos firstHead, if_neg (fun secondHead => different (firstHead.trans secondHead.symm)),
          firstHead]
        omega
      · rw [if_neg firstHead]
        by_cases secondHead : second = other
        · rw [if_pos secondHead, secondHead]
          omega
        · rw [if_neg secondHead]
          have apart := ih ((List.mem_cons.mp firstMember).resolve_left firstHead)
            ((List.mem_cons.mp secondMember).resolve_left secondHead)
          omega

/-- Objects that fit below the end of the addresses have a layout. -/
theorem exists_packed (live : List Name) (size : Name → Nat)
    (fits : 1 + (live.map size).sum < 2 ^ 64) : Nonempty (Layout live size) := by
  have address (name : Name) (member : name ∈ live) :
      (BitVec.ofNat 64 (1 + packedOffset size live name)).toNat = 1 + packedOffset size live name := by
    have within := packedOffset_within size member
    rw [BitVec.toNat_ofNat]
    omega
  refine ⟨⟨fun name => BitVec.ofNat 64 (1 + packedOffset size live name), ?_, ?_, ?_⟩⟩
  · intro name member null
    have zero := congrArg BitVec.toNat null
    rw [address name member] at zero
    have nothing : (0 : Word).toNat = 0 := rfl
    omega
  · intro name member
    have within := packedOffset_within size member
    rw [address name member]
    omega
  · intro first firstMember second secondMember different
    have apart := packedOffset_separate size firstMember secondMember different
    rw [address first firstMember, address second secondMember]
    omega

/-- Some objects have fixed addresses, and the others fit below them. -/
theorem exists_fixed (live : List Name) (size : Name → Nat) (fixed : List (Name × Word)) {bottom : Nat}
    (bounded : bottom ≤ 2 ^ 64) (fits : 1 + (live.map size).sum < bottom)
    (above : ∀ entry ∈ fixed, bottom ≤ entry.2.toNat ∧ entry.2.toNat + size entry.1 ≤ 2 ^ 64)
    (apart : fixed.Pairwise fun one other =>
      one.2.toNat + size one.1 ≤ other.2.toNat ∨ other.2.toNat + size other.1 ≤ one.2.toNat) :
    ∃ layout : Layout live size, ∀ name address, fixed.lookup name = some address →
      layout.base name = address := by
  let base : Name → Word := fun name =>
    (fixed.lookup name).getD (BitVec.ofNat 64 (1 + packedOffset size live name))
  have entry : ∀ {name address}, fixed.lookup name = some address → (name, address) ∈ fixed := by
    intro name address known
    obtain ⟨before, after, rfl, _⟩ := List.lookup_eq_some_iff.mp known
    exact List.mem_append_right before List.mem_cons_self
  have bounds : ∀ {name address}, fixed.lookup name = some address →
      bottom ≤ address.toNat ∧ address.toNat + size name ≤ 2 ^ 64 := fun known => above _ (entry known)
  have symmetric : Std.Symm fun one other : Name × Word =>
      one.2.toNat + size one.1 ≤ other.2.toNat ∨ other.2.toNat + size other.1 ≤ one.2.toNat :=
    ⟨fun _ _ => Or.symm⟩
  have place : ∀ name ∈ live, (fixed.lookup name = some (base name)) ∨
      (base name).toNat = 1 + packedOffset size live name ∧
        (base name).toNat + size name < bottom := by
    intro name member
    have within := packedOffset_within size member
    cases known : fixed.lookup name with
    | some address =>
        left
        simp only [base, known, Option.getD_some]
    | none =>
        right
        simp only [base, known, Option.getD_none, BitVec.toNat_ofNat]
        omega
  refine ⟨⟨base, ?_, ?_, ?_⟩, ?_⟩
  · intro name member null
    have zero := congrArg BitVec.toNat null
    have nothing : (0 : Word).toNat = 0 := rfl
    obtain high | ⟨low, _⟩ := place name member
    · have within := bounds high
      omega
    · omega
  · intro name member
    obtain high | ⟨_, low⟩ := place name member
    · exact (bounds high).2
    · omega
  · intro first firstMember second secondMember different
    obtain firstHigh | ⟨firstLow, firstBelow⟩ := place first firstMember
    · obtain secondHigh | ⟨_, secondBelow⟩ := place second secondMember
      · exact apart.forall (entry firstHigh) (entry secondHigh)
          fun same => different (congrArg Prod.fst same)
      · have within := bounds firstHigh
        omega
    · obtain secondHigh | ⟨secondLow, _⟩ := place second secondMember
      · have within := bounds secondHigh
        omega
      · have packed := packedOffset_separate size firstMember secondMember different
        omega
  · intro name address known
    simp only [base, known, Option.getD_some]

end Packed

/-- Smaller objects at the same bases still stand apart. -/
def shrunk {larger : Name → Nat} (layout : Layout live larger)
    (smaller : ∀ name ∈ live, size name ≤ larger name) : Layout live size where
  base := layout.base
  nonnull := layout.nonnull
  inside name member := by
    have whole := layout.inside name member
    have less := smaller name member
    omega
  separate first firstMember second secondMember different := by
    have apart := layout.separate first firstMember second secondMember different
    have less := smaller first firstMember
    have other := smaller second secondMember
    omega

/-- The objects without their headers still stand apart. -/
def behind (header : Name → Nat) (layout : Layout live fun name => header name + size name)
    (positive : ∀ name ∈ live, 0 < size name) : Layout live size where
  base name := layout.pointer name (header name)
  nonnull name member :=
    layout.pointer_ne_zero member (Nat.lt_add_of_pos_right (positive name member))
  inside name member := by
    have whole := layout.inside name member
    rw [layout.pointer_toNat member (Nat.lt_add_of_pos_right (positive name member))]
    omega
  separate first firstMember second secondMember different := by
    have apart := layout.separate first firstMember second secondMember different
    rw [layout.pointer_toNat firstMember (Nat.lt_add_of_pos_right (positive first firstMember)),
      layout.pointer_toNat secondMember (Nat.lt_add_of_pos_right (positive second secondMember))]
    omega

end Layout

/-- The bytes of every object. -/
abbrev Contents (Name : Type) := Name → Nat → Byte

namespace Contents

variable {Name : Type} [DecidableEq Name]

def read (contents : Contents Name) (name : Name) (offset count : Nat) : List Byte :=
  (List.range count).map fun index => contents name (offset + index)

/-- The little-endian number at a place in memory. -/
def number (contents : Contents Name) (place : Name × Nat) (count : Nat) : Nat :=
  decode count fun index => contents place.1 (place.2 + index)

def write (contents : Contents Name) (name : Name) (offset : Nat) (bytes : List Byte) :
    Contents Name := fun query index =>
  if query = name ∧ offset ≤ index ∧ index < offset + bytes.length then
    bytes.getD (index - offset) 0
  else contents query index

omit [DecidableEq Name] in
theorem read_length (contents : Contents Name) (name : Name) (offset count : Nat) :
    (contents.read name offset count).length = count := by
  rw [read, List.length_map, List.length_range]

omit [DecidableEq Name] in
theorem read_getElem (contents : Contents Name) (name : Name) (offset : Nat) {count index : Nat}
    (inside : index < (contents.read name offset count).length) :
    (contents.read name offset count)[index] = contents name (offset + index) := by
  simp only [read, List.getElem_map, List.getElem_range]

omit [DecidableEq Name] in
theorem read_add (contents : Contents Name) (name : Name) (offset first second : Nat) :
    contents.read name offset (first + second) =
      contents.read name offset first ++ contents.read name (offset + first) second := by
  simp only [read, List.range_add, List.map_append, List.map_map, Function.comp_def, Nat.add_assoc]

/-- A write is read back as a whole. -/
theorem read_write_self (contents : Contents Name) (name : Name) (offset : Nat) (bytes : List Byte) :
    (contents.write name offset bytes).read name offset bytes.length = bytes := by
  apply List.ext_getElem
  · rw [read_length]
  · intro index inside present
    rw [read_getElem, write, if_pos ⟨rfl, by omega, by omega⟩, Nat.add_sub_cancel_left,
      List.getD_eq_getElem?_getD, List.getElem?_eq_getElem present, Option.getD_some]

/-- A write changes no bytes outside of its range. -/
theorem read_write_other (contents : Contents Name) {name query : Name} {offset start count : Nat}
    {bytes : List Byte}
    (apart : query ≠ name ∨ start + count ≤ offset ∨ offset + bytes.length ≤ start) :
    (contents.write name offset bytes).read query start count = contents.read query start count := by
  apply List.map_congr_left
  intro index inside
  have small := List.mem_range.mp inside
  rw [write, if_neg]
  rintro ⟨same, lower, upper⟩
  rcases apart with different | below | above
  · exact different same
  · omega
  · omega

/-- A write keeps every other object as a whole. -/
theorem write_other (contents : Contents Name) {name query : Name} (different : query ≠ name)
    (offset : Nat) (bytes : List Byte) : contents.write name offset bytes query = contents query := by
  funext index
  exact if_neg fun hit => different hit.1

omit [DecidableEq Name] in
/-- A read depends only on its own object. -/
theorem read_congr {first second : Contents Name} {name : Name} (same : first name = second name)
    (offset count : Nat) : first.read name offset count = second.read name offset count := by
  simp only [read, same]

omit [DecidableEq Name] in
/-- An object that shows a list of bytes is read back as the list. -/
theorem read_shown {contents : Contents Name} {name : Name} {bytes : List Byte}
    (shows : ∀ index, contents name index = bytes.getD index 0) :
    contents.read name 0 bytes.length = bytes := by
  apply List.ext_getElem
  · rw [read_length]
  · intro index inside present
    rw [read_getElem, shows, Nat.zero_add, List.getD_eq_getElem?_getD, List.getElem?_eq_getElem present,
      Option.getD_some]

omit [DecidableEq Name] in
/-- A byte of a read stands at its offset. -/
theorem byte_of_read {contents : Contents Name} {name : Name} {offset count index : Nat}
    {bytes : List Byte} (stored : contents.read name offset count = bytes) (inside : index < bytes.length) :
    contents name (offset + index) = bytes[index] := by
  subst stored
  rw [read_getElem]

omit [DecidableEq Name] in
theorem number_one (contents : Contents Name) (place : Name × Nat) :
    contents.number place 1 = (contents place.1 place.2).toNat := by
  simp only [number, decode, Nat.add_zero, Nat.mul_zero]

/-- Two memories agree on a set of bytes. -/
def AgreeOn (bytes : Name → Nat → Prop) (first second : Contents Name) : Prop :=
  ∀ name index, bytes name index → first name index = second name index

section AgreeOn

variable {bytes : Name → Nat → Prop} {first second : Contents Name} {name : Name} {offset count : Nat}

omit [DecidableEq Name] in
theorem AgreeOn.read_eq (agree : AgreeOn bytes first second)
    (inside : ∀ index < count, bytes name (offset + index)) :
    first.read name offset count = second.read name offset count := by
  apply List.map_congr_left
  intro index member
  exact agree name (offset + index) (inside index (List.mem_range.mp member))

omit [DecidableEq Name] in
theorem AgreeOn.number_eq (agree : AgreeOn bytes first second)
    (inside : ∀ index < count, bytes name (offset + index)) :
    first.number (name, offset) count = second.number (name, offset) count := by
  apply decode_congr
  intro index below
  exact agree name (offset + index) (inside index below)

/-- The same write to both memories keeps the agreement. -/
theorem AgreeOn.write (agree : AgreeOn bytes first second) (name : Name) (offset : Nat)
    (written : List Byte) :
    AgreeOn bytes (first.write name offset written) (second.write name offset written) := by
  intro query index member
  simp only [Contents.write]
  split_ifs
  · rfl
  · exact agree query index member

/-- A write outside of the bytes keeps the agreement. -/
theorem AgreeOn.write_outside (agree : AgreeOn bytes first second) {written : List Byte}
    (outside : ∀ index, offset ≤ index → index < offset + written.length → ¬ bytes name index) :
    AgreeOn bytes (first.write name offset written) second := by
  intro query index member
  rw [Contents.write, if_neg]
  · exact agree query index member
  · intro hit
    obtain ⟨rfl, lower, upper⟩ := hit
    exact outside index lower upper member

end AgreeOn

end Contents

/-- The little-endian bytes of a number. -/
def littleBytes (count value : Nat) : List Byte := (List.range count).map (byteAt value)

@[simp] theorem littleBytes_length (count value : Nat) : (littleBytes count value).length = count := by
  rw [littleBytes, List.length_map, List.length_range]

theorem Contents.read_store {Name : Type} [DecidableEq Name] (contents : Contents Name) (name : Name)
    (offset count value : Nat) :
    (contents.write name offset (littleBytes count value)).read name offset count =
      littleBytes count value := by
  have whole := contents.read_write_self name offset (littleBytes count value)
  rwa [littleBytes_length] at whole

/-- A store keeps only the low bytes of a number. -/
theorem littleBytes_congr {count first second : Nat} (same : first % 256 ^ count = second % 256 ^ count) :
    littleBytes count first = littleBytes count second := by
  apply List.map_congr_left
  intro index inside
  exact (byteAt_eq_iff count first second).mpr same index (List.mem_range.mp inside)

/-- The increment of a loaded word is the increment of the 32-bit number. -/
theorem littleBytes_increment (value : BitVec 32) :
    littleBytes 4 (BitVec.ofNat 64 value.toNat + immediate 1).toNat = littleBytes 4 (value + 1).toNat := by
  apply littleBytes_congr
  have one : (immediate 1).toNat = 1 := by decide
  have bound := value.isLt
  rw [BitVec.toNat_add, BitVec.toNat_add, BitVec.toNat_ofNat, one]
  change _ = (value.toNat + 1) % 2 ^ 32 % 256 ^ 4
  omega

/-- A stored number shows its bytes at their offsets. -/
theorem Contents.byte_eq {Name : Type} {contents : Contents Name} {name : Name}
    {offset count value index : Nat} (stored : contents.read name offset count = littleBytes count value)
    (inside : index < count) : contents name (offset + index) = byteAt value index :=
  List.map_inj_left.mp stored index (List.mem_range.mpr inside)

/-- A number is loaded from the bytes that its store left. -/
theorem Contents.number_eq {Name : Type} {contents : Contents Name} {name : Name}
    {offset count value : Nat} (stored : contents.read name offset count = littleBytes count value) :
    contents.number (name, offset) count = value % 256 ^ count := by
  rw [number, ← decode_byteAt]
  apply decode_congr
  intro index inside
  exact byte_eq stored inside

/-- Half a word is loaded from the four bytes that its store left. -/
theorem Contents.half_eq {Name : Type} {contents : Contents Name} {name : Name} {offset : Nat}
    {value : BitVec 32} (stored : contents.read name offset 4 = littleBytes 4 value.toNat) :
    contents.number (name, offset) 4 = value.toNat := by
  rw [number_eq stored]
  exact Nat.mod_eq_of_lt value.isLt

/-- A word is loaded from the eight bytes that its store left. -/
theorem Contents.word_eq {Name : Type} {contents : Contents Name} {name : Name} {offset : Nat}
    {value : Word} (stored : contents.read name offset 8 = littleBytes 8 value.toNat) :
    BitVec.ofNat 64 (contents.number (name, offset) 8) = value := by
  apply BitVec.eq_of_toNat_eq
  rw [number_eq stored, BitVec.toNat_ofNat]
  have bound := value.isLt
  omega

end EbpfNotes.Library
