import EbpfNotes.Library.Threads

namespace EbpfNotes.Library

/-- What is known about a word: that it may not be read, a number between two bounds, the address of a
symbol, a pointer into an object of a region between two offsets, or the null address or a pointer with
one offset. -/
inductive Kind (Symbol Region : Type) where
  | undefined
  | unknown
  | number (low high : Nat)
  | handle (symbol : Symbol)
  | pointer (region : Region) (low high : Int)
  | optional (region : Region) (offset : Int)
  deriving DecidableEq, Repr

/-- What is known about the word in each register. -/
abbrev Kinds (Symbol Region : Type) := Register → Kind Symbol Region

/-- A helper takes the addresses of symbols, buffers with their sizes in registers, buffers of a fixed
size and other words, and it returns a word of a kind. -/
structure Signature (Symbol Region : Type) where
  handles : List (Register × Symbol) := []
  buffers : List (Register × Register) := []
  keys : List (Register × Nat) := []
  scalars : List Register := []
  returns : Kind Symbol Region := .unknown

/-- An interface gives the size of the objects of each region, the kind of each symbol address and the
signature of each helper. -/
structure Interface (Symbol Region : Type) where
  extent : Region → Nat
  symbol : Symbol → Nat → Kind Symbol Region
  helper : Nat → Option (Signature Symbol Region)

section Kinds

variable {Symbol Region : Type}

namespace Kind

/-- The kind of a constant. -/
def constant (value : Int) : Kind Symbol Region :=
  if 0 ≤ value ∧ value < 2 ^ 64 then .number value.toNat value.toNat else .unknown

/-- The kind of a sum with a constant. -/
def moved (kind : Kind Symbol Region) (value : Int) : Kind Symbol Region :=
  match kind with
  | .pointer region low high => .pointer region (low + value) (high + value)
  | .number low high =>
    if 0 ≤ value ∧ (high : Int) + value < 2 ^ 64 then .number (low + value.toNat) (high + value.toNat)
    else .unknown
  | _ => .unknown

/-- The kind of a sum of two registers. -/
def plus (left right : Kind Symbol Region) : Kind Symbol Region :=
  match left, right with
  | .pointer region low high, .number first last => .pointer region (low + first) (high + last)
  | .number low high, .number first last =>
    if high + last < 2 ^ 64 then .number (low + first) (high + last) else .unknown
  | _, _ => .unknown

/-- The kind on the side of a branch where the word equals the constant, or none for a dead side. -/
def equal (interface : Interface Symbol Region) (value : Int) (kind : Kind Symbol Region) :
    Option (Kind Symbol Region) :=
  match kind with
  | .number low high =>
    if 0 ≤ value ∧ value < 2 ^ 64 then
      if low ≤ value.toNat ∧ value.toNat ≤ high then some (.number value.toNat value.toNat) else none
    else some kind
  | .pointer region low high =>
    if value = 0 ∧ 0 ≤ low ∧ high < interface.extent region then none else some kind
  | .optional .. => if value = 0 then some (.number 0 0) else some kind
  | kind => some kind

/-- The kind on the side of a branch where the word differs from the constant. -/
def different (value : Int) (kind : Kind Symbol Region) : Option (Kind Symbol Region) :=
  match kind with
  | .number low high => if value = low ∧ low = high then none else some kind
  | .optional region offset =>
    if value = 0 then some (.pointer region offset offset) else some kind
  | kind => some kind

/-- The kind on the side of a branch where the word is above the constant. -/
def above (value : Int) (kind : Kind Symbol Region) : Option (Kind Symbol Region) :=
  match kind with
  | .number low high =>
    if 0 ≤ value ∧ value < 2 ^ 64 then
      if value.toNat < high then some (.number (max low (value.toNat + 1)) high) else none
    else some kind
  | kind => some kind

/-- The kind on the side of a branch where the word is at most the constant. -/
def below (value : Int) (kind : Kind Symbol Region) : Option (Kind Symbol Region) :=
  match kind with
  | .number low high =>
    if 0 ≤ value ∧ value < 2 ^ 64 then
      if low ≤ value.toNat then some (.number low (min high value.toNat)) else none
    else some kind
  | kind => some kind

/-- An access of the bytes behind the pointer stays inside of the object. -/
def accessible (interface : Interface Symbol Region) (kind : Kind Symbol Region) (offset : Int)
    (count : Nat) : Bool :=
  match kind with
  | .pointer region low high =>
    decide (0 < count) && decide (0 ≤ low + offset) &&
      decide (high + offset + count ≤ interface.extent region)
  | _ => false

/-- The word is known to be the address of the symbol. -/
def names [DecidableEq Symbol] (kind : Kind Symbol Region) (symbol : Symbol) : Bool :=
  match kind with
  | .handle other => decide (other = symbol)
  | _ => false

/-- The kind of a size that makes a buffer accessible. -/
def buffer (interface : Interface Symbol Region) (kind count : Kind Symbol Region) : Bool :=
  match count with
  | .number low high => decide (0 < low) && kind.accessible interface 0 high
  | _ => false

end Kind

namespace Kinds

def set (kinds : Kinds Symbol Region) (target : Register) (kind : Kind Symbol Region) :
    Kinds Symbol Region :=
  fun register => if register = target then kind else kinds register

/-- The kinds behind a call of a helper. -/
def called (kinds : Kinds Symbol Region) (result : Kind Symbol Region) : Kinds Symbol Region :=
  fun register =>
    if register = .r0 then result else if register.clobbered then .undefined else kinds register

/-- The arguments of a call meet the signature of the helper. -/
def meets [DecidableEq Symbol] (kinds : Kinds Symbol Region) (interface : Interface Symbol Region)
    (signature : Signature Symbol Region) : Bool :=
  signature.handles.all (fun argument => (kinds argument.1).names argument.2) &&
    signature.buffers.all (fun argument => (kinds argument.1).buffer interface (kinds argument.2)) &&
    signature.keys.all (fun argument => (kinds argument.1).accessible interface 0 argument.2)

/-- The kinds on a side of a branch, or none for a dead side. -/
def branched (kinds : Kinds Symbol Region) (interface : Interface Symbol Region)
    (condition : Condition) (taken : Bool) (left : Register) (right : Operand) :
    Option (Kinds Symbol Region) :=
  match right with
  | .register _ => some kinds
  | .constant value =>
    (match condition, taken with
      | .eq, true => (kinds left).equal interface value
      | .eq, false => (kinds left).different value
      | .gt, true => (kinds left).above value
      | .gt, false => (kinds left).below value).map (kinds.set left)

end Kinds

variable [DecidableEq Symbol]

/-- The kinds behind an instruction without control flow, or none when it may fail. -/
def transfer (interface : Interface Symbol Region) (instruction : Instruction Symbol)
    (kinds : Kinds Symbol Region) : Option (Kinds Symbol Region) :=
  match instruction with
  | .alu .mov target (.constant value) => some (kinds.set target (.constant value))
  | .alu .mov target (.register source) => some (kinds.set target (kinds source))
  | .alu .add target (.constant value) => some (kinds.set target ((kinds target).moved value))
  | .alu .add target (.register source) => some (kinds.set target ((kinds target).plus (kinds source)))
  | .alu _ target _ => some (kinds.set target .unknown)
  | .address target symbol offset => some (kinds.set target (interface.symbol symbol offset))
  | .wide target value => some (kinds.set target (.number value.toNat value.toNat))
  | .load width target base offset =>
    if (kinds base).accessible interface offset width.count then
      some (kinds.set target (.number 0 (256 ^ width.count - 1)))
    else none
  | .store width base offset _ =>
    if (kinds base).accessible interface offset width.count then some kinds else none
  | .call helper =>
    match interface.helper helper with
    | some signature =>
      if kinds.meets interface signature then some (kinds.called signature.returns) else none
    | none => none
  | .jump _ | .branch .. | .exit => none

/-- The slot that a jump leads to. -/
def landing (slot : Nat) (offset : Int) : Option Nat :=
  if 0 ≤ (slot : Int) + 1 + offset then some ((slot : Int) + 1 + offset).toNat else none

/-- The verifier follows every path with the kinds of the registers and checks each instruction, the
property at each slot that a path comes to and the property of the exits. -/
def verify (interface : Interface Symbol Region) (program : List (Instruction Symbol))
    (property : Nat → Kinds Symbol Region → Bool) (final : Kinds Symbol Region → Bool) :
    Nat → Nat → Kinds Symbol Region → Bool
  | 0, _, _ => false
  | fuel + 1, slot, kinds =>
    property slot kinds &&
      match fetch program slot with
      | none => false
      | some .exit => final kinds
      | some (.jump offset) =>
        match landing slot offset with
        | some target => verify interface program property final fuel target kinds
        | none => false
      | some (.branch condition left right offset) =>
        (match kinds.branched interface condition true left right with
          | none => true
          | some taken =>
            match landing slot offset with
            | some target => verify interface program property final fuel target taken
            | none => false) &&
        (match kinds.branched interface condition false left right with
          | none => true
          | some fallen => verify interface program property final fuel (slot + 1) fallen)
      | some instruction =>
        match transfer interface instruction kinds with
        | some next => verify interface program property final fuel (slot + instruction.slots) next
        | none => false

end Kinds

section Soundness

variable {Symbol Name Kernel Region : Type} {live : List Name} {size : Name → Nat}

/-- The words of a kind in a world. -/
def Kind.Describes (world : World Symbol Name Kernel live size) (regionOf : Name → Region)
    (kind : Kind Symbol Region) (word : Word) : Prop :=
  match kind with
  | .undefined | .unknown => True
  | .number low high => low ≤ word.toNat ∧ word.toNat ≤ high
  | .handle symbol => word = world.address symbol
  | .pointer region low high => ∃ name ∈ live, regionOf name = region ∧ ∃ offset : Int,
      low ≤ offset ∧ offset ≤ high ∧ word = world.layout.base name + immediate offset
  | .optional region offset => word = 0 ∨
      ∃ name ∈ live, regionOf name = region ∧ word = world.layout.base name + immediate offset

/-- The registers hold words of the kinds. -/
def Kinds.Describe (world : World Symbol Name Kernel live size) (regionOf : Name → Region)
    (kinds : Kinds Symbol Region) (registers : Register → Word) : Prop :=
  ∀ register, (kinds register).Describes world regionOf (registers register)

/-- The registers hold the arguments that the signature of a helper asks for. -/
structure Signature.Met (signature : Signature Symbol Region)
    (world : World Symbol Name Kernel live size) (registers : Register → Word) : Prop where
  handles : ∀ argument ∈ signature.handles, registers argument.1 = world.address argument.2
  buffers : ∀ argument ∈ signature.buffers,
    ∃ place, world.layout.locate (registers argument.1) (registers argument.2).toNat = some place
  keys : ∀ argument ∈ signature.keys,
    ∃ place, world.layout.locate (registers argument.1) argument.2 = some place

/-- The objects, the symbols and the helpers of the world are what the interface says, the helpers
where the kernel is ready for them. -/
structure World.Implements (world : World Symbol Name Kernel live size)
    (interface : Interface Symbol Region) (regionOf : Name → Region) (ready : Nat → Kernel → Prop) :
    Prop where
  extent : ∀ name ∈ live, interface.extent (regionOf name) = size name
  symbol : ∀ symbol offset, (interface.symbol symbol offset).Describes world regionOf
    (world.address symbol + BitVec.ofNat 64 offset)
  helper : ∀ number signature, interface.helper number = some signature →
    ∀ state : State Name Kernel, ready number state.kernel → signature.Met world state.registers →
      ∃ answer, world.helper number state = some answer ∧
        signature.returns.Describes world regionOf answer.result

variable {world : World Symbol Name Kernel live size} {interface : Interface Symbol Region}
  {regionOf : Name → Region} {ready : Nat → Kernel → Prop}

theorem immediate_add (first second : Int) :
    immediate (first + second) = immediate first + immediate second := BitVec.ofInt_add ..

/-- A constant between zero and the end of the words keeps its value. -/
theorem immediate_toNat {value : Int} (bounds : 0 ≤ value ∧ value < 2 ^ 64) :
    (immediate value).toNat = value.toNat := by
  obtain ⟨natural, rfl⟩ := Int.eq_ofNat_of_zero_le bounds.1
  rw [immediate_natCast, BitVec.toNat_ofNat]
  omega

theorem add_immediate_zero (word : Word) : word + immediate 0 = word := BitVec.add_zero word

namespace Kind

theorem constant_describes (value : Int) :
    (constant value : Kind Symbol Region).Describes world regionOf (immediate value) := by
  unfold constant
  split_ifs with bounds
  · have same := immediate_toNat bounds
    exact ⟨le_of_eq same.symm, le_of_eq same⟩
  · trivial

theorem moved_describes {kind : Kind Symbol Region} {word : Word}
    (describes : kind.Describes world regionOf word) (value : Int) :
    (kind.moved value).Describes world regionOf (word + immediate value) := by
  cases kind with
  | undefined => trivial
  | unknown => trivial
  | handle symbol => trivial
  | optional region offset => trivial
  | pointer region low high =>
      obtain ⟨name, member, inRegion, offset, lower, upper, rfl⟩ := describes
      refine ⟨name, member, inRegion, offset + value, by omega, by omega, ?_⟩
      rw [immediate_add, BitVec.add_assoc]
  | number low high =>
      obtain ⟨lower, upper⟩ := describes
      simp only [moved]
      split_ifs with bounds
      · have same := immediate_toNat ⟨bounds.1, by omega⟩
        simp only [Describes, BitVec.toNat_add, same]
        omega
      · trivial

theorem plus_describes {left right : Kind Symbol Region} {first second : Word}
    (leftDescribes : left.Describes world regionOf first)
    (rightDescribes : right.Describes world regionOf second) :
    (left.plus right).Describes world regionOf (first + second) := by
  cases right with
  | undefined => cases left <;> trivial
  | unknown => cases left <;> trivial
  | handle symbol => cases left <;> trivial
  | optional region offset => cases left <;> trivial
  | pointer region low high => cases left <;> trivial
  | number least most =>
      obtain ⟨least_le, le_most⟩ := rightDescribes
      cases left with
      | undefined => trivial
      | unknown => trivial
      | handle symbol => trivial
      | optional region offset => trivial
      | pointer region low high =>
          obtain ⟨name, member, inRegion, offset, lower, upper, rfl⟩ := leftDescribes
          refine ⟨name, member, inRegion, offset + second.toNat, by omega, by omega, ?_⟩
          rw [immediate_add, immediate_natCast, BitVec.ofNat_toNat, BitVec.setWidth_eq, BitVec.add_assoc]
      | number low high =>
          obtain ⟨lower, upper⟩ := leftDescribes
          simp only [plus]
          split_ifs with bounds
          · simp only [Describes, BitVec.toNat_add]
            omega
          · trivial

theorem equal_describes (implements : world.Implements interface regionOf ready) {kind : Kind Symbol Region}
    {word : Word} {value : Int} (describes : kind.Describes world regionOf word)
    (same : word = immediate value) :
    ∃ next, kind.equal interface value = some next ∧ next.Describes world regionOf word := by
  cases kind with
  | undefined => exact ⟨_, rfl, trivial⟩
  | unknown => exact ⟨_, rfl, trivial⟩
  | handle symbol => exact ⟨_, rfl, describes⟩
  | number low high =>
      simp only [equal]
      by_cases bounds : 0 ≤ value ∧ value < 2 ^ 64
      · have number := immediate_toNat bounds
        rw [← same] at number
        have within : low ≤ value.toNat ∧ value.toNat ≤ high := number ▸ describes
        rw [if_pos bounds, if_pos within]
        exact ⟨_, rfl, le_of_eq number.symm, le_of_eq number⟩
      · rw [if_neg bounds]
        exact ⟨_, rfl, describes⟩
  | pointer region low high =>
      simp only [equal]
      by_cases inside : value = 0 ∧ 0 ≤ low ∧ high < interface.extent region
      · obtain ⟨rfl, start, stop⟩ := inside
        obtain ⟨name, member, rfl, offset, lower, upper, address⟩ := describes
        rw [implements.extent name member] at stop
        obtain ⟨position, rfl⟩ := Int.eq_ofNat_of_zero_le (start.trans lower)
        rw [immediate_natCast] at address
        have nonnull := world.layout.pointer_ne_zero member (by omega : position < size name)
        exact absurd (address.symm.trans same) nonnull
      · rw [if_neg inside]
        exact ⟨_, rfl, describes⟩
  | optional region offset =>
      simp only [equal]
      by_cases null : value = 0
      · rw [if_pos null]
        subst null
        rw [same]
        exact ⟨_, rfl, le_rfl, le_rfl⟩
      · rw [if_neg null]
        exact ⟨_, rfl, describes⟩

theorem different_describes {kind : Kind Symbol Region} {word : Word} {value : Int}
    (describes : kind.Describes world regionOf word) (differs : word ≠ immediate value) :
    ∃ next, kind.different value = some next ∧ next.Describes world regionOf word := by
  cases kind with
  | undefined => exact ⟨_, rfl, trivial⟩
  | unknown => exact ⟨_, rfl, trivial⟩
  | handle symbol => exact ⟨_, rfl, describes⟩
  | pointer region low high => exact ⟨_, rfl, describes⟩
  | number low high =>
      simp only [different]
      by_cases single : value = low ∧ low = high
      · obtain ⟨rfl, rfl⟩ := single
        have only : word.toNat = low := Nat.le_antisymm describes.2 describes.1
        apply absurd _ differs
        rw [immediate_natCast, ← only, BitVec.ofNat_toNat, BitVec.setWidth_eq]
      · rw [if_neg single]
        exact ⟨_, rfl, describes⟩
  | optional region offset =>
      simp only [different]
      by_cases null : value = 0
      · subst null
        obtain ⟨name, member, inRegion, address⟩ := describes.resolve_left differs
        rw [if_pos rfl]
        exact ⟨_, rfl, name, member, inRegion, offset, le_rfl, le_rfl, address⟩
      · rw [if_neg null]
        exact ⟨_, rfl, describes⟩

theorem above_describes {kind : Kind Symbol Region} {word : Word} {value : Int}
    (describes : kind.Describes world regionOf word)
    (holds : (immediate value).toNat < word.toNat) :
    ∃ next, kind.above value = some next ∧ next.Describes world regionOf word := by
  cases kind with
  | undefined => exact ⟨_, rfl, trivial⟩
  | unknown => exact ⟨_, rfl, trivial⟩
  | handle symbol => exact ⟨_, rfl, describes⟩
  | pointer region low high => exact ⟨_, rfl, describes⟩
  | optional region offset => exact ⟨_, rfl, describes⟩
  | number low high =>
      obtain ⟨lower, upper⟩ := describes
      simp only [above]
      by_cases bounds : 0 ≤ value ∧ value < 2 ^ 64
      · rw [immediate_toNat bounds] at holds
        rw [if_pos bounds, if_pos (by omega)]
        exact ⟨_, rfl, by omega, upper⟩
      · rw [if_neg bounds]
        exact ⟨_, rfl, lower, upper⟩

theorem below_describes {kind : Kind Symbol Region} {word : Word} {value : Int}
    (describes : kind.Describes world regionOf word)
    (holds : word.toNat ≤ (immediate value).toNat) :
    ∃ next, kind.below value = some next ∧ next.Describes world regionOf word := by
  cases kind with
  | undefined => exact ⟨_, rfl, trivial⟩
  | unknown => exact ⟨_, rfl, trivial⟩
  | handle symbol => exact ⟨_, rfl, describes⟩
  | pointer region low high => exact ⟨_, rfl, describes⟩
  | optional region offset => exact ⟨_, rfl, describes⟩
  | number low high =>
      obtain ⟨lower, upper⟩ := describes
      simp only [below]
      by_cases bounds : 0 ≤ value ∧ value < 2 ^ 64
      · rw [immediate_toNat bounds] at holds
        rw [if_pos bounds, if_pos (by omega)]
        exact ⟨_, rfl, lower, by omega⟩
      · rw [if_neg bounds]
        exact ⟨_, rfl, lower, upper⟩

theorem names_address [DecidableEq Symbol] {kind : Kind Symbol Region} {word : Word} {symbol : Symbol}
    (describes : kind.Describes world regionOf word) (names : kind.names symbol = true) :
    word = world.address symbol := by
  cases kind with
  | undefined => cases names
  | unknown => cases names
  | number low high => cases names
  | pointer region low high => cases names
  | optional region offset => cases names
  | handle other =>
      obtain rfl := of_decide_eq_true names
      exact describes

/-- An accessible place lies inside of an object of the region, and not in front of the least offset. -/
theorem accessible_placed (implements : world.Implements interface regionOf ready)
    {region : Region} {low high : Int} {word : Word} {offset : Int} {count : Nat}
    (describes : (Kind.pointer region low high : Kind Symbol Region).Describes world regionOf word)
    (accessible : (Kind.pointer region low high).accessible interface offset count = true) :
    ∃ name position, world.layout.locate (word + immediate offset) count = some (name, position) ∧
      regionOf name = region ∧ low + offset ≤ position := by
  obtain ⟨name, member, rfl, start, lower, upper, rfl⟩ := describes
  simp only [Kind.accessible, Bool.and_eq_true, decide_eq_true_eq] at accessible
  obtain ⟨⟨positive, first⟩, last⟩ := accessible
  rw [implements.extent name member] at last
  obtain ⟨position, reached⟩ := Int.eq_ofNat_of_zero_le (by omega : 0 ≤ start + offset)
  have place := world.layout.locate_pointer member positive
    (by omega : position + count ≤ size name)
  refine ⟨name, position, ?_, rfl, by omega⟩
  rw [BitVec.add_assoc, ← immediate_add, reached, immediate_natCast]
  exact place

/-- An accessible place lies inside of an object. -/
theorem accessible_located (implements : world.Implements interface regionOf ready)
    {kind : Kind Symbol Region} {word : Word} {offset : Int} {count : Nat}
    (describes : kind.Describes world regionOf word)
    (accessible : kind.accessible interface offset count = true) :
    ∃ place, world.layout.locate (word + immediate offset) count = some place := by
  cases kind with
  | pointer region low high =>
      obtain ⟨name, position, located, _⟩ := accessible_placed implements describes accessible
      exact ⟨(name, position), located⟩
  | _ => cases accessible

/-- A buffer is accessible with each of its sizes. -/
theorem buffer_accessible {kind count : Kind Symbol Region} {bytes : Word}
    (counts : count.Describes world regionOf bytes) (buffered : kind.buffer interface count = true) :
    kind.accessible interface 0 bytes.toNat = true := by
  cases count with
  | number low high =>
      obtain ⟨lower, upper⟩ := counts
      simp only [Kind.buffer, Bool.and_eq_true, decide_eq_true_eq] at buffered
      cases kind with
      | pointer region first last =>
          simp only [Kind.accessible, Bool.and_eq_true, decide_eq_true_eq] at buffered ⊢
          omega
      | _ => cases buffered.2
  | _ => cases buffered

end Kind

namespace Kinds

variable {kinds : Kinds Symbol Region}

theorem set_describes {registers : Register → Word} {word : Word} {kind : Kind Symbol Region}
    (describes : kinds.Describe world regionOf registers) (target : Register)
    (new : kind.Describes world regionOf word) :
    (kinds.set target kind).Describe world regionOf
      fun register => if register = target then word else registers register := by
  intro register
  unfold Kinds.set
  by_cases hit : register = target
  · simp only [hit, if_true]
    exact new
  · simp only [hit, if_false]
    exact describes register

/-- What is learned about a register leaves its word alone. -/
theorem learned_describes {registers : Register → Word} {kind : Kind Symbol Region}
    (describes : kinds.Describe world regionOf registers) {target : Register}
    (new : kind.Describes world regionOf (registers target)) :
    (kinds.set target kind).Describe world regionOf registers := by
  intro register
  unfold Kinds.set
  split_ifs with hit
  · subst hit
    exact new
  · exact describes register

theorem called_describes {state : State Name Kernel} {answer : Return Name Kernel}
    {kind : Kind Symbol Region} (describes : kinds.Describe world regionOf state.registers)
    (returned : kind.Describes world regionOf answer.result) :
    (kinds.called kind).Describe world regionOf (world.resume state answer).registers := by
  intro register
  unfold Kinds.called World.resume
  by_cases result : register = .r0
  · simp only [result, if_true]
    exact returned
  · cases lost : register.clobbered with
    | true =>
        simp only [result, if_false, if_true]
        trivial
    | false =>
        simp only [result, lost, Bool.false_eq_true, if_false]
        exact describes register

theorem meets_met [DecidableEq Symbol] (implements : world.Implements interface regionOf ready)
    {registers : Register → Word}
    {signature : Signature Symbol Region} (describes : kinds.Describe world regionOf registers)
    (meets : kinds.meets interface signature = true) : signature.Met world registers := by
  simp only [Kinds.meets, Bool.and_eq_true, List.all_eq_true] at meets
  obtain ⟨⟨handles, buffers⟩, keys⟩ := meets
  constructor
  · intro argument member
    exact Kind.names_address (describes argument.1) (handles argument member)
  · intro argument member
    have located := Kind.accessible_located implements (describes argument.1)
      (Kind.buffer_accessible (describes argument.2) (buffers argument member))
    simpa only [add_immediate_zero] using located
  · intro argument member
    have located := Kind.accessible_located implements (describes argument.1) (keys argument member)
    simpa only [add_immediate_zero] using located

/-- The side of a branch that the run takes is not dead. -/
theorem branched_describes (implements : world.Implements interface regionOf ready)
    {state : State Name Kernel} (describes : kinds.Describe world regionOf state.registers)
    {condition : Condition} {taken : Bool} {left : Register} {right : Operand}
    (holds : condition.holds (state.registers left) (right.value state) = taken) :
    ∃ next, kinds.branched interface condition taken left right = some next ∧
      next.Describe world regionOf state.registers := by
  cases right with
  | register source => exact ⟨kinds, rfl, describes⟩
  | constant value =>
      have learned : ∀ {result : Option (Kind Symbol Region)},
          (∃ next, result = some next ∧ next.Describes world regionOf (state.registers left)) →
          ∃ next, result.map (kinds.set left) = some next ∧
            next.Describe world regionOf state.registers := by
        intro result found
        obtain ⟨kind, rfl, new⟩ := found
        exact ⟨_, rfl, learned_describes describes new⟩
      cases condition <;> cases taken <;>
        simp only [Condition.holds, Operand.value, beq_iff_eq, beq_eq_false_iff_ne, ne_eq,
          decide_eq_true_eq, decide_eq_false_iff_not, BitVec.lt_def, not_lt] at holds <;> apply learned
      · exact Kind.different_describes (describes left) holds
      · exact Kind.equal_describes implements (describes left) holds
      · exact Kind.below_describes (describes left) holds
      · exact Kind.above_describes (describes left) holds

end Kinds

variable [DecidableEq Symbol] [DecidableEq Name] {kinds next : Kinds Symbol Region}
  {state : State Name Kernel}

omit [DecidableEq Symbol] [DecidableEq Name] in
/-- A loaded number fits into the loaded bytes. -/
theorem number_describes (contents : Contents Name) (place : Name × Nat) (width : Width) :
    (Kind.number 0 (256 ^ width.count - 1) : Kind Symbol Region).Describes world regionOf
      (BitVec.ofNat 64 (contents.number place width.count)) := by
  have bound := decode_lt width.count fun index => contents place.1 (place.2 + index)
  constructor
  · exact Nat.zero_le _
  · rw [BitVec.toNat_ofNat]
    exact (Nat.mod_le _ _).trans (Nat.le_sub_one_of_lt bound)

/-- An instruction that passes the check runs, and the kinds behind it describe the registers. -/
theorem transfer_describes (implements : world.Implements interface regionOf ready)
    (describes : kinds.Describe world regionOf state.registers) {instruction : Instruction Symbol}
    (asks : ∀ helper, instruction = .call helper → ready helper state.kernel)
    (transferred : transfer interface instruction kinds = some next) :
    ∃ after, effect world instruction state = some after ∧
      next.Describe world regionOf after.registers := by
  cases instruction with
  | jump offset => cases transferred
  | branch condition left right offset => cases transferred
  | exit => cases transferred
  | address target symbol offset =>
      obtain rfl := Option.some.inj transferred
      exact ⟨_, rfl, Kinds.set_describes describes target (implements.symbol symbol offset)⟩
  | wide target value =>
      obtain rfl := Option.some.inj transferred
      exact ⟨_, rfl, Kinds.set_describes describes target ⟨le_rfl, le_rfl⟩⟩
  | alu operation target operand =>
      refine ⟨_, rfl, ?_⟩
      cases operation with
      | mov =>
          cases operand with
          | constant value =>
              obtain rfl := Option.some.inj transferred
              exact Kinds.set_describes describes target (Kind.constant_describes value)
          | register source =>
              obtain rfl := Option.some.inj transferred
              exact Kinds.set_describes describes target (describes source)
      | add =>
          cases operand with
          | constant value =>
              obtain rfl := Option.some.inj transferred
              exact Kinds.set_describes describes target (Kind.moved_describes (describes target) value)
          | register source =>
              obtain rfl := Option.some.inj transferred
              exact Kinds.set_describes describes target
                (Kind.plus_describes (describes target) (describes source))
      | _ =>
          obtain rfl := Option.some.inj transferred
          exact Kinds.set_describes describes target trivial
  | load width target base offset =>
      obtain ⟨accessible, same⟩ := Option.ite_none_right_eq_some.mp transferred
      obtain rfl := Option.some.inj same
      obtain ⟨place, located⟩ := Kind.accessible_located implements (describes base) accessible
      refine ⟨_, by rw [effect, located, Option.map_some], ?_⟩
      exact Kinds.set_describes describes target (number_describes state.contents place width)
  | store width base offset source =>
      obtain ⟨accessible, same⟩ := Option.ite_none_right_eq_some.mp transferred
      obtain rfl := Option.some.inj same
      obtain ⟨place, located⟩ := Kind.accessible_located implements (describes base) accessible
      exact ⟨state.put place (littleBytes width.count (state.registers source).toNat),
        by rw [effect, located, Option.map_some], describes⟩
  | call helper =>
      simp only [transfer] at transferred
      cases known : interface.helper helper with
      | none => simp only [known, reduceCtorEq] at transferred
      | some signature =>
          simp only [known] at transferred
          obtain ⟨meets, same⟩ := Option.ite_none_right_eq_some.mp transferred
          obtain rfl := Option.some.inj same
          obtain ⟨answer, answered, returned⟩ := implements.helper helper signature known state
            (asks helper rfl) (Kinds.meets_met implements describes meets)
          exact ⟨_, by rw [effect, answered, Option.map_some],
            Kinds.called_describes describes returned⟩

variable {program : List (Instruction Symbol)} {property : Nat → Kinds Symbol Region → Bool}
  {final : Kinds Symbol Region → Bool}

omit [DecidableEq Name] in
theorem landing_goto {slot target : Nat} {offset : Int} (lands : landing slot offset = some target) :
    goto slot offset state = .running target state := by
  obtain ⟨behind, same⟩ := Option.ite_none_right_eq_some.mp lands
  obtain rfl := Option.some.inj same
  rw [goto, if_pos behind]

/-- The check goes on behind a step, and the property of the exits holds where the run exits. -/
def Advances (world : World Symbol Name Kernel live size) (interface : Interface Symbol Region)
    (regionOf : Name → Region) (program : List (Instruction Symbol))
    (property : Nat → Kinds Symbol Region → Bool) (final : Kinds Symbol Region → Bool) (fuel : Nat) :
    Outcome Name Kernel → Prop
  | .running target after => ∃ next : Kinds Symbol Region,
      verify interface program property final fuel target next = true ∧
        next.Describe world regionOf after.registers
  | .exited after => ∃ last : Kinds Symbol Region,
      final last = true ∧ last.Describe world regionOf after.registers
  | .stuck => False

/-- A checked instruction without control flow advances to the next slot. -/
theorem transfer_advances (implements : world.Implements interface regionOf ready)
    (describes : kinds.Describe world regionOf state.registers) {fuel slot : Nat}
    {instruction : Instruction Symbol} (fetched : fetch program slot = some instruction)
    (asks : ∀ helper, fetch program slot = some (.call helper) → ready helper state.kernel)
    (checked : (match transfer interface instruction kinds with
      | some next => verify interface program property final fuel (slot + instruction.slots) next
      | none => false) = true) :
    Advances world interface regionOf program property final fuel (step world program slot state) := by
  cases transferred : transfer interface instruction kinds with
  | none => simp only [transferred, Bool.false_eq_true] at checked
  | some next =>
      simp only [transferred] at checked
      obtain ⟨after, executed, described⟩ := transfer_describes implements describes
        (fun helper call => asks helper (call ▸ fetched)) transferred
      rw [step_fetched fetched executed]
      exact ⟨next, checked, described⟩

/-- A checked branch advances on the side that the run takes. -/
theorem branch_advances (implements : world.Implements interface regionOf ready)
    (describes : kinds.Describe world regionOf state.registers) {fuel slot : Nat}
    {condition : Condition} {left : Register} {right : Operand} {offset : Int}
    (fetched : fetch program slot = some (.branch condition left right offset))
    (taken : (match kinds.branched interface condition true left right with
      | none => true
      | some taken =>
        match landing slot offset with
        | some target => verify interface program property final fuel target taken
        | none => false) = true)
    (fallen : (match kinds.branched interface condition false left right with
      | none => true
      | some fallen => verify interface program property final fuel (slot + 1) fallen) = true) :
    Advances world interface regionOf program property final fuel (step world program slot state) := by
  cases outcome : condition.holds (state.registers left) (right.value state) with
  | true =>
      obtain ⟨next, branched, described⟩ := Kinds.branched_describes implements describes outcome
      simp only [branched] at taken
      cases lands : landing slot offset with
      | none => simp only [lands, Bool.false_eq_true] at taken
      | some target =>
          simp only [lands] at taken
          simp only [step, fetched, outcome, if_true, landing_goto lands]
          exact ⟨next, taken, described⟩
  | false =>
      obtain ⟨next, branched, described⟩ := Kinds.branched_describes implements describes outcome
      simp only [branched] at fallen
      simp only [step, fetched, outcome, Bool.false_eq_true, if_false]
      exact ⟨next, fallen, described⟩

omit [DecidableEq Name] in
/-- A verified slot has the property. -/
theorem verified_property {fuel slot : Nat}
    (verified : verify interface program property final fuel slot kinds = true) :
    0 < fuel ∧ property slot kinds = true := by
  cases fuel with
  | zero => cases verified
  | succ fuel =>
      rw [verify, Bool.and_eq_true] at verified
      exact ⟨Nat.succ_pos fuel, verified.1⟩

/-- A verified program is not stuck at its next step. -/
theorem verified_advances (implements : world.Implements interface regionOf ready)
    (describes : kinds.Describe world regionOf state.registers) {fuel slot : Nat}
    (asks : ∀ helper, fetch program slot = some (.call helper) → ready helper state.kernel)
    (verified : verify interface program property final (fuel + 1) slot kinds = true) :
    Advances world interface regionOf program property final fuel (step world program slot state) := by
  rw [verify, Bool.and_eq_true] at verified
  replace verified := verified.2
  cases fetched : fetch program slot with
  | none => simp only [fetched, Bool.false_eq_true] at verified
  | some instruction =>
      simp only [fetched] at verified
      cases instruction with
      | exit =>
          simp only [step, fetched]
          exact ⟨kinds, verified, describes⟩
      | jump offset =>
          cases lands : landing slot offset with
          | none => simp only [lands, Bool.false_eq_true] at verified
          | some target =>
              simp only [lands] at verified
              simp only [step, fetched, landing_goto lands]
              exact ⟨kinds, verified, describes⟩
      | branch condition left right offset =>
          obtain ⟨taken, fallen⟩ := Bool.and_eq_true_iff.mp verified
          exact branch_advances implements describes fetched taken fallen
      | alu operation target operand => exact transfer_advances implements describes fetched asks verified
      | address target symbol offset => exact transfer_advances implements describes fetched asks verified
      | wide target value => exact transfer_advances implements describes fetched asks verified
      | load width target base offset =>
          exact transfer_advances implements describes fetched asks verified
      | store width base offset source =>
          exact transfer_advances implements describes fetched asks verified
      | call helper => exact transfer_advances implements describes fetched asks verified

/-- Wherever a run calls a helper, the kernel is ready for it. -/
def Prepared (world : World Symbol Name Kernel live size) (program : List (Instruction Symbol))
    (ready : Nat → Kernel → Prop) (initial : Outcome Name Kernel) : Prop :=
  ∀ fuel slot state helper, execution world program fuel initial = .running slot state →
    fetch program slot = some (.call helper) → ready helper state.kernel

omit [DecidableEq Symbol] in
theorem Prepared.asks {slot : Nat} (prepared : Prepared world program ready (.running slot state))
    (helper : Nat) (fetched : fetch program slot = some (.call helper)) : ready helper state.kernel :=
  prepared 0 slot state helper rfl fetched

omit [DecidableEq Symbol] in
theorem Prepared.step {slot target : Nat} {after : State Name Kernel}
    (prepared : Prepared world program ready (.running slot state))
    (moves : Library.step world program slot state = .running target after) :
    Prepared world program ready (.running target after) := by
  intro fuel place visited helper reached
  apply prepared (fuel + 1)
  rw [execution, moves, reached]

/-- A thread of a verified program still has a bound for its own steps. -/
def Thread.Verified (interface : Interface Symbol Region) (regionOf : Name → Region)
    (program : List (Instruction Symbol)) (property : Nat → Kinds Symbol Region → Bool)
    (final : Kinds Symbol Region → Bool) (world : World Symbol Name Kernel live size) (fuel : Nat)
    (thread : Thread Symbol Name Kernel live size) : Prop :=
  thread.world = world ∧
    match thread.progress with
    | .running slot registers => ∃ kinds : Kinds Symbol Region,
        verify interface program property final fuel slot kinds = true ∧
          kinds.Describe world regionOf registers
    | .exited registers => ∃ kinds : Kinds Symbol Region,
        final kinds = true ∧ kinds.Describe world regionOf registers
    | .stuck => False

/-- A verified thread stays verified behind each of its own steps, whatever the shared state is. -/
theorem Thread.Verified.step {owned : Name → Bool} {shared after : Shared Name Kernel}
    {thread next : Thread Symbol Name Kernel live size} {fuel : Nat}
    (implements : world.Implements interface regionOf fun _ _ => True)
    (verified : thread.Verified interface regionOf program property final world fuel)
    (stepped : instructionStep owned program shared thread = some (after, next)) :
    ∃ less, fuel = less + 1 ∧ next.Verified interface regionOf program property final world less := by
  obtain ⟨slot, registers, going, moved⟩ := instructionStep_cases stepped
  obtain ⟨same, checked⟩ := verified
  rw [going] at checked
  obtain ⟨kinds, accepted, describes⟩ := checked
  cases fuel with
  | zero => cases accepted
  | succ less =>
      refine ⟨less, rfl, (instructionStep_world stepped).trans same, ?_⟩
      have viewed : kinds.Describe world regionOf (thread.view owned shared registers).registers :=
        describes
      have advances := verified_advances implements viewed (fun _ _ => trivial) accepted
      rw [same] at moved
      cases taken : Library.step world program slot (thread.view owned shared registers) with
      | running target state =>
          rw [taken] at advances moved
          rw [moved.2]
          exact advances
      | exited state =>
          rw [taken] at advances moved
          rw [moved.2]
          exact advances
      | stuck =>
          rw [taken] at advances
          exact advances.elim

/-- A thread that takes no step has exited. -/
theorem Thread.Verified.finished {owned : Name → Bool} {shared : Shared Name Kernel}
    {thread : Thread Symbol Name Kernel live size} {fuel : Nat}
    (verified : thread.Verified interface regionOf program property final world fuel)
    (stopped : instructionStep owned program shared thread = none) (bound : Nat) :
    thread.Verified interface regionOf program property final world bound := by
  obtain ⟨same, checked⟩ := verified
  refine ⟨same, ?_⟩
  cases going : thread.progress with
  | exited registers =>
      rw [going] at checked
      exact checked
  | stuck =>
      rw [going] at checked
      exact checked
  | running slot registers => exact absurd going (instructionStep_none stopped slot registers)

/-- In every interleaving a thread of a verified program stays verified, and each of its own steps uses
up one unit of its bound. -/
theorem verified_run {owned : Name → Bool}
    {config : Configuration (Shared Name Kernel) (Thread Symbol Name Kernel live size)}
    {index fuel : Nat} {thread : Thread Symbol Name Kernel live size}
    (found : config.invocations[index]? = some thread)
    (implements : world.Implements interface regionOf fun _ _ => True)
    (verified : thread.Verified interface regionOf program property final world fuel) (schedule : List Nat) :
    ∃ next, (run (instructionStep owned program) config schedule).invocations[index]? = some next ∧
      next.Verified interface regionOf program property final world (fuel - schedule.count index) :=
  run_within
    (fun _ _ _ _ _ kept stepped => kept.step implements stepped)
    (fun bound _ _ kept stopped => kept.finished stopped bound) found verified schedule

end Soundness

end EbpfNotes.Library
