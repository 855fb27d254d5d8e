import EbpfNotes.Library.Frame
import EbpfNotes.Library.Verifier

namespace EbpfNotes.Library

open X86 (Frame)

/-- The register of the processor that keeps a register of the program. -/
def Register.compiled : Register → X86.Register
  | .r0 => .rax
  | .r1 => .rdi
  | .r2 => .rsi
  | .r3 => .rdx
  | .r4 => .rcx
  | .r5 => .r8
  | .r6 => .rbx
  | .r7 => .r13
  | .r8 => .r14
  | .r9 => .r15
  | .r10 => .rbp

theorem Register.compiled_inj {first second : Register} (same : first.compiled = second.compiled) :
    first = second := by
  revert same
  cases first <;> cases second <;> decide

/-- The arguments of a called function, as the program has passed them. -/
def argumentView {Name Kernel : Type} (machine : X86.State Name Kernel) : State Name Kernel :=
  ⟨fun register => machine.registers register.compiled, machine.contents, machine.kernel⟩

/-- A compiled program has an address for each slot, for each symbol, for each helper and for the return
thunk. -/
structure Lowering (Symbol : Type) where
  place : Nat → Nat
  resolve : Symbol → Int
  target : Nat → Nat
  thunk : Nat

section Lowering

variable {Symbol : Type}

/-- The address behind a jump at the slot. -/
def Lowering.landing (lowering : Lowering Symbol) (slot : Nat) (offset : Int) : Nat :=
  lowering.place ((slot : Int) + 1 + offset).toNat

/-- A constant is moved in the shortest way. -/
def lowerConstant (value : Int) (target : X86.Register) : Option (List X86.Instruction) :=
  if value = 0 then some [.xorl target target]
  else if 0 ≤ value ∧ value < 2 ^ 32 then some [.movl value.toNat target]
  else none

/-- The instructions of the processor for an instruction of the program at the slot. -/
def Lowering.lower (lowering : Lowering Symbol) (slot : Nat) :
    Instruction Symbol → Option (List X86.Instruction)
  | .alu .mov target (.register source) => some [.movq source.compiled target.compiled]
  | .alu .mov target (.constant value) => lowerConstant value target.compiled
  | .alu .add target (.register source) =>
    some [.addq (.register source.compiled) target.compiled]
  | .alu .add target (.constant value) => some [.addq (.constant value) target.compiled]
  | .alu .lsh target (.constant value) => some [.shlq (immediate value).toNat target.compiled]
  | .alu .rsh target (.constant value) => some [.shrq (immediate value).toNat target.compiled]
  | .alu .arsh target (.constant value) => some [.sarq (immediate value).toNat target.compiled]
  | .address target symbol offset =>
    some [.movabsq (lowering.resolve symbol + offset) target.compiled]
  | .wide target value => lowerConstant value.toNat target.compiled
  | .load width target base offset => some [.load width offset base.compiled target.compiled]
  | .store width base offset source => some [.store width source.compiled offset base.compiled]
  | .jump offset => some [.jmp (lowering.landing slot offset)]
  | .branch .eq left (.constant value) offset =>
    if value = 0 then
      some [.testq left.compiled left.compiled, .je (lowering.landing slot offset)]
    else none
  | .branch .gt left (.constant value) offset =>
    some [.cmpq value left.compiled, .ja (lowering.landing slot offset)]
  | .call helper => some [.callq (lowering.target helper)]
  | _ => none

/-- A branch takes a comparison and a jump. -/
def Instruction.loweredLength : Instruction Symbol → Nat
  | .branch .. => 2
  | _ => 1

/-- The number of instructions of the processor in front of the slot. -/
def loweredBefore : List (Instruction Symbol) → Nat → Nat
  | [], _ => 0
  | instruction :: rest, slot =>
    if slot < instruction.slots then 0
    else instruction.loweredLength + loweredBefore rest (slot - instruction.slots)

/-- The address of a slot when the program starts at an entry of the listing. -/
def compiledPlace (listing : X86.Listing) (start : Nat) (program : List (Instruction Symbol))
    (slot : Nat) : Nat :=
  ((listing[start + loweredBefore program slot]?).map Prod.fst).getD 0

/-- A place is the address of an entry or zero. -/
theorem compiledPlace_ne {listing : X86.Listing} {address : Nat} (nonzero : 0 ≠ address)
    (absent : ∀ entry ∈ listing, entry.1 ≠ address) (start : Nat)
    (program : List (Instruction Symbol)) (slot : Nat) :
    compiledPlace listing start program slot ≠ address := by
  unfold compiledPlace
  cases found : listing[start + loweredBefore program slot]? with
  | none => exact nonzero
  | some entry => exact absent entry (List.mem_of_getElem? found)

end Lowering

namespace X86.Frame

variable {Name : Type} (frame : Frame Name)

/-- The first byte of an object that the program uses. -/
def floor [DecidableEq Name] (name : Name) : Nat :=
  if name = frame.stack then frame.limit - frame.depth else 0

/-- The program and its compiled code share the bytes of the live objects, of the stack only the frame. -/
def Common [DecidableEq Name] (live : List Name) (size : Name → Nat) (name : Name) (index : Nat) : Prop :=
  name ∈ live ∧ frame.floor name ≤ index ∧ index < size name

/-- The bytes of the saved registers and of the caller. -/
def Guarded (name : Name) (index : Nat) : Prop :=
  name = frame.stack ∧ frame.top ≤ index ∧ (index < frame.limit - frame.depth ∨ frame.limit ≤ index)

end X86.Frame

section Compiles

variable {Symbol Name : Type}

/-- The listing holds the compiled code of an instruction at its place, and at an exit it leaves the
frame and returns. -/
def Lowering.compilesAt (lowering : Lowering Symbol) (frame : Frame Name) (listing : X86.Listing)
    (slot : Nat) (instruction : Instruction Symbol) : Bool :=
  match lowering.lower slot instruction with
  | some lowered =>
    X86.follow listing (lowering.place slot) lowered == some (lowering.place (slot + instruction.slots))
  | none =>
    match instruction, X86.follow listing (lowering.place slot) frame.epilogue with
    | .exit, some finish => X86.finishes lowering.thunk listing finish
    | _, _ => false

def Lowering.compiles (lowering : Lowering Symbol) (frame : Frame Name) (listing : X86.Listing) :
    Nat → List (Instruction Symbol) → Bool
  | _, [] => true
  | slot, instruction :: rest =>
    lowering.compilesAt frame listing slot instruction &&
      lowering.compiles frame listing (slot + instruction.slots) rest

end Compiles

section Reading

variable {Symbol Region : Type}

def Kind.defined (kind : Kind Symbol Region) : Bool :=
  match kind with
  | .undefined => false
  | _ => true

/-- A pointer is not in front of the ground of its region. -/
def Kind.grounded (ground : Region → Nat) (kind : Kind Symbol Region) (offset : Int) : Bool :=
  match kind with
  | .pointer region low _ => decide ((ground region : Int) ≤ low + offset)
  | _ => false

/-- The registers of the arguments. -/
def Signature.registers (signature : Signature Symbol Region) : List Register :=
  signature.handles.map Prod.fst ++ signature.buffers.map Prod.fst ++ signature.buffers.map Prod.snd ++
    signature.keys.map Prod.fst ++ signature.scalars

/-- The registers that point to memory. -/
def Signature.pointers (signature : Signature Symbol Region) : List Register :=
  signature.buffers.map Prod.fst ++ signature.keys.map Prod.fst

def Operand.reads : Operand → List Register
  | .register source => [source]
  | .constant _ => []

/-- The registers that an instruction reads. -/
def Instruction.reads (interface : Interface Symbol Region) : Instruction Symbol → List Register
  | .alu .mov _ operand => operand.reads
  | .alu _ target operand => target :: operand.reads
  | .load _ _ base _ => [base]
  | .store _ base _ source => [base, source]
  | .branch _ left right _ => left :: right.reads
  | .call helper => ((interface.helper helper).map Signature.registers).getD []
  | .exit => [.r0]
  | .address .. | .wide .. | .jump _ => []

/-- The registers that an instruction writes, besides the ones that a call clobbers. -/
def Instruction.writes : Instruction Symbol → List Register
  | .alu _ target _ | .address target _ _ | .wide target _ | .load _ target _ _ => [target]
  | _ => []

/-- The pointers that an instruction follows, with their offsets. -/
def Instruction.pointers (interface : Interface Symbol Region) : Instruction Symbol → List (Register × Int)
  | .load _ _ base offset | .store _ base offset _ => [(base, offset)]
  | .call helper =>
    (((interface.helper helper).map Signature.pointers).getD []).map fun register => (register, 0)
  | _ => []

/-- An instruction reads only defined registers, writes no register that the compiled code has to keep
and stays inside of the frame. -/
def compilable {Name : Type} (interface : Interface Symbol Region) (ground : Region → Nat)
    (frame : Frame Name) (program : List (Instruction Symbol)) (slot : Nat) (kinds : Kinds Symbol Region) :
    Bool :=
  match fetch program slot with
  | none => false
  | some instruction =>
    (instruction.reads interface).all (fun register => (kinds register).defined) &&
      instruction.writes.all (fun register => !frame.quiet register.compiled) &&
      (instruction.pointers interface).all fun access =>
        (kinds access.1).grounded ground access.2

end Reading

end EbpfNotes.Library
