import Mathlib.Tactic

namespace EbpfNotes.Library

abbrev Byte := BitVec 8

abbrev Word := BitVec 64

/-- The byte of weight `256 ^ index`. -/
def byteAt (value index : Nat) : Byte := BitVec.ofNat 8 (value / 256 ^ index)

/-- The number whose little-endian bytes are given. -/
def decode : Nat → (Nat → Byte) → Nat
  | 0, _ => 0
  | count + 1, bytes => (bytes 0).toNat + 256 * decode count fun index => bytes (index + 1)

theorem byteAt_succ (value index : Nat) : byteAt value (index + 1) = byteAt (value / 256) index := by
  simp only [byteAt, Nat.pow_succ', Nat.div_div_eq_div_mul]

theorem decode_congr {count : Nat} {first second : Nat → Byte}
    (same : ∀ index < count, first index = second index) : decode count first = decode count second := by
  induction count generalizing first second with
  | zero => rfl
  | succ count ih =>
      rw [decode, decode, same 0 (Nat.succ_pos count),
        ih fun index inside => same (index + 1) (Nat.succ_lt_succ inside)]

/-- A decoded number fits into its bytes. -/
theorem decode_lt (count : Nat) (bytes : Nat → Byte) : decode count bytes < 256 ^ count := by
  induction count generalizing bytes with
  | zero => exact Nat.one_pos
  | succ count ih =>
      have rest := ih fun index => bytes (index + 1)
      have first := (bytes 0).isLt
      rw [decode, Nat.pow_succ']
      omega

/-- Decoding the bytes of a value keeps the value modulo the width. -/
theorem decode_byteAt (count value : Nat) : decode count (byteAt value) = value % 256 ^ count := by
  induction count generalizing value with
  | zero => simp [decode, Nat.mod_one]
  | succ count ih =>
      have shifted : (fun index => byteAt value (index + 1)) = byteAt (value / 256) := by
        funext index
        exact byteAt_succ value index
      rw [decode, shifted, ih, Nat.pow_succ', Nat.mod_mul]
      simp [byteAt]

/-- The bytes of a value below the width are the bytes of its residue. -/
theorem byteAt_mod {count index : Nat} (value : Nat) (inside : index < count) :
    byteAt (value % 256 ^ count) index = byteAt value index := by
  apply BitVec.eq_of_toNat_eq
  simp only [byteAt, BitVec.toNat_ofNat]
  obtain ⟨rest, rfl⟩ := Nat.exists_eq_add_of_lt inside
  rw [show index + rest + 1 = index + (rest + 1) by omega, Nat.pow_add, Nat.mod_mul_right_div_self,
    Nat.pow_succ']
  exact Nat.mod_mul_right_mod _ _ _

/-- Two values have the same first bytes exactly when they agree modulo the width. -/
theorem byteAt_eq_iff (count first second : Nat) :
    (∀ index < count, byteAt first index = byteAt second index) ↔
      first % 256 ^ count = second % 256 ^ count := by
  constructor
  · intro same
    rw [← decode_byteAt, ← decode_byteAt]
    exact decode_congr same
  · intro same index inside
    rw [← byteAt_mod first inside, same, byteAt_mod second inside]

/-- A mask of ones keeps the lower half of a word. -/
theorem toNat_lowerHalf (word : Word) : (word &&& 0xFFFFFFFF).toNat = word.toNat % 2 ^ 32 := by
  have ones : (0xFFFFFFFF : Word).toNat = 2 ^ 32 - 1 := by decide
  rw [BitVec.toNat_and, ones, Nat.and_two_pow_sub_one_eq_mod]

/-- Two shifts by half a word keep the lower half. -/
theorem shifts_lowerHalf (word : Word) : (word <<< 32) >>> 32 = word &&& 0xFFFFFFFF := by
  apply BitVec.eq_of_toNat_eq
  rw [toNat_lowerHalf, BitVec.toNat_ushiftRight, BitVec.toNat_shiftLeft, Nat.shiftLeft_eq,
    Nat.shiftRight_eq_div_pow]
  omega

/-- The byte order of the target. -/
inductive Endian where
  | little
  | big
  deriving DecidableEq, Repr

/-- The byte at an address inside a number of `count` bytes. -/
def Endian.byte (endian : Endian) (count value index : Nat) : Byte :=
  match endian with
  | .little => byteAt value index
  | .big => byteAt value (count - 1 - index)

/-- The number that `count` bytes in memory hold. -/
def Endian.load (endian : Endian) (count : Nat) (bytes : Nat → Byte) : Nat :=
  match endian with
  | .little => decode count bytes
  | .big => decode count fun index => bytes (count - 1 - index)

/-- The characters of a string as the bytes that C stores. -/
def ascii (text : String) : List Byte :=
  text.toList.map fun character => BitVec.ofNat 8 character.toNat

/-- A string literal ends with a NUL. -/
def literal (text : String) : List Byte := ascii text ++ [0]

/-- A string initialises an array and the rest of the array is zero. -/
def charArray (size : Nat) (text : String) : Vector Byte size :=
  Vector.ofFn fun index => (ascii text).getD index 0

/-- The bytes before the first NUL, or none when a read runs past the end. -/
def cString : List Byte → Option (List Byte)
  | [] => none
  | byte :: rest => if byte = 0 then some [] else (cString rest).map (byte :: ·)

/-- At most `count` characters are copied and a shorter string is padded with NUL. -/
def strncpy {size : Nat} (target : Vector Byte size) (source : List Byte) (count : Nat) :
    Vector Byte size :=
  Vector.ofFn fun index => if index < count then source.getD index 0 else target[index]

theorem cString_isSome (bytes : List Byte) : (cString bytes).isSome ↔ 0 ∈ bytes := by
  induction bytes with
  | nil => simp [cString]
  | cons byte rest ih =>
      by_cases null : byte = 0
      · simp [cString, null]
      · have other : (0 : Byte) ≠ byte := Ne.symm null
        rw [cString, if_neg null, Option.isSome_map, ih, List.mem_cons, or_iff_right other]

/-- Bytes without a NUL in front stay in front of the string. -/
theorem cString_append {front : List Byte} (text : ∀ byte ∈ front, byte ≠ 0) (rest : List Byte) :
    cString (front ++ rest) = (cString rest).map (front ++ ·) := by
  induction front with
  | nil => simp
  | cons byte front ih =>
      have head : byte ≠ 0 := text byte List.mem_cons_self
      rw [List.cons_append, cString, if_neg head, ih fun other member => text other
        (List.mem_cons_of_mem _ member), Option.map_map]
      rfl

end EbpfNotes.Library
