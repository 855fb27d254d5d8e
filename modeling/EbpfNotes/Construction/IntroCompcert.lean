/-
This file models `bsearch` of `CompCert/intro_compcert.md` with its annotations.
-/

import EbpfNotes.Library.Bytes

namespace EbpfNotes.IntroCompcert

open Library

/-- Signed arithmetic is undefined outside of the range of an `int`. -/
def signedInt (value : Int) : Option Int := if -2 ^ 31 ≤ value ∧ value < 2 ^ 31 then some value else none

/-- An access outside of the array is undefined. -/
def readTbl (tbl : Vector (BitVec 32) 100) (m : Int) : Option (BitVec 32) :=
  if 0 ≤ m then tbl[m.toNat]? else none

/-- A pass narrows the bounds or returns. -/
inductive Pass where
  | narrowed (l u : Int)
  | returned (m : Int)
  deriving DecidableEq, Repr

/-- One pass through the loop body, with the value that the annotation shows. -/
def pass (tbl : Vector (BitVec 32) 100) (v : BitVec 32) (l u : Int) : Option (Int × Pass) := do
  let sum ← signedInt (l + u)
  let m := sum.tdiv 2
  let value ← readTbl tbl m
  if value.slt v then
    let l ← signedInt (m + 1)
    some (m, .narrowed l u)
  else if v.slt value then
    let u ← signedInt (m - 1)
    some (m, .narrowed l u)
  else some (m, .returned m)

/-- The loop makes at most as many passes as it has fuel. The result comes with the annotated values. -/
def bsearchFrom (tbl : Vector (BitVec 32) 100) (v : BitVec 32) :
    Nat → Int → Int → Option (Int × List Int)
  | 0, l, u => if l ≤ u then none else some (-1, [])
  | fuel + 1, l, u =>
    if l ≤ u then do
      let (m, next) ← pass tbl v l u
      match next with
      | .returned result => some (result, [m])
      | .narrowed l u =>
        let (result, entered) ← bsearchFrom tbl v fuel l u
        some (result, m :: entered)
    else some (-1, [])

def bsearch (fuel : Nat) (tbl : Vector (BitVec 32) 100) (v : BitVec 32) : Option (Int × List Int) :=
  bsearchFrom tbl v fuel 0 99

/-- The search expects an ascending table. -/
def Ascending (tbl : Vector (BitVec 32) 100) : Prop :=
  ∀ first second : Fin 100, first ≤ second → (tbl.get first).toInt ≤ (tbl.get second).toInt

end EbpfNotes.IntroCompcert
