import Mathlib.Tactic

namespace EbpfNotes.Library

/-- A format writes a value as a list of items and reads a value from the front of such a list. -/
structure Format (Item Value : Type) where
  accepts : Value → Prop
  write : Value → List Item
  read : List Item → Option (Value × List Item)

namespace Format

variable {Item Value : Type} (format : Format Item Value)

/-- The format reads exactly what it writes for an accepted value. -/
structure Lawful : Prop where
  nonempty : ∀ value, format.accepts value → format.write value ≠ []
  read_iff : ∀ items value rest,
    format.read items = some (value, rest) ↔ format.accepts value ∧ items = format.write value ++ rest

def writeAll (values : List Value) : List Item := values.flatMap format.write

/-- The values are read one after another while the fuel lasts. -/
def readFrom : Nat → List Item → Option (List Value)
  | _, [] => some []
  | 0, _ :: _ => none
  | fuel + 1, item :: items => do
    let (value, rest) ← format.read (item :: items)
    let values ← readFrom fuel rest
    some (value :: values)

/-- Every value takes an item, so the number of the items is enough fuel. -/
def readAll (items : List Item) : Option (List Value) := format.readFrom items.length items

variable {format}

theorem Lawful.read_write (lawful : format.Lawful) {value : Value} (accepted : format.accepts value)
    (rest : List Item) : format.read (format.write value ++ rest) = some (value, rest) :=
  (lawful.read_iff _ value rest).mpr ⟨accepted, rfl⟩

/-- With enough fuel the values behind the first one are read from what is left. -/
theorem Lawful.readFrom_write (lawful : format.Lawful) {values : List Value}
    (accepted : ∀ value ∈ values, format.accepts value) {fuel : Nat}
    (enough : (format.writeAll values).length ≤ fuel) :
    format.readFrom fuel (format.writeAll values) = some values := by
  induction values generalizing fuel with
  | nil => cases fuel <;> rfl
  | cons value values ih =>
      have first := accepted value List.mem_cons_self
      have others : ∀ other ∈ values, format.accepts other := fun other member =>
        accepted other (List.mem_cons_of_mem _ member)
      have whole : format.writeAll (value :: values) = format.write value ++ format.writeAll values := rfl
      rw [whole] at enough ⊢
      have reading := lawful.read_write first (format.writeAll values)
      have something := lawful.nonempty value first
      cases written : format.write value with
      | nil => exact absurd written something
      | cons item items =>
          rw [written] at enough reading
          cases fuel with
          | zero => simp at enough
          | succ fuel =>
              have rest : (format.writeAll values).length ≤ fuel := by
                simp only [List.cons_append, List.length_cons, List.length_append] at enough
                omega
              rw [List.cons_append] at reading ⊢
              simp only [readFrom, reading, ih others rest, Option.bind_eq_bind, Option.bind_some]

theorem Lawful.readFrom_sound (lawful : format.Lawful) {fuel : Nat} {items : List Item}
    {values : List Value} (reading : format.readFrom fuel items = some values) :
    (∀ value ∈ values, format.accepts value) ∧ format.writeAll values = items := by
  induction fuel generalizing items values with
  | zero =>
      cases items with
      | nil =>
          obtain rfl := Option.some.inj reading
          exact ⟨fun value member => absurd member List.not_mem_nil, rfl⟩
      | cons item items => cases reading
  | succ fuel ih =>
      cases items with
      | nil =>
          obtain rfl := Option.some.inj reading
          exact ⟨fun value member => absurd member List.not_mem_nil, rfl⟩
      | cons item items =>
          simp only [readFrom, Option.bind_eq_bind, Option.bind_eq_some_iff] at reading
          obtain ⟨⟨value, rest⟩, first, others, behind, same⟩ := reading
          obtain rfl := Option.some.inj same
          obtain ⟨accepted, split⟩ := (lawful.read_iff _ _ _).mp first
          obtain ⟨all, written⟩ := ih behind
          refine ⟨?_, ?_⟩
          · intro other member
            rcases List.mem_cons.mp member with rfl | later
            · exact accepted
            · exact all other later
          · change _ = rest at written
            rw [split, ← written]
            rfl

/-- A list of items is read as the values that it was written for. -/
theorem Lawful.readAll_iff (lawful : format.Lawful) (items : List Item) (values : List Value) :
    format.readAll items = some values ↔
      (∀ value ∈ values, format.accepts value) ∧ format.writeAll values = items := by
  constructor
  · exact lawful.readFrom_sound
  · intro written
    obtain ⟨accepted, rfl⟩ := written
    exact lawful.readFrom_write accepted le_rfl

end Format

end EbpfNotes.Library
