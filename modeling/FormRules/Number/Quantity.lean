import FormRules.Number.Binary64

/-!
Quantities: integers of any size and floating-point numbers, compared exactly.

Each quantity other than "not a number" has a position on the line of numbers, extended by two
ends for the infinities. Quantities are compared by position, without rounding.
-/

namespace FormRules.Number

/-- An integer or a floating-point number. -/
inductive Quantity where
  | integer (value : Int)
  | real (value : Binary64)
  deriving DecidableEq, Repr

/-- A place on the extended line of numbers, finite places counted in units of 2⁻¹⁰⁷⁴. -/
inductive Position where
  | lowest
  | finite (units : Int)
  | highest
  deriving DecidableEq, Repr

namespace Position

def le :
    Position → Position → Bool
  | lowest, _ => true
  | _, highest => true
  | finite left, finite right => left ≤ right
  | _, _ => false

theorem le_refl
    (position : Position) :
    position.le position = true := by
  cases position <;> simp [le]

theorem le_antisymm
    {left right : Position}
    (forward : left.le right = true)
    (backward : right.le left = true) :
    left = right := by
  cases left <;> cases right <;> simp_all [le]
  omega

theorem le_total
    (left right : Position) :
    left.le right = true ∨ right.le left = true := by
  cases left <;> cases right <;> simp [le]
  omega

end Position

namespace Quantity

/-- The place of a quantity on the line; "not a number" has none. -/
def position? :
    Quantity → Option Position
  | integer value => some (.finite (value * unitsPerOne))
  | real .nan => none
  | real (.infinite true) => some .lowest
  | real (.infinite false) => some .highest
  | real (.finite true units) => some (.finite (-(units : Int)))
  | real (.finite false units) => some (.finite units)

/-- The first quantity is at most the second; false when one is not a number. -/
def le
    (left right : Quantity) :
    Bool :=
  match left.position?, right.position? with
  | some leftPlace, some rightPlace => leftPlace.le rightPlace
  | _, _ => false

/-- The two quantities are the same number; false when one is not a number. -/
def equals
    (left right : Quantity) :
    Bool :=
  match left.position?, right.position? with
  | some leftPlace, some rightPlace => leftPlace == rightPlace
  | _, _ => false

theorem equals_comm
    (left right : Quantity) :
    left.equals right = right.equals left := by
  unfold equals
  cases left.position? <;> cases right.position? <;> simp [Bool.beq_comm]

/-- Two quantities are equal when each is at most the other. -/
theorem equals_eq_le_and_le
    (left right : Quantity) :
    left.equals right = (left.le right && right.le left) := by
  unfold equals le
  cases left.position? with
  | none => simp
  | some leftPlace =>
      cases right.position? with
      | none => simp
      | some rightPlace =>
          rw [Bool.eq_iff_iff]
          simp only [beq_iff_eq, Bool.and_eq_true]
          constructor
          · rintro rfl
            exact ⟨leftPlace.le_refl, leftPlace.le_refl⟩
          · rintro ⟨forward, backward⟩
            exact Position.le_antisymm forward backward

end Quantity

end FormRules.Number
