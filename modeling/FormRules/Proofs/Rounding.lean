import FormRules.Number.Quantity
import Mathlib.Algebra.Order.Field.Basic
import Mathlib.Algebra.Ring.Parity
import Mathlib.Data.Nat.Cast.Order.Field
import Mathlib.Data.Rat.Cast.Order
import Mathlib.Tactic.FieldSimp
import Mathlib.Tactic.Linarith
import Mathlib.Tactic.Positivity
import Mathlib.Tactic.Ring

/-!
# Rounding to floating-point numbers

An exact number is rounded to the nearest multiple of a power of two, the even one of two equally
near, so that at most 53 bits are significant. Rounding keeps the order of numbers, leaves numbers of
few bits as they are, and errs by half of the power of two at most.
-/

namespace FormRules.Number

/-- The natural number is nearest to the magnitude, and even if another one is as near. -/
structure IsNearest
    (magnitude : Rat) (rounded : Nat) :
    Prop where
  near : |(rounded : Rat) - magnitude| ≤ 1 / 2
  even_of_halfway : |(rounded : Rat) - magnitude| = 1 / 2 → Even rounded

namespace IsNearest

variable {magnitude other : Rat} {rounded otherRounded : Nat}

theorem natCast
    (number : Nat) :
    IsNearest number number := by
  constructor
  · norm_num
  · norm_num

/-- What is nearest keeps the order. -/
theorem mono
    (nearest : IsNearest magnitude rounded) (otherNearest : IsNearest other otherRounded)
    (ordered : magnitude ≤ other) :
    rounded ≤ otherRounded := by
  by_contra reversed
  have next : otherRounded + 1 ≤ rounded := by omega
  have nextCast : (otherRounded : Rat) + 1 ≤ rounded := by exact_mod_cast next
  have below := (abs_le.mp nearest.near).2
  have above := (abs_le.mp otherNearest.near).1
  -- Both magnitudes are the one halfway between the two numbers, which are neighbours.
  have isHalfway : (rounded : Rat) - magnitude = 1 / 2 := by linarith
  have isHalfwayToo : (otherRounded : Rat) - other = -(1 / 2) := by linarith
  have neighbours : rounded = otherRounded + 1 := by
    have cast : (rounded : Rat) = otherRounded + 1 := by linarith
    exact_mod_cast cast
  have even := nearest.even_of_halfway (by rw [isHalfway]; norm_num)
  have evenToo := otherNearest.even_of_halfway (by rw [isHalfwayToo]; norm_num)
  rw [neighbours, Nat.even_add_one] at even
  exact even evenToo

theorem eq_of_natCast
    {number : Nat} (nearest : IsNearest number rounded) :
    rounded = number :=
  Nat.le_antisymm (nearest.mono (natCast number) le_rfl) ((natCast number).mono nearest le_rfl)

end IsNearest

theorem isNearest_roundHalfEven
    (numerator : Nat) {denominator : Nat} (positive : 0 < denominator) :
    IsNearest (numerator / denominator : Rat) (roundHalfEven numerator denominator) := by
  have divided := Nat.div_add_mod numerator denominator
  have smaller := Nat.mod_lt numerator positive
  unfold roundHalfEven
  dsimp only
  generalize numerator / denominator = quotient at divided ⊢
  generalize numerator % denominator = remainder at divided smaller ⊢
  have positiveCast : (0 : Rat) < denominator := by exact_mod_cast positive
  have magnitude : (numerator / denominator : Rat) = quotient + remainder / denominator := by
    rw [← divided]
    push_cast
    field_simp
  have share : (0 : Rat) ≤ remainder / denominator := by positivity
  rw [magnitude]
  split
  · rename_i low
    have lowShare : (remainder / denominator : Rat) < 1 / 2 := by
      rw [div_lt_iff₀ positiveCast]
      have cast : (2 * remainder : Rat) < denominator := by exact_mod_cast low
      linarith
    have distance : |(quotient : Rat) - (quotient + remainder / denominator)| < 1 / 2 := by
      rw [abs_lt]
      constructor <;> linarith
    exact ⟨distance.le, fun halfway => absurd halfway distance.ne⟩
  · split
    · rename_i high
      have highShare : (1 / 2 : Rat) < remainder / denominator := by
        rw [lt_div_iff₀ positiveCast]
        have cast : (denominator : Rat) < 2 * remainder := by exact_mod_cast high
        linarith
      have wholeShare : (remainder / denominator : Rat) < 1 := by
        rw [div_lt_one positiveCast]
        exact_mod_cast smaller
      have distance :
          |((quotient + 1 : Nat) : Rat) - (quotient + remainder / denominator)| < 1 / 2 := by
        push_cast
        rw [abs_lt]
        constructor <;> linarith
      exact ⟨distance.le, fun halfway => absurd halfway distance.ne⟩
    · have half : (remainder / denominator : Rat) = 1 / 2 := by
        rw [div_eq_iff positiveCast.ne']
        have same : 2 * remainder = denominator := by omega
        have cast : (2 * remainder : Rat) = denominator := by exact_mod_cast same
        linarith
      rw [half]
      rcases Nat.mod_two_eq_zero_or_one quotient with isEven | isOdd
      · rw [isEven, Nat.add_zero]
        refine ⟨?_, fun _ => Nat.even_iff.mpr isEven⟩
        rw [sub_add_cancel_left]
        norm_num
      · rw [isOdd]
        refine ⟨?_, fun _ => Nat.even_iff.mpr (by omega)⟩
        push_cast
        rw [add_sub_add_left_eq_sub]
        norm_num

/-- The magnitude, counted in units, is rounded to a multiple of a power of two that leaves 53
significant bits. -/
structure IsRounded
    (magnitude : Rat) (excess rounded : Nat) :
    Prop where
  exists_quotient : ∃ quotient, IsNearest (magnitude / 2 ^ excess) quotient ∧
    rounded = quotient * 2 ^ excess
  nonneg : 0 ≤ magnitude
  lt_power : magnitude < 2 ^ (excess + 53)
  power_le : 0 < excess → 2 ^ (excess + 52) ≤ magnitude

theorem isRounded_roundedUnits
    (numerator : Nat) {denominator : Nat} (positive : 0 < denominator) :
    ∃ excess,
      IsRounded (numerator * unitsPerOne / denominator) excess
        (roundedUnits numerator denominator) := by
  have positiveCast : (0 : Rat) < denominator := by exact_mod_cast positive
  unfold roundedUnits
  dsimp only
  have isExact : (numerator * unitsPerOne : Rat) = ((numerator * unitsPerOne : Nat) : Rat) := by
    rw [Nat.cast_mul]
  rw [isExact]
  generalize numerator * unitsPerOne = exact
  have floorLe : ((exact / denominator : Nat) : Rat) ≤ exact / denominator := Nat.cast_div_le
  have ltFloor : (exact / denominator : Rat) < ((exact / denominator : Nat) : Rat) + 1 := by
    rw [div_lt_iff₀ positiveCast]
    exact_mod_cast Nat.lt_mul_of_div_lt (Nat.lt_succ_self _) positive
  generalize exact / denominator = floor at floorLe ltFloor ⊢
  refine ⟨Nat.log2 floor - 52, ⟨_, ?_, rfl⟩, div_nonneg exact.cast_nonneg positiveCast.le, ?_,
    fun someExcess => ?_⟩
  · have scaled := isNearest_roundHalfEven exact
      (Nat.mul_pos positive (Nat.two_pow_pos (Nat.log2 floor - 52)))
    push_cast at scaled
    rw [div_div]
    exact scaled
  · have bits : floor + 1 ≤ 2 ^ (Nat.log2 floor - 52 + 53) :=
      Nat.le_trans Nat.lt_log2_self (Nat.pow_le_pow_right (by decide) (by omega))
    have bitsCast : (floor : Rat) + 1 ≤ 2 ^ (Nat.log2 floor - 52 + 53) := by exact_mod_cast bits
    linarith
  · have notZero : floor ≠ 0 := by
      rintro rfl
      simp [Nat.log2] at someExcess
    have bits : 2 ^ (Nat.log2 floor - 52 + 52) ≤ floor := by
      rw [Nat.sub_add_cancel (by omega)]
      exact Nat.log2_self_le notZero
    have bitsCast : (2 : Rat) ^ (Nat.log2 floor - 52 + 52) ≤ floor := by exact_mod_cast bits
    linarith

namespace IsRounded

variable {magnitude other : Rat} {excess otherExcess rounded otherRounded : Nat}

theorem excess_le
    (isRounded : IsRounded magnitude excess rounded) {exponent : Nat}
    (bounded : magnitude < 2 ^ (exponent + 53)) :
    excess ≤ exponent := by
  by_contra greater
  have reached := isRounded.power_le (by omega)
  have powers : (2 : Rat) ^ (exponent + 53) ≤ 2 ^ (excess + 52) :=
    pow_le_pow_right₀ (by norm_num) (by omega)
  linarith

/-- A multiple of the power of two is left as it is. -/
theorem eq_of_multiple
    (isRounded : IsRounded magnitude excess rounded) {quotient : Nat}
    (multiple : magnitude = quotient * 2 ^ excess) :
    (rounded : Rat) = magnitude := by
  obtain ⟨nearest, isNearest, isRoundedTo⟩ := isRounded.exists_quotient
  have power : (2 : Rat) ^ excess ≠ 0 := by positivity
  rw [multiple, mul_div_cancel_right₀ _ power] at isNearest
  rw [isRoundedTo, isNearest.eq_of_natCast, multiple]
  push_cast
  rfl

/-- A number of few bits is left as it is. -/
theorem eq_of_few_bits
    (isRounded : IsRounded magnitude excess rounded) {significand exponent : Nat}
    (fewBits : significand < 2 ^ 53) (isNumber : magnitude = significand * 2 ^ exponent) :
    (rounded : Rat) = magnitude := by
  have fewBitsCast : (significand : Rat) < 2 ^ 53 := by exact_mod_cast fewBits
  have bounded : magnitude < 2 ^ (exponent + 53) := by
    rw [isNumber, pow_add, mul_comm]
    exact mul_lt_mul_of_pos_left fewBitsCast (by positivity)
  have small := isRounded.excess_le bounded
  have multiple : magnitude = ((significand * 2 ^ (exponent - excess) : Nat) : Rat) * 2 ^ excess := by
    rw [isNumber, Nat.cast_mul, mul_assoc]
    push_cast
    rw [← pow_add, Nat.sub_add_cancel small]
  exact isRounded.eq_of_multiple multiple

/-- Rounding errs by half of the power of two at most. -/
theorem error_le
    (isRounded : IsRounded magnitude excess rounded) :
    |(rounded : Rat) - magnitude| ≤ 2 ^ excess / 2 := by
  obtain ⟨nearest, isNearest, isRoundedTo⟩ := isRounded.exists_quotient
  have power : (0 : Rat) < 2 ^ excess := by positivity
  have scaled : (rounded : Rat) - magnitude =
      ((nearest : Rat) - magnitude / 2 ^ excess) * 2 ^ excess := by
    rw [isRoundedTo, sub_mul, div_mul_cancel₀ _ power.ne']
    push_cast
    rfl
  rw [scaled, abs_mul, abs_of_pos power]
  calc |(nearest : Rat) - magnitude / 2 ^ excess| * 2 ^ excess
      ≤ 1 / 2 * 2 ^ excess := mul_le_mul_of_nonneg_right isNearest.near power.le
    _ = 2 ^ excess / 2 := by ring

/-- Up to a power of two, and at it, the error is at most half of the 53rd power below. -/
theorem error_le_of_le
    (isRounded : IsRounded magnitude excess rounded) {exponent : Nat}
    (bounded : magnitude ≤ 2 ^ (exponent + 53)) :
    |(rounded : Rat) - magnitude| ≤ 2 ^ exponent / 2 := by
  have powerNonneg : (0 : Rat) ≤ 2 ^ exponent / 2 := by positivity
  rcases bounded.lt_or_eq with less | isPower
  · have powers : (2 : Rat) ^ excess ≤ 2 ^ exponent :=
      pow_le_pow_right₀ (by norm_num) (isRounded.excess_le less)
    have error := isRounded.error_le
    linarith
  · have isNumber : magnitude = (1 : Nat) * 2 ^ (exponent + 53) := by
      rw [isPower, Nat.cast_one, one_mul]
    rw [isRounded.eq_of_few_bits (by norm_num) isNumber, sub_self, abs_zero]
    exact powerNonneg

/-- Rounding keeps the order. -/
theorem mono
    (isRounded : IsRounded magnitude excess rounded)
    (isRoundedToo : IsRounded other otherExcess otherRounded) (ordered : magnitude ≤ other) :
    rounded ≤ otherRounded := by
  obtain ⟨quotient, isNearest, rfl⟩ := isRounded.exists_quotient
  obtain ⟨otherQuotient, isNearestToo, rfl⟩ := isRoundedToo.exists_quotient
  have small : excess ≤ otherExcess :=
    isRounded.excess_le (ordered.trans_lt isRoundedToo.lt_power)
  have power : (0 : Rat) < 2 ^ excess := by positivity
  have otherPower : (0 : Rat) < 2 ^ otherExcess := by positivity
  rcases small.lt_or_eq with less | rfl
  · -- Between the two numbers lies a power of two that both roundings respect.
    have quotientLe : quotient ≤ 2 ^ 53 := by
      refine isNearest.mono (IsNearest.natCast (2 ^ 53)) ?_
      rw [div_le_iff₀ power, Nat.cast_pow, Nat.cast_ofNat, ← pow_add, add_comm]
      exact isRounded.lt_power.le
    have leQuotient : 2 ^ 52 ≤ otherQuotient := by
      refine (IsNearest.natCast (2 ^ 52)).mono isNearestToo ?_
      rw [le_div_iff₀ otherPower, Nat.cast_pow, Nat.cast_ofNat, ← pow_add, add_comm]
      exact isRoundedToo.power_le (by omega)
    calc quotient * 2 ^ excess ≤ 2 ^ 53 * 2 ^ excess := Nat.mul_le_mul_right _ quotientLe
      _ = 2 ^ 52 * 2 ^ (excess + 1) := by ring
      _ ≤ 2 ^ 52 * 2 ^ otherExcess :=
          Nat.mul_le_mul_left _ (Nat.pow_le_pow_right (by decide) less)
      _ ≤ otherQuotient * 2 ^ otherExcess := Nat.mul_le_mul_right _ leQuotient
  · refine Nat.mul_le_mul_right _ (isNearest.mono isNearestToo ?_)
    exact div_le_div_of_nonneg_right ordered power.le

end IsRounded

/-! ## Numbers that round alike -/

/-- The numbers lie on the same side of every multiple of half the power of two. -/
def SameSide
    (excess : Nat) (left right : Rat) :
    Prop :=
  ∀ halves : Int,
    ((halves * 2 ^ excess : Rat) ≤ 2 * left ↔ (halves * 2 ^ excess : Rat) ≤ 2 * right) ∧
      (2 * left ≤ halves * 2 ^ excess ↔ 2 * right ≤ halves * 2 ^ excess)

namespace SameSide

variable {excess : Nat} {left right : Rat}

theorem refl
    (excess : Nat) (number : Rat) :
    SameSide excess number number :=
  fun _ => ⟨Iff.rfl, Iff.rfl⟩

/-- Numbers are on the same side if one is a multiple of a fraction of half the power of two, and
the other is nearer to it than that fraction and equal to it if it is a boundary. -/
theorem of_near
    {denominator : Nat} {numerator : Int} (positive : 0 < denominator)
    (isMultiple : 2 * right * denominator = numerator * 2 ^ excess)
    (near : 2 * |left - right| * denominator < 2 ^ excess)
    (onBoundary : (denominator : Int) ∣ numerator → left = right) :
    SameSide excess left right := by
  by_cases isBoundary : (denominator : Int) ∣ numerator
  · rw [onBoundary isBoundary]
    exact refl excess right
  · have positiveCast : (0 : Rat) < denominator := by exact_mod_cast positive
    have power : (0 : Rat) < 2 ^ excess := by positivity
    have above := mul_le_mul_of_nonneg_right (le_abs_self (left - right)) positiveCast.le
    have below := mul_le_mul_of_nonneg_right (neg_abs_le (left - right)) positiveCast.le
    intro halves
    have differs : halves * denominator ≠ numerator := by
      rintro rfl
      exact isBoundary (dvd_mul_left _ _)
    rcases lt_or_gt_of_ne differs with less | greater
    · have lessCast : (halves * denominator + 1 : Rat) ≤ numerator := by exact_mod_cast less
      have apart := mul_le_mul_of_nonneg_right lessCast power.le
      have lessRight : (halves * 2 ^ excess : Rat) < 2 * right :=
        lt_of_mul_lt_mul_right (by linarith) positiveCast.le
      have lessLeft : (halves * 2 ^ excess : Rat) < 2 * left :=
        lt_of_mul_lt_mul_right (by linarith) positiveCast.le
      exact ⟨iff_of_true lessLeft.le lessRight.le,
        iff_of_false (not_le.mpr lessLeft) (not_le.mpr lessRight)⟩
    · have greaterCast : (numerator + 1 : Rat) ≤ halves * denominator := by exact_mod_cast greater
      have apart := mul_le_mul_of_nonneg_right greaterCast power.le
      have rightLess : 2 * right < halves * 2 ^ excess :=
        lt_of_mul_lt_mul_right (by linarith) positiveCast.le
      have leftLess : 2 * left < halves * 2 ^ excess :=
        lt_of_mul_lt_mul_right (by linarith) positiveCast.le
      exact ⟨iff_of_false (not_le.mpr leftLess) (not_le.mpr rightLess),
        iff_of_true leftLess.le rightLess.le⟩

theorem neg
    (sameSide : SameSide excess left right) :
    SameSide excess (-left) (-right) := by
  intro halves
  obtain ⟨above, below⟩ := sameSide (-halves)
  push_cast at above below
  constructor
  · constructor
    · intro reached
      have fromBelow := below.mp (by linarith)
      linarith
    · intro reached
      have fromBelow := below.mpr (by linarith)
      linarith
  · constructor
    · intro reached
      have fromAbove := above.mp (by linarith)
      linarith
    · intro reached
      have fromAbove := above.mpr (by linarith)
      linarith

theorem nonneg_iff
    (sameSide : SameSide excess left right) :
    0 ≤ left ↔ 0 ≤ right := by
  have atZero := (sameSide 0).1
  rw [Int.cast_zero, zero_mul] at atZero
  constructor
  · intro nonneg
    linarith [atZero.mp (by linarith)]
  · intro nonneg
    linarith [atZero.mpr (by linarith)]

theorem abs
    (sameSide : SameSide excess left right) :
    SameSide excess |left| |right| := by
  by_cases nonneg : 0 ≤ left
  · rw [abs_of_nonneg nonneg, abs_of_nonneg (sameSide.nonneg_iff.mp nonneg)]
    exact sameSide
  · have negative := not_le.mp nonneg
    have negativeToo := not_le.mp fun nonnegToo => nonneg (sameSide.nonneg_iff.mpr nonnegToo)
    rw [abs_of_neg negative, abs_of_neg negativeToo]
    exact sameSide.neg

end SameSide

theorem isNearest_div_iff
    {magnitude : Rat} {excess quotient : Nat} :
    IsNearest (magnitude / 2 ^ excess) quotient ↔
      ((((2 * quotient - 1 : Int) : Rat) * 2 ^ excess ≤ 2 * magnitude ∧
          2 * magnitude ≤ ((2 * quotient + 1 : Int) : Rat) * 2 ^ excess) ∧
        (2 * magnitude ≤ ((2 * quotient - 1 : Int) : Rat) * 2 ^ excess ∨
            ((2 * quotient + 1 : Int) : Rat) * 2 ^ excess ≤ 2 * magnitude →
          Even quotient)) := by
  have power : (0 : Rat) < 2 ^ excess := by positivity
  obtain ⟨share, isShare⟩ : ∃ share, share = magnitude / 2 ^ excess := ⟨_, rfl⟩
  have isMagnitude : magnitude = share * 2 ^ excess := by
    rw [isShare, div_mul_cancel₀ _ power.ne']
  have doubled : 2 * magnitude = 2 * share * 2 ^ excess := by
    rw [isMagnitude, mul_assoc]
  rw [← isShare, doubled]
  simp only [mul_le_mul_iff_left₀ power]
  push_cast
  constructor
  · intro nearest
    have near := abs_le.mp nearest.near
    refine ⟨⟨by linarith, by linarith⟩, fun reached => nearest.even_of_halfway ?_⟩
    rcases reached with low | high
    · rw [abs_of_nonneg (by linarith)]
      linarith
    · rw [abs_of_nonpos (by linarith)]
      linarith
  · rintro ⟨⟨low, high⟩, even⟩
    refine ⟨abs_le.mpr ⟨by linarith, by linarith⟩, fun halfway => even ?_⟩
    rcases (abs_eq (by norm_num)).mp halfway with isLow | isHigh
    · exact Or.inl (by linarith)
    · exact Or.inr (by linarith)

theorem IsRounded.of_sameSide
    {left right : Rat} {excess rounded : Nat} (isRounded : IsRounded left excess rounded)
    (sameSide : SameSide excess left right) :
    IsRounded right excess rounded := by
  obtain ⟨quotient, isNearest, isRoundedTo⟩ := isRounded.exists_quotient
  constructor
  · refine ⟨quotient, ?_, isRoundedTo⟩
    rw [isNearest_div_iff] at isNearest ⊢
    have low := sameSide (2 * quotient - 1)
    have high := sameSide (2 * quotient + 1)
    rw [← low.1, ← low.2, ← high.1, ← high.2]
    exact isNearest
  · exact sameSide.nonneg_iff.mp isRounded.nonneg
  · have top := (sameSide (2 ^ 54)).1
    have less := isRounded.lt_power
    push_cast at top
    rw [pow_add] at less ⊢
    by_contra reached
    have reachedToo := top.mpr (by linarith)
    linarith
  · intro someExcess
    have bottom := (sameSide (2 ^ 53)).1
    have reached := isRounded.power_le someExcess
    push_cast at bottom
    rw [pow_add] at reached ⊢
    have reachedToo := bottom.mp (by linarith)
    linarith

/-! ## Signed numbers -/

/-- The number of units is the exact number, counted in units, rounded. -/
def RoundsTo
    (exact : Rat) (signed : Int) :
    Prop :=
  ∃ excess rounded, IsRounded |exact| excess rounded ∧
    signed = if exact < 0 then -(rounded : Int) else rounded

namespace RoundsTo

variable {exact other : Rat} {signed otherSigned : Int}

theorem mono
    (rounds : RoundsTo exact signed) (roundsToo : RoundsTo other otherSigned)
    (ordered : exact ≤ other) :
    signed ≤ otherSigned := by
  obtain ⟨excess, rounded, isRounded, rfl⟩ := rounds
  obtain ⟨otherExcess, otherRounded, isRoundedToo, rfl⟩ := roundsToo
  rcases lt_or_ge exact 0 with negative | nonneg
  · rw [if_pos negative]
    rcases lt_or_ge other 0 with otherNegative | otherNonneg
    · rw [if_pos otherNegative]
      rw [abs_of_neg negative] at isRounded
      rw [abs_of_neg otherNegative] at isRoundedToo
      have reversed := isRoundedToo.mono isRounded (neg_le_neg ordered)
      omega
    · rw [if_neg (not_lt.mpr otherNonneg)]
      omega
  · have otherNonneg : 0 ≤ other := nonneg.trans ordered
    rw [if_neg (not_lt.mpr nonneg), if_neg (not_lt.mpr otherNonneg)]
    rw [abs_of_nonneg nonneg] at isRounded
    rw [abs_of_nonneg otherNonneg] at isRoundedToo
    exact_mod_cast isRounded.mono isRoundedToo ordered

theorem unique
    (rounds : RoundsTo exact signed) (roundsToo : RoundsTo exact otherSigned) :
    signed = otherSigned :=
  le_antisymm (rounds.mono roundsToo le_rfl) (roundsToo.mono rounds le_rfl)

theorem error_le_of_le
    (rounds : RoundsTo exact signed) {exponent : Nat} (bounded : |exact| ≤ 2 ^ (exponent + 53)) :
    |(signed : Rat) - exact| ≤ 2 ^ exponent / 2 := by
  obtain ⟨excess, rounded, isRounded, rfl⟩ := rounds
  have error := isRounded.error_le_of_le bounded
  rcases lt_or_ge exact 0 with negative | nonneg
  · rw [if_pos negative]
    rw [abs_of_neg negative, ← abs_neg] at error
    push_cast
    convert error using 2
    ring
  · rw [if_neg (not_lt.mpr nonneg)]
    rw [abs_of_nonneg nonneg] at error
    exact_mod_cast error

theorem eq_of_few_bits
    (rounds : RoundsTo exact signed) {significand : Int} {exponent : Nat}
    (fewBits : significand.natAbs < 2 ^ 53) (isNumber : exact = significand * 2 ^ exponent) :
    (signed : Rat) = exact := by
  obtain ⟨excess, rounded, isRounded, rfl⟩ := rounds
  have isMagnitude : |exact| = (significand.natAbs : Nat) * 2 ^ exponent := by
    rw [isNumber, abs_mul, abs_of_pos (by positivity : (0 : Rat) < 2 ^ exponent), Nat.cast_natAbs,
      Int.cast_abs]
  have same := isRounded.eq_of_few_bits fewBits isMagnitude
  rcases lt_or_ge exact 0 with negative | nonneg
  · rw [if_pos negative, Int.cast_neg, Int.cast_natCast, same, abs_of_neg negative, neg_neg]
  · rw [if_neg (not_lt.mpr nonneg), Int.cast_natCast, same, abs_of_nonneg nonneg]

/-- Numbers on the same side of the boundaries that matter are rounded alike. -/
theorem of_sameSide
    (rounds : RoundsTo exact signed)
    (sameSide : ∀ excess, |exact| < 2 ^ (excess + 53) →
      (0 < excess → 2 ^ (excess + 52) ≤ |exact|) → SameSide excess exact other) :
    RoundsTo other signed := by
  obtain ⟨excess, rounded, isRounded, rfl⟩ := rounds
  have same := sameSide excess isRounded.lt_power isRounded.power_le
  refine ⟨excess, rounded, isRounded.of_sameSide same.abs, ?_⟩
  simp only [← not_le, same.nonneg_iff]

end RoundsTo

def unitExponent :
    Nat :=
  1074

/-- The exponent of the magnitude from which on a number is infinite. -/
def overflowExponent :
    Nat :=
  2098

theorem unitsPerOne_cast :
    (unitsPerOne : Rat) = 2 ^ unitExponent := by
  unfold unitsPerOne unitExponent
  generalize 1074 = exponent
  exact Nat.cast_pow 2 exponent

theorem unitsPerOne_nonneg :
    (0 : Rat) ≤ unitsPerOne :=
  Nat.cast_nonneg _

/-- Numbers of few digits before the point are far from the greatest. -/
theorem le_half_overflow
    {exact : Rat} (bounded : |exact| ≤ 2 ^ 53 * unitsPerOne) :
    |exact| ≤ 2 ^ (overflowExponent - 1) := by
  refine bounded.trans ?_
  rw [unitsPerOne_cast, ← pow_add]
  exact pow_le_pow_right₀ (by norm_num) (by decide)

theorem overflowUnits_cast :
    (overflowUnits : Rat) = 2 ^ overflowExponent := by
  unfold overflowUnits overflowExponent
  generalize 2098 = exponent
  exact Nat.cast_pow 2 exponent

namespace Binary64

theorem ofRatio_of_lt
    (negative : Bool) {numerator denominator : Nat}
    (less : roundedUnits numerator denominator < overflowUnits) :
    ofRatio negative numerator denominator =
      finite negative (roundedUnits numerator denominator) := by
  unfold ofRatio
  rw [if_pos less]

/-- What is far from the greatest numbers is rounded to a finite number. -/
theorem roundsTo_ofIntRatio
    (numerator : Int) {denominator : Nat} (positive : 0 < denominator)
    (bounded : |(numerator * unitsPerOne / denominator : Rat)| ≤ 2 ^ (overflowExponent - 1)) :
    ∃ signed, (ofIntRatio numerator denominator).signedUnits? = some signed ∧
      RoundsTo (numerator * unitsPerOne / denominator) signed := by
  obtain ⟨excess, isRounded⟩ := isRounded_roundedUnits numerator.natAbs positive
  have positiveCast : (0 : Rat) < denominator := by exact_mod_cast positive
  have unitsPositive : (0 : Rat) < unitsPerOne := by exact_mod_cast unitsPerOne_pos
  have magnitude : (numerator.natAbs * unitsPerOne / denominator : Rat) =
      |(numerator * unitsPerOne / denominator : Rat)| := by
    rw [abs_div, abs_mul, abs_of_pos positiveCast, abs_of_pos unitsPositive, Nat.cast_natAbs,
      Int.cast_abs]
  have sign : (numerator * unitsPerOne / denominator : Rat) < 0 ↔ numerator < 0 := by
    rw [div_lt_iff₀ positiveCast, zero_mul]
    constructor
    · intro negative
      exact Int.cast_lt_zero.mp (neg_of_mul_neg_left negative unitsPositive.le)
    · intro negative
      exact mul_neg_of_neg_of_pos (Int.cast_lt_zero.mpr negative) unitsPositive
  rw [magnitude] at isRounded
  have finite : roundedUnits numerator.natAbs denominator < overflowUnits := by
    obtain ⟨exponent, isExponent⟩ : ∃ exponent, overflowExponent = exponent + 54 := ⟨2044, rfl⟩
    have isOverflow := overflowUnits_cast
    rw [isExponent, pow_add] at isOverflow
    have below : overflowExponent - 1 = exponent + 53 := by omega
    rw [below] at bounded
    have upper := (abs_le.mp (isRounded.error_le_of_le bounded)).2
    rw [pow_add] at bounded
    have power : (0 : Rat) < 2 ^ exponent := by positivity
    have cast : (roundedUnits numerator.natAbs denominator : Rat) < overflowUnits := by
      linarith
    exact_mod_cast cast
  refine ⟨if numerator < 0 then -(roundedUnits numerator.natAbs denominator : Int)
    else roundedUnits numerator.natAbs denominator, ?_, excess, _, isRounded, ?_⟩
  · rw [ofIntRatio, ofRatio_of_lt _ finite]
    simp only [signedUnits?, decide_eq_true_eq]
  · simp only [sign]

end Binary64

end FormRules.Number
