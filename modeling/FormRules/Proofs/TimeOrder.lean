import FormRules.Proofs.Rounding
import FormRules.Proofs.TimeReading
import Mathlib.RingTheory.Coprime.Lemmas

/-!
# The order of times

Times are compared by their timestamps, which are rounded numbers of seconds. Timestamps never
reverse the order of instants. Up to 2^33 seconds from the epoch they tell different instants apart;
farther away only instants that lie a grain apart, which doubles with every doubling of the distance.
One instant has one timestamp, unless it lies near the epoch and is given once with an offset and
once without: then it is rounded in two ways.
-/

namespace FormRules

open FormRules.Number

namespace Time

/-- An instant in units of the floating-point numbers, not rounded. -/
def exactUnits
    (instant : Int) :
    Rat :=
  instant * unitsPerOne / 1000000

/-- The instant is rounded twice: first the fraction of its second, then what this and the whole
seconds amount to. -/
def RoundsTwiceTo
    (instant signed : Int) :
    Prop :=
  ∃ fraction : Int, RoundsTo (exactUnits (instant % 1000000)) fraction ∧
    RoundsTo ((instant / 1000000 : Int) * unitsPerOne + fraction) signed

/-- The microseconds that suffice between two instants, neither farther from the epoch than this one,
to make their timestamps differ. -/
def grain
    (instant : Int) :
    Nat :=
  2 ^ (Nat.log2 (instant.natAbs / 1000000) - 32)

/-- The exponent of the power of two to which the fraction of a second is rounded at worst. -/
def fractionExponent :
    Nat :=
  1021

theorem unitsPerOne_eq :
    (unitsPerOne : Rat) = 2 ^ 53 * 2 ^ fractionExponent := by
  have exponents : unitExponent = 53 + fractionExponent := rfl
  rw [unitsPerOne_cast, exponents, pow_add]

theorem exactUnits_nonneg
    {instant : Int} (nonneg : 0 ≤ instant) :
    0 ≤ exactUnits instant := by
  have nonnegCast : (0 : Rat) ≤ instant := by exact_mod_cast nonneg
  unfold exactUnits
  positivity

theorem exactUnits_mono
    {instant other : Int} (ordered : instant ≤ other) :
    exactUnits instant ≤ exactUnits other := by
  have orderedCast : (instant : Rat) ≤ other := by exact_mod_cast ordered
  exact div_le_div_of_nonneg_right (mul_le_mul_of_nonneg_right orderedCast unitsPerOne_nonneg)
    (by norm_num)

theorem exactUnits_eq_add
    (instant : Int) :
    exactUnits instant =
      (instant / 1000000 : Int) * unitsPerOne + exactUnits (instant % 1000000) := by
  have divided : (instant : Rat) =
      1000000 * (instant / 1000000 : Int) + (instant % 1000000 : Int) := by
    exact_mod_cast (Int.mul_ediv_add_emod instant 1000000).symm
  unfold exactUnits
  rw [divided]
  ring

/-! ## How far timestamps are off -/

section Fraction

variable {instant fraction : Int}

/-- The fraction of a second is off by half of a power of two far below the microsecond. -/
theorem fraction_error_le
    (rounds : RoundsTo (exactUnits (instant % 1000000)) fraction) :
    |(fraction : Rat) - exactUnits (instant % 1000000)| ≤ 2 ^ fractionExponent / 2 := by
  have nonneg := exactUnits_nonneg (Int.emod_nonneg instant (by decide : (1000000 : Int) ≠ 0))
  have bounded := exactUnits_mono (Int.emod_lt_of_pos instant (by decide : (0 : Int) < 1000000)).le
  refine rounds.error_le_of_le ?_
  rw [abs_of_nonneg nonneg]
  refine bounded.trans (le_of_eq ?_)
  rw [exactUnits, Int.cast_ofNat, mul_div_cancel_left₀ _ (by norm_num), unitsPerOne_eq, pow_add,
    mul_comm]

theorem fraction_bounds
    (rounds : RoundsTo (exactUnits (instant % 1000000)) fraction) :
    (0 : Rat) ≤ fraction ∧ (fraction : Rat) ≤ unitsPerOne := by
  have nonneg := Int.emod_nonneg instant (by decide : (1000000 : Int) ≠ 0)
  have less := Int.emod_lt_of_pos instant (by decide : (0 : Int) < 1000000)
  have error := abs_le.mp (fraction_error_le rounds)
  have power : (0 : Rat) < 2 ^ fractionExponent := by positivity
  constructor
  · obtain ⟨_, rounded, _, rfl⟩ := rounds
    rw [if_neg (not_lt.mpr (exactUnits_nonneg nonneg))]
    exact_mod_cast rounded.cast_nonneg
  · have lessCast : ((instant % 1000000 : Int) : Rat) ≤ 999999 := by
      exact_mod_cast Int.le_sub_one_of_lt less
    have below : exactUnits (instant % 1000000) ≤ 999999 * unitsPerOne / 1000000 :=
      div_le_div_of_nonneg_right (mul_le_mul_of_nonneg_right lessCast unitsPerOne_nonneg)
        (by norm_num)
    rw [unitsPerOne_eq] at below ⊢
    linarith

/-- Whole seconds below a power of two, and a fraction, come to that power at most. -/
theorem abs_sum_le
    (rounds : RoundsTo (exactUnits (instant % 1000000)) fraction) {exponent : Nat}
    (near : |instant| < 2 ^ exponent * 1000000) :
    |((instant / 1000000 : Int) * unitsPerOne + fraction : Rat)| ≤ 2 ^ exponent * unitsPerOne := by
  obtain ⟨low, high⟩ := abs_lt.mp near
  obtain ⟨fractionNonneg, fractionLe⟩ := fraction_bounds rounds
  have wholeLow : -2 ^ exponent ≤ instant / 1000000 := by omega
  have wholeHigh : instant / 1000000 ≤ 2 ^ exponent - 1 := by omega
  have wholeLowCast : (-2 ^ exponent : Rat) ≤ (instant / 1000000 : Int) := by
    exact_mod_cast wholeLow
  have wholeHighCast : ((instant / 1000000 : Int) : Rat) ≤ 2 ^ exponent - 1 := by
    exact_mod_cast wholeHigh
  have lowUnits := mul_le_mul_of_nonneg_right wholeLowCast unitsPerOne_nonneg
  have highUnits := mul_le_mul_of_nonneg_right wholeHighCast unitsPerOne_nonneg
  rw [abs_le]
  constructor <;> linarith

/-- A fraction that is a multiple of a sixty-fourth of a second is exact. -/
theorem fraction_eq_of_dvd
    (rounds : RoundsTo (exactUnits (instant % 1000000)) fraction) (dvd : 15625 ∣ instant) :
    (fraction : Rat) = exactUnits (instant % 1000000) := by
  have nonneg := Int.emod_nonneg instant (by decide : (1000000 : Int) ≠ 0)
  have less := Int.emod_lt_of_pos instant (by decide : (0 : Int) < 1000000)
  obtain ⟨parts, areParts⟩ : ∃ parts, instant % 1000000 = 15625 * parts :=
    ⟨instant % 1000000 / 15625, by omega⟩
  have few : parts.natAbs < 2 ^ 53 := by omega
  have isNumber : exactUnits (instant % 1000000) = parts * 2 ^ (fractionExponent + 47) := by
    rw [exactUnits, areParts, unitsPerOne_eq, pow_add]
    push_cast
    ring
  exact rounds.eq_of_few_bits few isNumber

end Fraction

section Error

variable {instant other signed otherSigned : Int}

theorem abs_exactUnits
    (instant : Int) :
    |exactUnits instant| = |(instant : Rat)| * unitsPerOne / 1000000 := by
  unfold exactUnits
  rw [abs_div, abs_mul, abs_of_nonneg unitsPerOne_nonneg,
    abs_of_nonneg (by norm_num : (0 : Rat) ≤ 1000000)]

theorem abs_exactUnits_le
    {exponent : Nat} (near : |instant| ≤ 2 ^ exponent * 1000000) :
    |exactUnits instant| ≤ 2 ^ (exponent + fractionExponent + 53) := by
  have nearCast : |(instant : Rat)| ≤ 2 ^ exponent * 1000000 := by exact_mod_cast near
  calc |exactUnits instant|
      ≤ 2 ^ exponent * 1000000 * unitsPerOne / 1000000 := by
        rw [abs_exactUnits]
        exact div_le_div_of_nonneg_right
          (mul_le_mul_of_nonneg_right nearCast unitsPerOne_nonneg) (by norm_num)
    _ = 2 ^ (exponent + fractionExponent + 53) := by
        rw [unitsPerOne_eq, pow_add, pow_add]
        ring

theorem rounded_error_le
    {exponent : Nat} (rounds : RoundsTo (exactUnits instant) signed)
    (near : |instant| ≤ 2 ^ exponent * 1000000) :
    |(signed : Rat) - exactUnits instant| ≤ 2 ^ exponent * 2 ^ fractionExponent / 2 := by
  rw [← pow_add]
  exact rounds.error_le_of_le (abs_exactUnits_le near)

/-- To round twice adds the error of the fraction. -/
theorem roundedTwice_error_le
    {exponent : Nat} (rounds : RoundsTwiceTo instant signed)
    (near : |instant| < 2 ^ exponent * 1000000) :
    |(signed : Rat) - exactUnits instant| ≤
      (2 ^ exponent + 1) * 2 ^ fractionExponent / 2 := by
  obtain ⟨fraction, roundsFraction, rounds⟩ := rounds
  have fractionError := fraction_error_le roundsFraction
  have power : (2 ^ exponent * unitsPerOne : Rat) = 2 ^ (exponent + fractionExponent + 53) := by
    rw [unitsPerOne_eq, pow_add, pow_add]
    ring
  have sumBounded := abs_sum_le roundsFraction near
  rw [power] at sumBounded
  have sumError := rounds.error_le_of_le sumBounded
  rw [pow_add] at sumError
  have parts := exactUnits_eq_add instant
  have split : (signed : Rat) - exactUnits instant =
      (signed - ((instant / 1000000 : Int) * unitsPerOne + fraction)) +
        (fraction - exactUnits (instant % 1000000)) := by
    rw [parts]
    ring
  calc |(signed : Rat) - exactUnits instant|
      ≤ |(signed - ((instant / 1000000 : Int) * unitsPerOne + fraction) : Rat)| +
          |fraction - exactUnits (instant % 1000000)| := by
        rw [split]
        exact abs_add_le _ _
    _ ≤ 2 ^ exponent * 2 ^ fractionExponent / 2 + 2 ^ fractionExponent / 2 :=
        add_le_add sumError fractionError
    _ = (2 ^ exponent + 1) * 2 ^ fractionExponent / 2 := by ring

theorem abs_lt_of_grain
    (instant : Int) :
    |instant| < 2 ^ (Nat.log2 (instant.natAbs / 1000000) - 32 + 33) * 1000000 := by
  have bits : instant.natAbs / 1000000 <
      2 ^ (Nat.log2 (instant.natAbs / 1000000) - 32 + 33) :=
    Nat.lt_of_lt_of_le Nat.lt_log2_self (Nat.pow_le_pow_right (by decide) (by omega))
  rw [Nat.div_lt_iff_lt_mul (by decide)] at bits
  rw [Int.abs_eq_natAbs]
  exact_mod_cast bits

/-- The instant is rounded once, or it is rounded twice. -/
def IsRoundedTo
    (instant signed : Int) :
    Prop :=
  RoundsTo (exactUnits instant) signed ∨ RoundsTwiceTo instant signed

/-- A rounded instant is off by less than half of its grain. -/
theorem IsRoundedTo.error_lt
    (rounded : IsRoundedTo instant signed) :
    2000000 * |(signed : Rat) - exactUnits instant| < grain instant * unitsPerOne := by
  have near := abs_lt_of_grain instant
  have error : |(signed : Rat) - exactUnits instant| ≤
      (2 ^ (Nat.log2 (instant.natAbs / 1000000) - 32 + 33) + 1) * 2 ^ fractionExponent / 2 := by
    rcases rounded with once | twice
    · have power : (0 : Rat) < 2 ^ fractionExponent := by positivity
      linarith [rounded_error_le once near.le]
    · exact roundedTwice_error_le twice near
  unfold grain
  generalize Nat.log2 (instant.natAbs / 1000000) - 32 = doublings at error ⊢
  have someGrain : (1 : Rat) ≤ 2 ^ doublings := one_le_pow₀ (by norm_num)
  have power : (0 : Rat) < 2 ^ fractionExponent := by positivity
  -- A million times 2^33 is less than 2^53, and the difference makes up for the fraction's error.
  have room : (2 ^ doublings * 2 ^ 33 + 1 : Rat) * 1000000 < 2 ^ doublings * 2 ^ 53 := by linarith
  have scaled := mul_lt_mul_of_pos_right room power
  rw [pow_add] at error
  rw [unitsPerOne_eq]
  push_cast
  linarith

/-- Instants a grain apart keep their order. -/
theorem lt_of_grain_le
    (rounded : IsRoundedTo instant signed) (roundedToo : IsRoundedTo other otherSigned)
    (apart : instant + max (grain instant) (grain other) ≤ other) :
    signed < otherSigned := by
  have error := rounded.error_lt
  have errorToo := roundedToo.error_lt
  have grains : (grain instant + grain other : Rat) ≤ 2 * (other - instant) := by
    have sum : (grain instant + grain other : Int) ≤ 2 * (other - instant) := by omega
    exact_mod_cast sum
  have distance := mul_le_mul_of_nonneg_right grains unitsPerOne_nonneg
  have isDistance : (2 * (other - instant) * unitsPerOne : Rat) =
      2000000 * (exactUnits other - exactUnits instant) := by
    unfold exactUnits
    ring
  have upper := le_abs_self ((signed : Rat) - exactUnits instant)
  have lower := neg_abs_le ((otherSigned : Rat) - exactUnits other)
  have less : (signed : Rat) < otherSigned := by linarith
  exact_mod_cast less

/-- The power of two to which a number near a far instant is rounded. -/
theorem exists_doublings
    {sum : Rat} {excess : Nat} (far : 2 ^ 13 * 1000000 < |instant|)
    (near : |instant| < 2 ^ 38 * 1000000)
    (error : |sum - exactUnits instant| ≤ 2 ^ fractionExponent / 2)
    (less : |sum| < 2 ^ (excess + 53)) (reached : 0 < excess → 2 ^ (excess + 52) ≤ |sum|) :
    ∃ doublings, doublings ≤ 25 ∧ excess = fractionExponent + 14 + doublings := by
  have power : (0 : Rat) < 2 ^ fractionExponent := by positivity
  have units := unitsPerOne_eq
  have magnitude := abs_exactUnits instant
  have farCast : (2 ^ 13 * 1000000 + 1 : Rat) ≤ |(instant : Rat)| := by exact_mod_cast far
  have farUnits := mul_le_mul_of_nonneg_right farCast unitsPerOne_nonneg
  have nearCast : |(instant : Rat)| ≤ 2 ^ 38 * 1000000 := by exact_mod_cast near.le
  have nearUnits := mul_le_mul_of_nonneg_right nearCast unitsPerOne_nonneg
  have above := abs_sub_abs_le_abs_sub sum (exactUnits instant)
  have below := abs_sub_abs_le_abs_sub (exactUnits instant) sum
  rw [abs_sub_comm] at below
  have excessLow : fractionExponent + 14 ≤ excess := by
    by_contra small
    have powers : (2 : Rat) ^ (excess + 53) ≤ 2 ^ (fractionExponent + 66) :=
      pow_le_pow_right₀ (by norm_num) (by omega)
    rw [pow_add 2 fractionExponent] at powers
    linarith
  have excessHigh : excess ≤ fractionExponent + 39 := by
    by_contra great
    have reachedPower := reached (by omega)
    have powers : (2 : Rat) ^ (fractionExponent + 92) ≤ 2 ^ (excess + 52) :=
      pow_le_pow_right₀ (by norm_num) (by omega)
    rw [pow_add 2 fractionExponent] at powers
    linarith
  exact ⟨excess - (fractionExponent + 14), by omega, by omega⟩

/-- An instant is a multiple of the 15625th part of half a power of two that is not too great. -/
theorem exactUnits_isMultiple
    {doublings : Nat} (few : doublings ≤ 34) :
    2 * exactUnits instant * (15625 : Nat) =
      (instant * 2 ^ (34 - doublings) : Int) * 2 ^ (fractionExponent + 14 + doublings) := by
  have together : (2 : Rat) ^ (34 - doublings) * 2 ^ doublings = 2 ^ 34 := by
    rw [← pow_add, Nat.sub_add_cancel few]
  calc 2 * exactUnits instant * (15625 : Nat)
      = instant * (2 ^ 34 * 2 ^ 14 * 2 ^ fractionExponent) := by
        rw [exactUnits, unitsPerOne_eq]
        push_cast
        ring
    _ = (instant * 2 ^ (34 - doublings) : Int) * 2 ^ (fractionExponent + 14 + doublings) := by
        rw [← together, pow_add, pow_add]
        push_cast
        ring

/-- Far from the epoch it makes no difference that the fraction of the second is rounded first. -/
theorem RoundsTwiceTo.once_of_far
    (rounds : RoundsTwiceTo instant signed) (far : 2 ^ 13 * 1000000 < |instant|)
    (near : |instant| < 2 ^ 38 * 1000000) :
    RoundsTo (exactUnits instant) signed := by
  obtain ⟨fraction, roundsFraction, rounds⟩ := rounds
  have parts := exactUnits_eq_add instant
  have error : |((instant / 1000000 : Int) * unitsPerOne + fraction : Rat) - exactUnits instant| ≤
      2 ^ fractionExponent / 2 := by
    rw [parts, add_sub_add_left_eq_sub]
    exact fraction_error_le roundsFraction
  refine rounds.of_sameSide fun excess less reached => ?_
  obtain ⟨doublings, few, rfl⟩ := exists_doublings far near error less reached
  -- The fraction is off by less than the 15625th part of the distance between two boundaries.
  refine SameSide.of_near (by decide) (exactUnits_isMultiple (by omega)) ?_ fun dvd => ?_
  · have power : (0 : Rat) < 2 ^ fractionExponent := by positivity
    have powers : (2 : Rat) ^ (fractionExponent + 14) ≤ 2 ^ (fractionExponent + 14 + doublings) :=
      pow_le_pow_right₀ (by norm_num) (by omega)
    rw [pow_add 2 fractionExponent] at powers
    push_cast
    linarith
  · have isCoprime : IsCoprime (15625 : Int) (2 ^ (34 - doublings)) :=
      (Int.isCoprime_iff_gcd_eq_one.mpr (by decide) : IsCoprime (15625 : Int) 2).pow_right
    rw [parts, fraction_eq_of_dvd roundsFraction (isCoprime.dvd_of_dvd_mul_right dvd)]

theorem grain_pos
    (instant : Int) :
    0 < grain instant :=
  Nat.two_pow_pos _

/-- The grain doubles with every doubling of the distance beyond 2^33 seconds. -/
theorem grain_le
    {doublings : Nat} (near : |instant| < 2 ^ (33 + doublings) * 1000000) :
    grain instant ≤ 2 ^ doublings := by
  have seconds : instant.natAbs / 1000000 < 2 ^ (33 + doublings) := by
    rw [Int.abs_eq_natAbs] at near
    rw [Nat.div_lt_iff_lt_mul (by decide)]
    exact_mod_cast near
  refine Nat.pow_le_pow_right (by decide) ?_
  by_cases isZero : instant.natAbs / 1000000 = 0
  · rw [isZero, Nat.log2_zero]
    omega
  · have bits := (Nat.log2_lt isZero).mpr seconds
    omega

end Error

/-! ## The timestamps of moments -/

namespace Moment

/-- The moment has a timestamp, and its offset is less than a day. -/
structure HasTimestamp
    (moment : Moment) :
    Prop where
  timed : ¬ moment.IsUntimed
  offset_lt : |moment.offset.getD 0| < microsecondsPerDay

/-- The number of units is the instant rounded: once with an offset, twice without. -/
def IsStampedBy
    (moment : Moment) (signed : Int) :
    Prop :=
  if moment.offset.isSome then RoundsTo (exactUnits moment.instant) signed
  else RoundsTwiceTo moment.instant signed

variable {moment other : Moment} {signed otherSigned : Int}

theorem HasTimestamp.abs_instant_lt
    (hasTimestamp : moment.HasTimestamp) :
    |moment.instant| < 2 ^ 38 * 1000000 := by
  have firstDay := moment.one_le_day
  have lastOne := moment.day_le
  have time := moment.microsecond_lt
  have offset := abs_lt.mp hasTimestamp.offset_lt
  unfold instant
  unfold microsecondsPerDay lastDay epochDay at *
  rw [abs_lt]
  omega

theorem roundsTo_seconds
    {seconds : Int} (bounded : |seconds| ≤ 2 ^ 38) :
    ∃ wholeUnits, (Binary64.ofIntRatio seconds 1).signedUnits? = some wholeUnits ∧
      (wholeUnits : Rat) = seconds * unitsPerOne := by
  have boundedCast : |(seconds : Rat)| ≤ 2 ^ 38 := by exact_mod_cast bounded
  have finite : |(seconds * unitsPerOne / (1 : Nat) : Rat)| ≤ 2 ^ (overflowExponent - 1) := by
    refine le_half_overflow ?_
    rw [Nat.cast_one, div_one, abs_mul, abs_of_nonneg unitsPerOne_nonneg]
    exact mul_le_mul_of_nonneg_right (boundedCast.trans (by norm_num)) unitsPerOne_nonneg
  obtain ⟨wholeUnits, isFinite, rounds⟩ :=
    Binary64.roundsTo_ofIntRatio seconds (by decide) finite
  rw [Nat.cast_one, div_one] at rounds
  have few : seconds.natAbs < 2 ^ 53 := by
    rw [Int.abs_eq_natAbs] at bounded
    omega
  have isNumber : (seconds * unitsPerOne : Rat) = seconds * 2 ^ unitExponent := by
    rw [unitsPerOne_cast]
  exact ⟨wholeUnits, isFinite, rounds.eq_of_few_bits few isNumber⟩

theorem roundsTo_instant
    {instant : Int} (bounded : |instant| < 2 ^ 38 * 1000000) :
    ∃ signed, (Binary64.ofIntRatio instant 1000000).signedUnits? = some signed ∧
      RoundsTo (exactUnits instant) signed := by
  have boundedCast : |(instant : Rat)| ≤ 2 ^ 38 * 1000000 := by exact_mod_cast bounded.le
  have finite : |(instant * unitsPerOne / (1000000 : Nat) : Rat)| ≤
      2 ^ (overflowExponent - 1) := by
    refine le_half_overflow ?_
    have scaled := mul_le_mul_of_nonneg_right boundedCast unitsPerOne_nonneg
    rw [Nat.cast_ofNat, ← exactUnits, abs_exactUnits]
    linarith [unitsPerOne_nonneg]
  have rounded := Binary64.roundsTo_ofIntRatio instant (by decide) finite
  rw [Nat.cast_ofNat] at rounded
  exact rounded

theorem roundsTwiceTo_sum
    {instant : Int} (bounded : |instant| < 2 ^ 38 * 1000000) :
    ∃ signed,
      ((Binary64.ofIntRatio (instant / 1000000) 1).add
          (Binary64.ofIntRatio (instant % 1000000) 1000000)).signedUnits? = some signed ∧
        RoundsTwiceTo instant signed := by
  obtain ⟨low, high⟩ := abs_lt.mp bounded
  have wholeBounded : |instant / 1000000| ≤ 2 ^ 38 := abs_le.mpr (by omega)
  have fractionBounded : |instant % 1000000| < 2 ^ 38 * 1000000 := abs_lt.mpr (by omega)
  obtain ⟨wholeUnits, isFinite, isWhole⟩ := roundsTo_seconds wholeBounded
  obtain ⟨fraction, isFiniteToo, roundsFraction⟩ := roundsTo_instant fractionBounded
  have sumBounded : |((wholeUnits + fraction : Int) : Rat)| ≤ 2 ^ 53 * unitsPerOne := by
    rw [Int.cast_add, isWhole]
    refine (abs_sum_le roundsFraction bounded).trans ?_
    exact mul_le_mul_of_nonneg_right (by norm_num) unitsPerOne_nonneg
  have unitsPositive : (unitsPerOne : Rat) ≠ 0 := by exact_mod_cast unitsPerOne_pos.ne'
  have finite : |((wholeUnits + fraction : Int) * unitsPerOne / unitsPerOne : Rat)| ≤
      2 ^ (overflowExponent - 1) := by
    rw [mul_div_cancel_right₀ _ unitsPositive]
    exact le_half_overflow sumBounded
  obtain ⟨signed, isFiniteSum, rounds⟩ :=
    Binary64.roundsTo_ofIntRatio (wholeUnits + fraction) unitsPerOne_pos finite
  rw [mul_div_cancel_right₀ _ unitsPositive, Int.cast_add, isWhole] at rounds
  refine ⟨signed, ?_, fraction, roundsFraction, rounds⟩
  rw [Binary64.add, isFinite, isFiniteToo]
  exact isFiniteSum

theorem HasTimestamp.exists_stamp
    (hasTimestamp : moment.HasTimestamp) :
    ∃ seconds signed, moment.timestamp = .ok seconds ∧ seconds.signedUnits? = some signed ∧
      moment.IsStampedBy signed := by
  have bounded := hasTimestamp.abs_instant_lt
  unfold timestamp IsStampedBy
  cases known : moment.offset with
  | some offset =>
      obtain ⟨signed, isFinite, rounds⟩ := roundsTo_instant bounded
      exact ⟨_, signed, rfl, isFinite, rounds⟩
  | none =>
      have laterDay : moment.day ≠ 1 := fun isFirst => hasTimestamp.timed ⟨known, isFirst⟩
      have sameFraction : ((moment.microsecond % 1000000 : Nat) : Int) =
          moment.instant % 1000000 := by
        rw [instant, known, Option.getD_none]
        unfold microsecondsPerDay
        omega
      have isRatio : Binary64.ofRatio false (moment.microsecond % 1000000) 1000000 =
          Binary64.ofIntRatio (moment.instant % 1000000) 1000000 := by
        rw [← sameFraction]
        rfl
      obtain ⟨signed, isFinite, rounds⟩ := roundsTwiceTo_sum bounded
      refine ⟨_, signed, if_neg laterDay, ?_, rounds⟩
      rw [isRatio]
      exact isFinite

/-! ## The order of timestamps -/

theorem IsStampedBy.isRoundedTo
    (stamped : moment.IsStampedBy signed) :
    IsRoundedTo moment.instant signed := by
  unfold IsStampedBy at stamped
  split at stamped
  · exact Or.inl stamped
  · exact Or.inr stamped

/-- The moment is more than 2^13 seconds away from the epoch, so that one rounding and two give the
same. -/
def IsFar
    (moment : Moment) :
    Prop :=
  2 ^ 13 * 1000000 < |moment.instant|

/-- The moment is within 2^33 seconds of the epoch, roughly from the year 1697 to 2242. -/
def IsClose
    (moment : Moment) :
    Prop :=
  |moment.instant| < 2 ^ 33 * 1000000

/-- Moments of one instant have one timestamp: both have an offset, or neither, or they are far. -/
def RoundsLike
    (moment other : Moment) :
    Prop :=
  moment.offset.isSome = other.offset.isSome ∨ moment.IsFar

def commonGrain
    (moment other : Moment) :
    Nat :=
  max (grain moment.instant) (grain other.instant)

/-- The instants are a grain apart, or the moments are of one instant and are rounded alike. -/
def IsToldApart
    (moment other : Moment) :
    Prop :=
  (moment.commonGrain other : Int) ≤ |moment.instant - other.instant| ∨
    moment.instant = other.instant ∧ moment.RoundsLike other

theorem commonGrain_pos
    (moment other : Moment) :
    0 < moment.commonGrain other :=
  lt_max_of_lt_left (grain_pos moment.instant)

theorem commonGrain_comm
    (moment other : Moment) :
    moment.commonGrain other = other.commonGrain moment :=
  max_comm _ _

theorem IsStampedBy.rounds_of_isFar
    (stamped : moment.IsStampedBy signed) (hasTimestamp : moment.HasTimestamp)
    (isFar : moment.IsFar) :
    RoundsTo (exactUnits moment.instant) signed := by
  unfold IsStampedBy at stamped
  split at stamped
  · exact stamped
  · exact stamped.once_of_far isFar hasTimestamp.abs_instant_lt

theorem RoundsTwiceTo.unique
    {instant : Int} (rounds : RoundsTwiceTo instant signed)
    (roundsToo : RoundsTwiceTo instant otherSigned) :
    signed = otherSigned := by
  obtain ⟨fraction, roundsFraction, rounds⟩ := rounds
  obtain ⟨otherFraction, roundsFractionToo, roundsToo⟩ := roundsToo
  rw [roundsFraction.unique roundsFractionToo] at rounds
  exact rounds.unique roundsToo

theorem grain_le_of_isClose
    (isClose : moment.IsClose) (isCloseToo : other.IsClose)
    (earlier : moment.instant < other.instant) :
    moment.instant + max (grain moment.instant) (grain other.instant) ≤ other.instant := by
  have one : grain moment.instant ≤ 2 ^ 0 := grain_le isClose
  have oneToo : grain other.instant ≤ 2 ^ 0 := grain_le isCloseToo
  omega

/-- Close moments are told apart, unless they are of one instant that is rounded in two ways. -/
theorem isToldApart_of_isClose
    (isClose : moment.IsClose) (isCloseToo : other.IsClose)
    (alike : moment.instant = other.instant → moment.RoundsLike other) :
    moment.IsToldApart other := by
  rcases lt_trichotomy moment.instant other.instant with earlier | same | later
  · have apart := grain_le_of_isClose isClose isCloseToo earlier
    rw [IsToldApart, Int.abs_eq_natAbs, commonGrain]
    omega
  · exact Or.inr ⟨same, alike same⟩
  · have apart := grain_le_of_isClose isCloseToo isClose later
    rw [IsToldApart, Int.abs_eq_natAbs, commonGrain]
    omega

/-- Near the epoch, different instants are always a grain apart. -/
theorem grain_le_of_not_isFar
    (hasTimestamp : moment.HasTimestamp) (hasTimestampToo : other.HasTimestamp)
    (notFar : ¬ (moment.IsFar ∧ other.IsFar)) (earlier : moment.instant < other.instant) :
    moment.instant + max (grain moment.instant) (grain other.instant) ≤ other.instant := by
  by_cases bothClose : moment.IsClose ∧ other.IsClose
  · exact grain_le_of_isClose bothClose.1 bothClose.2 earlier
  · -- One is near the epoch and the other is not even close, so that they are far from each other.
    have small : grain moment.instant ≤ 2 ^ 5 := grain_le hasTimestamp.abs_instant_lt
    have smallToo : grain other.instant ≤ 2 ^ 5 := grain_le hasTimestampToo.abs_instant_lt
    unfold IsFar at notFar
    unfold IsClose at bothClose
    rw [Int.abs_eq_natAbs, Int.abs_eq_natAbs] at notFar bothClose
    omega

section Ordering

variable (stamped : moment.IsStampedBy signed) (stampedToo : other.IsStampedBy otherSigned)

include stamped stampedToo

theorem lt_of_apart
    (apart : (moment.commonGrain other : Int) ≤ |moment.instant - other.instant|)
    (earlier : moment.instant < other.instant) :
    signed < otherSigned := by
  rw [Int.abs_eq_natAbs, commonGrain] at apart
  exact lt_of_grain_le stamped.isRoundedTo stampedToo.isRoundedTo (by omega)

variable (hasTimestamp : moment.HasTimestamp) (hasTimestampToo : other.HasTimestamp)

include hasTimestamp hasTimestampToo

theorem eq_of_roundsLike
    (same : moment.instant = other.instant) (alike : moment.RoundsLike other) :
    signed = otherSigned := by
  rcases alike with sameKind | isFar
  · unfold IsStampedBy at stamped stampedToo
    rw [sameKind, same] at stamped
    split at stampedToo
    · rename_i known
      rw [if_pos known] at stamped
      exact stamped.unique stampedToo
    · rename_i unknown
      rw [if_neg unknown] at stamped
      exact RoundsTwiceTo.unique stamped stampedToo
  · have isFarToo : other.IsFar := by
      unfold IsFar at isFar ⊢
      rwa [← same]
    have once := stamped.rounds_of_isFar hasTimestamp isFar
    rw [same] at once
    exact once.unique (stampedToo.rounds_of_isFar hasTimestampToo isFarToo)

/-- Timestamps never reverse the order of instants. -/
theorem le_of_instant_lt
    (earlier : moment.instant < other.instant) :
    signed ≤ otherSigned := by
  by_cases bothFar : moment.IsFar ∧ other.IsFar
  · exact (stamped.rounds_of_isFar hasTimestamp bothFar.1).mono
      (stampedToo.rounds_of_isFar hasTimestampToo bothFar.2) (exactUnits_mono earlier.le)
  · have apart := grain_le_of_not_isFar hasTimestamp hasTimestampToo bothFar earlier
    exact (lt_of_grain_le stamped.isRoundedTo stampedToo.isRoundedTo apart).le

/-- Timestamps of moments that are told apart are in the order of the instants. -/
theorem lt_iff_of_isToldApart
    (toldApart : moment.IsToldApart other) :
    (signed < otherSigned ↔ moment.instant < other.instant) ∧
      (otherSigned < signed ↔ other.instant < moment.instant) := by
  rcases toldApart with apart | ⟨same, alike⟩
  · rcases lt_trichotomy moment.instant other.instant with earlier | same | later
    · have less := lt_of_apart stamped stampedToo apart earlier
      exact ⟨iff_of_true less earlier, iff_of_false less.asymm earlier.asymm⟩
    · have someGrain := commonGrain_pos moment other
      rw [same, sub_self, abs_zero] at apart
      omega
    · rw [commonGrain_comm, abs_sub_comm] at apart
      have less := lt_of_apart stampedToo stamped apart later
      exact ⟨iff_of_false less.asymm later.asymm, iff_of_true less later⟩
  · have equal := eq_of_roundsLike stamped stampedToo hasTimestamp hasTimestampToo same alike
    constructor <;> omega

end Ordering

end Moment

end Time

namespace Number.Quantity

theorem le_of_signedUnits
    {left right : Binary64} {leftUnits rightUnits : Int}
    (leftFinite : left.signedUnits? = some leftUnits)
    (rightFinite : right.signedUnits? = some rightUnits) :
    (real left).le (real right) = decide (leftUnits ≤ rightUnits) := by
  have place : ∀ {number : Binary64} {units : Int}, number.signedUnits? = some units →
      (real number).position? = some (.finite units) := by
    intro number units isFinite
    cases number with
    | nan => cases isFinite
    | infinite negative => cases isFinite
    | finite negative magnitude =>
        rw [← Option.some.inj isFinite]
        cases negative <;> rfl
  rw [le, place leftFinite, place rightFinite]
  rfl

end Number.Quantity

namespace Builtin

open FormRules.Time

variable {present time limit : Moment} {inquiry : Inquiry}

theorem exists_stamps
    (fieldTime : FieldTime present inquiry time) (limitTime : LimitTime present inquiry limit)
    (hasTimestamp : time.HasTimestamp) (limitHasTimestamp : limit.HasTimestamp) :
    ∃ stamp bound, time.IsStampedBy stamp ∧ limit.IsStampedBy bound ∧
      after.passes present inquiry = .ok (decide (bound < stamp)) ∧
      before.passes present inquiry = .ok (decide (stamp < bound)) := by
  obtain ⟨seconds, stamp, hasSeconds, isFinite, stamped⟩ := hasTimestamp.exists_stamp
  obtain ⟨limitSeconds, bound, hasLimitSeconds, isFiniteToo, bounded⟩ :=
    limitHasTimestamp.exists_stamp
  have read : timestamps? present inquiry = .ok (some (.real seconds, .real limitSeconds)) := by
    rw [timestamps?_of_times fieldTime limitTime, hasSeconds, hasLimitSeconds]
    rfl
  refine ⟨stamp, bound, stamped, bounded, ?_, ?_⟩
  · simp only [passes, read, Except.map, Option.any_some,
      Number.Quantity.le_of_signedUnits isFinite isFiniteToo, ← decide_not, not_le]
  · simp only [passes, read, Except.map, Option.any_some,
      Number.Quantity.le_of_signedUnits isFiniteToo isFinite, ← decide_not, not_le]

/-- The rules that compare times answer where both timestamps are known, and never against the order
of the instants. Their answer is the order itself if the instants are a grain apart, and if they are
the same and rounded alike. Up to 2^33 seconds from the epoch, different instants are always a grain
apart; where both rules fail, the instants are less than a grain apart. -/
theorem times_ordered_up_to_grain
    (fieldTime : FieldTime present inquiry time) (limitTime : LimitTime present inquiry limit)
    (hasTimestamp : time.HasTimestamp) (limitHasTimestamp : limit.HasTimestamp) :
    ∃ isAfter isBefore,
      after.passes present inquiry = .ok isAfter ∧ before.passes present inquiry = .ok isBefore ∧
        (isAfter = true → limit.instant ≤ time.instant) ∧
        (isBefore = true → time.instant ≤ limit.instant) ∧
        (time.IsToldApart limit →
          isAfter = decide (limit.instant < time.instant) ∧
            isBefore = decide (time.instant < limit.instant)) ∧
        (time.IsClose → limit.IsClose →
          (time.instant = limit.instant → time.RoundsLike limit) →
            isAfter = decide (limit.instant < time.instant) ∧
              isBefore = decide (time.instant < limit.instant)) ∧
        (isAfter = false → isBefore = false →
          |time.instant - limit.instant| < time.commonGrain limit) := by
  obtain ⟨stamp, bound, stamped, bounded, isAfter, isBefore⟩ :=
    exists_stamps fieldTime limitTime hasTimestamp limitHasTimestamp
  have ordered : time.IsToldApart limit →
      decide (bound < stamp) = decide (limit.instant < time.instant) ∧
        decide (stamp < bound) = decide (time.instant < limit.instant) := by
    intro toldApart
    have order := Moment.lt_iff_of_isToldApart stamped bounded hasTimestamp limitHasTimestamp
      toldApart
    exact ⟨decide_eq_decide.mpr order.2, decide_eq_decide.mpr order.1⟩
  refine ⟨_, _, isAfter, isBefore, fun passesAfter => ?_, fun passesBefore => ?_, ordered,
    fun isClose isCloseToo alike =>
      ordered (Moment.isToldApart_of_isClose isClose isCloseToo alike),
    fun failsAfter failsBefore => ?_⟩
  · by_contra earlier
    have reversed := Moment.le_of_instant_lt stamped bounded hasTimestamp limitHasTimestamp
      (not_le.mp earlier)
    exact absurd (of_decide_eq_true passesAfter) (not_lt.mpr reversed)
  · by_contra later
    have reversed := Moment.le_of_instant_lt bounded stamped limitHasTimestamp hasTimestamp
      (not_le.mp later)
    exact absurd (of_decide_eq_true passesBefore) (not_lt.mpr reversed)
  · by_contra apart
    obtain ⟨ordersAfter, ordersBefore⟩ := ordered (Or.inl (not_lt.mp apart))
    rw [failsAfter] at ordersAfter
    rw [failsBefore] at ordersBefore
    have notLater := of_decide_eq_false ordersAfter.symm
    have notEarlier := of_decide_eq_false ordersBefore.symm
    have same : time.instant = limit.instant := by omega
    have someGrain := Moment.commonGrain_pos time limit
    rw [same, sub_self, abs_zero] at apart
    omega

/-- The second of January 2020 is after the first, which is known without asking for timestamps. -/
theorem second_after_first_of_january :
    FieldTime lastMoment (afterLimit "2020-01-02" "2020-01-01")
        (startOf 737426 (by decide) (by decide)) ∧
      LimitTime lastMoment (afterLimit "2020-01-02" "2020-01-01")
        (startOf 737425 (by decide) (by decide)) ∧
      (startOf 737426 (by decide) (by decide)).HasTimestamp ∧
      (startOf 737425 (by decide) (by decide)).HasTimestamp ∧
      after.passes lastMoment (afterLimit "2020-01-02" "2020-01-01") = .ok true := by
  have fieldTime : FieldTime lastMoment (afterLimit "2020-01-02" "2020-01-01")
      (startOf 737426 (by decide) (by decide)) :=
    Value.Denotes.iso (by decide +kernel) (by decide +kernel)
  have limitTime : LimitTime lastMoment (afterLimit "2020-01-02" "2020-01-01")
      (startOf 737425 (by decide) (by decide)) :=
    ⟨"2020-01-01", rfl, .iso (by decide +kernel) (by decide +kernel)⟩
  have hasTimestamp : (startOf 737426 (by decide) (by decide)).HasTimestamp :=
    ⟨fun untimed => absurd untimed.2 (by decide), by decide⟩
  have limitHasTimestamp : (startOf 737425 (by decide) (by decide)).HasTimestamp :=
    ⟨fun untimed => absurd untimed.2 (by decide), by decide⟩
  obtain ⟨isAfter, _, answersAfter, _, _, _, _, ordered, _⟩ :=
    times_ordered_up_to_grain fieldTime limitTime hasTimestamp limitHasTimestamp
  obtain ⟨isOrder, _⟩ := ordered (by unfold Moment.IsClose; decide)
    (by unfold Moment.IsClose; decide) (fun _ => Or.inl rfl)
  refine ⟨fieldTime, limitTime, hasTimestamp, limitHasTimestamp, ?_⟩
  rw [answersAfter, isOrder]
  decide

/-- Two instants a microsecond apart, on the last day of the calendar, are not told apart; and a
moment just after the epoch is found to be after itself when the limit is given with an offset. -/
theorem not_every_order_is_told :
    (¬ ∀ (present time limit : Moment) (inquiry : Inquiry),
        FieldTime present inquiry time → LimitTime present inquiry limit →
          time.HasTimestamp → limit.HasTimestamp → limit.instant < time.instant →
            after.passes present inquiry = .ok true) ∧
      ¬ ∀ (present time limit : Moment) (inquiry : Inquiry),
        FieldTime present inquiry time → LimitTime present inquiry limit →
          time.HasTimestamp → limit.HasTimestamp → after.passes present inquiry = .ok true →
            limit.instant < time.instant := by
  constructor
  · intro everyOrderTold
    have told := everyOrderTold lastMoment ⟨lastDay, 1, none, by decide, by decide, by decide⟩
      (startOf lastDay (by decide) (by decide))
      (afterLimit "9999-12-31T00:00:00.000001" "9999-12-31")
      (Value.Denotes.iso (by decide +kernel) (by decide +kernel))
      ⟨"9999-12-31", rfl, .iso (by decide +kernel) (by decide +kernel)⟩
      ⟨fun untimed => absurd untimed.2 (by decide), by decide⟩
      ⟨fun untimed => absurd untimed.2 (by decide), by decide⟩ (by decide)
    have fails : after.passes lastMoment
        (afterLimit "9999-12-31T00:00:00.000001" "9999-12-31") = .ok false := by
      decide +kernel
    rw [fails] at told
    cases told
  · intro everyPassLater
    have later := everyPassLater lastMoment
      ⟨epochDay, 1003969, none, by decide, by decide, by decide⟩
      ⟨epochDay, 1003969, some 0, by decide, by decide, by decide⟩
      (afterLimit "1970-01-01T00:00:01.003969" "1970-01-01T00:00:01.003969+00:00")
      (Value.Denotes.iso (by decide +kernel) (by decide +kernel))
      ⟨"1970-01-01T00:00:01.003969+00:00", rfl, .iso (by decide +kernel) (by decide +kernel)⟩
      ⟨fun untimed => absurd untimed.2 (by decide), by decide⟩
      ⟨fun untimed => absurd untimed.2 (by decide), by decide⟩ (by decide +kernel)
    exact absurd later (by decide)

end Builtin

end FormRules
