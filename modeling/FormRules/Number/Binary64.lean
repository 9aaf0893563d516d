/-!
Binary floating-point numbers of 64 bits.

A finite number carries its sign and its magnitude in units of 2⁻¹⁰⁷⁴, the smallest positive
magnitude. Every finite magnitude is a whole number of units, so numbers compare as integers do,
and rounding an exact value is one division to the nearest, a tie going to the even quotient.
-/

namespace FormRules.Number

/-- A floating-point number: not a number, an infinity, or a sign with a magnitude in units of
2⁻¹⁰⁷⁴. -/
inductive Binary64 where
  | nan
  | infinite (negative : Bool)
  | finite (negative : Bool) (units : Nat)
  deriving DecidableEq, Repr

def unitsPerOne :
    Nat :=
  Nat.pow 2 1074

theorem unitsPerOne_pos :
    0 < unitsPerOne := by
  unfold unitsPerOne
  generalize 1074 = exponent
  exact Nat.two_pow_pos exponent

/-- The magnitude, in units, from which on a rounded number is infinite. -/
def overflowUnits :
    Nat :=
  Nat.pow 2 2098

/-- The nearest integer to a quotient, the even one of two equally near. -/
def roundHalfEven
    (numerator denominator : Nat) :
    Nat :=
  let quotient := numerator / denominator
  let remainder := numerator % denominator
  if 2 * remainder < denominator then quotient
  else if denominator < 2 * remainder then quotient + 1
  else quotient + quotient % 2

/-- The units of the number nearest to a quotient, with 53 significant bits. -/
def roundedUnits
    (numerator denominator : Nat) :
    Nat :=
  let exact := numerator * unitsPerOne
  let excess := Nat.log2 (exact / denominator) - 52
  roundHalfEven exact (denominator * Nat.pow 2 excess) * Nat.pow 2 excess

namespace Binary64

/-- The number nearest to a signed quotient. -/
def ofRatio
    (negative : Bool) (numerator denominator : Nat) :
    Binary64 :=
  let units := roundedUnits numerator denominator
  if units < overflowUnits then finite negative units else infinite negative

def ofIntRatio
    (numerator : Int) (denominator : Nat) :
    Binary64 :=
  ofRatio (numerator < 0) numerator.natAbs denominator

/-- The number nearest to a significand times a power of ten. Exponents so large or so small
that the magnitude overflows or vanishes are answered without computing the power. -/
def ofDecimal
    (negative : Bool) (significand : Nat) (exponent : Int) :
    Binary64 :=
  if significand = 0 then finite negative 0
  else
    let bits : Int := Nat.log2 significand
    if 310 < bits * 30102 / 100000 + exponent then infinite negative
    else if (bits + 1) * 30103 / 100000 + 1 + exponent < -330 then finite negative 0
    else if 0 ≤ exponent then ofRatio negative (significand * Nat.pow 10 exponent.toNat) 1
    else ofRatio negative significand (Nat.pow 10 (-exponent).toNat)

/-- The signed magnitude in units; a number that is not finite has none. -/
def signedUnits? :
    Binary64 → Option Int
  | nan => none
  | infinite _ => none
  | finite negative units => some (if negative then -(units : Int) else units)

/-- The sum of two finite numbers, rounded. -/
def add
    (left right : Binary64) :
    Binary64 :=
  match left.signedUnits?, right.signedUnits? with
  | some leftUnits, some rightUnits => ofIntRatio (leftUnits + rightUnits) unitsPerOne
  | _, _ => nan

/-- The number is zero, of either sign. -/
def isZero :
    Binary64 → Bool
  | finite _ units => units == 0
  | _ => false

end Binary64

end FormRules.Number
